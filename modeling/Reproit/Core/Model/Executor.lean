/-
# Replay hosts

What an executor proves to be capable of, what a grant lets it run, and whether a replay
host fits the capabilities that a capsule requires.
-/

import Reproit.Core.Crypto
import Reproit.Core.Instant
import Reproit.Core.Model.ProcessorBinding

namespace Reproit

inductive ExecutorLocality
  | local' | customerWorker | managedWorker
  deriving DecidableEq

def ExecutorLocality.name : ExecutorLocality → String
  | .local' => "local"
  | .customerWorker => "customer-worker"
  | .managedWorker => "managed-worker"

def ExecutorLocality.codec : Codec ExecutorLocality :=
  .enumeration [.local', .customerWorker, .managedWorker] name fun value => by
    cases value <;> decide

inductive ExecutorEvidenceStatus
  | active | revoked
  deriving DecidableEq

def ExecutorEvidenceStatus.name : ExecutorEvidenceStatus → String
  | .active => "active"
  | .revoked => "revoked"

def ExecutorEvidenceStatus.codec : Codec ExecutorEvidenceStatus :=
  .enumeration [.active, .revoked] name fun value => by cases value <;> decide

abbrev ExecutorCapabilityEvidenceFormat := Format "reproit.executor-capability-evidence.v1"

/-- What the authenticated evidence of an executor declares. -/
structure ExecutorCapabilityEvidence where
  capabilities : List String
  executorId : String
  expiresAt : Timestamp
  format : ExecutorCapabilityEvidenceFormat
  issuedAt : Timestamp
  locality : ExecutorLocality
  organizationId : OrganizationId
  platformIdentityDigest : Digest
  projectId : ProjectId
  serviceId : ServiceId
  signature : String
  signerKeyId : String
  status : ExecutorEvidenceStatus
  deriving DecidableEq

namespace ExecutorCapabilityEvidence

def codec : Codec ExecutorCapabilityEvidence :=
  .record
    (.required "capabilities" (.list .string) <| .required "executor_id" .string <|
      .required "expires_at" Timestamp.codec <| .required "format" (Format.codec _) <|
      .required "issued_at" Timestamp.codec <| .required "locality" ExecutorLocality.codec <|
      .required "organization_id" TypedId.codec <|
      .required "platform_identity_digest" Digest.codec <|
      .required "project_id" TypedId.codec <| .required "service_id" TypedId.codec <|
      .required "signature" .string <| .required "signer_key_id" .string <|
      .required "status" ExecutorEvidenceStatus.codec .done)
    (fun r => (r.capabilities, r.executorId, r.expiresAt, r.format, r.issuedAt, r.locality,
      r.organizationId, r.platformIdentityDigest, r.projectId, r.serviceId, r.signature,
      r.signerKeyId, r.status, ()))
    (fun (capabilities, executorId, expiresAt, format, issuedAt, locality, organizationId,
      platformIdentityDigest, projectId, serviceId, signature, signerKeyId, status, ()) =>
      { capabilities, executorId, expiresAt, format, issuedAt, locality, organizationId,
        platformIdentityDigest, projectId, serviceId, signature, signerKeyId, status })
    (fun _ => rfl) (by decide)

instance : Document ExecutorCapabilityEvidence := ⟨codec, by decide⟩

def validate (evidence : ExecutorCapabilityEvidence) : Result Unit := do
  validateCapabilities evidence.capabilities
  rejectIf (evidence.capabilities.isEmpty ∨ evidence.executorId.isEmpty ∨
    evidence.executorId.utf8ByteSize > 128 ∨ ¬ validLowerIdentity evidence.executorId ∨
    evidence.signerKeyId.isEmpty ∨ evidence.signerKeyId.utf8ByteSize > 256 ∨
    evidence.signature.utf8ByteSize ≠ 86 ∨ evidence.expiresAt ≤ evidence.issuedAt) .schemaInvalid
  let _ ← decodeBase64Url 64 evidence.signature
  return ()

instance : Validate ExecutorCapabilityEvidence := ⟨validate⟩

end ExecutorCapabilityEvidence

structure ExecutorEvidenceScope where
  organizationId : OrganizationId
  projectId : ProjectId
  serviceId : ServiceId
  deriving DecidableEq

/-- The evidence is not revoked, of the scope and in force.  Times are compared as texts. -/
def verifyExecutorCapabilityEvidence [Primitives] (evidence : ExecutorCapabilityEvidence)
    (scope : ExecutorEvidenceScope) (now : Timestamp) (publicKey : SecretKey) :
    Result Unit := do
  evidence.validate
  rejectIf (evidence.status = .revoked)
    (.new .attestationRevoked "The executor capability evidence is revoked.")
  rejectIf (evidence.organizationId ≠ scope.organizationId ∨
    evidence.projectId ≠ scope.projectId ∨ evidence.serviceId ≠ scope.serviceId)
    (.new .attestationScope
      "The executor capability evidence does not match the requested scope.")
  rejectIf (now < evidence.issuedAt ∨ now ≥ evidence.expiresAt)
    (.new .attestationScope
      "The executor capability evidence is outside its validity interval.")
  verifySignedValue (Document.encode evidence) publicKey

/-- The structure and the signature of the evidence, without a scope and without a clock. -/
def verifyEvidenceSignature [Primitives] (evidence : ExecutorCapabilityEvidence)
    (publicKey : SecretKey) : Result Unit := do
  evidence.validate
  verifySignedValue (Document.encode evidence) publicKey

/-! ## Execution grants -/

inductive ExecutionGrantOperation
  | check | debug | keep | replay
  deriving DecidableEq

def ExecutionGrantOperation.name : ExecutionGrantOperation → String
  | .check => "check"
  | .debug => "debug"
  | .keep => "keep"
  | .replay => "replay"

def ExecutionGrantOperation.codec : Codec ExecutionGrantOperation :=
  .enumeration [.check, .debug, .keep, .replay] name fun value => by cases value <;> decide

inductive ExecutionWorkClass
  | admission | developer
  deriving DecidableEq

def ExecutionWorkClass.name : ExecutionWorkClass → String
  | .admission => "admission"
  | .developer => "developer"

def ExecutionWorkClass.codec : Codec ExecutionWorkClass :=
  .enumeration [.admission, .developer] name fun value => by cases value <;> decide

abbrev ExecutionGrantFormat := Format "reproit.execution-grant.v1"

/-- The signed permission to run one operation on one executor. -/
structure ExecutionGrant where
  debuggerCapabilityDigest : Digest
  executorId : String
  expiresAt : Timestamp
  format : ExecutionGrantFormat
  grantId : String
  issuedAt : Timestamp
  operation : ExecutionGrantOperation
  organizationId : OrganizationId
  processingMode : ProcessingMode
  projectId : ProjectId
  requesterIdentity : String
  reproDigest : Digest
  serviceId : ServiceId
  signature : String
  workClass : ExecutionWorkClass
  deriving DecidableEq

def maxRequesterIdentityBytes : Nat := 512

/-- The longest lifetime of a grant, two hours. -/
def maxExecutionGrantLifetime : Nat := 7200 * 1000000000

/-- The control characters of Unicode. -/
def controlChar (c : Char) : Bool := c.toNat < 32 || (127 ≤ c.toNat && c.toNat < 160)

namespace ExecutionGrant

def codec : Codec ExecutionGrant :=
  .record
    (.required "debugger_capability_digest" Digest.codec <|
      .required "executor_id" .string <| .required "expires_at" Timestamp.codec <|
      .required "format" (Format.codec _) <| .required "grant_id" .string <|
      .required "issued_at" Timestamp.codec <|
      .required "operation" ExecutionGrantOperation.codec <|
      .required "organization_id" TypedId.codec <|
      .required "processing_mode" ProcessingMode.codec <|
      .required "project_id" TypedId.codec <| .required "requester_identity" .string <|
      .required "repro_digest" Digest.codec <| .required "service_id" TypedId.codec <|
      .required "signature" .string <|
      .required "work_class" ExecutionWorkClass.codec .done)
    (fun r => (r.debuggerCapabilityDigest, r.executorId, r.expiresAt, r.format, r.grantId,
      r.issuedAt, r.operation, r.organizationId, r.processingMode, r.projectId,
      r.requesterIdentity, r.reproDigest, r.serviceId, r.signature, r.workClass, ()))
    (fun (debuggerCapabilityDigest, executorId, expiresAt, format, grantId, issuedAt, operation,
      organizationId, processingMode, projectId, requesterIdentity, reproDigest, serviceId,
      signature, workClass, ()) =>
      { debuggerCapabilityDigest, executorId, expiresAt, format, grantId, issuedAt, operation,
        organizationId, processingMode, projectId, requesterIdentity, reproDigest, serviceId,
        signature, workClass })
    (fun _ => rfl) (by decide)

instance : Document ExecutionGrant := ⟨codec, by decide⟩

def validate (grant : ExecutionGrant) : Result Unit := do
  rejectIf (grant.executorId.isEmpty ∨ grant.executorId.utf8ByteSize > 128 ∨
    ¬ validLowerIdentity grant.executorId ∨ grant.grantId.isEmpty ∨
    grant.grantId.utf8ByteSize > 128 ∨ ¬ validLowerIdentity grant.grantId ∨
    grant.requesterIdentity.isEmpty ∨
    grant.requesterIdentity.utf8ByteSize > maxRequesterIdentityBytes ∨
    grant.requesterIdentity.toList.any controlChar ∨ grant.signature.utf8ByteSize ≠ 86)
    .schemaInvalid
  let _ ← decodeBase64Url 64 grant.signature
  rejectIf (grant.expiresAt.instant ≤ grant.issuedAt.instant ∨
    grant.expiresAt.instant - grant.issuedAt.instant > maxExecutionGrantLifetime) .schemaInvalid

instance : Validate ExecutionGrant := ⟨validate⟩

end ExecutionGrant

/-- What an executor expects of a grant. -/
structure ExecutionGrantExpectation where
  debuggerCapabilityDigest : Digest
  now : Timestamp
  operation : ExecutionGrantOperation
  processingMode : ProcessingMode
  requesterIdentity : String
  reproDigest : Digest
  scope : ExecutorEvidenceScope
  workClass : ExecutionWorkClass
  deriving DecidableEq

/-- The grant is for the executor and the requested operation, and in force.  Times are
compared as texts. -/
def verifyExecutionGrant [Primitives] (grant : ExecutionGrant)
    (evidence : ExecutorCapabilityEvidence) (expectation : ExecutionGrantExpectation)
    (publicKey : SecretKey) : Result Unit := do
  grant.validate
  rejectIf (grant.executorId ≠ evidence.executorId ∨
    grant.organizationId ≠ expectation.scope.organizationId ∨
    grant.projectId ≠ expectation.scope.projectId ∨
    grant.serviceId ≠ expectation.scope.serviceId ∨ grant.operation ≠ expectation.operation ∨
    grant.processingMode ≠ expectation.processingMode ∨
    grant.requesterIdentity ≠ expectation.requesterIdentity ∨
    grant.reproDigest ≠ expectation.reproDigest ∨
    grant.debuggerCapabilityDigest ≠ expectation.debuggerCapabilityDigest ∨
    expectation.now < grant.issuedAt ∨ expectation.now ≥ grant.expiresAt ∨
    grant.workClass ≠ expectation.workClass)
    (.new .attestationScope "The execution grant does not match the requested operation.")
  verifySignedValue (Document.encode grant) publicKey

/-! ## Required capabilities -/

/-- The bound on how many required capabilities a capsule may declare. -/
def maxRequiredCapabilities : Nat := 64

/-- Every required capability is provided. -/
def requiredCapabilitiesPresent (required provided : List String) : Bool :=
  if required.length > maxRequiredCapabilities ∨ provided.length > maxRequiredCapabilities then
    false
  else required.all fun capability => provided.contains capability

/-- The bindings of one capsule, which no evidence declares. -/
def capsuleBinding (value : String) : Bool :=
  startsWith value "processor.requirement." || startsWith value "processor.identity." ||
    startsWith value "processor.reduction."

def replayCapabilitiesPresent (required provided : List String) : Bool :=
  if required.length > maxRequiredCapabilities then false
  else requiredCapabilitiesPresent (required.filter fun value => !capsuleBinding value) provided

/-- The capabilities that bind a replay to one native host. -/
structure ReplayHostCapabilityContract where
  architecture : String
  operatingSystem : String
  runtimeAbi : String
  nativeExecutor : String
  world : String
  deriving DecidableEq

/-- Exactly one required capability of a category, the expected one. -/
def categoryMatches (required : List String) (lead expected : String) : Bool :=
  match required.filter fun capability => startsWith capability lead with
  | [value] => value = expected
  | _ => false

def nativeExecutorMatches (required : List String) (expected : String) : Bool :=
  match required.filter fun capability =>
    startsWith capability "executor." && endsWith capability "-native" with
  | [value] => value = expected
  | _ => false

def validDigestSuffix (suffix : String) : Bool :=
  suffix.utf8ByteSize = 64 &&
    suffix.toList.all fun c => c.isDigit || ('a' ≤ c && c ≤ 'f')

def validNameSuffix (suffix : String) : Bool :=
  !suffix.isEmpty && suffix.utf8ByteSize ≤ 128 && suffix.toList.all capabilityNameChar

/-- The format of one required capability. -/
def validCapabilityBinding (capability : String) : Bool :=
  match stripStart capability "processor.requirement." with
  | some suffix => validDigestSuffix suffix
  | none =>
      match stripStart capability "processor.identity." with
      | some suffix => (decodeIdentityToken suffix).isSome
      | none =>
          match stripStart capability "processor.reduction." with
          | some suffix => validDigestSuffix suffix
          | none =>
              match stripStart capability "processor.feature." with
              | some suffix => validNameSuffix suffix
              | none =>
                  match stripStart capability "processor.os-state." with
                  | some suffix => validNameSuffix suffix
                  | none => !startsWith capability "processor."

def unsupportedHost : Error :=
  .new .unsupportedCapabilitySet "The replay host does not support the sealed capture bundle."

/-- A replay host is compatible with the required capabilities of a capsule. -/
def verifyReplayCapabilities (required : List String) (evidence : ExecutorCapabilityEvidence)
    (debugger : DebuggerContract) (host : ReplayHostCapabilityContract) : Result Unit := do
  rejectIf (required.length < 4 ∨ required.length > maxRequiredCapabilities) unsupportedHost
  rejectIf (¬ required.IsChain (· < ·)) unsupportedHost
  rejectIf (¬ replayCapabilitiesPresent required evidence.capabilities) unsupportedHost
  rejectIf (¬ required.all validCapabilityBinding) unsupportedHost
  let matchesHost := categoryMatches required "architecture." host.architecture &&
    categoryMatches required "operating-system." host.operatingSystem &&
    nativeExecutorMatches required host.nativeExecutor &&
    categoryMatches required "world." host.world
  let abiMatches := categoryMatches required "abi." host.runtimeAbi
  let debuggerMatches := categoryMatches required "debugger." debugger.protocol.capability
  rejectIf (¬ matchesHost ∨ ¬ abiMatches ∨ ¬ debuggerMatches) unsupportedHost

end Reproit
