/-
# Environment policies

An organization signs which replay hosts may run which operations for which services,
and where kept captures may be stored.
-/

import Reproit.Core.Crypto
import Reproit.Core.Instant

namespace Reproit

abbrev EnvironmentPolicyFormat := Format "reproit.environment-policy.v1"

structure EnvironmentPolicyScope where
  organizationId : OrganizationId
  projectId : ProjectId
  serviceId : ServiceId
  deriving DecidableEq

def EnvironmentPolicyScope.codec : Codec EnvironmentPolicyScope :=
  .record
    (.required "organization_id" TypedId.codec <| .required "project_id" TypedId.codec <|
      .required "service_id" TypedId.codec .done)
    (fun r => (r.organizationId, r.projectId, r.serviceId, ()))
    (fun (organizationId, projectId, serviceId, ()) => { organizationId, projectId, serviceId })
    (fun _ => rfl) (by decide)

inductive ReplayHostOperation
  | check | debug | keep | replay
  deriving DecidableEq

def ReplayHostOperation.label : ReplayHostOperation → String
  | .check => "check"
  | .debug => "debug"
  | .keep => "keep"
  | .replay => "replay"

def ReplayHostOperation.codec : Codec ReplayHostOperation :=
  .enumeration [.check, .debug, .keep, .replay] label fun value => by cases value <;> decide

/-- A destination for kept captures, of a project or of one service of it. -/
structure EnvironmentKeepReference where
  destination : String
  keyReference : String
  projectId : ProjectId
  serviceId : Option ServiceId
  deriving DecidableEq

def EnvironmentKeepReference.codec : Codec EnvironmentKeepReference :=
  .record
    (.required "destination" .string <| .required "key_reference" .string <|
      .required "project_id" TypedId.codec <|
      .optional "service_id" TypedId.codec TypedId.decode_null .done)
    (fun r => (r.destination, r.keyReference, r.projectId, r.serviceId, ()))
    (fun (destination, keyReference, projectId, serviceId, ()) =>
      { destination, keyReference, projectId, serviceId })
    (fun _ => rfl) (by decide)

/-- A replay host with what it may run. -/
structure EnvironmentReplayHost where
  expiresAt : Timestamp
  hostId : String
  operations : List ReplayHostOperation
  origin : String
  scopes : List EnvironmentPolicyScope
  tlsIdentity : Digest
  deriving DecidableEq

def EnvironmentReplayHost.codec : Codec EnvironmentReplayHost :=
  .record
    (.required "expires_at" Timestamp.codec <| .required "host_id" .string <|
      .required "operations" (.list ReplayHostOperation.codec) <| .required "origin" .string <|
      .required "scopes" (.list EnvironmentPolicyScope.codec) <|
      .required "tls_identity" Digest.codec .done)
    (fun r => (r.expiresAt, r.hostId, r.operations, r.origin, r.scopes, r.tlsIdentity, ()))
    (fun (expiresAt, hostId, operations, origin, scopes, tlsIdentity, ()) =>
      { expiresAt, hostId, operations, origin, scopes, tlsIdentity })
    (fun _ => rfl) (by decide)

/-- The signed policy of an organization. -/
structure EnvironmentPolicy where
  expiresAt : Timestamp
  format : EnvironmentPolicyFormat
  issuedAt : Timestamp
  keepReferences : List EnvironmentKeepReference
  organizationId : OrganizationId
  replayHosts : List EnvironmentReplayHost
  revision : UInt64
  signature : String
  signerKeyId : String
  deriving DecidableEq

def EnvironmentPolicy.codec : Codec EnvironmentPolicy :=
  .record
    (.required "expires_at" Timestamp.codec <| .required "format" (Format.codec _) <|
      .required "issued_at" Timestamp.codec <|
      .required "keep_references" (.list EnvironmentKeepReference.codec) <|
      .required "organization_id" TypedId.codec <|
      .required "replay_hosts" (.list EnvironmentReplayHost.codec) <|
      .required "revision" .uint64 <| .required "signature" .string <|
      .required "signer_key_id" .string .done)
    (fun r => (r.expiresAt, r.format, r.issuedAt, r.keepReferences, r.organizationId,
      r.replayHosts, r.revision, r.signature, r.signerKeyId, ()))
    (fun (expiresAt, format, issuedAt, keepReferences, organizationId, replayHosts, revision,
      signature, signerKeyId, ()) =>
      { expiresAt, format, issuedAt, keepReferences, organizationId, replayHosts, revision,
        signature, signerKeyId })
    (fun _ => rfl) (by decide)

instance : Document EnvironmentPolicy := ⟨EnvironmentPolicy.codec, by decide⟩

/-! ## Checks of a policy -/

def maxPolicyBytes : Nat := 256 * 1024

/-- The longest lifetime of a policy. -/
def maxPolicyLifetime : Nat := 30 * 86400 * 1000000000

/-- The white space of ASCII. -/
def asciiWhitespace (c : Char) : Bool :=
  c = ' ' || c = '\t' || c = '\n' || c = '\r' || c.toNat = 12

/-- A host identifier starts with a lowercase letter. -/
def validHostId (value : String) : Bool :=
  !value.isEmpty && value.utf8ByteSize ≤ 128 && value.toList.zipIdx.all fun (c, index) =>
    c.isLower || c.isDigit && 0 < index || (c = '.' || c = '-') && 0 < index

/-- An origin in lowercase without credentials and without a path. -/
def validHttpsOrigin (value : String) : Bool :=
  match stripStart value "https://" with
  | none => false
  | some authority =>
      !authority.isEmpty && value.utf8ByteSize ≤ 2048 &&
        value.toList.all (fun c => c.toNat < 128 && !c.isUpper) &&
        !authority.toList.any fun c =>
          asciiWhitespace c || c = '/' || c = '?' || c = '#' || c = '@'

/-- A remote repository, or the name of a local layout. -/
def validKeepDestination (value : String) : Bool :=
  let remote := (stripStart value "oci://").any fun path =>
    !path.isEmpty && !path.toList.any asciiWhitespace
  let layout := (stripStart value "oci-layout://").any fun path =>
    let identity := (path.toList.reverse.dropWhile (· = '/')).reverse
    !identity.isEmpty && (String.ofList identity).utf8ByteSize ≤ 128 &&
      identity.zipIdx.all fun (c, index) =>
        c.isAlphanum || 0 < index && (c = '.' || c = '_' || c = '-')
  remote || layout

/-- The public key that the identifier of a signer spells. -/
def environmentPolicyVerificationKey (signerKeyId : String) : Result SecretKey := do
  let encoded ← okOr (stripStart signerKeyId "ed25519:") Error.schemaInvalid
  decodeBase64Url 32 encoded

def EnvironmentKeepReference.validate (reference : EnvironmentKeepReference) : Result Unit :=
  rejectIf (¬ validKeepDestination reference.destination ∨ reference.keyReference.isEmpty ∨
    reference.keyReference.utf8ByteSize > 2048) .schemaInvalid

instance : Validate EnvironmentKeepReference := ⟨EnvironmentKeepReference.validate⟩

/-- The text by which keep references are ordered. -/
def EnvironmentKeepReference.orderText (reference : EnvironmentKeepReference) : String :=
  reference.projectId.toText ++ "/" ++ reference.serviceId.elim "" TypedId.toText ++ "/" ++
    reference.destination

def EnvironmentPolicyScope.orderText (scope : EnvironmentPolicyScope) : String :=
  scope.organizationId.toText ++ "/" ++ scope.projectId.toText ++ "/" ++ scope.serviceId.toText

def EnvironmentReplayHost.validate (host : EnvironmentReplayHost)
    (organizationId : OrganizationId) : Result Unit := do
  rejectIf (¬ validHostId host.hostId ∨ ¬ validHttpsOrigin host.origin ∨
    host.operations.isEmpty ∨ host.operations.length > 4 ∨ host.scopes.isEmpty ∨
    host.scopes.length > 256 ∨ ∃ scope ∈ host.scopes, scope.organizationId ≠ organizationId)
    .schemaInvalid
  requireStrictOrder (host.operations.map ReplayHostOperation.label)
  requireStrictOrder (host.scopes.map EnvironmentPolicyScope.orderText)

def EnvironmentPolicy.validate [Primitives] (policy : EnvironmentPolicy) : Result Unit := do
  rejectIf (policy.revision = 0 ∨ policy.revision.toNat > maxExactInteger ∨
    (environmentPolicyVerificationKey policy.signerKeyId).isOk = false ∨
    policy.keepReferences.length > 256 ∨ policy.replayHosts.length > 64) .schemaInvalid
  let _ ← decodeBase64Url 64 policy.signature
  rejectIf (policy.expiresAt.instant ≤ policy.issuedAt.instant ∨
    policy.expiresAt.instant - policy.issuedAt.instant > maxPolicyLifetime) .schemaInvalid
  requireStrictOrder (policy.keepReferences.map EnvironmentKeepReference.orderText)
  requireStrictOrder (policy.replayHosts.map EnvironmentReplayHost.hostId)
  forEach policy.keepReferences EnvironmentKeepReference.validate
  forEach policy.replayHosts fun host => do
    host.validate policy.organizationId
    rejectIf (host.expiresAt > policy.expiresAt) .schemaInvalid
  let bytes ← Canonical.bytes policy
  rejectIf (bytes.length > maxPolicyBytes) .schemaInvalid

instance [Primitives] : Validate EnvironmentPolicy := ⟨EnvironmentPolicy.validate⟩

def environmentScopeError : Error :=
  .new .attestationScope "The customer environment policy is not valid for this scope."

/-- The policy is of the organization and of the pinned signer, newer than the current one
and in force.  Times are compared as texts. -/
def verifyEnvironmentPolicy [Primitives] (policy : EnvironmentPolicy)
    (organizationId : OrganizationId) (pinnedSignerKeyId : String)
    (currentRevision : Option UInt64) (now : Timestamp) (publicKey : SecretKey) :
    Result Unit := do
  rejectIf (policy.organizationId ≠ organizationId ∨ policy.signerKeyId ≠ pinnedSignerKeyId)
    environmentScopeError
  policy.validate
  rejectIf (∃ revision ∈ currentRevision, policy.revision ≤ revision)
    (.new .configConflict "The customer environment policy revision must increase.")
  rejectIf (policy.issuedAt > now ∨ policy.expiresAt ≤ now) environmentScopeError
  verifySignedValue (Document.encode policy) publicKey

end Reproit
