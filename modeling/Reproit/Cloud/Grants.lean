/-
# Managed grants

A service registers the key of its workload with a signed deployment.  The key service
answers a signed encryption request for one candidate.  A managed worker holds two grants
for its lease, one to work on the candidate and one to receive its key.
-/

import Reproit.Core.Crypto
import Reproit.Core.Model.Candidate
import Reproit.Core.Model.ManagedCandidate

namespace Reproit

/-- The signed request for the key of one candidate. It has no format marker. -/
structure ManagedCandidateEncryptionGrantRequest where
  candidateIdentityDigest : Digest
  captureId : CaptureId
  cipherSuite : CandidateCipherSuite
  deploymentDigest : Digest
  organizationId : OrganizationId
  processingMode : ProcessingMode
  projectId : ProjectId
  serviceId : ServiceId
  signature : String
  signerKeyId : String
  deriving DecidableEq

def ManagedCandidateEncryptionGrantRequest.codec : Codec ManagedCandidateEncryptionGrantRequest :=
  .record
    (.required "candidate_identity_digest" Digest.codec <|
      .required "capture_id" TypedId.codec <| .required "cipher_suite" (Format.codec _) <|
      .required "deployment_digest" Digest.codec <|
      .required "organization_id" TypedId.codec <|
      .required "processing_mode" ProcessingMode.codec <|
      .required "project_id" TypedId.codec <| .required "service_id" TypedId.codec <|
      .required "signature" .string <| .required "signer_key_id" .string .done)
    (fun r => (r.candidateIdentityDigest, r.captureId, r.cipherSuite, r.deploymentDigest,
      r.organizationId, r.processingMode, r.projectId, r.serviceId, r.signature,
      r.signerKeyId, ()))
    (fun (candidateIdentityDigest, captureId, cipherSuite, deploymentDigest, organizationId,
      processingMode, projectId, serviceId, signature, signerKeyId, ()) =>
      { candidateIdentityDigest, captureId, cipherSuite, deploymentDigest, organizationId,
        processingMode, projectId, serviceId, signature, signerKeyId })
    (fun _ => rfl) (by decide)

instance : Document ManagedCandidateEncryptionGrantRequest :=
  ⟨ManagedCandidateEncryptionGrantRequest.codec, by decide⟩

inductive ManagedOperation
  | admission | check | debug | keep | replay
  deriving DecidableEq

def ManagedOperation.name : ManagedOperation → String
  | .admission => "admission"
  | .check => "check"
  | .debug => "debug"
  | .keep => "keep"
  | .replay => "replay"

def ManagedOperation.codec : Codec ManagedOperation :=
  .enumeration [.admission, .check, .debug, .keep, .replay] name fun value => by
    cases value <;> decide

abbrev ManagedWorkerGrantFormat := Format "reproit.managed-worker-grant.v1"

/-- The signed permission of a worker to process one encrypted candidate. -/
structure ManagedWorkerGrant where
  candidateIdentityDigest : Digest
  candidateKeyReference : String
  capabilities : List String
  captureId : CaptureId
  encryptedCandidateDigest : Digest
  expiresAt : Timestamp
  format : ManagedWorkerGrantFormat
  grantId : String
  leaseId : LeaseId
  notBefore : Timestamp
  operation : ManagedOperation
  organizationId : OrganizationId
  processingMode : ProcessingMode
  projectId : ProjectId
  serviceId : ServiceId
  signature : String
  signerKeyId : String
  workerId : String
  workerRelease : Digest
  deriving DecidableEq

def ManagedWorkerGrant.codec : Codec ManagedWorkerGrant :=
  .record
    (.required "candidate_identity_digest" Digest.codec <|
      .required "candidate_key_reference" .string <|
      .required "capabilities" (.list .string) <| .required "capture_id" TypedId.codec <|
      .required "encrypted_candidate_digest" Digest.codec <|
      .required "expires_at" Timestamp.codec <| .required "format" (Format.codec _) <|
      .required "grant_id" .string <| .required "lease_id" TypedId.codec <|
      .required "not_before" Timestamp.codec <|
      .required "operation" ManagedOperation.codec <|
      .required "organization_id" TypedId.codec <|
      .required "processing_mode" ProcessingMode.codec <|
      .required "project_id" TypedId.codec <| .required "service_id" TypedId.codec <|
      .required "signature" .string <| .required "signer_key_id" .string <|
      .required "worker_id" .string <| .required "worker_release" Digest.codec .done)
    (fun r => (r.candidateIdentityDigest, r.candidateKeyReference, r.capabilities, r.captureId,
      r.encryptedCandidateDigest, r.expiresAt, r.format, r.grantId, r.leaseId, r.notBefore,
      r.operation, r.organizationId, r.processingMode, r.projectId, r.serviceId, r.signature,
      r.signerKeyId, r.workerId, r.workerRelease, ()))
    (fun (candidateIdentityDigest, candidateKeyReference, capabilities, captureId,
      encryptedCandidateDigest, expiresAt, format, grantId, leaseId, notBefore, operation,
      organizationId, processingMode, projectId, serviceId, signature, signerKeyId, workerId,
      workerRelease, ()) =>
      { candidateIdentityDigest, candidateKeyReference, capabilities, captureId,
        encryptedCandidateDigest, expiresAt, format, grantId, leaseId, notBefore, operation,
        organizationId, processingMode, projectId, serviceId, signature, signerKeyId, workerId,
        workerRelease })
    (fun _ => rfl) (by decide)

instance : Document ManagedWorkerGrant := ⟨ManagedWorkerGrant.codec, by decide⟩

abbrev ManagedKeyGrantFormat := Format "reproit.managed-key-grant.v1"

/-- The signed permission of a worker to receive the key of its candidate. -/
structure ManagedKeyGrant where
  candidateIdentityDigest : Digest
  candidateKeyReference : String
  capabilities : List String
  captureId : CaptureId
  encryptedCandidateDigest : Digest
  expiresAt : Timestamp
  format : ManagedKeyGrantFormat
  grantId : String
  leaseId : LeaseId
  notBefore : Timestamp
  operation : ManagedOperation
  organizationId : OrganizationId
  processingMode : ProcessingMode
  projectId : ProjectId
  serviceId : ServiceId
  signature : String
  signerKeyId : String
  workerId : String
  workerGrantDigest : Digest
  workerRelease : Digest
  deriving DecidableEq

def ManagedKeyGrant.codec : Codec ManagedKeyGrant :=
  .record
    (.required "candidate_identity_digest" Digest.codec <|
      .required "candidate_key_reference" .string <|
      .required "capabilities" (.list .string) <| .required "capture_id" TypedId.codec <|
      .required "encrypted_candidate_digest" Digest.codec <|
      .required "expires_at" Timestamp.codec <| .required "format" (Format.codec _) <|
      .required "grant_id" .string <| .required "lease_id" TypedId.codec <|
      .required "not_before" Timestamp.codec <|
      .required "operation" ManagedOperation.codec <|
      .required "organization_id" TypedId.codec <|
      .required "processing_mode" ProcessingMode.codec <|
      .required "project_id" TypedId.codec <| .required "service_id" TypedId.codec <|
      .required "signature" .string <| .required "signer_key_id" .string <|
      .required "worker_id" .string <| .required "worker_grant_digest" Digest.codec <|
      .required "worker_release" Digest.codec .done)
    (fun r => (r.candidateIdentityDigest, r.candidateKeyReference, r.capabilities, r.captureId,
      r.encryptedCandidateDigest, r.expiresAt, r.format, r.grantId, r.leaseId, r.notBefore,
      r.operation, r.organizationId, r.processingMode, r.projectId, r.serviceId, r.signature,
      r.signerKeyId, r.workerId, r.workerGrantDigest, r.workerRelease, ()))
    (fun (candidateIdentityDigest, candidateKeyReference, capabilities, captureId,
      encryptedCandidateDigest, expiresAt, format, grantId, leaseId, notBefore, operation,
      organizationId, processingMode, projectId, serviceId, signature, signerKeyId, workerId,
      workerGrantDigest, workerRelease, ()) =>
      { candidateIdentityDigest, candidateKeyReference, capabilities, captureId,
        encryptedCandidateDigest, expiresAt, format, grantId, leaseId, notBefore, operation,
        organizationId, processingMode, projectId, serviceId, signature, signerKeyId, workerId,
        workerGrantDigest, workerRelease })
    (fun _ => rfl) (by decide)

instance : Document ManagedKeyGrant := ⟨ManagedKeyGrant.codec, by decide⟩

/-! ## The grants of a worker -/

/-- A value of thirty-two bytes. -/
def validateOpaqueIdentity (value : String) : Result Unit := do
  let _ ← decodeBase64Url 32 value
  return

def grantScopeError : Error :=
  .new .attestationScope "The managed worker and key grants do not match the active lease."

/-- What both grants of a worker are checked for.  Times are compared as texts. -/
def validateSignedGrant (capabilities : List String) (notBefore expiresAt : Timestamp)
    (processingMode : ProcessingMode) (signature signerKeyId workerId : String) :
    Result Unit := do
  rejectIf (processingMode ≠ .managed ∨ notBefore ≥ expiresAt ∨ capabilities.length > 64 ∨
    ¬ capabilities.IsChain (· < ·) ∨ signerKeyId.isEmpty ∨ signerKeyId.utf8ByteSize > 256 ∨
    workerId.isEmpty ∨ workerId.utf8ByteSize > 256) .schemaInvalid
  let _ ← decodeBase64Url 64 signature
  return

def ManagedWorkerGrant.validate (grant : ManagedWorkerGrant) : Result Unit := do
  validateOpaqueIdentity grant.candidateKeyReference
  validateOpaqueIdentity grant.grantId
  validateSignedGrant grant.capabilities grant.notBefore grant.expiresAt grant.processingMode
    grant.signature grant.signerKeyId grant.workerId

instance : Validate ManagedWorkerGrant := ⟨ManagedWorkerGrant.validate⟩

def ManagedKeyGrant.validate (grant : ManagedKeyGrant) : Result Unit := do
  validateOpaqueIdentity grant.candidateKeyReference
  validateOpaqueIdentity grant.grantId
  validateSignedGrant grant.capabilities grant.notBefore grant.expiresAt grant.processingMode
    grant.signature grant.signerKeyId grant.workerId

instance : Validate ManagedKeyGrant := ⟨ManagedKeyGrant.validate⟩

/-- The key grant is for the lease of the worker grant, and both are in force. -/
def verifyManagedWorkerKeyGrants [Primitives] (worker : ManagedWorkerGrant)
    (key : ManagedKeyGrant) (now : Timestamp) (workerPublicKey keyPublicKey : SecretKey) :
    Result Unit := do
  worker.validate
  key.validate
  rejectIf (now < worker.notBefore ∨ now ≥ worker.expiresAt ∨ now < key.notBefore ∨
    now ≥ key.expiresAt ∨ key.expiresAt > worker.expiresAt ∨
    key.candidateIdentityDigest ≠ worker.candidateIdentityDigest ∨
    key.candidateKeyReference ≠ worker.candidateKeyReference ∨
    key.capabilities ≠ worker.capabilities ∨ key.captureId ≠ worker.captureId ∨
    key.encryptedCandidateDigest ≠ worker.encryptedCandidateDigest ∨
    key.leaseId ≠ worker.leaseId ∨ key.operation ≠ worker.operation ∨
    key.organizationId ≠ worker.organizationId ∨ key.processingMode ≠ worker.processingMode ∨
    key.projectId ≠ worker.projectId ∨ key.serviceId ≠ worker.serviceId) grantScopeError
  let workerGrantDigest ← Canonical.digest worker
  rejectIf (key.workerGrantDigest ≠ workerGrantDigest ∨ key.workerId ≠ worker.workerId ∨
    key.workerRelease ≠ worker.workerRelease) grantScopeError
  verifySignedValue (Document.encode worker) workerPublicKey
  verifySignedValue (Document.encode key) keyPublicKey

/-! ## The upload of a candidate -/

/-- The capture grant with the ciphertext that is uploaded under it. -/
structure ManagedCandidateUploadRequest where
  captureGrant : ManagedCandidateCaptureGrant
  ciphertextIdentity : ManagedCandidateCiphertextIdentity
  encryptedCandidateDigest : Digest
  deriving DecidableEq

def ManagedCandidateUploadRequest.validate [Primitives] (upload : ManagedCandidateUploadRequest) :
    Result Unit := do
  upload.captureGrant.validate
  upload.ciphertextIdentity.validate
  rejectIf (
    upload.captureGrant.candidateIdentityDigest ≠
      upload.ciphertextIdentity.candidateIdentityDigest ∨
    upload.captureGrant.candidateKeyReference ≠
      upload.ciphertextIdentity.candidateKeyReference ∨
    upload.captureGrant.captureId ≠ upload.ciphertextIdentity.captureId ∨
    upload.captureGrant.organizationId ≠ upload.ciphertextIdentity.organizationId ∨
    upload.captureGrant.projectId ≠ upload.ciphertextIdentity.projectId ∨
    upload.captureGrant.serviceId ≠ upload.ciphertextIdentity.serviceId ∨
    upload.captureGrant.processingMode ≠ upload.ciphertextIdentity.processingMode ∨
    upload.captureGrant.cipherSuite ≠ upload.ciphertextIdentity.cipherSuite) grantScopeError
  let ciphertextDigest ← Canonical.digest upload.ciphertextIdentity
  rejectIf (ciphertextDigest ≠ upload.encryptedCandidateDigest) .objectDigestMismatch

/-! ## Workload keys -/

def workloadAttestationError : Error :=
  .new .attestationScope "The workload key, deployment, and signed request do not agree."

/-- The identifier of a workload key, from the text of the public key. -/
def managedWorkloadKeyId [Primitives] (publicKey : String) : Result String := do
  let _ ← decodeBase64Url 32 publicKey
  return "managed-workload-" ++ (Digest.of (Json.textBytes publicKey.toList)).toText

def validateManagedWorkloadKeyId (keyId : String) : Result Unit := do
  let digest ← okOr (stripStart keyId "managed-workload-sha256:") Error.schemaInvalid
  rejectIf (digest.utf8ByteSize ≠ 64 ∨
    ¬ digest.toList.all fun c => c.isDigit || ('a' ≤ c && c ≤ 'f')) .schemaInvalid

/-- The key of a workload with the deployment that it signed. -/
structure WorkloadKeyRegistration where
  algorithm : String
  deployment : Deployment
  publicKey : String
  serviceId : ServiceId
  deriving DecidableEq

namespace WorkloadKeyRegistration

variable [Primitives]

def validate (registration : WorkloadKeyRegistration) : Result Unit := do
  rejectIf (registration.algorithm ≠ "Ed25519" ∨
    registration.deployment.processingMode ≠ .managed) .schemaInvalid
  registration.deployment.validate
  validateManagedWorkloadKeyId registration.deployment.signerKeyId
  rejectIf (registration.deployment.serviceId ≠ registration.serviceId) workloadAttestationError
  let publicKey ← decodeBase64Url 32 registration.publicKey
  let keyId ← managedWorkloadKeyId registration.publicKey
  rejectIf (keyId ≠ registration.deployment.signerKeyId) workloadAttestationError
  verifySignedValue (Document.encode registration.deployment) publicKey

def deploymentDigest (registration : WorkloadKeyRegistration) : Result Digest :=
  Canonical.digest registration.deployment

end WorkloadKeyRegistration

namespace ManagedCandidateEncryptionGrantRequest

def validate (request : ManagedCandidateEncryptionGrantRequest) : Result Unit := do
  rejectIf (request.processingMode ≠ .managed) .schemaInvalid
  validateManagedWorkloadKeyId request.signerKeyId
  let _ ← decodeBase64Url 64 request.signature
  return

variable [Primitives]

/-- The request is signed with the key that its key identifier names. -/
def verify (request : ManagedCandidateEncryptionGrantRequest) (publicKey : SecretKey) :
    Result Unit := do
  request.validate
  let keyId ← managedWorkloadKeyId (encodeBase64Url publicKey.toList)
  rejectIf (keyId ≠ request.signerKeyId) workloadAttestationError
  verifySignedValue (Document.encode request) publicKey

def validateForRegistration (request : ManagedCandidateEncryptionGrantRequest)
    (registration : WorkloadKeyRegistration) : Result Unit := do
  registration.validate
  let deploymentDigest ← registration.deploymentDigest
  rejectIf (request.deploymentDigest ≠ deploymentDigest ∨
    request.organizationId ≠ registration.deployment.organizationId ∨
    request.projectId ≠ registration.deployment.projectId ∨
    request.serviceId ≠ registration.deployment.serviceId ∨
    request.signerKeyId ≠ registration.deployment.signerKeyId) workloadAttestationError
  let publicKey ← decodeBase64Url 32 registration.publicKey
  request.verify publicKey

end ManagedCandidateEncryptionGrantRequest

/-- What the service answers to a registration. -/
structure WorkloadKeyRegistrationResult where
  deploymentDigest : Digest
  keyId : String
  serviceId : ServiceId
  deriving DecidableEq

namespace WorkloadKeyRegistrationResult

def validate (result : WorkloadKeyRegistrationResult) : Result Unit :=
  validateManagedWorkloadKeyId result.keyId

def validateForRegistration [Primitives] (result : WorkloadKeyRegistrationResult)
    (registration : WorkloadKeyRegistration) : Result Unit := do
  result.validate
  registration.validate
  let keyId ← managedWorkloadKeyId registration.publicKey
  rejectIf (result.keyId ≠ keyId ∨ result.serviceId ≠ registration.serviceId)
    workloadAttestationError
  let deploymentDigest ← registration.deploymentDigest
  rejectIf (result.deploymentDigest ≠ deploymentDigest) workloadAttestationError

end WorkloadKeyRegistrationResult

end Reproit
