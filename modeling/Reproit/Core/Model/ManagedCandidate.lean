/-
# Managed candidates

A managed candidate leaves the machine of the customer encrypted.  Its identity lists the
plain objects, its manifest binds the identity to a key, and its ciphertext identity lists
the stored chunks.  The capture grant is the signed permission to encrypt one candidate and
to upload it.
-/

import Reproit.Core.Crypto
import Reproit.Core.Instant

namespace Reproit

def maxCandidateObjects : Nat := 32767
def maxCandidatePlaintextBytes : Nat := 1048576
def maxCandidateCiphertextBytes : Nat := 1048604
def maxTotalCandidateCiphertextBytes : Nat := 274878824448

def candidateMediaType : String := "application/vnd.reproit.candidate.v1+json"

/-- The cipher suite of a managed candidate. -/
abbrev CandidateCipherSuite := Format "AES-256-GCM+HKDF-SHA-256"

/-! ## Shared checks -/

/-- A reference of thirty-two bytes. -/
def validateOpaqueReference (value : String) : Result Unit := do
  rejectIf (value.utf8ByteSize ≠ 43) .schemaInvalid
  let _ ← decodeBase64Url 32 value
  return

def requiredCandidateRoles : List LogicalObjectRole :=
  [.candidate, .failure, .subject, .trigger, .worldManifest]

def requireCandidateRoles (roles : List LogicalObjectRole) : Result Unit :=
  forEach requiredCandidateRoles fun role => rejectIf (role ∉ roles) .schemaInvalid

/-- The manifests that a candidate has besides its record of events. -/
def candidateManifests : List (LogicalObjectRole × String) :=
  [(.failure, failureMediaType), (.subject, subjectClosureMediaType), (.trigger, triggerMediaType),
    (.worldManifest, worldManifestMediaType)]

def isManifest (kind : LogicalObjectRole × String) (object : LogicalObject) : Bool :=
  object.role = kind.1 && object.mediaType = kind.2

/-! ## The identity of a candidate -/

abbrev ManagedCandidateIdentityFormat := Format "reproit.managed-candidate-identity.v1"

/-- The plain objects of a candidate. -/
structure ManagedCandidateIdentity where
  candidateDigest : Digest
  captureId : CaptureId
  deploymentDigest : Digest
  format : ManagedCandidateIdentityFormat
  objects : List LogicalObject
  organizationId : OrganizationId
  processingMode : ProcessingMode
  projectId : ProjectId
  requiredCapabilities : List String
  serviceId : ServiceId
  subjectDigest : Digest
  totalPlaintextBytes : UInt64
  deriving DecidableEq

namespace ManagedCandidateIdentity

def codec : Codec ManagedCandidateIdentity :=
  .record
    (.required "candidate_digest" Digest.codec <| .required "capture_id" TypedId.codec <|
      .required "deployment_digest" Digest.codec <| .required "format" (Format.codec _) <|
      .required "objects" (.list LogicalObject.codec) <|
      .required "organization_id" TypedId.codec <|
      .required "processing_mode" ProcessingMode.codec <|
      .required "project_id" TypedId.codec <|
      .required "required_capabilities" (.list .string) <|
      .required "service_id" TypedId.codec <| .required "subject_digest" Digest.codec <|
      .required "total_plaintext_bytes" .uint64 .done)
    (fun r => (r.candidateDigest, r.captureId, r.deploymentDigest, r.format, r.objects,
      r.organizationId, r.processingMode, r.projectId, r.requiredCapabilities, r.serviceId,
      r.subjectDigest, r.totalPlaintextBytes, ()))
    (fun (candidateDigest, captureId, deploymentDigest, format, objects, organizationId,
      processingMode, projectId, requiredCapabilities, serviceId, subjectDigest,
      totalPlaintextBytes, ()) =>
      { candidateDigest, captureId, deploymentDigest, format, objects, organizationId,
        processingMode, projectId, requiredCapabilities, serviceId, subjectDigest,
        totalPlaintextBytes })
    (fun _ => rfl) (by decide)

instance : Document ManagedCandidateIdentity := ⟨codec, by decide⟩

/-- The one manifest of a kind. -/
def requiredManifest (identity : ManagedCandidateIdentity) (kind : LogicalObjectRole × String) :
    Result LogicalObject :=
  match identity.objects.filter (isManifest kind) with
  | [object] => .ok object
  | _ => .error .schemaInvalid

def validate (identity : ManagedCandidateIdentity) : Result Unit := do
  rejectIf (identity.processingMode ≠ .managed ∨ identity.objects.length < 5 ∨
    identity.objects.length > maxCandidateObjects ∨
    identity.requiredCapabilities.length > 64 ∨
    ¬ identity.requiredCapabilities.IsChain (· < ·) ∨
    ¬ identity.objects.IsChain (·.objectId < ·.objectId)) .schemaInvalid
  forEach identity.objects LogicalObject.validate
  let totalPlaintextBytes ← okOr (checkedSum 0 (identity.objects.map LogicalObject.plainSize))
    .schemaInvalid
  requireCandidateRoles (identity.objects.map LogicalObject.role)
  let candidate ← identity.requiredManifest (.candidate, candidateMediaType)
  let _ ← identity.requiredManifest (.failure, failureMediaType)
  let _ ← identity.requiredManifest (.trigger, triggerMediaType)
  let _ ← identity.requiredManifest (.worldManifest, worldManifestMediaType)
  let subject ← identity.requiredManifest (.subject, subjectClosureMediaType)
  rejectIf (candidate.plainDigest ≠ identity.candidateDigest ∨
    candidate.plainSize.toNat > maxCandidatePlaintextBytes ∨
    subject.plainDigest ≠ identity.subjectDigest ∨
    totalPlaintextBytes ≠ identity.totalPlaintextBytes ∨
    totalPlaintextBytes.toNat > maxTotalCandidateCiphertextBytes) .schemaInvalid

instance : Validate ManagedCandidateIdentity := ⟨validate⟩

end ManagedCandidateIdentity

/-! ## The manifest of a candidate -/

abbrev ManagedCandidateManifestFormat := Format "reproit.managed-candidate-manifest.v1"

/-- The identity of a candidate with the key that encrypts it. -/
structure ManagedCandidateManifest where
  candidateIdentity : ManagedCandidateIdentity
  candidateIdentityDigest : Digest
  candidateKeyReference : String
  cipherSuite : CandidateCipherSuite
  format : ManagedCandidateManifestFormat
  deriving DecidableEq

namespace ManagedCandidateManifest

def codec : Codec ManagedCandidateManifest :=
  .record
    (.required "candidate_identity" ManagedCandidateIdentity.codec <|
      .required "candidate_identity_digest" Digest.codec <|
      .required "candidate_key_reference" .string <|
      .required "cipher_suite" (Format.codec _) <| .required "format" (Format.codec _) .done)
    (fun r => (r.candidateIdentity, r.candidateIdentityDigest, r.candidateKeyReference,
      r.cipherSuite, r.format, ()))
    (fun (candidateIdentity, candidateIdentityDigest, candidateKeyReference, cipherSuite,
      format, ()) =>
      { candidateIdentity, candidateIdentityDigest, candidateKeyReference, cipherSuite, format })
    (fun _ => rfl) (by decide)

instance : Document ManagedCandidateManifest := ⟨codec, by decide⟩

def validate [Primitives] (manifest : ManagedCandidateManifest) : Result Unit := do
  manifest.candidateIdentity.validate
  validateOpaqueReference manifest.candidateKeyReference
  let digest ← Canonical.digest manifest.candidateIdentity
  rejectIf (digest ≠ manifest.candidateIdentityDigest) .schemaInvalid

instance [Primitives] : Validate ManagedCandidateManifest := ⟨validate⟩

end ManagedCandidateManifest

/-! ## The ciphertext of a candidate -/

abbrev ManagedCandidateCiphertextIdentityFormat :=
  Format "reproit.managed-candidate-ciphertext-identity.v1"

/-- The stored chunks of a candidate. -/
structure ManagedCandidateCiphertextIdentity where
  candidateIdentityDigest : Digest
  candidateKeyReference : String
  captureId : CaptureId
  cipherSuite : CandidateCipherSuite
  format : ManagedCandidateCiphertextIdentityFormat
  manifestObject : ManifestUploadObject
  objects : List EncryptedObject
  organizationId : OrganizationId
  processingMode : ProcessingMode
  projectId : ProjectId
  requiredCapabilities : List String
  serviceId : ServiceId
  totalCiphertextBytes : UInt64
  deriving DecidableEq

namespace ManagedCandidateCiphertextIdentity

def codec : Codec ManagedCandidateCiphertextIdentity :=
  .record
    (.required "candidate_identity_digest" Digest.codec <|
      .required "candidate_key_reference" .string <| .required "capture_id" TypedId.codec <|
      .required "cipher_suite" (Format.codec _) <| .required "format" (Format.codec _) <|
      .required "manifest_object" ManifestUploadObject.codec <|
      .required "objects" (.list EncryptedObject.codec) <|
      .required "organization_id" TypedId.codec <|
      .required "processing_mode" ProcessingMode.codec <|
      .required "project_id" TypedId.codec <|
      .required "required_capabilities" (.list .string) <|
      .required "service_id" TypedId.codec <|
      .required "total_ciphertext_bytes" .uint64 .done)
    (fun r => (r.candidateIdentityDigest, r.candidateKeyReference, r.captureId, r.cipherSuite,
      r.format, r.manifestObject, r.objects, r.organizationId, r.processingMode, r.projectId,
      r.requiredCapabilities, r.serviceId, r.totalCiphertextBytes, ()))
    (fun (candidateIdentityDigest, candidateKeyReference, captureId, cipherSuite, format,
      manifestObject, objects, organizationId, processingMode, projectId, requiredCapabilities,
      serviceId, totalCiphertextBytes, ()) =>
      { candidateIdentityDigest, candidateKeyReference, captureId, cipherSuite, format,
        manifestObject, objects, organizationId, processingMode, projectId,
        requiredCapabilities, serviceId, totalCiphertextBytes })
    (fun _ => rfl) (by decide)

instance : Document ManagedCandidateCiphertextIdentity := ⟨codec, by decide⟩

/-- Every nonce is new, and the stored bytes are summed up. -/
def addChunks : (nonces : List String) → (total : UInt64) → List EncryptedChunk →
    Result (List String × UInt64)
  | nonces, total, [] => .ok (nonces, total)
  | nonces, total, chunk :: rest => do
      let _ ← decodeBase64Url 12 chunk.nonce
      rejectIf (chunk.nonce ∈ nonces) .schemaInvalid
      let total ← okOr (checkedAdd total chunk.cipherSize) .schemaInvalid
      addChunks (chunk.nonce :: nonces) total rest

def addObjects : (nonces : List String) → (total : UInt64) → List EncryptedObject →
    Result (List String × UInt64)
  | nonces, total, [] => .ok (nonces, total)
  | nonces, total, object :: rest => do
      object.descriptor.validate
      validateChunks object.chunks
      let (nonces, total) ← addChunks nonces total object.chunks
      addObjects nonces total rest

/-- The stored blobs: every chunk, and the manifest. -/
def chunkCount (identity : ManagedCandidateCiphertextIdentity) : Nat :=
  1 + (identity.objects.map fun object => object.chunks.length).sum

/-- The stored bytes of the one record of events. -/
def candidateCiphertextBytes (identity : ManagedCandidateCiphertextIdentity) : Result UInt64 :=
  match identity.objects.filter
      fun object => isManifest (.candidate, candidateMediaType) object.descriptor with
  | [candidate] => okOr (checkedSum 0 (candidate.chunks.map EncryptedChunk.cipherSize))
      .schemaInvalid
  | _ => .error .schemaInvalid

def hasOneManifest (identity : ManagedCandidateCiphertextIdentity)
    (kind : LogicalObjectRole × String) : Bool :=
  (identity.objects.filter fun object => isManifest kind object.descriptor).length = 1

def validate (identity : ManagedCandidateCiphertextIdentity) : Result Unit := do
  validateOpaqueReference identity.candidateKeyReference
  rejectIf (identity.processingMode ≠ .managed ∨ identity.objects.length < 5 ∨
    identity.objects.length > maxCandidateObjects ∨ identity.requiredCapabilities.isEmpty ∨
    identity.requiredCapabilities.length > 64 ∨
    ¬ identity.requiredCapabilities.IsChain (· < ·) ∨
    ¬ identity.objects.IsChain (·.descriptor.objectId < ·.descriptor.objectId)) .schemaInvalid
  identity.manifestObject.validate
  let (_, totalCiphertextBytes) ← addObjects [identity.manifestObject.nonce]
    identity.manifestObject.cipherSize identity.objects
  requireCandidateRoles (identity.objects.map fun object => object.descriptor.role)
  let candidateBytes ← identity.candidateCiphertextBytes
  rejectIf (∃ kind ∈ candidateManifests, identity.hasOneManifest kind = false) .schemaInvalid
  rejectIf (identity.chunkCount > 32768 ∨
    totalCiphertextBytes ≠ identity.totalCiphertextBytes ∨
    totalCiphertextBytes.toNat > maxTotalCandidateCiphertextBytes ∨
    candidateBytes.toNat > maxCandidateCiphertextBytes ∨
    ∃ object ∈ identity.objects, object.descriptor.objectId = identity.manifestObject.objectId)
    .schemaInvalid

instance : Validate ManagedCandidateCiphertextIdentity := ⟨validate⟩

end ManagedCandidateCiphertextIdentity

/-! ## Capture grants -/

abbrev ManagedCandidateCaptureGrantFormat := Format "reproit.managed-candidate-capture-grant.v1"

/-- The one operation that a capture grant permits. -/
abbrev ManagedCandidateCaptureOperation := Format "encrypt-and-upload-candidate"

/-- The signed permission to encrypt one candidate and to upload it. -/
structure ManagedCandidateCaptureGrant where
  candidateIdentityDigest : Digest
  candidateKeyReference : String
  captureId : CaptureId
  cipherSuite : CandidateCipherSuite
  expiresAt : Timestamp
  format : ManagedCandidateCaptureGrantFormat
  grantId : String
  notBefore : Timestamp
  operation : ManagedCandidateCaptureOperation
  organizationId : OrganizationId
  processingMode : ProcessingMode
  projectId : ProjectId
  serviceId : ServiceId
  signature : String
  signerKeyId : String
  deriving DecidableEq

def ManagedCandidateCaptureGrant.codec : Codec ManagedCandidateCaptureGrant :=
  .record
    (.required "candidate_identity_digest" Digest.codec <|
      .required "candidate_key_reference" .string <| .required "capture_id" TypedId.codec <|
      .required "cipher_suite" (Format.codec _) <| .required "expires_at" Timestamp.codec <|
      .required "format" (Format.codec _) <| .required "grant_id" .string <|
      .required "not_before" Timestamp.codec <| .required "operation" (Format.codec _) <|
      .required "organization_id" TypedId.codec <|
      .required "processing_mode" ProcessingMode.codec <|
      .required "project_id" TypedId.codec <| .required "service_id" TypedId.codec <|
      .required "signature" .string <| .required "signer_key_id" .string .done)
    (fun r => (r.candidateIdentityDigest, r.candidateKeyReference, r.captureId, r.cipherSuite,
      r.expiresAt, r.format, r.grantId, r.notBefore, r.operation, r.organizationId,
      r.processingMode, r.projectId, r.serviceId, r.signature, r.signerKeyId, ()))
    (fun (candidateIdentityDigest, candidateKeyReference, captureId, cipherSuite, expiresAt,
      format, grantId, notBefore, operation, organizationId, processingMode, projectId,
      serviceId, signature, signerKeyId, ()) =>
      { candidateIdentityDigest, candidateKeyReference, captureId, cipherSuite, expiresAt,
        format, grantId, notBefore, operation, organizationId, processingMode, projectId,
        serviceId, signature, signerKeyId })
    (fun _ => rfl) (by decide)

instance : Document ManagedCandidateCaptureGrant := ⟨ManagedCandidateCaptureGrant.codec, by decide⟩

/-! ## Capture grants in force -/

namespace ManagedCandidateCaptureGrant

def validate (grant : ManagedCandidateCaptureGrant) : Result Unit := do
  validateOpaqueReference grant.candidateKeyReference
  validateOpaqueReference grant.grantId
  rejectIf (grant.processingMode ≠ .managed ∨ grant.signerKeyId.isEmpty ∨
    grant.signerKeyId.utf8ByteSize > 256 ∨ grant.signature.utf8ByteSize ≠ 86 ∨
    grant.notBefore.instant ≥ grant.expiresAt.instant) .schemaInvalid
  let _ ← decodeBase64Url 64 grant.signature
  return

instance : Validate ManagedCandidateCaptureGrant := ⟨validate⟩

end ManagedCandidateCaptureGrant

/-- What the machine of the customer expects of its capture grant. -/
structure ManagedCandidateCaptureGrantExpectation where
  candidateIdentityDigest : Digest
  candidateKeyReference : String
  captureId : CaptureId
  organizationId : OrganizationId
  projectId : ProjectId
  serviceId : ServiceId
  signerKeyId : String
  deriving DecidableEq

/-- The grant is for the expected capture and in force.  Times are compared as instants. -/
def verifyManagedCandidateCaptureGrant [Primitives] (grant : ManagedCandidateCaptureGrant)
    (expected : ManagedCandidateCaptureGrantExpectation) (now : Timestamp)
    (publicKey : SecretKey) : Result Unit := do
  grant.validate
  rejectIf (grant.candidateIdentityDigest ≠ expected.candidateIdentityDigest ∨
    grant.candidateKeyReference ≠ expected.candidateKeyReference ∨
    grant.captureId ≠ expected.captureId ∨ grant.organizationId ≠ expected.organizationId ∨
    grant.projectId ≠ expected.projectId ∨ grant.serviceId ≠ expected.serviceId ∨
    grant.signerKeyId ≠ expected.signerKeyId ∨ now.instant < grant.notBefore.instant ∨
    now.instant ≥ grant.expiresAt.instant)
    (.new .attestationScope "The managed candidate capture grant does not match this capture.")
  verifySignedValue (Document.encode grant) publicKey

end Reproit
