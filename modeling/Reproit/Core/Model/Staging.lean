/-
# Staged candidates

The documents of a candidate that waits, encrypted, for its capture: the identity that is
authenticated with it and derived again from it, and the envelope that stores it.
-/

import Reproit.Core.Model.Candidate

namespace Reproit

/-! ## Failure storms -/

abbrev FailureStormIdentityFormat := Format "reproit.failure-storm-identity.v1"

/-- What repeated failures of one deployment have in common. -/
structure FailureStormIdentity where
  failureIdentityDigest : Digest
  format : FailureStormIdentityFormat
  operationKind : OperationKind
  operationName : String
  serviceId : ServiceId
  sourceRevision : String
  subjectArtifactDigest : Digest
  deriving DecidableEq

namespace FailureStormIdentity

def codec : Codec FailureStormIdentity :=
  .record
    (.required "failure_identity_digest" Digest.codec <| .required "format" (Format.codec _) <|
      .required "operation_kind" OperationKind.codec <| .required "operation_name" .string <|
      .required "service_id" TypedId.codec <| .required "source_revision" .string <|
      .required "subject_artifact_digest" Digest.codec .done)
    (fun r => (r.failureIdentityDigest, r.format, r.operationKind, r.operationName, r.serviceId,
      r.sourceRevision, r.subjectArtifactDigest, ()))
    (fun (failureIdentityDigest, format, operationKind, operationName, serviceId, sourceRevision,
      subjectArtifactDigest, ()) =>
      { failureIdentityDigest, format, operationKind, operationName, serviceId, sourceRevision,
        subjectArtifactDigest })
    (fun _ => rfl) (by decide)

instance : Document FailureStormIdentity := ⟨codec, by decide⟩

def validate (identity : FailureStormIdentity) : Result Unit :=
  rejectIf (identity.operationName.isEmpty ∨ identity.operationName.utf8ByteSize > 128 ∨
    identity.sourceRevision.isEmpty ∨ identity.sourceRevision.utf8ByteSize > 256) .schemaInvalid

instance : Validate FailureStormIdentity := ⟨validate⟩

end FailureStormIdentity

/-- The storm that the failure of a candidate belongs to. -/
def Candidate.failureStormIdentity [Primitives] (candidate : Candidate) :
    Result FailureStormIdentity := do
  candidate.validate
  let record ← okOr (candidate.records.find? fun record => record.kind = .failure)
    incompleteCandidate
  let bytes ← canonicalPayload record
  let payload ← Canonical.parseStrict FailurePayload bytes
  let identity : FailureStormIdentity :=
    { failureIdentityDigest := candidate.failure.identity
      format := .v1
      operationKind := payload.identity.operation.1
      operationName := payload.identity.operation.2
      serviceId := candidate.deployment.serviceId
      sourceRevision := candidate.deployment.sourceRevision
      subjectArtifactDigest := candidate.deployment.subject.artifactDigest }
  identity.validate
  return identity

/-! ## Identities -/

abbrev ProviderLeaseBindingFormat := Format "reproit.provider-lease-binding.v1"

/-- What the World of a candidate is leased for. -/
structure ProviderLeaseBinding where
  format : ProviderLeaseBindingFormat
  organizationId : OrganizationId
  serviceId : ServiceId
  worldId : Digest

def ProviderLeaseBinding.codec : Codec ProviderLeaseBinding :=
  .record
    (.required "format" (Format.codec _) <| .required "organization_id" TypedId.codec <|
      .required "service_id" TypedId.codec <| .required "world_id" Digest.codec .done)
    (fun r => (r.format, r.organizationId, r.serviceId, r.worldId, ()))
    (fun (format, organizationId, serviceId, worldId, ()) =>
      { format, organizationId, serviceId, worldId })
    (fun _ => rfl) (by decide)

instance : Document ProviderLeaseBinding := ⟨ProviderLeaseBinding.codec, by decide⟩

abbrev CandidateStagingIdentityFormat := Format "reproit.candidate-staging-identity.v1"

/-- The facts of a candidate that are authenticated with its ciphertext. -/
structure CandidateStagingIdentity where
  captureId : CaptureId
  deploymentDigest : Digest
  expiresAt : Timestamp
  failureStormDigest : Digest
  format : CandidateStagingIdentityFormat
  organizationId : OrganizationId
  processingMode : ProcessingMode
  projectId : ProjectId
  providerLeaseDigest : Digest
  requestDigest : Digest
  serviceId : ServiceId
  worldId : Digest
  deriving DecidableEq

namespace CandidateStagingIdentity

def codec : Codec CandidateStagingIdentity :=
  .record
    (.required "capture_id" TypedId.codec <| .required "deployment_digest" Digest.codec <|
      .required "expires_at" Timestamp.codec <| .required "failure_storm_digest" Digest.codec <|
      .required "format" (Format.codec _) <| .required "organization_id" TypedId.codec <|
      .required "processing_mode" ProcessingMode.codec <|
      .required "project_id" TypedId.codec <|
      .required "provider_lease_digest" Digest.codec <|
      .required "request_digest" Digest.codec <| .required "service_id" TypedId.codec <|
      .required "world_id" Digest.codec .done)
    (fun r => (r.captureId, r.deploymentDigest, r.expiresAt, r.failureStormDigest, r.format,
      r.organizationId, r.processingMode, r.projectId, r.providerLeaseDigest, r.requestDigest,
      r.serviceId, r.worldId, ()))
    (fun (captureId, deploymentDigest, expiresAt, failureStormDigest, format, organizationId,
      processingMode, projectId, providerLeaseDigest, requestDigest, serviceId, worldId, ()) =>
      { captureId, deploymentDigest, expiresAt, failureStormDigest, format, organizationId,
        processingMode, projectId, providerLeaseDigest, requestDigest, serviceId, worldId })
    (fun _ => rfl) (by decide)

instance : Document CandidateStagingIdentity := ⟨codec, by decide⟩

/-- Every identity is valid. -/
def validate (_identity : CandidateStagingIdentity) : Result Unit := .ok ()

instance : Validate CandidateStagingIdentity := ⟨validate⟩

variable [Primitives]

def forCandidate (candidate : Candidate) (expiresAt : Timestamp) :
    Result CandidateStagingIdentity := do
  candidate.validate
  let requestDigest ← Canonical.digest candidate
  let storm ← candidate.failureStormIdentity
  let failureStormDigest ← Canonical.digest storm
  let deploymentDigest ← Canonical.digest candidate.deployment
  let binding : ProviderLeaseBinding :=
    { format := .v1
      organizationId := candidate.deployment.organizationId
      serviceId := candidate.deployment.serviceId
      worldId := candidate.worldId }
  let providerLeaseDigest ← Canonical.digest binding
  return {
    captureId := candidate.captureId
    deploymentDigest
    expiresAt
    failureStormDigest
    format := .v1
    organizationId := candidate.deployment.organizationId
    processingMode := candidate.processingMode
    projectId := candidate.deployment.projectId
    providerLeaseDigest
    requestDigest
    serviceId := candidate.deployment.serviceId
    worldId := candidate.worldId }

def matchesCandidate (identity : CandidateStagingIdentity) (candidate : Candidate) :
    Result Unit := do
  let expected ← forCandidate candidate identity.expiresAt
  rejectIf (identity ≠ expected) .objectDigestMismatch

end CandidateStagingIdentity

/-! ## Envelopes -/

/-- The greatest size of a stored candidate. -/
def maxStagedCandidateBytes : Nat := 1048604

abbrev CandidateStagingFormat := Format "reproit.candidate-staging-envelope.v1"

/-- A stored candidate: its nonce, ciphertext and tag in base 64, with its identity. -/
structure CandidateStagingEnvelope where
  cipherDigest : Digest
  cipherSize : UInt64
  ciphertext : String
  format : CandidateStagingFormat
  identity : CandidateStagingIdentity
  deriving DecidableEq

namespace CandidateStagingEnvelope

def codec : Codec CandidateStagingEnvelope :=
  .record
    (.required "cipher_digest" Digest.codec <| .required "cipher_size" .uint64 <|
      .required "ciphertext" .string <| .required "format" (Format.codec _) <|
      .required "identity" CandidateStagingIdentity.codec .done)
    (fun r => (r.cipherDigest, r.cipherSize, r.ciphertext, r.format, r.identity, ()))
    (fun (cipherDigest, cipherSize, ciphertext, format, identity, ()) =>
      { cipherDigest, cipherSize, ciphertext, format, identity })
    (fun _ => rfl) (by decide)

instance : Document CandidateStagingEnvelope := ⟨codec, by decide⟩

variable [Primitives]

def validate (envelope : CandidateStagingEnvelope) : Result Unit := do
  envelope.identity.validate
  let stored ← decodeBase64UrlBytes envelope.ciphertext
  rejectIf (¬ (28 ≤ stored.length ∧ stored.length ≤ maxStagedCandidateBytes) ∨
    stored.length ≠ envelope.cipherSize.toNat ∨ Digest.of stored ≠ envelope.cipherDigest)
    .objectDigestMismatch

instance : Validate CandidateStagingEnvelope := ⟨validate⟩

def new (identity : CandidateStagingIdentity) (stored : Bytes) :
    Result CandidateStagingEnvelope := do
  rejectIf (2 ^ 64 ≤ stored.length) .schemaInvalid
  let envelope : CandidateStagingEnvelope :=
    { cipherDigest := Digest.of stored
      cipherSize := UInt64.ofNat stored.length
      ciphertext := encodeBase64Url stored
      format := .v1
      identity }
  envelope.validate
  return envelope

def storedBytes (envelope : CandidateStagingEnvelope) : Result Bytes := do
  envelope.validate
  decodeBase64UrlBytes envelope.ciphertext

omit [Primitives] in
def aad (envelope : CandidateStagingEnvelope) : Result Bytes := do
  envelope.identity.validate
  Canonical.bytes envelope.identity

end CandidateStagingEnvelope

/-! ## Mailbox items -/

def candidateMailboxMediaType : String := "application/vnd.reproit.candidate-staging-ciphertext.v1"

abbrev CandidateMailboxFormat := Format "reproit.candidate-mailbox-item.v1"

/-- A ciphertext that is stored as an object of its own. -/
structure CandidateMailboxObject where
  cipherDigest : Digest
  cipherSize : UInt64
  mediaType : String
  objectIdentity : Digest
  deriving DecidableEq

namespace CandidateMailboxObject

def codec : Codec CandidateMailboxObject :=
  .record
    (.required "cipher_digest" Digest.codec <| .required "cipher_size" .uint64 <|
      .required "media_type" .string <| .required "object_identity" Digest.codec .done)
    (fun r => (r.cipherDigest, r.cipherSize, r.mediaType, r.objectIdentity, ()))
    (fun (cipherDigest, cipherSize, mediaType, objectIdentity, ()) =>
      { cipherDigest, cipherSize, mediaType, objectIdentity })
    (fun _ => rfl) (by decide)

def validate (object : CandidateMailboxObject) : Result Unit :=
  rejectIf (object.mediaType ≠ candidateMailboxMediaType ∨
    object.objectIdentity ≠ object.cipherDigest ∨
    ¬ (28 ≤ object.cipherSize.toNat ∧ object.cipherSize.toNat ≤ maxStagedCandidateBytes))
    .schemaInvalid

instance : Validate CandidateMailboxObject := ⟨validate⟩

end CandidateMailboxObject

inductive CandidateMailboxPayload
  | ciphertext (envelope : CandidateStagingEnvelope)
  | object (stored : CandidateMailboxObject)
  deriving DecidableEq

/-- A payload is tagged with its kind, and unlike the records it may have unknown members. -/
def CandidateMailboxPayload.codec : Codec CandidateMailboxPayload :=
  (Codec.tagged "kind" "CIPHERTEXT" "OBJECT"
    (.required "envelope" CandidateStagingEnvelope.codec .done)
    (.required "object" CandidateMailboxObject.codec .done)
    (by decide) (by decide) (by decide)).imap
    (fun
      | .ciphertext envelope => .inl (envelope, ())
      | .object stored => .inr (stored, ()))
    (fun
      | .inl (envelope, ()) => .ciphertext envelope
      | .inr (stored, ()) => .object stored)
    (fun payload => by cases payload <;> rfl) (fun payload => by cases payload <;> rfl)

/-- What a customer mailbox holds of one staged candidate. -/
structure CandidateMailboxItem where
  content : CandidateMailboxPayload
  format : CandidateMailboxFormat
  identity : CandidateStagingIdentity
  deriving DecidableEq

namespace CandidateMailboxItem

def codec : Codec CandidateMailboxItem :=
  .record
    (.required "content" CandidateMailboxPayload.codec <| .required "format" (Format.codec _) <|
      .required "identity" CandidateStagingIdentity.codec .done)
    (fun r => (r.content, r.format, r.identity, ()))
    (fun (content, format, identity, ()) => { content, format, identity })
    (fun _ => rfl) (by decide)

instance : Document CandidateMailboxItem := ⟨codec, by decide⟩

def validate [Primitives] (item : CandidateMailboxItem) : Result Unit := do
  item.identity.validate
  match item.content with
  | .ciphertext envelope => do
      envelope.validate
      rejectIf (envelope.identity ≠ item.identity) .objectDigestMismatch
  | .object stored => stored.validate

instance [Primitives] : Validate CandidateMailboxItem := ⟨validate⟩

end CandidateMailboxItem

end Reproit
