/-
# Capture batches and their envelopes

A capture batch manifest lists the encrypted objects of one capture.  The envelope
names the stored ciphertext of the manifest and of every chunk, says what the capture
is about in safe words, and is signed.  The key contexts say to which position a key
belongs.
-/

import Mathlib.Data.Prod.Lex
import Reproit.Data.Checked
import Reproit.Core.Model.Failure
import Reproit.Core.Model.Fuzz

namespace Reproit

/-! ## Encrypted objects -/

/-- One stored chunk of an object. -/
structure EncryptedChunk where
  cipherDigest : Digest
  cipherSize : UInt64
  index : UInt32
  nonce : String
  deriving DecidableEq

def EncryptedChunk.codec : Codec EncryptedChunk :=
  .record
    (.required "cipher_digest" Digest.codec <| .required "cipher_size" .uint64 <|
      .required "index" .uint32 <| .required "nonce" .string .done)
    (fun r => (r.cipherDigest, r.cipherSize, r.index, r.nonce, ()))
    (fun (cipherDigest, cipherSize, index, nonce, ()) =>
      { cipherDigest, cipherSize, index, nonce })
    (fun _ => rfl) (by decide)

/-- An object with its stored chunks. -/
structure EncryptedObject where
  chunks : List EncryptedChunk
  descriptor : LogicalObject
  deriving DecidableEq

def EncryptedObject.codec : Codec EncryptedObject :=
  .record
    (.required "chunks" (.list EncryptedChunk.codec) <|
      .required "descriptor" LogicalObject.codec .done)
    (fun r => (r.chunks, r.descriptor, ())) (fun (chunks, descriptor, ()) => { chunks, descriptor })
    (fun _ => rfl) (by decide)

/-- The bytes of a nonce and of an authentication tag. -/
def minCipherSize : Nat := 28

/-- A whole chunk of plaintext with its nonce and tag. -/
def maxCipherSize : Nat := 8388636

/-- The greatest canonical size of a manifest and of an envelope. -/
def maxBatchDocumentBytes : Nat := 8388608

/-- The chunks are numbered in order and have stored sizes. -/
def validateChunks (chunks : List EncryptedChunk) : Result Unit := do
  rejectIf (chunks.isEmpty ∨ chunks.length > 32767) .schemaInvalid
  forEach chunks.zipIdx fun (chunk, index) =>
    rejectIf (chunk.index.toNat ≠ index ∨
      ¬ (minCipherSize ≤ chunk.cipherSize.toNat ∧ chunk.cipherSize.toNat ≤ maxCipherSize) ∨
      chunk.nonce.utf8ByteSize ≠ 16) .schemaInvalid

/-! ## Capture batch manifests -/

abbrev CaptureBatchFormat := Format "reproit.capture-batch.v1"

/-- The encrypted objects of one capture, with their descriptors. -/
structure CaptureBatchManifest where
  captureId : CaptureId
  encryptionContextVersion : UInt8
  format : CaptureBatchFormat
  objects : List EncryptedObject
  organizationId : OrganizationId
  processingMode : ProcessingMode
  profile : String
  profileFormat : UInt64
  projectId : ProjectId
  proofDigests : List Digest
  replayCapsuleDigest : Digest
  replayCapsuleObjectId : ObjectId
  repositoryId : String
  requiredCapabilities : List String
  serviceId : ServiceId
  servicePath : String
  sourceRevision : String
  deriving DecidableEq

namespace CaptureBatchManifest

def codec : Codec CaptureBatchManifest :=
  .record
    (.required "capture_id" TypedId.codec <|
      .required "encryption_context_version" .uint8 <| .required "format" (Format.codec _) <|
      .required "objects" (.list EncryptedObject.codec) <|
      .required "organization_id" TypedId.codec <|
      .required "processing_mode" ProcessingMode.codec <| .required "profile" .string <|
      .required "profile_format" .uint64 <| .required "project_id" TypedId.codec <|
      .required "proof_digests" (.list Digest.codec) <|
      .required "replay_capsule_digest" Digest.codec <|
      .required "replay_capsule_object_id" TypedId.codec <|
      .required "repository_id" .string <|
      .required "required_capabilities" (.list .string) <|
      .required "service_id" TypedId.codec <| .required "service_path" .string <|
      .required "source_revision" .string .done)
    (fun r => (r.captureId, r.encryptionContextVersion, r.format, r.objects, r.organizationId,
      r.processingMode, r.profile, r.profileFormat, r.projectId, r.proofDigests,
      r.replayCapsuleDigest, r.replayCapsuleObjectId, r.repositoryId, r.requiredCapabilities,
      r.serviceId, r.servicePath, r.sourceRevision, ()))
    (fun (captureId, encryptionContextVersion, format, objects, organizationId, processingMode,
      profile, profileFormat, projectId, proofDigests, replayCapsuleDigest,
      replayCapsuleObjectId, repositoryId, requiredCapabilities, serviceId, servicePath,
      sourceRevision, ()) =>
      { captureId, encryptionContextVersion, format, objects, organizationId, processingMode,
        profile, profileFormat, projectId, proofDigests, replayCapsuleDigest,
        replayCapsuleObjectId, repositoryId, requiredCapabilities, serviceId, servicePath,
        sourceRevision })
    (fun _ => rfl) (by decide)

instance : Document CaptureBatchManifest := ⟨codec, by decide⟩

/-- The stored blobs of the batch: every chunk, and the manifest itself. -/
def chunkCount (manifest : CaptureBatchManifest) : Nat :=
  1 + (manifest.objects.map fun object => object.chunks.length).sum

def validate (manifest : CaptureBatchManifest) : Result Unit := do
  rejectIf (manifest.encryptionContextVersion ≠ 1 ∨ ¬ validLowerIdentity manifest.profile ∨
    manifest.profile.utf8ByteSize > 128 ∨
    ¬ (1 ≤ manifest.profileFormat.toNat ∧ manifest.profileFormat.toNat ≤ maxExactInteger) ∨
    manifest.objects.length < 4 ∨ manifest.objects.length > 32768 ∨
    manifest.proofDigests.length ≠ 3 ∨ ¬ manifest.proofDigests.Nodup) .schemaInvalid
  requireStrictOrder (manifest.objects.map fun object => object.descriptor.objectId.toText)
  validateCapabilities manifest.requiredCapabilities
  forEach manifest.objects fun object => do
    object.descriptor.validate
    validateChunks object.chunks
  rejectIf (manifest.chunkCount > 32768) .schemaInvalid
  let written ← Canonical.bytes manifest
  rejectIf (written.length > maxBatchDocumentBytes) .schemaInvalid

instance : Validate CaptureBatchManifest := ⟨validate⟩

end CaptureBatchManifest

/-! ## Uploads -/

/-- One stored blob. -/
structure UploadObject where
  cipherDigest : Digest
  cipherSize : UInt64
  nonce : String
  deriving DecidableEq

namespace UploadObject

def codec : Codec UploadObject :=
  .record
    (.required "cipher_digest" Digest.codec <| .required "cipher_size" .uint64 <|
      .required "nonce" .string .done)
    (fun r => (r.cipherDigest, r.cipherSize, r.nonce, ()))
    (fun (cipherDigest, cipherSize, nonce, ()) => { cipherDigest, cipherSize, nonce })
    (fun _ => rfl) (by decide)

def validate (object : UploadObject) : Result Unit :=
  rejectIf (¬ (minCipherSize ≤ object.cipherSize.toNat ∧
      object.cipherSize.toNat ≤ maxCipherSize) ∨
    object.nonce.utf8ByteSize ≠ 16 ∨ ¬ validBase64Url object.nonce) .schemaInvalid

instance : Validate UploadObject := ⟨validate⟩

/-- Uploads are ordered by digest and then by nonce. -/
def key (object : UploadObject) : Digest ×ₗ String := toLex (object.cipherDigest, object.nonce)

end UploadObject

/-- The stored blob of the manifest. -/
structure ManifestUploadObject where
  cipherDigest : Digest
  cipherSize : UInt64
  nonce : String
  objectId : ObjectId
  deriving DecidableEq

namespace ManifestUploadObject

def codec : Codec ManifestUploadObject :=
  .record
    (.required "cipher_digest" Digest.codec <| .required "cipher_size" .uint64 <|
      .required "nonce" .string <| .required "object_id" TypedId.codec .done)
    (fun r => (r.cipherDigest, r.cipherSize, r.nonce, r.objectId, ()))
    (fun (cipherDigest, cipherSize, nonce, objectId, ()) =>
      { cipherDigest, cipherSize, nonce, objectId })
    (fun _ => rfl) (by decide)

def validate (object : ManifestUploadObject) : Result Unit :=
  UploadObject.validate
    { cipherDigest := object.cipherDigest, cipherSize := object.cipherSize, nonce := object.nonce }

instance : Validate ManifestUploadObject := ⟨validate⟩

end ManifestUploadObject

def cipherSuite : String := "AES-256-GCM+HKDF-SHA-256"

def nonceReuse : Error :=
  .new .nonceReuse "An occurrence cannot reuse an encryption nonce."

abbrev CaptureBatchIdentityFormat := Format "reproit.capture-batch-identity.v1"

/-- The stored blobs of one capture. -/
structure CaptureBatchIdentity where
  captureId : CaptureId
  cipherSuite : String
  format : CaptureBatchIdentityFormat
  manifestObject : ManifestUploadObject
  objects : List UploadObject
  processingMode : ProcessingMode
  deriving DecidableEq

namespace CaptureBatchIdentity

def codec : Codec CaptureBatchIdentity :=
  .record
    (.required "capture_id" TypedId.codec <| .required "cipher_suite" .string <|
      .required "format" (Format.codec _) <|
      .required "manifest_object" ManifestUploadObject.codec <|
      .required "objects" (.list UploadObject.codec) <|
      .required "processing_mode" ProcessingMode.codec .done)
    (fun r => (r.captureId, r.cipherSuite, r.format, r.manifestObject, r.objects,
      r.processingMode, ()))
    (fun (captureId, cipherSuite, format, manifestObject, objects, processingMode, ()) =>
      { captureId, cipherSuite, format, manifestObject, objects, processingMode })
    (fun _ => rfl) (by decide)

instance : Document CaptureBatchIdentity := ⟨codec, by decide⟩

/-- Every upload is valid, has a nonce not seen before and comes after the one before
it. -/
def validateUploads : (nonces : List String) → (previous : Option (Digest ×ₗ String)) →
    List UploadObject → Result Unit
  | _, _, [] => .ok ()
  | nonces, previous, object :: rest => do
      object.validate
      rejectIf (object.nonce ∈ nonces) nonceReuse
      rejectIf (previous.any fun prior => prior ≥ object.key) .schemaInvalid
      validateUploads (object.nonce :: nonces) (some object.key) rest

def validate (identity : CaptureBatchIdentity) : Result Unit := do
  rejectIf (identity.cipherSuite ≠ Reproit.cipherSuite ∨ identity.objects.length < 4 ∨
    identity.objects.length > 32767) .schemaInvalid
  identity.manifestObject.validate
  rejectIf ((checkedSum identity.manifestObject.cipherSize
    (identity.objects.map UploadObject.cipherSize)).all fun total =>
      total.toNat > maxObjectBytes) .schemaInvalid
  validateUploads [identity.manifestObject.nonce] none identity.objects

instance : Validate CaptureBatchIdentity := ⟨validate⟩

end CaptureBatchIdentity

/-! ## Envelopes -/

structure AdmissionAttestation where
  proofDigests : List Digest
  runCount : UInt8
  signerKeyId : String
  deriving DecidableEq

def AdmissionAttestation.codec : Codec AdmissionAttestation :=
  .record
    (.required "proof_digests" (.list Digest.codec) <| .required "run_count" .uint8 <|
      .required "signer_key_id" .string .done)
    (fun r => (r.proofDigests, r.runCount, r.signerKeyId, ()))
    (fun (proofDigests, runCount, signerKeyId, ()) => { proofDigests, runCount, signerKeyId })
    (fun _ => rfl) (by decide)

/-- The occurrence key as a key provider wrapped it. -/
structure WrappedKey where
  algorithm : String
  contextVersion : UInt8
  keyReference : String
  providerId : String
  wrappedBytes : String
  deriving DecidableEq

namespace WrappedKey

def codec : Codec WrappedKey :=
  .record
    (.required "algorithm" .string <| .required "context_version" .uint8 <|
      .required "key_reference" .string <| .required "provider_id" .string <|
      .required "wrapped_bytes" .string .done)
    (fun r => (r.algorithm, r.contextVersion, r.keyReference, r.providerId, r.wrappedBytes, ()))
    (fun (algorithm, contextVersion, keyReference, providerId, wrappedBytes, ()) =>
      { algorithm, contextVersion, keyReference, providerId, wrappedBytes })
    (fun _ => rfl) (by decide)

def validate (key : WrappedKey) : Result Unit := do
  rejectIf (key.algorithm.isEmpty ∨ key.algorithm.utf8ByteSize > 128 ∨ key.contextVersion ≠ 1 ∨
    key.keyReference.isEmpty ∨ key.keyReference.utf8ByteSize > 2048 ∨
    key.providerId.isEmpty ∨ key.providerId.utf8ByteSize > 256 ∨
    key.wrappedBytes.isEmpty ∨ key.wrappedBytes.utf8ByteSize > 16384) .schemaInvalid
  let _ ← decodeBase64UrlBytes key.wrappedBytes

instance : Validate WrappedKey := ⟨validate⟩

end WrappedKey

/-- The text in front of the digits of a failure fingerprint. -/
def fingerprintTag : List Char := "hmac-sha256:".toList

def validFailureFingerprint (value : String) : Bool :=
  match Json.expect fingerprintTag value.toList with
  | none => false
  | some digits =>
      digits.length = 64 && digits.all fun c => c.isDigit || ('a' ≤ c && c ≤ 'f')

abbrev UploadEnvelopeFormat := Format "reproit.upload.v1"

/-- The signed description of one sealed capture. -/
structure UploadEnvelope where
  admission : AdmissionAttestation
  campaignContext : Option FuzzContext
  causalParentIds : List OperationId
  captureBatchDigest : Digest
  captureId : CaptureId
  cipherSuite : String
  discoverySource : Option DiscoverySource
  failureFingerprint : String
  failureSummary : FailureSummary
  format : UploadEnvelopeFormat
  manifestObject : ManifestUploadObject
  objects : List UploadObject
  operationId : Option OperationId
  organizationId : OrganizationId
  processingMode : ProcessingMode
  profile : String
  profileFormat : UInt64
  projectId : ProjectId
  replayCapsuleDigest : Digest
  requiredCapabilities : List String
  serviceId : ServiceId
  signature : String
  signedAt : Timestamp
  sourceRevision : String
  triggerSummary : TriggerSummary
  wrappedKey : WrappedKey
  deriving DecidableEq

namespace UploadEnvelope

def codec : Codec UploadEnvelope :=
  .record
    (.required "admission" AdmissionAttestation.codec <|
      .skipped "campaign_context" FuzzContext.codec FuzzContext.decode_null true <|
      .skippedList "causal_parent_ids" TypedId.codec <|
      .required "capture_batch_digest" Digest.codec <| .required "capture_id" TypedId.codec <|
      .required "cipher_suite" .string <|
      .skipped "discovery_source" DiscoverySource.codec DiscoverySource.decode_null true <|
      .required "failure_fingerprint" .string <|
      .required "failure_summary" FailureSummary.codec <| .required "format" (Format.codec _) <|
      .required "manifest_object" ManifestUploadObject.codec <|
      .required "objects" (.list UploadObject.codec) <|
      .skipped "operation_id" TypedId.codec TypedId.decode_null true <|
      .required "organization_id" TypedId.codec <|
      .required "processing_mode" ProcessingMode.codec <| .required "profile" .string <|
      .required "profile_format" .uint64 <| .required "project_id" TypedId.codec <|
      .required "replay_capsule_digest" Digest.codec <|
      .required "required_capabilities" (.list .string) <|
      .required "service_id" TypedId.codec <| .required "signature" .string <|
      .required "signed_at" Timestamp.codec <| .required "source_revision" .string <|
      .required "trigger_summary" TriggerSummary.codec <|
      .required "wrapped_key" WrappedKey.codec .done)
    (fun r => (r.admission, r.campaignContext, r.causalParentIds, r.captureBatchDigest,
      r.captureId, r.cipherSuite, r.discoverySource, r.failureFingerprint, r.failureSummary,
      r.format, r.manifestObject, r.objects, r.operationId, r.organizationId, r.processingMode,
      r.profile, r.profileFormat, r.projectId, r.replayCapsuleDigest, r.requiredCapabilities,
      r.serviceId, r.signature, r.signedAt, r.sourceRevision, r.triggerSummary, r.wrappedKey, ()))
    (fun (admission, campaignContext, causalParentIds, captureBatchDigest, captureId, cipherSuite,
      discoverySource, failureFingerprint, failureSummary, format, manifestObject, objects,
      operationId, organizationId, processingMode, profile, profileFormat, projectId,
      replayCapsuleDigest, requiredCapabilities, serviceId, signature, signedAt, sourceRevision,
      triggerSummary, wrappedKey, ()) =>
      { admission, campaignContext, causalParentIds, captureBatchDigest, captureId, cipherSuite,
        discoverySource, failureFingerprint, failureSummary, format, manifestObject, objects,
        operationId, organizationId, processingMode, profile, profileFormat, projectId,
        replayCapsuleDigest, requiredCapabilities, serviceId, signature, signedAt, sourceRevision,
        triggerSummary, wrappedKey })
    (fun _ => rfl) (by decide)

instance : Document UploadEnvelope := ⟨codec, by decide⟩

/-- The stored blobs that the envelope names. -/
def identity (envelope : UploadEnvelope) : CaptureBatchIdentity where
  captureId := envelope.captureId
  cipherSuite := envelope.cipherSuite
  format := .v1
  manifestObject := envelope.manifestObject
  objects := envelope.objects
  processingMode := envelope.processingMode

/-- An operation and its causal parents come with a campaign context and only then. -/
def validateCampaign (envelope : UploadEnvelope) : Result Unit :=
  match envelope.campaignContext with
  | some context => do
      context.validate
      rejectIf (context.projectId ≠ envelope.projectId ∨ envelope.operationId.isNone ∨
        envelope.causalParentIds.length > 32 ∨ ¬ envelope.causalParentIds.Nodup) .schemaInvalid
  | none =>
      rejectIf (envelope.operationId.isSome ∨ ¬ envelope.causalParentIds.isEmpty) .schemaInvalid

def validate [Primitives] (envelope : UploadEnvelope) : Result Unit := do
  rejectIf (envelope.admission.proofDigests.length ≠ 3 ∨
    ¬ envelope.admission.proofDigests.Nodup ∨ envelope.admission.runCount ≠ 3 ∨
    envelope.admission.signerKeyId.isEmpty ∨
    envelope.admission.signerKeyId.utf8ByteSize > 256 ∨
    envelope.cipherSuite ≠ Reproit.cipherSuite ∨
    ¬ validFailureFingerprint envelope.failureFingerprint ∨
    ¬ validLowerIdentity envelope.profile ∨ envelope.profile.utf8ByteSize > 128 ∨
    ¬ (1 ≤ envelope.profileFormat.toNat ∧ envelope.profileFormat.toNat ≤ maxExactInteger) ∨
    envelope.sourceRevision.isEmpty ∨ envelope.sourceRevision.utf8ByteSize > 256) .schemaInvalid
  validateCapabilities envelope.requiredCapabilities
  envelope.failureSummary.validateForMode envelope.processingMode
  envelope.triggerSummary.validateForMode envelope.processingMode
  envelope.validateCampaign
  rejectIf (envelope.campaignContext.isSome ∧ envelope.discoverySource = some .production)
    .schemaInvalid
  let _ ← decodeBase64Url 64 envelope.signature
  envelope.wrappedKey.validate
  envelope.identity.validate
  let written ← Canonical.bytes envelope
  rejectIf (written.length > maxBatchDocumentBytes) .schemaInvalid
  let identityDigest ← Canonical.digest envelope.identity
  rejectIf (identityDigest ≠ envelope.captureBatchDigest) .objectDigestMismatch

instance [Primitives] : Validate UploadEnvelope := ⟨validate⟩

end UploadEnvelope

/-! ## Key contexts -/

abbrev ObjectKeyContextFormat := Format "reproit.object-key-context.v1"

def captureBatchFormatName : String := "reproit.capture-batch.v1"

/-- The object to which a key belongs. -/
structure ObjectKeyContext where
  captureBatchFormat : String
  captureId : CaptureId
  format : ObjectKeyContextFormat
  objectId : ObjectId
  organizationId : OrganizationId
  processingMode : ProcessingMode
  projectId : ProjectId
  role : LogicalObjectRole
  serviceId : ServiceId
  deriving DecidableEq

namespace ObjectKeyContext

def codec : Codec ObjectKeyContext :=
  .record
    (.required "capture_batch_format" .string <| .required "capture_id" TypedId.codec <|
      .required "format" (Format.codec _) <| .required "object_id" TypedId.codec <|
      .required "organization_id" TypedId.codec <|
      .required "processing_mode" ProcessingMode.codec <|
      .required "project_id" TypedId.codec <| .required "role" LogicalObjectRole.codec <|
      .required "service_id" TypedId.codec .done)
    (fun r => (r.captureBatchFormat, r.captureId, r.format, r.objectId, r.organizationId,
      r.processingMode, r.projectId, r.role, r.serviceId, ()))
    (fun (captureBatchFormat, captureId, format, objectId, organizationId, processingMode,
      projectId, role, serviceId, ()) =>
      { captureBatchFormat, captureId, format, objectId, organizationId, processingMode,
        projectId, role, serviceId })
    (fun _ => rfl) (by decide)

instance : Document ObjectKeyContext := ⟨codec, by decide⟩

def validate (context : ObjectKeyContext) : Result Unit :=
  rejectIf (context.captureBatchFormat ≠ captureBatchFormatName) .schemaInvalid

instance : Validate ObjectKeyContext := ⟨validate⟩

end ObjectKeyContext

abbrev ChunkKeyContextFormat := Format "reproit.chunk-key-context.v1"

/-- The chunk of an object to which a key belongs. -/
structure ChunkKeyContext where
  chunkCount : UInt32
  chunkIndex : UInt32
  format : ChunkKeyContextFormat
  objectContextDigest : Digest
  plainSize : UInt64
  deriving DecidableEq

namespace ChunkKeyContext

def codec : Codec ChunkKeyContext :=
  .record
    (.required "chunk_count" .uint32 <| .required "chunk_index" .uint32 <|
      .required "format" (Format.codec _) <|
      .required "object_context_digest" Digest.codec <| .required "plain_size" .uint64 .done)
    (fun r => (r.chunkCount, r.chunkIndex, r.format, r.objectContextDigest, r.plainSize, ()))
    (fun (chunkCount, chunkIndex, format, objectContextDigest, plainSize, ()) =>
      { chunkCount, chunkIndex, format, objectContextDigest, plainSize })
    (fun _ => rfl) (by decide)

instance : Document ChunkKeyContext := ⟨codec, by decide⟩

def validate (context : ChunkKeyContext) : Result Unit :=
  rejectIf (context.chunkCount = 0 ∨ context.chunkCount > 32767 ∨
    context.chunkIndex ≥ context.chunkCount ∨ context.plainSize > 8388608) .schemaInvalid

instance : Validate ChunkKeyContext := ⟨validate⟩

end ChunkKeyContext

namespace UploadEnvelope

def manifestObjectContext (envelope : UploadEnvelope) : ObjectKeyContext where
  captureBatchFormat := captureBatchFormatName
  captureId := envelope.captureId
  format := .v1
  objectId := envelope.manifestObject.objectId
  organizationId := envelope.organizationId
  processingMode := envelope.processingMode
  projectId := envelope.projectId
  role := .captureBatchManifest
  serviceId := envelope.serviceId

end UploadEnvelope

/-- The plaintext size of a stored blob. -/
def plainSizeOf (cipherSize : UInt64) : Result UInt64 := do
  rejectIf (cipherSize.toNat < minCipherSize) .schemaInvalid
  return cipherSize - 28

namespace UploadEnvelope

def manifestChunkContext [Primitives] (envelope : UploadEnvelope) : Result ChunkKeyContext := do
  let objectContextDigest ← Canonical.digest envelope.manifestObjectContext
  let plainSize ← plainSizeOf envelope.manifestObject.cipherSize
  return { chunkCount := 1, chunkIndex := 0, format := .v1, objectContextDigest, plainSize }

end UploadEnvelope

/-- The manifest is of the capsule and does not list its own object. -/
def validateManifestBinding (manifest : CaptureBatchManifest)
    (manifestObject : ManifestUploadObject) (replayCapsuleDigest : Digest) : Result Unit := do
  manifest.validate
  manifestObject.validate
  rejectIf (manifest.replayCapsuleDigest ≠ replayCapsuleDigest ∨
    ∃ object ∈ manifest.objects, object.descriptor.objectId = manifestObject.objectId)
    .schemaInvalid

end Reproit
