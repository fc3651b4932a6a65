/-
# Opening a capture

A capture is opened with the key of its occurrence.  The stored blobs must be exactly the ones
that the envelope names; the manifest is decrypted first and must name them all, and every
object is then decrypted chunk by chunk.  One object can be opened alone with its own blobs.
-/

import Reproit.Backend.Seal
import Reproit.Data.Sorted

namespace Reproit.Backend

variable [Primitives]

structure OpenedCapture where
  manifest : CaptureBatchManifest
  objects : OrderedMap ObjectId Bytes

/-! ## Stored blobs -/

/-- The stored manifest is the blob that the envelope names. -/
def validateManifestCiphertext (envelope : UploadEnvelope) (manifestStored : Bytes) :
    Result Unit := do
  let expectedNonce ← decodeBase64Url 12 envelope.manifestObject.nonce
  rejectIf (Digest.of manifestStored ≠ envelope.manifestObject.cipherDigest)
    .objectDigestMismatch
  let size ← okOr (uint64OfNat manifestStored.length) uploadLimit
  rejectIf (size ≠ envelope.manifestObject.cipherSize ∨
    manifestStored.take 12 ≠ expectedNonce.toList) .objectDigestMismatch

omit [Primitives] in
/-- What the envelope says of every stored blob. -/
def storedBlobs (envelope : UploadEnvelope) : List (Digest × UInt64 × String) :=
  (envelope.manifestObject.cipherDigest, envelope.manifestObject.cipherSize,
    envelope.manifestObject.nonce) ::
    envelope.objects.map fun object => (object.cipherDigest, object.cipherSize, object.nonce)

/-- One stored blob is the one that the envelope names. -/
def validateStoredBlob (ciphertext : OrderedMap Digest Bytes) (digest : Digest) (size : UInt64)
    (nonce : String) : Result Unit := do
  let stored ← okOr ciphertext[digest]? .objectDigestMismatch
  rejectIf (Digest.of stored ≠ digest) .objectDigestMismatch
  let storedSize ← okOr (uint64OfNat stored.length) uploadLimit
  rejectIf (storedSize ≠ size) .objectDigestMismatch
  let expectedNonce ← decodeBase64Url 12 nonce
  rejectIf (stored.take 12 ≠ expectedNonce.toList) .objectDigestMismatch

/-- The stored blobs are exactly the ones that the envelope names. -/
def validateCiphertextClosure (envelope : UploadEnvelope)
    (ciphertext : OrderedMap Digest Bytes) : Result Unit := do
  envelope.validate
  let expected ← okOr (OrderedMap.insertAllNew (∅ : OrderedMap Digest (UInt64 × String))
    (storedBlobs envelope)) .schemaInvalid
  rejectIf (expected.size ≠ ciphertext.size) .objectDigestMismatch
  forEach expected.toList fun (digest, size, nonce) =>
    validateStoredBlob ciphertext digest size nonce

/-! ## The manifest and the envelope -/

omit [Primitives] in
def validateEnvelopeManifestBinding (envelope : UploadEnvelope)
    (manifest : CaptureBatchManifest) : Result Unit :=
  rejectIf (manifest.captureId ≠ envelope.captureId ∨
    manifest.organizationId ≠ envelope.organizationId ∨
    manifest.processingMode ≠ envelope.processingMode ∨
    manifest.projectId ≠ envelope.projectId ∨ manifest.serviceId ≠ envelope.serviceId ∨
    manifest.profile ≠ envelope.profile ∨ manifest.profileFormat ≠ envelope.profileFormat ∨
    manifest.proofDigests ≠ envelope.admission.proofDigests ∨
    manifest.replayCapsuleDigest ≠ envelope.replayCapsuleDigest ∨
    manifest.requiredCapabilities ≠ envelope.requiredCapabilities ∨
    manifest.sourceRevision ≠ envelope.sourceRevision) .schemaInvalid

omit [Primitives] in
/-- The uploads of the chunks of a manifest, in the order of an envelope. -/
def payloadUploads (manifest : CaptureBatchManifest) : List UploadObject :=
  ((manifest.objects.flatMap EncryptedObject.chunks).map fun chunk =>
    { cipherDigest := chunk.cipherDigest, cipherSize := chunk.cipherSize,
      nonce := chunk.nonce : UploadObject }).insertionSort (·.key ≤ ·.key)

omit [Primitives] in
def validatePayloadUploads (envelope : UploadEnvelope) (manifest : CaptureBatchManifest) :
    Result Unit :=
  rejectIf (payloadUploads manifest ≠ envelope.objects) .objectDigestMismatch

/-- Decrypt the manifest of a signed envelope. -/
def openManifest (envelope : UploadEnvelope) (verificationKey : SecretKey)
    (occurrenceKey : SecretKey) (manifestStored : Bytes) : Result CaptureBatchManifest := do
  envelope.validate
  verifySignedValue (Document.encode envelope) verificationKey
  validateManifestCiphertext envelope manifestStored
  let objectKey ← deriveObjectKey occurrenceKey envelope.captureId envelope.manifestObjectContext
  let chunkContext ← envelope.manifestChunkContext
  let chunkKey ← deriveChunkKey objectKey chunkContext
  let manifestBytes ← decryptChunk chunkKey manifestStored chunkContext
  let manifest ← Canonical.parseStrict CaptureBatchManifest manifestBytes
  validateManifestBinding manifest envelope.manifestObject envelope.replayCapsuleDigest
  validateEnvelopeManifestBinding envelope manifest
  validatePayloadUploads envelope manifest
  return manifest

/-! ## The objects -/

omit [Primitives] in
/-- The context of the key of an object, as the envelope tells it. -/
def openedObjectContext (envelope : UploadEnvelope) (descriptor : LogicalObject) :
    ObjectKeyContext where
  captureBatchFormat := captureBatchFormatName
  captureId := envelope.captureId
  format := .v1
  objectId := descriptor.objectId
  organizationId := envelope.organizationId
  processingMode := envelope.processingMode
  projectId := envelope.projectId
  role := descriptor.role
  serviceId := envelope.serviceId

/-- Decrypt one chunk of an object. -/
def decryptPiece (objectKey : SecretKey) (objectContextDigest : Digest) (chunkCount : UInt32)
    (ciphertext : OrderedMap Digest Bytes) (chunk : EncryptedChunk) : Result Bytes := do
  let stored ← okOr ciphertext[chunk.cipherDigest]? .objectDigestMismatch
  let plainSize ← plainSizeOf chunk.cipherSize
  let context : ChunkKeyContext :=
    { chunkCount, chunkIndex := chunk.index, format := .v1, objectContextDigest, plainSize }
  let chunkKey ← deriveChunkKey objectKey context
  decryptChunk chunkKey stored context

def decryptObject (envelope : UploadEnvelope) (occurrenceKey : SecretKey)
    (encrypted : EncryptedObject) (ciphertext : OrderedMap Digest Bytes) : Result Bytes := do
  let objectContext := openedObjectContext envelope encrypted.descriptor
  let objectKey ← deriveObjectKey occurrenceKey envelope.captureId objectContext
  let objectContextDigest ← Canonical.digest objectContext
  let chunkCount ← okOr (uint32OfNat encrypted.chunks.length) uploadLimit
  let plaintexts ← collect encrypted.chunks
    (decryptPiece objectKey objectContextDigest chunkCount ciphertext)
  let plaintext := plaintexts.flatten
  let size ← okOr (uint64OfNat plaintext.length) uploadLimit
  rejectIf (size ≠ encrypted.descriptor.plainSize ∨
    Digest.of plaintext ≠ encrypted.descriptor.plainDigest) .objectDigestMismatch
  return plaintext

/-- Decrypt the objects in order; no identifier may occur twice. -/
def decryptObjects (envelope : UploadEnvelope) (occurrenceKey : SecretKey)
    (ciphertext : OrderedMap Digest Bytes) :
    (objects : OrderedMap ObjectId Bytes) → List EncryptedObject →
      Result (OrderedMap ObjectId Bytes)
  | objects, [] => .ok objects
  | objects, encrypted :: rest => do
      let plaintext ← decryptObject envelope occurrenceKey encrypted ciphertext
      let objects ← okOr (objects.insertNew encrypted.descriptor.objectId plaintext)
        .schemaInvalid
      decryptObjects envelope occurrenceKey ciphertext objects rest

/-! ## Opening -/

def openCapture (envelope : UploadEnvelope) (verificationKey : SecretKey)
    (occurrenceKey : SecretKey) (ciphertext : OrderedMap Digest Bytes) :
    Result OpenedCapture := do
  validateCiphertextClosure envelope ciphertext
  -- the blob is there, since the blobs are those of the envelope
  let manifestStored ← okOr ciphertext[envelope.manifestObject.cipherDigest]?
    .objectDigestMismatch
  let manifest ← openManifest envelope verificationKey occurrenceKey manifestStored
  let objects ← decryptObjects envelope occurrenceKey ciphertext ∅ manifest.objects
  return { manifest, objects }

def openCaptureObject (envelope : UploadEnvelope) (occurrenceKey : SecretKey)
    (manifest : CaptureBatchManifest) (objectId : ObjectId)
    (ciphertext : OrderedMap Digest Bytes) : Result Bytes := do
  validateEnvelopeManifestBinding envelope manifest
  validatePayloadUploads envelope manifest
  let encrypted ← okOr (manifest.objects.find? fun object =>
    object.descriptor.objectId = objectId) .objectDigestMismatch
  let expected := encrypted.chunks.map EncryptedChunk.cipherDigest
  rejectIf (¬ expected.Nodup ∨ ciphertext.keys ≠ sortDedup expected) .objectDigestMismatch
  decryptObject envelope occurrenceKey encrypted ciphertext

end Reproit.Backend
