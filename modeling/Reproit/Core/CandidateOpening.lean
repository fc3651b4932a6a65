/-
# Opening a managed candidate

The service opens a candidate with its key.  The stored blobs must be exactly the ones that the
ciphertext identity names; the manifest is decrypted first and must be of that identity, and the
objects are then decrypted chunk by chunk and handed to a consumer, while their bytes are counted
and hashed.
-/

import Reproit.Core.CandidateCiphertext
import Reproit.Data.Consumer

namespace Reproit

variable [Primitives]

/-- One call of the consumer: a chunk of an object. -/
structure ChunkCall where
  descriptor : LogicalObject
  index : UInt32
  plaintext : Bytes

/-- What the consumer answers to a chunk after the earlier ones. -/
abbrev ChunkConsumer := Consumer Error ChunkCall

namespace ManagedCandidateCiphertextIdentity

/-! ## Stored blobs -/

omit [Primitives] in
/-- What the identity says of every stored blob. -/
def storedBlobs (identity : ManagedCandidateCiphertextIdentity) :
    List (Digest × UInt64 × String) :=
  (identity.manifestObject.cipherDigest, identity.manifestObject.cipherSize,
    identity.manifestObject.nonce) ::
    identity.allChunks.map fun chunk => (chunk.cipherDigest, chunk.cipherSize, chunk.nonce)

end ManagedCandidateCiphertextIdentity

/-- One stored blob is the one that the identity names. -/
def validateManagedBlob (ciphertext : OrderedMap Digest Bytes) (digest : Digest) (size : UInt64)
    (nonce : String) : Result Unit := do
  let stored ← okOr ciphertext[digest]? .objectDigestMismatch
  rejectIf (Digest.of stored ≠ digest) .objectDigestMismatch
  let storedSize ← okOr (uint64OfNat stored.length) .schemaInvalid
  rejectIf (storedSize ≠ size) .objectDigestMismatch
  let expectedNonce ← decodeBase64Url 12 nonce
  rejectIf (stored.take 12 ≠ expectedNonce.toList) .objectDigestMismatch

/-- The stored blobs are exactly the ones that the identity names. -/
def validateManagedCiphertext (identity : ManagedCandidateCiphertextIdentity)
    (ciphertext : OrderedMap Digest Bytes) : Result Unit := do
  let expected ← okOr (OrderedMap.insertAllNew (∅ : OrderedMap Digest (UInt64 × String))
    identity.storedBlobs) .schemaInvalid
  rejectIf (expected.size ≠ ciphertext.size) .objectDigestMismatch
  forEach expected.toList fun (digest, size, nonce) =>
    validateManagedBlob ciphertext digest size nonce

/-! ## The manifest -/

/-- The manifest is valid and is of the identity. -/
def validateManagedManifestBinding (manifest : ManagedCandidateManifest)
    (identity : ManagedCandidateCiphertextIdentity) : Result Unit := do
  manifest.validate
  rejectIf (manifest.candidateIdentityDigest ≠ identity.candidateIdentityDigest ∨
    manifest.candidateKeyReference ≠ identity.candidateKeyReference ∨
    manifest.cipherSuite ≠ identity.cipherSuite ∨
    manifest.candidateIdentity.captureId ≠ identity.captureId ∨
    manifest.candidateIdentity.organizationId ≠ identity.organizationId ∨
    manifest.candidateIdentity.processingMode ≠ identity.processingMode ∨
    manifest.candidateIdentity.projectId ≠ identity.projectId ∨
    manifest.candidateIdentity.requiredCapabilities ≠ identity.requiredCapabilities ∨
    manifest.candidateIdentity.serviceId ≠ identity.serviceId ∨
    manifest.candidateIdentity.objects ≠ identity.descriptors) .objectDigestMismatch

omit [Primitives] in
/-- The context of the key of an object. -/
def managedObjectContext (identity : ManagedCandidateCiphertextIdentity) (objectId : ObjectId)
    (role : LogicalObjectRole) : ObjectKeyContext where
  captureBatchFormat := captureBatchFormatName
  captureId := identity.captureId
  format := .v1
  objectId := objectId
  organizationId := identity.organizationId
  processingMode := .managed
  projectId := identity.projectId
  role := role
  serviceId := identity.serviceId

/-- Decrypt the manifest. -/
def openManagedManifest (candidateKey : SecretKey) (identity : ManagedCandidateCiphertextIdentity)
    (ciphertext : OrderedMap Digest Bytes) : Result ManagedCandidateManifest := do
  let manifestContext := managedObjectContext identity identity.manifestObject.objectId
    .captureBatchManifest
  let plainSize ← plainSizeOf identity.manifestObject.cipherSize
  let objectContextDigest ← Canonical.digest manifestContext
  let chunkContext : ChunkKeyContext :=
    { chunkCount := 1, chunkIndex := 0, format := .v1, objectContextDigest, plainSize }
  let objectKey ← deriveObjectKey candidateKey identity.captureId manifestContext
  let chunkKey ← deriveChunkKey objectKey chunkContext
  let stored ← okOr ciphertext[identity.manifestObject.cipherDigest]? .objectDigestMismatch
  let bytes ← decryptChunk chunkKey stored chunkContext
  let manifest ← Canonical.parseStrict ManagedCandidateManifest bytes
  validateManagedManifestBinding manifest identity
  return manifest

/-! ## The objects -/

/-- Decrypt one chunk of an object. -/
def openManagedChunk (objectKey : SecretKey) (objectContextDigest : Digest) (chunkCount : UInt32)
    (ciphertext : OrderedMap Digest Bytes) (chunk : EncryptedChunk) : Result Bytes := do
  let plainSize ← plainSizeOf chunk.cipherSize
  let chunkContext : ChunkKeyContext :=
    { chunkCount, chunkIndex := chunk.index, format := .v1, objectContextDigest, plainSize }
  let chunkKey ← deriveChunkKey objectKey chunkContext
  let stored ← okOr ciphertext[chunk.cipherDigest]? .objectDigestMismatch
  decryptChunk chunkKey stored chunkContext

/-- Hand the chunks to the consumer.  The bytes so far are counted, and are what the hasher was
fed with. -/
def openManagedChunks (consumer : ChunkConsumer) (openChunk : EncryptedChunk → Result Bytes)
    (descriptor : LogicalObject) : (totalPlaintextBytes : UInt64) → (hashed : Bytes) →
      List EncryptedChunk → Update Error (List ChunkCall) (UInt64 × Bytes)
  | totalPlaintextBytes, hashed, [] => pure (totalPlaintextBytes, hashed)
  | totalPlaintextBytes, hashed, chunk :: rest => do
      let plaintext ← Update.attempt (openChunk chunk)
      let size ← Update.attempt (okOr (uint64OfNat plaintext.length) .schemaInvalid)
      let totalPlaintextBytes ← Update.attempt (okOr (checkedAdd totalPlaintextBytes size)
        .schemaInvalid)
      Update.attempt (rejectIf (descriptor.plainSize.toNat < totalPlaintextBytes.toNat)
        .objectDigestMismatch)
      Update.consume consumer { descriptor, index := chunk.index, plaintext }
      openManagedChunks consumer openChunk descriptor totalPlaintextBytes (hashed ++ plaintext) rest

def openManagedObject (consumer : ChunkConsumer) (candidateKey : SecretKey)
    (identity : ManagedCandidateCiphertextIdentity) (ciphertext : OrderedMap Digest Bytes)
    (encrypted : EncryptedObject) : Update Error (List ChunkCall) Unit := do
  let objectContext := managedObjectContext identity encrypted.descriptor.objectId
    encrypted.descriptor.role
  let objectKey ← Update.attempt (deriveObjectKey candidateKey identity.captureId objectContext)
  let objectContextDigest ← Update.attempt (Canonical.digest objectContext)
  let chunkCount ← Update.attempt (okOr (uint32OfNat encrypted.chunks.length) .schemaInvalid)
  let (totalPlaintextBytes, hashed) ← openManagedChunks consumer
    (openManagedChunk objectKey objectContextDigest chunkCount ciphertext) encrypted.descriptor 0 []
    encrypted.chunks
  Update.attempt (rejectIf (totalPlaintextBytes ≠ encrypted.descriptor.plainSize ∨
    Digest.of hashed ≠ encrypted.descriptor.plainDigest) .objectDigestMismatch)

def openManagedObjects (consumer : ChunkConsumer) (candidateKey : SecretKey)
    (identity : ManagedCandidateCiphertextIdentity) (ciphertext : OrderedMap Digest Bytes) :
    List EncryptedObject → Update Error (List ChunkCall) Unit
  | [] => pure ()
  | encrypted :: rest => do
      openManagedObject consumer candidateKey identity ciphertext encrypted
      openManagedObjects consumer candidateKey identity ciphertext rest

/-- Open a candidate; the state lists the calls of the consumer. -/
def openManagedCandidate (consumer : ChunkConsumer) (candidateKey : SecretKey)
    (identity : ManagedCandidateCiphertextIdentity) (ciphertext : OrderedMap Digest Bytes) :
    Update Error (List ChunkCall) ManagedCandidateManifest := do
  Update.attempt identity.validate
  Update.attempt (validateManagedCiphertext identity ciphertext)
  let manifest ← Update.attempt (openManagedManifest candidateKey identity ciphertext)
  openManagedObjects consumer candidateKey identity ciphertext identity.objects
  return manifest

/-! ## A consumer is heeded -/

section Heeds

variable {consumer : ChunkConsumer}

omit [Primitives] in
theorem heeds_openManagedChunks (openChunk : EncryptedChunk → Result Bytes)
    (descriptor : LogicalObject) (total : UInt64) (hashed : Bytes) (chunks : List EncryptedChunk) :
    Update.Heeds consumer (openManagedChunks consumer openChunk descriptor total hashed chunks) := by
  induction chunks generalizing total hashed with
  | nil => exact Update.heeds_pure _
  | cons chunk rest ih =>
      apply (Update.heeds_attempt _).bind
      intro plaintext
      apply (Update.heeds_attempt _).bind
      intro size
      apply (Update.heeds_attempt _).bind
      intro sum
      apply (Update.heeds_attempt _).bind
      intro _
      apply (Update.heeds_consume _).bind
      intro _
      exact ih sum (hashed ++ plaintext)

theorem heeds_openManagedObject (candidateKey : SecretKey)
    (identity : ManagedCandidateCiphertextIdentity) (ciphertext : OrderedMap Digest Bytes)
    (encrypted : EncryptedObject) :
    Update.Heeds consumer (openManagedObject consumer candidateKey identity ciphertext encrypted) := by
  apply (Update.heeds_attempt _).bind
  intro objectKey
  apply (Update.heeds_attempt _).bind
  intro objectContextDigest
  apply (Update.heeds_attempt _).bind
  intro chunkCount
  apply (heeds_openManagedChunks _ _ _ _ _).bind
  intro result
  exact Update.heeds_attempt _

theorem heeds_openManagedObjects (candidateKey : SecretKey)
    (identity : ManagedCandidateCiphertextIdentity) (ciphertext : OrderedMap Digest Bytes)
    (objects : List EncryptedObject) :
    Update.Heeds consumer (openManagedObjects consumer candidateKey identity ciphertext objects) := by
  induction objects with
  | nil => exact Update.heeds_pure _
  | cons encrypted rest ih =>
      apply (heeds_openManagedObject _ _ _ _).bind
      intro _
      exact ih

/-- The consumer is heeded while a candidate is opened. -/
theorem heeds_openManagedCandidate (candidateKey : SecretKey)
    (identity : ManagedCandidateCiphertextIdentity) (ciphertext : OrderedMap Digest Bytes) :
    Update.Heeds consumer (openManagedCandidate consumer candidateKey identity ciphertext) := by
  apply (Update.heeds_attempt _).bind
  intro _
  apply (Update.heeds_attempt _).bind
  intro _
  apply (Update.heeds_attempt _).bind
  intro manifest
  apply (heeds_openManagedObjects _ _ _ _).bind
  intro _
  exact Update.heeds_pure _

end Heeds

end Reproit
