/-
# Sealing a capture

An admitted capture leaves the machine of the customer encrypted.  Its objects, its capsule
and its three proofs are cut into chunks, every chunk is encrypted under a nonce of its own,
and a manifest that lists the chunks is encrypted as one more chunk.  The signed envelope
names the stored chunks in the order of their digests.
-/

import Reproit.Backend.Admission
import Reproit.Core.Crypto
import Reproit.Data.Pieces

namespace Reproit.Backend

variable [Primitives]

def uploadLimit : Error :=
  .new .uploadLimitExceeded "The capture batch exceeds an upload limit."

def digestReuse : Error :=
  .new .nonceReuse "A ciphertext digest was reused in one capture batch."

/-! ## What is sealed -/

structure AdmissionSigner where
  signerKeyId : String
  sign : (canonicalUnsignedEnvelope : Bytes) → Result String

structure SealingIds where
  capsuleObjectId : ObjectId
  manifestObjectId : ObjectId
  proofObjectIds : Vector ObjectId 3

structure UploadMetadata where
  campaignContext : Option FuzzContext
  causalParentIds : List OperationId
  captureId : CaptureId
  discoverySource : Option DiscoverySource
  operationId : Option OperationId
  organizationId : OrganizationId
  projectId : ProjectId
  repositoryId : String
  serviceId : ServiceId
  servicePath : String
  signatureTime : Timestamp
  sourceRevision : String
  wrappedKey : WrappedKey

structure SealRequest where
  admitted : AdmittedCandidate
  groupingKey : SecretKey
  ids : SealingIds
  input : AdmissionInput
  metadata : UploadMetadata
  occurrenceKey : SecretKey
  signer : AdmissionSigner

structure SealedUpload where
  ciphertext : OrderedMap Digest Bytes
  envelope : UploadEnvelope
  manifest : CaptureBatchManifest

/-! ## Nonces -/

/-- What a source of nonces answers, call by call. -/
abbrev NonceSource := Nat → Result Nonce

/-- How many nonces were drawn, and the registry of them. -/
structure Nonces where
  drawn : Nat
  registry : NonceRegistry

def Nonces.start : Nonces := ⟨0, ⟨[]⟩⟩

/-- Draw a nonce and register it. -/
def Nonces.next (source : NonceSource) (nonces : Nonces) : Result (Nonce × Nonces) := do
  let nonce ← source nonces.drawn
  let registry ← nonces.registry.register nonce
  return (nonce, ⟨nonces.drawn + 1, registry⟩)

/-! ## Encrypting one object -/

structure EncryptedMaterial where
  object : EncryptedObject
  stored : List Bytes

namespace EncryptedMaterial

/-- The uploads of the chunks. -/
def uploads (material : EncryptedMaterial) : List UploadObject :=
  material.object.chunks.map fun chunk =>
    { cipherDigest := chunk.cipherDigest, cipherSize := chunk.cipherSize, nonce := chunk.nonce }

end EncryptedMaterial

/-- Encrypt one piece of an object under the next nonce. -/
def encryptPiece (objectKey : SecretKey) (objectContextDigest : Digest) (chunkCount : Nat)
    (source : NonceSource) (nonces : Nonces) (plaintext : Bytes) (chunkIndex : Nat) :
    Result ((EncryptedChunk × Bytes) × Nonces) := do
  let (nonce, nonces) ← nonces.next source
  let chunkCount ← okOr (uint32OfNat chunkCount) uploadLimit
  let chunkIndex ← okOr (uint32OfNat chunkIndex) uploadLimit
  let plainSize ← okOr (uint64OfNat plaintext.length) uploadLimit
  let context : ChunkKeyContext :=
    { chunkCount, chunkIndex, format := .v1, objectContextDigest, plainSize }
  let chunkKey ← deriveChunkKey objectKey context
  let stored ← encryptChunk chunkKey nonce plaintext context
  let cipherSize ← okOr (uint64OfNat stored.length) uploadLimit
  return (({
    cipherDigest := ciphertextDigest stored
    cipherSize
    index := chunkIndex
    nonce := encodeBase64Url nonce.toList }, stored), nonces)

def encryptPieces (objectKey : SecretKey) (objectContextDigest : Digest) (chunkCount : Nat)
    (source : NonceSource) :
    (nonces : Nonces) → List (Bytes × Nat) → Result (List (EncryptedChunk × Bytes) × Nonces)
  | nonces, [] => .ok ([], nonces)
  | nonces, (plaintext, chunkIndex) :: rest => do
      let (chunk, nonces) ← encryptPiece objectKey objectContextDigest chunkCount source nonces
        plaintext chunkIndex
      let (chunks, nonces) ← encryptPieces objectKey objectContextDigest chunkCount source nonces
        rest
      return (chunk :: chunks, nonces)

/-- The context of the key of an object. -/
def SealRequest.objectContext (request : SealRequest) (descriptor : LogicalObject) :
    ObjectKeyContext where
  captureBatchFormat := captureBatchFormatName
  captureId := request.metadata.captureId
  format := .v1
  objectId := descriptor.objectId
  organizationId := request.metadata.organizationId
  processingMode := request.input.capsule.processingMode
  projectId := request.metadata.projectId
  role := descriptor.role
  serviceId := request.metadata.serviceId

def encryptObject (request : SealRequest) (source : NonceSource) (nonces : Nonces)
    (descriptor : LogicalObject) (bytes : Bytes) : Result (EncryptedMaterial × Nonces) := do
  rejectIf (descriptor.plainDigest ≠ Digest.of bytes ∨
    descriptor.plainSize.toNat ≠ bytes.length) .objectDigestMismatch
  let objectContext := request.objectContext descriptor
  let objectKey ← deriveObjectKey request.occurrenceKey request.metadata.captureId objectContext
  let objectContextDigest ← Canonical.digest objectContext
  let chunkCount := pieceCount chunkBytes bytes.length
  rejectIf (chunkCount > 32767) uploadLimit
  let (chunks, nonces) ← encryptPieces objectKey objectContextDigest chunkCount source nonces
    (pieces chunkBytes bytes).zipIdx
  return ({
    object := { chunks := chunks.map Prod.fst, descriptor }
    stored := chunks.map Prod.snd }, nonces)

/-- Add the stored chunks; no digest may occur twice. -/
def appendCiphertext (encrypted : EncryptedMaterial) (ciphertext : OrderedMap Digest Bytes) :
    Result (OrderedMap Digest Bytes) :=
  okOr (ciphertext.insertAllNew
    ((encrypted.uploads.map UploadObject.cipherDigest).zip encrypted.stored)) digestReuse

/-! ## The objects of a capture -/

def addPlainObject (plaintext : OrderedMap ObjectId Bytes) (descriptors : List LogicalObject)
    (descriptor : LogicalObject) (bytes : Bytes) :
    Result (OrderedMap ObjectId Bytes × List LogicalObject) := do
  let plaintext ← okOr (plaintext.insertNew descriptor.objectId bytes) .schemaInvalid
  rejectIf (descriptor.objectId ∈ descriptors.map LogicalObject.objectId) .schemaInvalid
  return (plaintext, descriptors ++ [descriptor])

def addCapsule (request : SealRequest) (plaintext : OrderedMap ObjectId Bytes)
    (descriptors : List LogicalObject) :
    Result (OrderedMap ObjectId Bytes × List LogicalObject) := do
  let bytes ← Canonical.bytes request.input.capsule
  let plainSize ← okOr (uint64OfNat bytes.length) uploadLimit
  addPlainObject plaintext descriptors
    { mediaType := "application/reproit-replay-capsule+json"
      objectId := request.ids.capsuleObjectId
      plainDigest := request.admitted.capsuleDigest
      plainSize
      role := .replayCapsuleManifest } bytes

def addProof (plaintext : OrderedMap ObjectId Bytes) (descriptors : List LogicalObject)
    (proof : Proof) (objectId : ObjectId) :
    Result (OrderedMap ObjectId Bytes × List LogicalObject) := do
  let bytes ← Canonical.bytes proof
  let plainDigest ← Canonical.digest proof
  let plainSize ← okOr (uint64OfNat bytes.length) uploadLimit
  addPlainObject plaintext descriptors
    { mediaType := "application/reproit-proof+json"
      objectId
      plainDigest
      plainSize
      role := .admissionProof } bytes

def addProofs : (plaintext : OrderedMap ObjectId Bytes) → (descriptors : List LogicalObject) →
    List (Proof × ObjectId) → Result (OrderedMap ObjectId Bytes × List LogicalObject)
  | plaintext, descriptors, [] => .ok (plaintext, descriptors)
  | plaintext, descriptors, (proof, objectId) :: rest => do
      let (plaintext, descriptors) ← addProof plaintext descriptors proof objectId
      addProofs plaintext descriptors rest

structure CaptureMaterial where
  ciphertext : OrderedMap Digest Bytes
  encryptedObjects : List EncryptedObject
  uploadObjects : List UploadObject

def encryptObjects (request : SealRequest) (source : NonceSource)
    (plaintext : OrderedMap ObjectId Bytes) :
    (material : CaptureMaterial) → (nonces : Nonces) → List LogicalObject →
      Result (CaptureMaterial × Nonces)
  | material, nonces, [] => .ok (material, nonces)
  | material, nonces, descriptor :: rest => do
      let bytes ← okOr plaintext[descriptor.objectId]? objectClosureIncomplete
      let (encrypted, nonces) ← encryptObject request source nonces descriptor bytes
      let ciphertext ← appendCiphertext encrypted material.ciphertext
      encryptObjects request source plaintext
        { ciphertext
          encryptedObjects := material.encryptedObjects ++ [encrypted.object]
          uploadObjects := material.uploadObjects ++ encrypted.uploads } nonces rest

/-- The objects of the input, the capsule and the proofs. -/
def plainObjects (request : SealRequest) :
    Result (OrderedMap ObjectId Bytes × List LogicalObject) := do
  let (plaintext, descriptors) ← addCapsule request request.input.objects.objects
    request.input.capsule.objects
  addProofs plaintext descriptors
    (request.admitted.proofs.toList.zip request.ids.proofObjectIds.toList)

def encryptCaptureObjects (request : SealRequest) (source : NonceSource) (nonces : Nonces) :
    Result (CaptureMaterial × Nonces) := do
  let (plaintext, descriptors) ← plainObjects request
  let descriptors := descriptors.insertionSort (·.objectId ≤ ·.objectId)
  let (material, nonces) ← encryptObjects request source plaintext
    { ciphertext := ∅, encryptedObjects := [], uploadObjects := [] } nonces descriptors
  return ({ material with
    encryptedObjects := material.encryptedObjects.insertionSort
      (·.descriptor.objectId ≤ ·.descriptor.objectId) }, nonces)

/-! ## The manifest and the envelope -/

def buildManifest (request : SealRequest) (encryptedObjects : List EncryptedObject) :
    Result CaptureBatchManifest := do
  let proofDigests ← collect request.admitted.proofs.toList Canonical.digest
  let manifest : CaptureBatchManifest :=
    { captureId := request.metadata.captureId
      encryptionContextVersion := 1
      format := .v1
      objects := encryptedObjects
      organizationId := request.metadata.organizationId
      processingMode := request.input.capsule.processingMode
      profile := "backend"
      profileFormat := 1
      projectId := request.metadata.projectId
      proofDigests
      replayCapsuleDigest := request.admitted.capsuleDigest
      replayCapsuleObjectId := request.ids.capsuleObjectId
      repositoryId := request.metadata.repositoryId
      requiredCapabilities := request.input.capsule.requiredCapabilities
      serviceId := request.metadata.serviceId
      servicePath := request.metadata.servicePath
      sourceRevision := request.metadata.sourceRevision }
  validateCaptureManifest manifest request.admitted.capsuleDigest request.admitted.proofs.toList
  return manifest

/-- Encrypt the manifest, which must fit into one chunk. -/
def encryptManifest (request : SealRequest) (source : NonceSource) (nonces : Nonces)
    (manifestBytes : Bytes) : Result (EncryptedMaterial × Nonces) := do
  let plainSize ← okOr (uint64OfNat manifestBytes.length) uploadLimit
  let descriptor : LogicalObject :=
    { mediaType := "application/reproit-capture-batch+json"
      objectId := request.ids.manifestObjectId
      plainDigest := Digest.of manifestBytes
      plainSize
      role := .captureBatchManifest }
  let (encrypted, nonces) ← encryptObject request source nonces descriptor manifestBytes
  rejectIf (encrypted.uploads.length ≠ 1) uploadLimit
  return (encrypted, nonces)

/-- The envelope before it is signed. -/
def SealRequest.envelope (request : SealRequest) (manifest : CaptureBatchManifest)
    (manifestObject : ManifestUploadObject) (uploadObjects : List UploadObject)
    (captureBatchDigest : Digest) (failureFingerprint : String) : UploadEnvelope where
  admission :=
    { proofDigests := manifest.proofDigests
      runCount := 3
      signerKeyId := request.signer.signerKeyId }
  campaignContext := request.metadata.campaignContext
  causalParentIds := request.metadata.causalParentIds
  captureBatchDigest := captureBatchDigest
  captureId := request.metadata.captureId
  cipherSuite := cipherSuite
  discoverySource := request.metadata.discoverySource
  failureFingerprint := failureFingerprint
  failureSummary := (request.input.expectedFailure.safeSummaries manifest.processingMode).1
  format := .v1
  manifestObject := manifestObject
  objects := uploadObjects
  operationId := request.metadata.operationId
  organizationId := request.metadata.organizationId
  processingMode := manifest.processingMode
  profile := "backend"
  profileFormat := 1
  projectId := request.metadata.projectId
  replayCapsuleDigest := manifest.replayCapsuleDigest
  requiredCapabilities := request.input.capsule.requiredCapabilities
  serviceId := request.metadata.serviceId
  signature := ""
  signedAt := request.metadata.signatureTime
  sourceRevision := request.metadata.sourceRevision
  triggerSummary := (request.input.expectedFailure.safeSummaries manifest.processingMode).2
  wrappedKey := request.metadata.wrappedKey

def buildEnvelope (request : SealRequest) (manifest : CaptureBatchManifest)
    (manifestObject : ManifestUploadObject) (uploadObjects : List UploadObject) :
    Result UploadEnvelope := do
  validateManifestBinding manifest manifestObject manifest.replayCapsuleDigest
  let captureIdentity : CaptureBatchIdentity :=
    { captureId := request.metadata.captureId
      cipherSuite := cipherSuite
      format := .v1
      manifestObject
      objects := uploadObjects
      processingMode := manifest.processingMode }
  captureIdentity.validate
  let grouping ← request.input.expectedFailure.grouping
  let captureBatchDigest ← Canonical.digest captureIdentity
  let failureFingerprint ← failureFingerprint request.groupingKey grouping
  let envelope := request.envelope manifest manifestObject uploadObjects captureBatchDigest
    failureFingerprint
  let unsigned ← Canonical.bytes envelope
  let signature ← request.signer.sign unsigned
  let envelope := { envelope with signature }
  envelope.validate
  return envelope

/-! ## Sealing -/

def SealingIds.all (ids : SealingIds) : List ObjectId :=
  ids.capsuleObjectId :: ids.manifestObjectId :: ids.proofObjectIds.toList

/-- The identifiers are new and different, and those of the proofs are in run order. -/
def validateSealingIds (request : SealRequest) : Result Unit :=
  rejectIf (¬ request.ids.all.Nodup ∨ ¬ request.ids.proofObjectIds.toList.IsChain (· < ·) ∨
    ∃ id ∈ request.ids.all, id ∈ request.input.objects.objects) .schemaInvalid

def sealUpload (request : SealRequest) (source : NonceSource) : Result SealedUpload := do
  validateSealingIds request
  let (material, nonces) ← encryptCaptureObjects request source .start
  let manifest ← buildManifest request material.encryptedObjects
  let manifestBytes ← Canonical.bytes manifest
  let (encryptedManifest, _) ← encryptManifest request source nonces manifestBytes
  let ciphertext ← appendCiphertext encryptedManifest material.ciphertext
  let uploadObjects := material.uploadObjects.insertionSort (·.key ≤ ·.key)
  let manifestUpload ← okOr encryptedManifest.uploads.head? uploadLimit
  let manifestObject : ManifestUploadObject :=
    { cipherDigest := manifestUpload.cipherDigest
      cipherSize := manifestUpload.cipherSize
      nonce := manifestUpload.nonce
      objectId := request.ids.manifestObjectId }
  let envelope ← buildEnvelope request manifest manifestObject uploadObjects
  return { ciphertext, envelope, manifest }

end Reproit.Backend
