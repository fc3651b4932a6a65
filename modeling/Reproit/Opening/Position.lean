/-
# Every chunk is bound to its position

A chunk is encrypted with its context as associated data, and the context names the digest of
the context of its object.  With ideal encryption it is decrypted at no other position, so an
object whose blobs are those of a sealed object has all of them, in their order.
-/

import Reproit.Opening.RoundTrip

namespace Reproit

/-- The chunks of a list of chunks are found at their indexes. -/
theorem ValidChunks.index_eq {chunks : List EncryptedChunk} (valid : ValidChunks chunks)
    {place : Nat} {chunk : EncryptedChunk} (found : chunks[place]? = some chunk) :
    chunk.index.toNat = place := by
  have inside : place < chunks.length := (List.getElem?_eq_some_iff.mp found).1
  have listed := congrArg (fun indexes : List Nat => indexes[place]?) valid.indexes
  simp only [List.getElem?_map, found, List.getElem?_range inside, Option.map_some] at listed
  exact Option.some.inj listed

namespace Backend

variable [Primitives]

/-- Ideal encryption: a chunk of the material is decrypted only with the key and the associated
data of its encryption. -/
def IdealAead (material : EncryptedMaterial) : Prop :=
  ∀ (key : SecretKey) (nonce : Nonce) (message aad encrypted : Bytes),
    Primitives.aesGcmEncrypt key nonce message aad = some encrypted →
      nonce.toList ++ encrypted ∈ material.stored →
        ∀ (other : SecretKey) (associated opened : Bytes),
          Primitives.aesGcmDecrypt other nonce encrypted associated = some opened →
            other = key ∧ associated = aad

/-- The digest tells the two contexts apart. -/
def ContextsApart (first second : ObjectKeyContext) : Prop :=
  Digest.of (Canonical.text first) = Digest.of (Canonical.text second) →
    Canonical.text first = Canonical.text second

omit [Primitives] in
/-- The position is the one at which the piece of the object was sealed: the capture, the
organization, the project, the service, the mode, the object, its role, the index, the number of
chunks and the size of the piece are equal. -/
structure SealedAt (request : SealRequest) (descriptor : LogicalObject) (bytes : Bytes)
    (position : Nat) (objectContext : ObjectKeyContext) (chunkCount chunkIndex plainSize : Nat) :
    Prop where
  captureId : objectContext.captureId = request.metadata.captureId
  organizationId : objectContext.organizationId = request.metadata.organizationId
  projectId : objectContext.projectId = request.metadata.projectId
  serviceId : objectContext.serviceId = request.metadata.serviceId
  processingMode : objectContext.processingMode = request.input.capsule.processingMode
  objectId : objectContext.objectId = descriptor.objectId
  role : objectContext.role = descriptor.role
  index : chunkIndex = position
  count : chunkCount = pieceCount chunkBytes bytes.length
  size : (pieces chunkBytes bytes)[position]?.map List.length = some plainSize

/-- The chunk of the object is decrypted, with the key and the context of its position. -/
def DecryptsChunk (envelope : UploadEnvelope) (occurrenceKey : SecretKey)
    (encrypted : EncryptedObject) (ciphertext : OrderedMap Digest Bytes) (chunk : EncryptedChunk) :
    Prop :=
  ∃ objectKey objectContextDigest chunkCount plaintext,
    deriveObjectKey occurrenceKey envelope.captureId
      (openedObjectContext envelope encrypted.descriptor) = .ok objectKey ∧
    Canonical.digest (openedObjectContext envelope encrypted.descriptor) =
      .ok objectContextDigest ∧
    uint32OfNat encrypted.chunks.length = some chunkCount ∧
    decryptPiece objectKey objectContextDigest chunkCount ciphertext chunk = .ok plaintext

/-! ## One stored chunk -/

/-- A sealed piece is decrypted only in its own context. -/
theorem SealsPiece.context_eq {material : EncryptedMaterial} (ideal : IdealAead material)
    {objectKey : SecretKey} {objectContextDigest : Digest} {chunkCount : Nat}
    {piece : Bytes × Nat} {entry : EncryptedChunk × Bytes}
    (one : SealsPiece objectKey objectContextDigest chunkCount piece entry)
    (listed : entry.2 ∈ material.stored) {chunkKey : SecretKey} {context : ChunkKeyContext}
    {plaintext : Bytes} (decrypted : decryptChunk chunkKey entry.2 context = .ok plaintext) :
    IsChunkContext context objectContextDigest chunkCount piece.2 piece.1.length := by
  obtain ⟨nonce, sealing, sealingKey, -, numbers, -, encrypted⟩ := one.encrypted
  obtain ⟨-, -, -, aad, ciphertext, written, wrote, same⟩ := encryptChunk_eq_ok.mp encrypted
  obtain ⟨-, -, -, used, associated, front, rewritten, opened⟩ := decryptChunk_eq_ok.mp decrypted
  rw [same] at listed front opened
  rw [storedNonce_append] at front
  obtain rfl := Option.some.inj front
  rw [List.drop_left' Vector.length_toList] at opened
  obtain ⟨-, rfl⟩ := ideal _ _ _ _ _ wrote listed _ _ _ opened
  exact Canonical.bytes_injective rewritten written ▸ numbers

namespace SealsObject

variable {request : SealRequest} {descriptor : LogicalObject} {bytes : Bytes}
  {material : EncryptedMaterial}

/-- What was stored at a position is the piece at that position. -/
theorem exists_piece (seals : SealsObject request descriptor bytes material) {position : Nat}
    {stored : Bytes} (found : material.stored[position]? = some stored) :
    ∃ objectKey objectContextDigest piece chunk,
      Canonical.digest (request.objectContext descriptor) = .ok objectContextDigest ∧
      (pieces chunkBytes bytes)[position]? = some piece ∧
      SealsPiece objectKey objectContextDigest (pieceCount chunkBytes bytes.length)
        (piece, position) (chunk, stored) := by
  obtain ⟨objectKey, objectContextDigest, -, written, all⟩ := seals.chunks
  obtain ⟨inside, rfl⟩ := List.getElem?_eq_some_iff.mp found
  have within : position < (material.object.chunks.zip material.stored).length := by
    rwa [List.length_zip, seals.length, min_self]
  have counted := all.length_eq
  have before : position < (pieces chunkBytes bytes).length := by
    rw [← List.length_zipIdx, counted]
    exact within
  have one := all.get (by rwa [List.length_zipIdx]) within
  rw [List.get_eq_getElem, List.get_eq_getElem, List.getElem_zipIdx, List.getElem_zip,
    Nat.zero_add] at one
  exact ⟨objectKey, objectContextDigest, _, _, written, List.getElem?_eq_getElem before, one⟩

/-- A stored chunk of the object is decrypted only at its position. -/
theorem sealedAt (seals : SealsObject request descriptor bytes material)
    (ideal : IdealAead material) {position : Nat} {stored : Bytes}
    (found : material.stored[position]? = some stored) {objectContext : ObjectKeyContext}
    (apart : ContextsApart (request.objectContext descriptor) objectContext)
    {context : ChunkKeyContext}
    (digest : Canonical.digest objectContext = .ok context.objectContextDigest)
    {chunkKey : SecretKey} {plaintext : Bytes}
    (decrypted : decryptChunk chunkKey stored context = .ok plaintext) :
    SealedAt request descriptor bytes position objectContext context.chunkCount.toNat
      context.chunkIndex.toNat context.plainSize.toNat := by
  obtain ⟨objectKey, objectContextDigest, piece, chunk, written, here, one⟩ :=
    seals.exists_piece found
  have numbers := one.context_eq ideal (List.mem_of_getElem? found) decrypted
  rw [numbers.digest] at digest
  have same : request.objectContext descriptor = objectContext := by
    apply Canonical.digest_injective written digest
    intro first second firstWritten secondWritten equal
    obtain ⟨-, rfl⟩ := Canonical.bytes_eq_ok.mp firstWritten
    obtain ⟨-, rfl⟩ := Canonical.bytes_eq_ok.mp secondWritten
    exact apart equal
  subst same
  constructor
  case captureId => rfl
  case organizationId => rfl
  case projectId => rfl
  case serviceId => rfl
  case processingMode => rfl
  case objectId => rfl
  case role => rfl
  case index => exact numbers.index
  case count => exact numbers.count
  case size => rw [here, numbers.size, Option.map_some]

/-- It is decrypted as a chunk of an object only at its position. -/
theorem sealedAt_of_decryptsChunk (seals : SealsObject request descriptor bytes material)
    (ideal : IdealAead material) {position : Nat} {stored : Bytes}
    (found : material.stored[position]? = some stored) {envelope : UploadEnvelope}
    {occurrenceKey : SecretKey} {encrypted : EncryptedObject}
    {ciphertext : OrderedMap Digest Bytes} {chunk : EncryptedChunk}
    (held : ciphertext[chunk.cipherDigest]? = some stored)
    (apart : ContextsApart (request.objectContext descriptor)
      (openedObjectContext envelope encrypted.descriptor))
    (decrypts : DecryptsChunk envelope occurrenceKey encrypted ciphertext chunk) :
    ∃ plainSize, plainSizeOf chunk.cipherSize = .ok plainSize ∧
      SealedAt request descriptor bytes position
        (openedObjectContext envelope encrypted.descriptor) encrypted.chunks.length
        chunk.index.toNat plainSize.toNat := by
  obtain ⟨objectKey, objectContextDigest, chunkCount, plaintext, -, digest, counted, piece⟩ :=
    decrypts
  simp only [decryptPiece, bind_eq_ok, okOr_eq_ok, held, Option.some.injEq] at piece
  obtain ⟨_, rfl, plainSize, sized, chunkKey, -, decrypted⟩ := piece
  refine ⟨plainSize, sized, ?_⟩
  rw [← uint32OfNat_eq_some.mp counted]
  exact seals.sealedAt ideal found apart digest decrypted

end SealsObject

/-! ## An opened capture -/

/-- Every chunk of a decrypted object is decrypted. -/
theorem decryptsChunk_of_decryptObject {envelope : UploadEnvelope} {occurrenceKey : SecretKey}
    {encrypted : EncryptedObject} {ciphertext : OrderedMap Digest Bytes} {bytes : Bytes}
    (decrypted : decryptObject envelope occurrenceKey encrypted ciphertext = .ok bytes)
    {chunk : EncryptedChunk} (listed : chunk ∈ encrypted.chunks) :
    DecryptsChunk envelope occurrenceKey encrypted ciphertext chunk := by
  obtain ⟨⟨objectKey, objectContextDigest, chunkCount, plaintexts, derived, written, counted, each,
    -⟩, -, -⟩ := decryptObject_eq_ok.mp decrypted
  obtain ⟨plaintext, -, one⟩ := exists_result each listed
  exact ⟨objectKey, objectContextDigest, chunkCount, plaintext, derived, written,
    uint32OfNat_eq_some.mpr counted, one⟩

/-- The object holds stored chunks of the sealed object only where these were sealed, and if it
holds no others it holds all of them in their order. -/
structure KeepsPositions (request : SealRequest) (descriptor : LogicalObject) (bytes : Bytes)
    (material : EncryptedMaterial) (envelope : UploadEnvelope) (encrypted : EncryptedObject)
    (ciphertext : OrderedMap Digest Bytes) : Prop where
  each : ∀ (place position : Nat) (chunk : EncryptedChunk) (stored : Bytes),
    encrypted.chunks[place]? = some chunk → ciphertext[chunk.cipherDigest]? = some stored →
      material.stored[position]? = some stored → place = position ∧
        ∃ plainSize, plainSizeOf chunk.cipherSize = .ok plainSize ∧
          SealedAt request descriptor bytes position
            (openedObjectContext envelope encrypted.descriptor) encrypted.chunks.length place
            plainSize.toNat
  all : (∀ chunk ∈ encrypted.chunks, ∃ stored ∈ material.stored,
      ciphertext[chunk.cipherDigest]? = some stored) →
    encrypted.chunks.map (fun chunk => ciphertext[chunk.cipherDigest]?) =
      material.stored.map some

theorem SealsObject.keepsPositions {request : SealRequest} {descriptor : LogicalObject}
    {bytes : Bytes} {material : EncryptedMaterial}
    (seals : SealsObject request descriptor bytes material) (ideal : IdealAead material)
    {envelope : UploadEnvelope} {occurrenceKey : SecretKey} {encrypted : EncryptedObject}
    {ciphertext : OrderedMap Digest Bytes} {opened : Bytes} (valid : ValidChunks encrypted.chunks)
    (apart : ContextsApart (request.objectContext descriptor)
      (openedObjectContext envelope encrypted.descriptor))
    (decrypted : Backend.decryptObject envelope occurrenceKey encrypted ciphertext = .ok opened) :
    KeepsPositions request descriptor bytes material envelope encrypted ciphertext := by
  have each : ∀ (place position : Nat) (chunk : EncryptedChunk) (stored : Bytes),
      encrypted.chunks[place]? = some chunk → ciphertext[chunk.cipherDigest]? = some stored →
        material.stored[position]? = some stored → place = position ∧
          ∃ plainSize, plainSizeOf chunk.cipherSize = .ok plainSize ∧
            SealedAt request descriptor bytes position
              (openedObjectContext envelope encrypted.descriptor) encrypted.chunks.length place
              plainSize.toNat := by
    intro place position chunk stored here held found
    have decrypts := decryptsChunk_of_decryptObject decrypted (List.mem_of_getElem? here)
    obtain ⟨plainSize, sized, at'⟩ := seals.sealedAt_of_decryptsChunk ideal found held apart decrypts
    rw [valid.index_eq here] at at'
    exact ⟨at'.index, plainSize, sized, at'⟩
  refine ⟨each, fun among => ?_⟩
  have counts : encrypted.chunks.length = material.stored.length := by
    obtain ⟨first, listed⟩ := List.exists_mem_of_ne_nil _ valid.nonempty
    obtain ⟨place, here⟩ := List.mem_iff_getElem?.mp listed
    obtain ⟨stored, inside, held⟩ := among first listed
    obtain ⟨position, found⟩ := List.mem_iff_getElem?.mp inside
    obtain ⟨-, _, -, at'⟩ := each place position first stored here held found
    rw [at'.count, ← seals.length_chunks, seals.length]
  apply List.ext_getElem?
  intro place
  rw [List.getElem?_map, List.getElem?_map]
  cases here : encrypted.chunks[place]? with
  | none =>
      have beyond := List.getElem?_eq_none_iff.mp here
      rw [List.getElem?_eq_none_iff.mpr (counts ▸ beyond)]
      rfl
  | some chunk =>
      obtain ⟨stored, inside, held⟩ := among chunk (List.mem_of_getElem? here)
      obtain ⟨position, found⟩ := List.mem_iff_getElem?.mp inside
      obtain ⟨rfl, -⟩ := each place position chunk stored here held found
      rw [found, Option.map_some, Option.map_some, held]

/-- The manifest is no stored chunk of the sealed object but where this was sealed. -/
theorem SealsObject.sealedAt_of_openManifest {request : SealRequest} {descriptor : LogicalObject}
    {bytes : Bytes} {material : EncryptedMaterial}
    (seals : SealsObject request descriptor bytes material) (ideal : IdealAead material)
    {envelope : UploadEnvelope} {verificationKey occurrenceKey : SecretKey} {stored : Bytes}
    {manifest : CaptureBatchManifest}
    (opened : openManifest envelope verificationKey occurrenceKey stored = .ok manifest)
    (apart : ContextsApart (request.objectContext descriptor) envelope.manifestObjectContext)
    {position : Nat} (found : material.stored[position]? = some stored) :
    ∃ plainSize, plainSizeOf envelope.manifestObject.cipherSize = .ok plainSize ∧
      SealedAt request descriptor bytes position envelope.manifestObjectContext 1 0
        plainSize.toNat := by
  simp only [openManifest, UploadEnvelope.manifestChunkContext, bind_eq_ok, pure_eq_ok] at opened
  obtain ⟨_, -, _, -, _, -, _, -, _, ⟨digest, written, plainSize, sized, rfl⟩, _, -, plaintext,
    decrypted, -⟩ := opened
  exact ⟨plainSize, sized, seals.sealedAt ideal found apart written decrypted⟩

end Backend

/-! ## An object without bytes -/

namespace Backend.Sample

/-- The digest of the small captures. -/
def markedDigest : Bytes → Digest := @Primitives.sha256 marked

theorem nonce_eq_of_markedDigest {first second : Nonce} {message other : Bytes}
    (same : markedDigest (first.toList ++ message) = markedDigest (second.toList ++ other)) :
    first = second :=
  nonce_eq_of_digest same

/-- The request of the small capture. -/
def emptyRequest : SealRequest :=
  letI := marked
  sealRequest []

def emptyState : LogicalObject where
  mediaType := "application/octet-stream"
  objectId := id 0
  plainDigest := markedDigest []
  plainSize := 0
  role := .worldState

/-- The context of its one chunk. -/
def boundContext : ChunkKeyContext where
  chunkCount := 1
  chunkIndex := 0
  format := .v1
  objectContextDigest := markedDigest (Canonical.text (emptyRequest.objectContext emptyState))
  plainSize := 0

def boundText : Bytes := Canonical.text boundContext

/-- A tag tells whether the key and the context are those of the object. -/
def boundTag (key : SecretKey) (aad : Bytes) : Bytes :=
  List.replicate 16 (if key = Vector.replicate 32 0 ∧ aad = boundText then 0 else 1)

/-- The functions of the small captures, with the tags of this section. -/
@[reducible] def bound : Primitives :=
  { marked with
    sha256 := markedDigest
    hkdfExpand := fun _ _ => Vector.replicate 32 0
    aesGcmEncrypt := fun key _ message aad => some (message ++ boundTag key aad)
    aesGcmDecrypt := fun key _ message aad =>
      if message.drop (message.length - 16) = boundTag key aad then
        some (message.take (message.length - 16))
      else none }

theorem digest_bound (bytes : Bytes) : @Digest.of bound bytes = markedDigest bytes := rfl

theorem boundWorks : @EncryptionWorks bound := by
  let _ := bound
  constructor
  case correct =>
    intro key nonce message aad encrypted done
    obtain rfl := Option.some.inj done
    have length : (message ++ boundTag key aad).length = message.length + 16 := by
      rw [List.length_append, boundTag, List.length_replicate]
    refine ⟨?_, length⟩
    show (if _ = _ then _ else _) = _
    rw [length, Nat.add_sub_cancel, List.take_left, List.drop_left, if_pos rfl]
  case encrypts => exact fun _ _ _ _ _ => ⟨_, rfl⟩
  case digests =>
    intro first second message other same
    exact @nonce_eq_of_markedDigest first second message other same

theorem boundTag_eq {key : SecretKey} {aad : Bytes} :
    boundTag key aad = List.replicate 16 0 ↔ key = Vector.replicate 32 0 ∧ aad = boundText := by
  rw [boundTag, List.replicate_right_inj (by decide)]
  split_ifs with same
  · exact iff_of_true rfl same
  · exact iff_of_false (by decide) same

/-- What is stored for the object is its nonce and its tag. -/
theorem eq_of_mem_stored {material : EncryptedMaterial}
    (seals : @SealsObject bound emptyRequest emptyState [] material) {stored : Bytes}
    (listed : stored ∈ material.stored) :
    ∃ nonce : Nonce, stored = nonce.toList ++ List.replicate 16 0 := by
  let _ := bound
  obtain ⟨position, found⟩ := List.mem_iff_getElem?.mp listed
  obtain ⟨objectKey, objectContextDigest, piece, chunk, written, here, one⟩ :=
    seals.exists_piece found
  obtain ⟨nonce, context, chunkKey, -, numbers, derived, encrypted⟩ := one.encrypted
  obtain ⟨-, -, -, aad, ciphertext, text, wrote, rfl⟩ := encryptChunk_eq_ok.mp encrypted
  have single : pieces chunkBytes ([] : Bytes) = [[]] := by
    rw [pieces, List.length_nil, show pieceCount chunkBytes 0 = 1 by decide]
    rfl
  have placed : position = 0 ∧ piece = [] := by
    rw [single, List.getElem?_singleton] at here
    split_ifs at here with first
    exact ⟨first, (Option.some.inj here).symm⟩
  obtain ⟨rfl, rfl⟩ := placed
  refine ⟨nonce, congrArg (nonce.toList ++ ·) ?_⟩
  obtain rfl := Option.some.inj wrote
  rw [List.nil_append, boundTag_eq]
  constructor
  · simp only [deriveChunkKey, bind_eq_ok, pure_eq_ok] at derived
    obtain ⟨_, -, _, -, rfl⟩ := derived
    rfl
  · obtain ⟨-, rfl⟩ := Canonical.bytes_eq_ok.mp text
    obtain ⟨bytes, bytesText, digest⟩ := Canonical.digest_eq_ok.mp written
    obtain ⟨-, rfl⟩ := Canonical.bytes_eq_ok.mp bytesText
    rw [digest_bound] at digest
    have count : pieceCount chunkBytes ([] : Bytes).length = 1 := by decide
    rw [count] at numbers
    have held : boundContext.objectContextDigest = objectContextDigest := by
      rw [boundContext, Canonical.text]
      exact digest
    have same : context = boundContext := numbers.eq ⟨held, rfl, rfl, rfl⟩
    rw [same]
    rfl

/-- The chunk of the object is decrypted only with its key and its context. -/
theorem boundIdeal {material : EncryptedMaterial}
    (seals : @SealsObject bound emptyRequest emptyState [] material) :
    @IdealAead bound material := by
  let _ := bound
  intro key nonce message aad encrypted wrote listed other associated opened decrypted
  obtain ⟨used, same⟩ := eq_of_mem_stored seals listed
  obtain ⟨-, rfl⟩ := List.append_inj same (by rw [Vector.length_toList, Vector.length_toList])
  have tagged : message ++ boundTag key aad = List.replicate 16 0 := Option.some.inj wrote
  have length := congrArg List.length tagged
  rw [List.length_append, boundTag, List.length_replicate, List.length_replicate] at length
  obtain rfl : message = [] := List.length_eq_zero_iff.mp (by omega)
  rw [List.nil_append, boundTag_eq] at tagged
  change (if (List.replicate 16 0).drop 0 = boundTag other associated then _ else _) = _
    at decrypted
  split_ifs at decrypted with checked
  rw [List.drop_zero, eq_comm, boundTag_eq] at checked
  exact ⟨checked.1.trans tagged.1.symm, checked.2.trans tagged.2.symm⟩

/-- An envelope of the request. -/
theorem exists_envelope : ∃ envelope : UploadEnvelope,
    envelope.captureId = emptyRequest.metadata.captureId ∧
      openedObjectContext envelope emptyState = emptyRequest.objectContext emptyState := by
  let _ := marked
  obtain ⟨upload, ran⟩ := @exists_sealUpload [] (Nat.zero_le _)
  obtain ⟨plaintext, descriptors, materials, last, seals⟩ := sealUpload_sealed ran
  exact ⟨upload.envelope, seals.openedObjectContext_eq emptyState⟩

end Backend.Sample

namespace Backend

variable [Primitives]

/-! ## Bound to the position -/

/-- A stored chunk of a sealed object is decrypted only where it was sealed, with whatever key
and metadata; so an opened capture holds it nowhere else. -/
theorem bound_to_position {request : SealRequest} {source : NonceSource} {nonces after : Nonces}
    {descriptor : LogicalObject} {bytes : Bytes} {material : EncryptedMaterial}
    (encrypted : encryptObject request source nonces descriptor bytes = .ok (material, after))
    (ideal : IdealAead material) :
    (∀ (envelope : UploadEnvelope) (occurrenceKey : SecretKey) (object : EncryptedObject)
      (ciphertext : OrderedMap Digest Bytes) (chunk : EncryptedChunk) (position : Nat)
      (stored : Bytes), material.stored[position]? = some stored →
        ciphertext[chunk.cipherDigest]? = some stored →
          ContextsApart (request.objectContext descriptor)
            (openedObjectContext envelope object.descriptor) →
          DecryptsChunk envelope occurrenceKey object ciphertext chunk →
            ∃ plainSize, plainSizeOf chunk.cipherSize = .ok plainSize ∧
              SealedAt request descriptor bytes position
                (openedObjectContext envelope object.descriptor) object.chunks.length
                chunk.index.toNat plainSize.toNat) ∧
    ∀ (envelope : UploadEnvelope) (verificationKey occurrenceKey : SecretKey)
      (ciphertext : OrderedMap Digest Bytes) (capture : OpenedCapture),
      openCapture envelope verificationKey occurrenceKey ciphertext = .ok capture →
        (∀ object ∈ capture.manifest.objects,
          ContextsApart (request.objectContext descriptor)
            (openedObjectContext envelope object.descriptor) →
          KeepsPositions request descriptor bytes material envelope object ciphertext) ∧
        (ContextsApart (request.objectContext descriptor) envelope.manifestObjectContext →
          ∀ (position : Nat) (stored : Bytes), material.stored[position]? = some stored →
            ciphertext[envelope.manifestObject.cipherDigest]? = some stored →
              ∃ plainSize, plainSizeOf envelope.manifestObject.cipherSize = .ok plainSize ∧
                SealedAt request descriptor bytes position envelope.manifestObjectContext 1 0
                  plainSize.toNat) := by
  have seals := (encryptObject_sealed encrypted).1
  refine ⟨?_, ?_⟩
  · intro envelope occurrenceKey object ciphertext chunk position stored found held apart decrypts
    exact seals.sealedAt_of_decryptsChunk ideal found held apart decrypts
  · intro envelope verificationKey occurrenceKey ciphertext capture opened
    simp only [openCapture, bind_eq_ok, okOr_eq_ok, pure_eq_ok] at opened
    obtain ⟨_, -, blob, here, manifest, read, objects, decrypted, rfl⟩ := opened
    refine ⟨?_, ?_⟩
    · intro object listed apart
      obtain ⟨plaintexts, every, -⟩ := decryptObjects_eq_ok.mp decrypted
      obtain ⟨opened, -, one⟩ := exists_result every listed
      have formed := (manifestBound_of_openManifest read).formed
      exact seals.keepsPositions ideal (formed.objects object listed).2 apart one
    · intro apart position stored found held
      rw [here] at held
      obtain rfl := Option.some.inj held
      exact seals.sealedAt_of_openManifest ideal read apart found

omit [Primitives] in
/-- The one chunk of an object without bytes is sealed, and is opened where it was sealed. -/
theorem bound_to_position_sample :
    letI := Sample.bound
    ∃ envelope material after, encryptObject Sample.emptyRequest Sample.nonceSource .start
        Sample.emptyState [] = .ok (material, after) ∧
      ∃ (ciphertext : OrderedMap Digest Bytes) (chunk : EncryptedChunk) (stored : Bytes),
        material.stored[0]? = some stored ∧ ciphertext[chunk.cipherDigest]? = some stored ∧
          DecryptsChunk envelope Sample.emptyRequest.occurrenceKey material.object ciphertext
            chunk ∧
          ∃ plainSize, plainSizeOf chunk.cipherSize = .ok plainSize ∧
            SealedAt Sample.emptyRequest Sample.emptyState [] 0
              (openedObjectContext envelope material.object.descriptor)
              material.object.chunks.length chunk.index.toNat plainSize.toNat := by
  obtain ⟨envelope, captureId, context⟩ := Sample.exists_envelope
  let _ := Sample.bound
  have one : pieceCount chunkBytes ([] : Bytes).length = 1 := by decide
  obtain ⟨material, after, encrypted, -⟩ := @exists_encryptObject Sample.bound Sample.boundWorks
    Sample.nonceSource _ 1 .start (Sample.supplies (by decide)) (Nonces.fresh_start _)
    Sample.emptyRequest Sample.emptyState [] rfl rfl (one.trans_le (by decide)) one.le
  have seals := (encryptObject_sealed encrypted).1
  obtain ⟨chunk, single⟩ := List.length_eq_one_iff.mp (seals.length_chunks.trans one)
  obtain ⟨stored, only⟩ := List.length_eq_one_iff.mp
    (seals.length.symm.trans (congrArg List.length single))
  obtain ⟨ciphertext, held⟩ : ∃ ciphertext : OrderedMap Digest Bytes,
      ciphertext[chunk.cipherDigest]? = some stored :=
    ⟨(∅ : OrderedMap Digest Bytes).insert chunk.cipherDigest stored,
      Std.ExtTreeMap.getElem?_insert_self⟩
  have found : material.stored[0]? = some stored := by rw [only]; rfl
  have opened := seals.decryptObject Sample.boundWorks.correct captureId context (by
    intro entry listed
    rw [SealsObject.entries_eq, single, only, List.zip_cons_cons, List.zip_nil_left,
      List.map_singleton, List.mem_singleton] at listed
    rw [listed]
    exact held)
  have decrypts := decryptsChunk_of_decryptObject opened (single ▸ List.mem_singleton_self chunk)
  refine ⟨envelope, material, after, encrypted, ciphertext, chunk, stored, found, held, decrypts, ?_⟩
  apply (bound_to_position encrypted (Sample.boundIdeal seals)).1 _ _ _ _ _ _ _ found held _ decrypts
  rw [seals.object, context]
  exact fun _ => rfl

end Backend

end Reproit
