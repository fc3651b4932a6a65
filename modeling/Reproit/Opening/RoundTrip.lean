/-
# Opening what was sealed

Opening a capture rebuilds the contexts of the keys, the numbers of the chunks and their sizes
from the envelope and the manifest.  For a sealed capture they are the ones under which every
chunk was encrypted, so a sealed capture is opened to its own manifest and objects.
-/

import Reproit.Backend.Opened
import Reproit.Backend.SealingSample
import Reproit.Signing.Binding

namespace Reproit

theorem plainSizeOf_eq_ok {cipherSize plainSize : UInt64} :
    plainSizeOf cipherSize = .ok plainSize ↔
      cipherSize.toNat = plainSize.toNat + minCipherSize := by
  have least : (28 : UInt64).toNat = minCipherSize := rfl
  have bound := cipherSize.toNat_lt
  simp only [plainSizeOf, bind_eq_ok, rejectIf_eq_ok, pure_eq_ok, not_lt]
  constructor
  · rintro ⟨_, enough, rfl⟩
    rw [UInt64.toNat_sub_of_le _ _ (UInt64.le_iff_toNat_le.mpr (least ▸ enough)), least]
    omega
  · intro whole
    have enough : minCipherSize ≤ cipherSize.toNat := by omega
    refine ⟨(), enough, ?_⟩
    rw [← UInt64.toNat_inj,
      UInt64.toNat_sub_of_le _ _ (UInt64.le_iff_toNat_le.mpr (least ▸ enough)), least]
    omega

/-- Keys that are paired with what is looked up. -/
theorem mem_zip_iff_lookup {α κ β : Type} {lookup : κ → Option β} {key : α → κ}
    {sources : List α} {results : List β}
    (every : List.Forall₂ (fun source result => lookup (key source) = some result) sources results)
    {wanted : κ} {value : β} : (wanted, value) ∈ (sources.map key).zip results ↔
      wanted ∈ sources.map key ∧ lookup wanted = some value := by
  induction every with
  | nil =>
      rw [List.map_nil, List.zip_nil_left]
      exact ⟨nofun, fun both => absurd both.1 List.not_mem_nil⟩
  | @cons source result _ _ here rest ih =>
      rw [List.map_cons, List.zip_cons_cons, List.mem_cons, List.mem_cons, ih, Prod.mk.injEq]
      constructor
      · rintro (⟨rfl, rfl⟩ | ⟨listed, found⟩)
        · exact ⟨.inl rfl, here⟩
        · exact ⟨.inr listed, found⟩
      · rintro ⟨rfl | listed, found⟩
        · exact .inl ⟨rfl, Option.some.inj (found.symm.trans here)⟩
        · exact .inr ⟨listed, found⟩

namespace Backend

/-- A context is known from its numbers. -/
theorem IsChunkContext.eq {first second : ChunkKeyContext} {objectContextDigest : Digest}
    {chunkCount chunkIndex plainSize : Nat}
    (one : IsChunkContext first objectContextDigest chunkCount chunkIndex plainSize)
    (other : IsChunkContext second objectContextDigest chunkCount chunkIndex plainSize) :
    first = second := by
  have count := UInt32.toNat_inj.mp (one.count.trans other.count.symm)
  have index := UInt32.toNat_inj.mp (one.index.trans other.index.symm)
  have size := UInt64.toNat_inj.mp (one.size.trans other.size.symm)
  have digest := one.digest.trans other.digest.symm
  cases first
  cases second
  cases count
  cases index
  cases size
  cases digest
  rfl

variable [Primitives]

/-! ## One chunk and one object -/

/-- A sealed piece is opened under every context with its numbers. -/
theorem SealsPiece.opens (correct : AeadCorrect) {objectKey : SecretKey}
    {objectContextDigest : Digest} {chunkCount : Nat} {piece : Bytes × Nat}
    {entry : EncryptedChunk × Bytes}
    (one : SealsPiece objectKey objectContextDigest chunkCount piece entry)
    {context : ChunkKeyContext} (same : IsChunkContext context objectContextDigest chunkCount
      piece.2 piece.1.length) :
    ∃ chunkKey, deriveChunkKey objectKey context = .ok chunkKey ∧
      decryptChunk chunkKey entry.2 context = .ok piece.1 := by
  obtain ⟨nonce, sealing, chunkKey, -, numbers, derived, encrypted⟩ := one.encrypted
  obtain rfl := same.eq numbers
  exact ⟨chunkKey, derived, decryptChunk_of_encryptChunk correct encrypted⟩

theorem SealsPiece.plainSize (correct : AeadCorrect) {objectKey : SecretKey}
    {objectContextDigest : Digest} {chunkCount : Nat} {piece : Bytes × Nat}
    {entry : EncryptedChunk × Bytes}
    (one : SealsPiece objectKey objectContextDigest chunkCount piece entry) :
    ∃ plainSize, plainSizeOf entry.1.cipherSize = .ok plainSize ∧
      plainSize.toNat = piece.1.length := by
  have whole := one.size.trans (one.length_stored correct)
  have small : piece.1.length ≤ entry.1.cipherSize.toNat := whole ▸ Nat.le_add_right _ _
  have sized : (UInt64.ofNat piece.1.length).toNat = piece.1.length :=
    UInt64.toNat_ofNat_of_lt' (small.trans_lt entry.1.cipherSize.toNat_lt)
  exact ⟨UInt64.ofNat piece.1.length, plainSizeOf_eq_ok.mpr (sized.symm ▸ whole), sized⟩

namespace SealsObject

variable {request : SealRequest} {descriptor : LogicalObject} {bytes : Bytes}
  {material : EncryptedMaterial}

omit [Primitives] in
theorem entries_eq (material : EncryptedMaterial) :
    material.entries = (material.object.chunks.zip material.stored).map
      fun entry => (entry.1.cipherDigest, entry.2) := by
  rw [EncryptedMaterial.entries, EncryptedMaterial.uploads, List.map_map, List.zip_map_left]
  rfl

/-- Every chunk of a sealed object has its stored blob. -/
theorem exists_stored (seals : SealsObject request descriptor bytes material)
    {chunk : EncryptedChunk} (listed : chunk ∈ material.object.chunks) :
    ∃ stored, (chunk.cipherDigest, stored) ∈ material.entries ∧
      IsBlob stored chunk.cipherDigest chunk.cipherSize chunk.nonce := by
  rw [← List.map_fst_zip seals.length.le] at listed
  obtain ⟨entry, among, rfl⟩ := List.mem_map.mp listed
  obtain ⟨objectKey, objectContextDigest, -, -, all⟩ := seals.chunks
  obtain ⟨piece, -, one⟩ := exists_source all among
  obtain ⟨nonce, context, chunkKey, text, -, -, encrypted⟩ := one.encrypted
  obtain ⟨-, -, -, aad, rest, -, -, same⟩ := encryptChunk_eq_ok.mp encrypted
  refine ⟨entry.2, ?_, ⟨one.digest.symm, one.size.symm, nonce, text, ?_⟩⟩
  · rw [entries_eq]
    exact List.mem_map.mpr ⟨entry, among, rfl⟩
  · rw [same]
    exact List.take_left' Vector.length_toList

/-- A sealed object is opened when its blobs are stored. -/
theorem decryptObject (correct : AeadCorrect)
    (seals : SealsObject request descriptor bytes material) {envelope : UploadEnvelope}
    {ciphertext : OrderedMap Digest Bytes}
    (captureId : envelope.captureId = request.metadata.captureId)
    (context : openedObjectContext envelope descriptor = request.objectContext descriptor)
    (held : ∀ entry ∈ material.entries, ciphertext[entry.1]? = some entry.2) :
    decryptObject envelope request.occurrenceKey material.object ciphertext = .ok bytes := by
  obtain ⟨objectKey, objectContextDigest, derived, written, all⟩ := seals.chunks
  obtain ⟨chunkCount, counted⟩ : ∃ chunkCount : UInt32,
      chunkCount.toNat = material.object.chunks.length := by
    refine ⟨UInt32.ofNat material.object.chunks.length, UInt32.toNat_ofNat_of_lt' ?_⟩
    rw [seals.length_chunks]
    exact seals.few.trans_lt (by decide)
  have stored : ∀ entry ∈ material.object.chunks.zip material.stored,
      ciphertext[entry.1.cipherDigest]? = some entry.2 := by
    intro entry listed
    apply held (entry.1.cipherDigest, entry.2)
    rw [entries_eq]
    exact List.mem_map_of_mem (f := fun entry : EncryptedChunk × Bytes =>
      (entry.1.cipherDigest, entry.2)) listed
  have each : List.Forall₂ (fun chunk plaintext => decryptPiece objectKey objectContextDigest
      chunkCount ciphertext chunk = .ok plaintext)
        material.object.chunks (pieces chunkBytes bytes) := by
    rw [← List.map_fst_zip seals.length.le, ← List.zipIdx_map_fst 0 (pieces chunkBytes bytes),
      List.forall₂_map_left_iff, List.forall₂_map_right_iff]
    refine ((List.forall₂_and_left _ _).mpr ⟨stored, all.flip⟩).imp ?_
    intro entry piece ⟨found, one⟩
    obtain ⟨plainSize, sized, length⟩ := one.plainSize correct
    have numbers : IsChunkContext
        { chunkCount
          chunkIndex := entry.1.index
          format := .v1
          objectContextDigest
          plainSize } objectContextDigest (pieceCount chunkBytes bytes.length) piece.2
            piece.1.length :=
      ⟨rfl, counted.trans seals.length_chunks, one.index, length⟩
    obtain ⟨chunkKey, key, opened⟩ := one.opens correct numbers
    simp only [decryptPiece, bind_eq_ok, okOr_eq_ok]
    exact ⟨_, found, _, sized, _, key, opened⟩
  rw [decryptObject_eq_ok, seals.object]
  refine ⟨⟨objectKey, objectContextDigest, _, _, ?_, ?_, counted, each, ?_⟩, seals.size,
    seals.digest⟩
  · rw [captureId, context]
    exact derived
  · rw [context]
    exact written
  · exact (flatten_pieces (by decide) bytes).symm

/-- The digests of the stored chunks are those of the uploads. -/
theorem map_fst_entries (seals : SealsObject request descriptor bytes material) :
    material.entries.map Prod.fst = material.uploads.map UploadObject.cipherDigest := by
  apply List.map_fst_zip
  rw [EncryptedMaterial.uploads, List.length_map, List.length_map, seals.length]

end SealsObject

/-! ## The envelope -/

/-- The envelope is the described one with a signature of its signer. -/
theorem buildEnvelope_ok {request : SealRequest} {manifest : CaptureBatchManifest}
    {manifestObject : ManifestUploadObject} {uploadObjects : List UploadObject}
    {envelope : UploadEnvelope}
    (built : buildEnvelope request manifest manifestObject uploadObjects = .ok envelope) :
    ∃ captureBatchDigest failureFingerprint unsigned signature,
      validateManifestBinding manifest manifestObject manifest.replayCapsuleDigest = .ok () ∧
      Canonical.bytes (request.envelope manifest manifestObject uploadObjects captureBatchDigest
        failureFingerprint) = .ok unsigned ∧
      request.signer.sign unsigned = .ok signature ∧
      envelope = { request.envelope manifest manifestObject uploadObjects captureBatchDigest
        failureFingerprint with signature } ∧
      envelope.validate = .ok () := by
  simp only [buildEnvelope, bind_eq_ok, pure_eq_ok] at built
  obtain ⟨_, bound, _, -, grouping, -, captureBatchDigest, -, failureFingerprint, -, unsigned,
    written, signature, signed, _, valid, rfl⟩ := built
  exact ⟨captureBatchDigest, failureFingerprint, unsigned, signature, bound, written, signed, rfl,
    valid⟩

omit [Primitives] in
/-- A proof goes with the identifier of its run. -/
theorem SealRequest.mem_proofs (request : SealRequest) {pair : Proof × ObjectId} :
    pair ∈ request.proofs ↔ ∃ run : Fin 3,
      pair = (request.admitted.proofs[run], request.ids.proofObjectIds[run]) := by
  have count := request.length_proofs
  rw [List.mem_iff_getElem]
  constructor
  · rintro ⟨index, inside, rfl⟩
    refine ⟨⟨index, inside.trans_eq count⟩, ?_⟩
    simp only [SealRequest.proofs, List.getElem_zip, Vector.getElem_toList]
    rfl
  · rintro ⟨run, rfl⟩
    refine ⟨run.val, run.isLt.trans_eq count.symm, ?_⟩
    simp only [SealRequest.proofs, List.getElem_zip, Vector.getElem_toList]
    rfl

omit [Primitives] in
/-- The added bytes are those of the capsule and of the proofs. -/
theorem mem_addedBytes {request : SealRequest} (exact : Document.Exact request.input.capsule)
    {objectId : ObjectId} {bytes : Bytes} : (objectId, bytes) ∈ addedBytes request ↔
      (objectId = request.ids.capsuleObjectId ∧
        Canonical.bytes request.input.capsule = .ok bytes) ∨
      ∃ run : Fin 3, objectId = request.ids.proofObjectIds[run] ∧
        Canonical.bytes request.admitted.proofs[run] = .ok bytes := by
  have proofs : (objectId, bytes) ∈ (request.proofs.map fun pair =>
      (pair.2, Canonical.text pair.1)) ↔ ∃ run : Fin 3,
        objectId = request.ids.proofObjectIds[run] ∧
          Canonical.bytes request.admitted.proofs[run] = .ok bytes := by
    rw [List.mem_map]
    constructor
    · rintro ⟨pair, listed, same⟩
      obtain ⟨run, rfl⟩ := request.mem_proofs.mp listed
      obtain ⟨rfl, rfl⟩ := Prod.mk.inj same
      exact ⟨run, rfl, Canonical.bytes_of_exact (Proof.exact _)⟩
    · rintro ⟨run, rfl, written⟩
      obtain ⟨-, rfl⟩ := Canonical.bytes_eq_ok.mp written
      exact ⟨_, request.mem_proofs.mpr ⟨run, rfl⟩, rfl⟩
  rw [addedBytes, List.mem_cons, proofs, Canonical.bytes_of_exact exact, Prod.mk.injEq,
    Except.ok.injEq, eq_comm (a := bytes)]

namespace Seals

variable {request : SealRequest} {upload : SealedUpload} {plaintext : OrderedMap ObjectId Bytes}
  {descriptors : List LogicalObject} {materials : List EncryptedMaterial}
  {last : EncryptedMaterial}

/-- Every material is a sealed object. -/
theorem sealsObject (seals : Seals request upload plaintext descriptors materials last)
    {material : EncryptedMaterial} (listed : material ∈ materials ++ [last]) :
    ∃ descriptor bytes, SealsObject request descriptor bytes material := by
  rcases List.mem_append.mp listed with inner | outer
  · obtain ⟨descriptor, -, bytes, -, one⟩ := exists_source seals.objects inner
    exact ⟨descriptor, bytes, one⟩
  · obtain rfl := List.mem_singleton.mp outer
    obtain ⟨descriptor, bytes, -, -, -, one⟩ := seals.manifest
    exact ⟨descriptor, bytes, one⟩

/-- Every stored chunk is found by its digest. -/
theorem found (seals : Seals request upload plaintext descriptors materials last)
    {material : EncryptedMaterial} (listed : material ∈ materials ++ [last])
    {entry : Digest × Bytes} (among : entry ∈ material.entries) :
    upload.ciphertext[entry.1]? = some entry.2 := by
  obtain ⟨-, -, lookup⟩ := OrderedMap.insertAllNew_eq_some.mp seals.ciphertext
  exact (lookup _ _).mpr (.inl (List.mem_flatMap.mpr ⟨material, listed, among⟩))

/-- The envelope names the blob of the manifest and the blobs of the objects. -/
theorem storedBlobs_eq (seals : Seals request upload plaintext descriptors materials last) :
    ∃ chunk, last.object.chunks = [chunk] ∧
      storedBlobs upload.envelope = (chunk.cipherDigest, chunk.cipherSize, chunk.nonce) ::
        (sortedUploads materials).map fun object =>
          (object.cipherDigest, object.cipherSize, object.nonce) := by
  obtain ⟨chunk, single, built⟩ := seals.envelope
  obtain ⟨_, _, _, _, -, -, -, same, -⟩ := buildEnvelope_ok built
  refine ⟨chunk, single, ?_⟩
  rw [storedBlobs, same]
  rfl

/-- The blobs of the envelope are stored under their digests. -/
theorem holdsBlobs (seals : Seals request upload plaintext descriptors materials last) :
    HoldsBlobs upload.envelope upload.ciphertext := by
  obtain ⟨chunk, single, blobs⟩ := seals.storedBlobs_eq
  have keys : ((materials ++ [last]).flatMap EncryptedMaterial.entries).map Prod.fst =
      ((materials ++ [last]).flatMap EncryptedMaterial.uploads).map UploadObject.cipherDigest := by
    rw [List.map_flatMap, List.map_flatMap]
    apply List.flatMap_congr
    intro material listed
    obtain ⟨descriptor, bytes, one⟩ := seals.sealsObject listed
    exact one.map_fst_entries
  have named : ((storedBlobs upload.envelope).map Prod.fst).Perm
      (((materials ++ [last]).flatMap EncryptedMaterial.entries).map Prod.fst) := by
    rw [keys, blobs, List.flatMap_append, List.flatMap_singleton, EncryptedMaterial.uploads, single,
      List.map_append, List.map_cons, List.map_map]
    refine .trans ?_ (List.perm_append_singleton _ _).symm
    exact ((StoresAll.perm_sortedUploads materials).map UploadObject.cipherDigest).cons _
  obtain ⟨distinct, -, lookup⟩ := OrderedMap.insertAllNew_eq_some.mp seals.ciphertext
  constructor
  case distinct => exact named.nodup_iff.mpr distinct
  case named =>
    intro digest
    rw [named.mem_iff, List.mem_map, Std.ExtTreeMap.mem_iff_isSome_getElem?,
      Option.isSome_iff_exists]
    constructor
    · rintro ⟨stored, present⟩
      rcases (lookup _ _).mp present with listed | nothing
      · exact ⟨_, listed, rfl⟩
      · rw [Std.ExtTreeMap.getElem?_empty] at nothing
        cases nothing
    · rintro ⟨entry, listed, rfl⟩
      exact ⟨entry.2, (lookup _ _).mpr (.inl listed)⟩
  case blobs =>
    have each : ∀ material ∈ materials ++ [last], ∀ chunk ∈ material.object.chunks, ∃ stored,
        upload.ciphertext[chunk.cipherDigest]? = some stored ∧
          IsBlob stored chunk.cipherDigest chunk.cipherSize chunk.nonce := by
      intro material listed chunk among
      obtain ⟨descriptor, bytes, one⟩ := seals.sealsObject listed
      obtain ⟨stored, entry, blob⟩ := one.exists_stored among
      exact ⟨stored, seals.found listed entry, blob⟩
    intro blob listed
    rw [blobs] at listed
    rcases List.mem_cons.mp listed with rfl | upload
    · apply each last (List.mem_append_right _ List.mem_cons_self) chunk
      rw [single]
      exact List.mem_cons_self
    · obtain ⟨object, among, rfl⟩ := List.mem_map.mp upload
      rw [(StoresAll.perm_sortedUploads materials).mem_iff] at among
      obtain ⟨material, part, whole⟩ := List.mem_flatMap.mp among
      obtain ⟨chunk, inside, rfl⟩ := List.mem_map.mp whole
      exact each material (List.mem_append_left _ part) chunk inside

/-- The manifest is the one that the request describes. -/
theorem built_eq (seals : Seals request upload plaintext descriptors materials last) :
    upload.manifest = request.manifest (materials.map EncryptedMaterial.object) :=
  (SealRequest.buildManifest_eq_ok.mp seals.built).1

theorem wellFormed (seals : Seals request upload plaintext descriptors materials last) :
    upload.manifest.WellFormed := by
  obtain ⟨built, bound⟩ := SealRequest.buildManifest_eq_ok.mp seals.built
  simp only [validateCaptureManifest, bind_eq_ok] at bound
  obtain ⟨_, valid, -⟩ := bound
  rw [← built] at valid
  exact (CaptureBatchManifest.validate_eq_ok.mp valid).1

/-- The contexts of the keys are rebuilt from the envelope. -/
theorem openedObjectContext_eq
    (seals : Seals request upload plaintext descriptors materials last)
    (descriptor : LogicalObject) :
    upload.envelope.captureId = request.metadata.captureId ∧
      openedObjectContext upload.envelope descriptor = request.objectContext descriptor := by
  obtain ⟨chunk, -, built⟩ := seals.envelope
  obtain ⟨_, _, _, _, -, -, -, same, -⟩ := buildEnvelope_ok built
  rw [same, seals.built_eq]
  exact ⟨rfl, rfl⟩

theorem manifestObjectContext_eq
    (seals : Seals request upload plaintext descriptors materials last)
    {descriptor : LogicalObject} (id : descriptor.objectId = request.ids.manifestObjectId)
    (role : descriptor.role = .captureBatchManifest) :
    upload.envelope.manifestObjectContext = request.objectContext descriptor := by
  obtain ⟨chunk, -, built⟩ := seals.envelope
  obtain ⟨_, _, _, _, -, -, -, same, -⟩ := buildEnvelope_ok built
  rw [same, seals.built_eq, SealRequest.objectContext, id, role]
  rfl

/-- The uploads of the manifest are those of the envelope. -/
theorem payloadUploads_eq (seals : Seals request upload plaintext descriptors materials last) :
    payloadUploads upload.manifest = upload.envelope.objects := by
  obtain ⟨chunk, -, built⟩ := seals.envelope
  obtain ⟨_, _, _, _, -, -, -, same, -⟩ := buildEnvelope_ok built
  have objects : upload.envelope.objects = sortedUploads materials := by
    rw [same]
    rfl
  rw [objects, payloadUploads, seals.manifest_objects, List.flatMap_map, List.map_flatMap]
  rfl

theorem binds (seals : Seals request upload plaintext descriptors materials last) :
    validateEnvelopeManifestBinding upload.envelope upload.manifest = .ok () := by
  obtain ⟨chunk, -, built⟩ := seals.envelope
  obtain ⟨_, _, _, _, -, -, -, same, -⟩ := buildEnvelope_ok built
  rw [validateEnvelopeManifestBinding, same, seals.built_eq]
  exact rejectIf_of_not _ (by simp [SealRequest.envelope, SealRequest.manifest])

theorem manifestBound (seals : Seals request upload plaintext descriptors materials last) :
    ManifestBound upload.envelope upload.manifest := by
  constructor
  case valid => exact UploadEnvelope.validate_eq_ok.mp seals.validate_envelope
  case formed => exact seals.wellFormed
  case binding => exact seals.binds
  case uploads => exact seals.payloadUploads_eq

/-- The manifest is one piece, which is stored as one chunk. -/
theorem manifest_piece (seals : Seals request upload plaintext descriptors materials last) :
    ∃ chunk stored bytes objectKey objectContextDigest,
      last.object.chunks = [chunk] ∧
      upload.ciphertext[chunk.cipherDigest]? = some stored ∧
      Canonical.bytes upload.manifest = .ok bytes ∧
      deriveObjectKey request.occurrenceKey upload.envelope.captureId
        upload.envelope.manifestObjectContext = .ok objectKey ∧
      Canonical.digest upload.envelope.manifestObjectContext = .ok objectContextDigest ∧
      SealsPiece objectKey objectContextDigest 1 (bytes, 0) (chunk, stored) := by
  obtain ⟨chunk, single, -⟩ := seals.envelope
  obtain ⟨descriptor, bytes, written, id, role, one⟩ := seals.manifest
  have context := seals.manifestObjectContext_eq id role
  have captureId := (seals.openedObjectContext_eq descriptor).1
  obtain ⟨objectKey, objectContextDigest, derived, hashed, all⟩ := one.chunks
  have count : pieceCount chunkBytes bytes.length = 1 := by
    rw [← one.length_chunks, single, List.length_singleton]
  obtain ⟨piece, alone⟩ := List.length_eq_one_iff.mp ((length_pieces chunkBytes bytes).trans count)
  obtain ⟨stored, storedOnly⟩ := List.length_eq_one_iff.mp (one.length.symm.trans
    (congrArg List.length single))
  obtain rfl : piece = bytes := by
    have whole := flatten_pieces (by decide : 0 < chunkBytes) bytes
    rwa [alone, List.flatten_singleton] at whole
  rw [alone, single, storedOnly, count] at all
  obtain ⟨sealed, -⟩ := List.forall₂_cons.mp all
  refine ⟨chunk, stored, piece, objectKey, objectContextDigest, single, ?_, written, ?_, ?_,
    sealed⟩
  · have listed : (chunk.cipherDigest, stored) ∈ last.entries := by
      rw [SealsObject.entries_eq, single, storedOnly]
      exact List.mem_cons_self
    exact seals.found (List.mem_append_right _ List.mem_cons_self) listed
  · rw [captureId, context]
    exact derived
  · rw [context]
    exact hashed

/-- The stored manifest is opened with the key of the occurrence. -/
theorem openManifest (correct : AeadCorrect)
    (seals : Seals request upload plaintext descriptors materials last)
    {verificationKey : SecretKey}
    (verified : verifySignedValue (Document.encode upload.envelope) verificationKey = .ok ()) :
    ∃ stored, upload.ciphertext[upload.envelope.manifestObject.cipherDigest]? = some stored ∧
      Backend.openManifest upload.envelope verificationKey request.occurrenceKey stored =
        .ok upload.manifest := by
  have holds := seals.holdsBlobs
  obtain ⟨chunk, single, built⟩ := seals.envelope
  obtain ⟨_, _, _, _, bound, -, -, same, valid⟩ := buildEnvelope_ok built
  have named : upload.envelope.manifestObject =
      manifestObjectOf chunk request.ids.manifestObjectId := by
    rw [same]
    rfl
  have capsule : upload.envelope.replayCapsuleDigest = upload.manifest.replayCapsuleDigest := by
    rw [same]
    rfl
  obtain ⟨other, stored, bytes, objectKey, objectContextDigest, again, present, written, derived,
    hashed, sealed⟩ := seals.manifest_piece
  obtain rfl : chunk = other := List.singleton_inj.mp (single.symm.trans again)
  have found : upload.ciphertext[upload.envelope.manifestObject.cipherDigest]? = some stored := by
    rw [named]
    exact present
  obtain ⟨plainSize, sized, length⟩ := sealed.plainSize correct
  have numbers : IsChunkContext
      { chunkCount := 1, chunkIndex := 0, format := .v1, objectContextDigest, plainSize }
      objectContextDigest 1 0 bytes.length := ⟨rfl, rfl, rfl, length⟩
  obtain ⟨chunkKey, key, opened⟩ := sealed.opens correct numbers
  have ciphertext : validateManifestCiphertext upload.envelope stored = .ok () := by
    obtain ⟨blob, held, is⟩ := holds.blobs _ List.mem_cons_self
    obtain rfl := Option.some.inj (found.symm.trans held)
    obtain ⟨nonce, text, led⟩ := is.led
    simp only [validateManifestCiphertext, bind_eq_ok, rejectIf_eq_ok, okOr_eq_ok,
      uint64OfNat_eq_some, decodeBase64Url_eq_ok, not_or, not_not]
    exact ⟨nonce, text, (), is.hashed, _, is.sized.symm, rfl, led⟩
  have chunkContext : upload.envelope.manifestChunkContext = .ok
      { chunkCount := 1, chunkIndex := 0, format := .v1, objectContextDigest, plainSize } := by
    simp only [UploadEnvelope.manifestChunkContext, bind_eq_ok, pure_eq_ok]
    refine ⟨objectContextDigest, hashed, plainSize, ?_, rfl⟩
    rw [named]
    exact sized
  refine ⟨stored, found, ?_⟩
  simp only [Backend.openManifest, bind_eq_ok, pure_eq_ok]
  refine ⟨(), valid, (), verified, (), ciphertext, objectKey, derived, _, chunkContext, chunkKey,
    key, bytes, opened, upload.manifest, Canonical.parseStrict_bytes written, (), ?_, (),
    seals.binds, (), ?_, rfl⟩
  · rw [named, capsule]
    exact bound
  · exact rejectIf_of_not _ (not_not.mpr seals.payloadUploads_eq)

/-- The objects of the manifest are opened to the plain objects. -/
theorem decryptObjects (correct : AeadCorrect)
    (seals : Seals request upload plaintext descriptors materials last) :
    ∃ objects, Backend.decryptObjects upload.envelope request.occurrenceKey upload.ciphertext ∅
        upload.manifest.objects = .ok objects ∧
      ∀ objectId bytes, objects[objectId]? = some bytes ↔
        objectId ∈ descriptors.map LogicalObject.objectId ∧ plaintext[objectId]? = some bytes := by
  have each : ∀ material ∈ materials, ∃ bytes,
      Backend.decryptObject upload.envelope request.occurrenceKey material.object
        upload.ciphertext = .ok bytes ∧
      plaintext[material.object.descriptor.objectId]? = some bytes := by
    intro material listed
    obtain ⟨descriptor, -, bytes, present, one⟩ := exists_source seals.objects listed
    obtain ⟨captureId, context⟩ := seals.openedObjectContext_eq descriptor
    refine ⟨bytes, one.decryptObject correct captureId context fun entry among => ?_, ?_⟩
    · exact seals.found (List.mem_append_left _ listed) among
    · rw [one.object]
      exact present
  obtain ⟨plaintexts, every⟩ := exists_pairing each
  have decrypted : List.Forall₂ (fun object bytes => Backend.decryptObject upload.envelope
      request.occurrenceKey object upload.ciphertext = .ok bytes)
        (materials.map EncryptedMaterial.object) plaintexts :=
    List.forall₂_map_left_iff.mpr (every.imp fun _ _ both => both.1)
  have ids : (materials.map EncryptedMaterial.object).map
      (fun object => object.descriptor.objectId) =
        (descriptors.insertionSort (·.objectId ≤ ·.objectId)).map LogicalObject.objectId := by
    rw [← map_descriptor_of_sealed seals.objects, List.map_map, List.map_map]
    rfl
  have lengths := every.length_eq
  have ascending := seals.wellFormed.ordered
  rw [seals.manifest_objects] at ascending
  have keys : (((materials.map EncryptedMaterial.object).map fun object =>
      object.descriptor.objectId).zip plaintexts).map Prod.fst =
        (materials.map EncryptedMaterial.object).map fun object => object.descriptor.objectId := by
    apply List.map_fst_zip
    rw [List.length_map, List.length_map, lengths]
  obtain ⟨objects, inserted⟩ := OrderedMap.exists_insertAllNew
    (keys ▸ ascending.imp fun below => ne_of_lt below)
    fun key _ => (Std.ExtTreeMap.not_mem_empty : key ∉ (∅ : OrderedMap ObjectId Bytes))
  refine ⟨objects, ?_, fun objectId bytes => ?_⟩
  · rw [seals.manifest_objects]
    exact decryptObjects_eq_ok.mpr ⟨plaintexts, decrypted, inserted⟩
  · have found : List.Forall₂ (fun object bytes =>
        plaintext[(EncryptedObject.descriptor object).objectId]? = some bytes)
          (materials.map EncryptedMaterial.object) plaintexts :=
      List.forall₂_map_left_iff.mpr (every.imp fun _ _ both => both.2)
    have perm := (List.perm_insertionSort (·.objectId ≤ ·.objectId) descriptors).map
      LogicalObject.objectId
    rw [(OrderedMap.insertAllNew_eq_some.mp inserted).2.2, Std.ExtTreeMap.getElem?_empty,
      or_iff_left nofun, mem_zip_iff_lookup found, ids, perm.mem_iff]

/-- The plain objects are those of the capsule, the capsule and the proofs. -/
theorem found_iff (seals : Seals request upload plaintext descriptors materials last)
    {objectId : ObjectId} {bytes : Bytes} :
    objectId ∈ descriptors.map LogicalObject.objectId ∧ plaintext[objectId]? = some bytes ↔
      (∃ object ∈ request.input.capsule.objects, object.objectId = objectId ∧
        request.input.objects.objects[objectId]? = some bytes) ∨
      (objectId = request.ids.capsuleObjectId ∧
        Canonical.bytes request.input.capsule = .ok bytes) ∨
      ∃ run : Fin 3, objectId = request.ids.proofObjectIds[run] ∧
        Canonical.bytes request.admitted.proofs[run] = .ok bytes := by
  obtain ⟨exact, -, inserted, new, rfl⟩ := plainObjects_eq_ok.mp seals.gathered
  obtain ⟨-, fresh, lookup⟩ := OrderedMap.insertAllNew_eq_some.mp inserted
  have ids : (addedBytes request).map Prod.fst =
      (addedObjects request).map LogicalObject.objectId :=
    request.map_fst_addedBytes.trans request.map_objectId_addedObjects.symm
  rw [← mem_addedBytes exact, lookup, List.map_append, List.mem_append]
  constructor
  · rintro ⟨listed, added | held⟩
    · exact .inr added
    · rcases listed with inner | outer
      · obtain ⟨object, among, same⟩ := List.mem_map.mp inner
        exact .inl ⟨object, among, same, held⟩
      · -- an added identifier is new among the objects of the input
        have missing := fresh objectId (ids ▸ outer)
        exact absurd (Std.ExtTreeMap.mem_iff_isSome_getElem?.mpr
          (Option.isSome_iff_exists.mpr ⟨bytes, held⟩)) missing
  · rintro (⟨object, among, rfl, held⟩ | added)
    · exact ⟨.inl (List.mem_map_of_mem among), .inr held⟩
    · exact ⟨.inr (ids ▸ List.mem_map_of_mem added), .inl added⟩

/-- The envelope is verified with the key of its signer. -/
theorem verifies (seals : Seals request upload plaintext descriptors materials last)
    {verificationKey : SecretKey} (key : Primitives.ed25519PublicKey verificationKey)
    (signs : ∀ unsigned signature, request.signer.sign unsigned = .ok signature →
      ∃ bytes, decodeBase64Url 64 signature = .ok bytes ∧
        Primitives.ed25519Verify verificationKey unsigned bytes) :
    verifySignedValue (Document.encode upload.envelope) verificationKey = .ok () := by
  obtain ⟨chunk, -, built⟩ := seals.envelope
  obtain ⟨_, _, unsigned, signature, -, written, signed, same, -⟩ := buildEnvelope_ok built
  obtain ⟨bytes, decoded, verifies⟩ := signs unsigned signature signed
  refine SignedDocument.verifySignedValue_eq_ok.mpr ⟨bytes, unsigned, ?_, key, ?_, verifies⟩
  · rw [same]
    exact decoded
  · rw [SignedDocument.signedBytes_eq, same]
    exact written

/-- The capture is opened to its manifest and its plain objects. -/
theorem openCapture (correct : AeadCorrect)
    (seals : Seals request upload plaintext descriptors materials last)
    {verificationKey : SecretKey}
    (verified : verifySignedValue (Document.encode upload.envelope) verificationKey = .ok ()) :
    ∃ objects, Backend.openCapture upload.envelope verificationKey request.occurrenceKey
        upload.ciphertext = .ok ⟨upload.manifest, objects⟩ ∧
      ∀ objectId bytes, objects[objectId]? = some bytes ↔
        objectId ∈ descriptors.map LogicalObject.objectId ∧
          plaintext[objectId]? = some bytes := by
  obtain ⟨stored, present, opened⟩ := seals.openManifest correct verified
  obtain ⟨objects, decrypted, found⟩ := seals.decryptObjects correct
  have closed := validateCiphertextClosure_eq_ok.mpr
    ⟨UploadEnvelope.validate_eq_ok.mp seals.validate_envelope, seals.holdsBlobs⟩
  refine ⟨objects, ?_, found⟩
  simp only [Backend.openCapture, bind_eq_ok, okOr_eq_ok, pure_eq_ok]
  exact ⟨(), closed, stored, present, upload.manifest, opened, objects, decrypted, rfl⟩

end Seals

/-! ## The whole capture -/

/-- A sealed capture is opened to its manifest and to the objects that were sealed: those of the
capsule, the capsule itself and the proofs. -/
theorem openCapture_of_sealUpload (correct : AeadCorrect) {request : SealRequest}
    {source : NonceSource} {upload : SealedUpload} {verificationKey : SecretKey}
    (key : Primitives.ed25519PublicKey verificationKey)
    (signs : ∀ unsigned signature, request.signer.sign unsigned = .ok signature →
      ∃ bytes, decodeBase64Url 64 signature = .ok bytes ∧
        Primitives.ed25519Verify verificationKey unsigned bytes)
    (ran : sealUpload request source = .ok upload) :
    ∃ objects, openCapture upload.envelope verificationKey request.occurrenceKey
        upload.ciphertext = .ok ⟨upload.manifest, objects⟩ ∧
      ∀ objectId bytes, objects[objectId]? = some bytes ↔
        (∃ object ∈ request.input.capsule.objects, object.objectId = objectId ∧
          request.input.objects.objects[objectId]? = some bytes) ∨
        (objectId = request.ids.capsuleObjectId ∧
          Canonical.bytes request.input.capsule = .ok bytes) ∨
        ∃ run : Fin 3, objectId = request.ids.proofObjectIds[run] ∧
          Canonical.bytes request.admitted.proofs[run] = .ok bytes := by
  obtain ⟨plaintext, descriptors, materials, last, seals⟩ := sealUpload_sealed ran
  obtain ⟨objects, opened, found⟩ := seals.openCapture correct (seals.verifies key signs)
  refine ⟨objects, opened, fun objectId bytes => ?_⟩
  rw [found]
  exact seals.found_iff

omit [Primitives] in
/-- The signatures of the sample are the ones that are verified. -/
theorem Sample.signs (unsigned : Bytes) (signature : String)
    (signed : (Sample.signer (Vector.replicate 32 0)).sign unsigned = .ok signature) :
    letI := marked
    ∃ bytes, decodeBase64Url 64 signature = .ok bytes ∧
      Primitives.ed25519Verify (Vector.replicate 32 0) unsigned bytes := by
  obtain rfl := Except.ok.inj signed
  exact ⟨_, decodeBase64Url_eq_ok.mpr rfl, decide_eq_true rfl⟩

omit [Primitives] in
/-- The sample capture is opened, and it holds its capsule. -/
theorem openCapture_of_sealUpload_sample :
    letI := Sample.marked
    ∃ upload objects, sealUpload (Sample.sealRequest []) Sample.nonceSource = .ok upload ∧
      openCapture upload.envelope (Vector.replicate 32 0)
        (Sample.sealRequest []).occurrenceKey upload.ciphertext =
          .ok ⟨upload.manifest, objects⟩ ∧
      objects[Sample.sealingIds.capsuleObjectId]? = some (Canonical.text (Sample.sealRequest []).input.capsule) := by
  let _ := Sample.marked
  obtain ⟨upload, ran⟩ := @Sample.exists_sealUpload [] (Nat.zero_le _)
  obtain ⟨objects, opened, found⟩ := openCapture_of_sealUpload Sample.encryptionWorks.correct
    (rfl : Primitives.ed25519PublicKey (Vector.replicate 32 0) = true) Sample.signs ran
  have sealable := @Sample.prepared [] (Nat.zero_le _)
  have exact := ReplayCapsule.exact sealable.capsule
  refine ⟨upload, objects, ran, opened, (found _ _).mpr (.inr (.inl ⟨rfl, ?_⟩))⟩
  exact Canonical.bytes_of_exact exact

end Backend

end Reproit
