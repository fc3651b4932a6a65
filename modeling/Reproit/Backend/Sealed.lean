/-
# What sealing produces

Every piece of every object is one stored chunk under a nonce that no other chunk has.  The
facts follow the functions that seal a capture, from one piece to the whole upload.
-/

import Reproit.Backend.Seal
import Reproit.Core.Exactness

namespace Reproit.Backend

/-! ## Nonces -/

namespace Nonces

/-- The nonces that a source yields on the way from one state to another. -/
def Draws (source : NonceSource) : Nonces → List Nonce → Nonces → Prop
  | nonces, [], after => after = nonces
  | nonces, nonce :: rest, after =>
      ∃ next, nonces.next source = .ok (nonce, next) ∧ Draws source next rest after

variable {source : NonceSource} {nonces after : Nonces}

theorem next_eq_ok {nonce : Nonce} :
    nonces.next source = .ok (nonce, after) ↔ source nonces.drawn = .ok nonce ∧
      nonce ∉ nonces.registry.used ∧
        after = ⟨nonces.drawn + 1, ⟨nonce :: nonces.registry.used⟩⟩ := by
  simp only [next, NonceRegistry.register, bind_eq_ok, rejectIf_eq_ok, pure_eq_ok, Prod.mk.injEq]
  constructor
  · rintro ⟨_, answered, _, ⟨_, fresh, rfl⟩, rfl, rfl⟩
    exact ⟨answered, fresh, rfl⟩
  · rintro ⟨answered, fresh, rfl⟩
    exact ⟨nonce, answered, _, ⟨(), fresh, rfl⟩, rfl, rfl⟩

theorem draws_append {first second : List Nonce} :
    Draws source nonces (first ++ second) after ↔
      ∃ between, Draws source nonces first between ∧ Draws source between second after := by
  induction first generalizing nonces with
  | nil =>
      rw [List.nil_append]
      constructor
      · exact fun draws => ⟨nonces, rfl, draws⟩
      · rintro ⟨_, rfl, draws⟩
        exact draws
  | cons nonce rest ih =>
      simp only [List.cons_append, Draws, ih]
      constructor
      · intro ⟨next, drew, between, front, back⟩
        exact ⟨between, ⟨next, drew, front⟩, back⟩
      · intro ⟨between, ⟨next, drew, front⟩, back⟩
        exact ⟨next, drew, between, front, back⟩

/-- Every nonce that was drawn is registered. -/
theorem Draws.used {drawn : List Nonce} (draws : Draws source nonces drawn after) :
    after.registry.used = drawn.reverse ++ nonces.registry.used := by
  induction drawn generalizing nonces with
  | nil =>
      obtain rfl : after = nonces := draws
      rfl
  | cons nonce rest ih =>
      obtain ⟨next, drew, later⟩ := draws
      obtain ⟨-, -, rfl⟩ := next_eq_ok.mp drew
      rw [ih later, List.reverse_cons, List.append_assoc, List.singleton_append]

/-- No nonce is registered twice. -/
theorem Draws.nodup {drawn : List Nonce} (draws : Draws source nonces drawn after)
    (distinct : nonces.registry.used.Nodup) : after.registry.used.Nodup := by
  induction drawn generalizing nonces with
  | nil => exact draws ▸ distinct
  | cons nonce rest ih =>
      obtain ⟨next, drew, later⟩ := draws
      obtain ⟨-, fresh, rfl⟩ := next_eq_ok.mp drew
      exact ih later (List.nodup_cons.mpr ⟨fresh, distinct⟩)

theorem Draws.nodup_of_start {drawn : List Nonce} (draws : Draws source start drawn after) :
    drawn.Nodup := by
  have distinct := draws.nodup List.nodup_nil
  rw [draws.used, start, List.append_nil] at distinct
  exact List.nodup_reverse.mp distinct

end Nonces

/-- The text of a nonce. -/
def nonceText (nonce : Nonce) : String := encodeBase64Url nonce.toList

theorem nonceText_injective : Function.Injective nonceText := fun _ _ same =>
  Vector.toList_inj.mp (encodeBase64Url_injective same)

variable [Primitives]

/-! ## One piece -/

/-- The context of a chunk, with its numbers as numbers. -/
structure IsChunkContext (context : ChunkKeyContext) (objectContextDigest : Digest)
    (chunkCount chunkIndex plainSize : Nat) : Prop where
  digest : context.objectContextDigest = objectContextDigest
  count : context.chunkCount.toNat = chunkCount
  index : context.chunkIndex.toNat = chunkIndex
  size : context.plainSize.toNat = plainSize

/-- The chunk is the piece, encrypted under its nonce and the key of its position. -/
structure SealsPiece (objectKey : SecretKey) (objectContextDigest : Digest) (chunkCount : Nat)
    (piece : Bytes × Nat) (entry : EncryptedChunk × Bytes) : Prop where
  digest : entry.1.cipherDigest = Digest.of entry.2
  size : entry.1.cipherSize.toNat = entry.2.length
  index : entry.1.index.toNat = piece.2
  encrypted : ∃ (nonce : Nonce) (context : ChunkKeyContext) (chunkKey : SecretKey),
    entry.1.nonce = nonceText nonce ∧
      IsChunkContext context objectContextDigest chunkCount piece.2 piece.1.length ∧
        deriveChunkKey objectKey context = .ok chunkKey ∧
          encryptChunk chunkKey nonce piece.1 context = .ok entry.2

theorem encryptPiece_sealed {objectKey : SecretKey} {objectContextDigest : Digest}
    {chunkCount : Nat} {source : NonceSource} {nonces after : Nonces} {piece : Bytes × Nat}
    {entry : EncryptedChunk × Bytes}
    (ran : encryptPiece objectKey objectContextDigest chunkCount source nonces piece.1 piece.2 =
      .ok (entry, after)) :
    SealsPiece objectKey objectContextDigest chunkCount piece entry ∧
      ∃ nonce, nonces.next source = .ok (nonce, after) ∧ entry.1.nonce = nonceText nonce := by
  simp only [encryptPiece, bind_eq_ok, okOr_eq_ok, pure_eq_ok, Prod.exists, uint32OfNat_eq_some,
    uint64OfNat_eq_some, Prod.mk.injEq] at ran
  obtain ⟨nonce, _, drew, count, counted, index, indexed, size, sized, chunkKey, derived, stored,
    encrypted, cipherSize, measured, rfl, rfl⟩ := ran
  refine ⟨?_, nonce, drew, rfl⟩
  constructor
  case digest => rfl
  case size => exact measured
  case index => exact indexed
  case encrypted =>
    exact ⟨nonce, _, chunkKey, rfl, ⟨rfl, counted, indexed, sized⟩, derived, encrypted⟩

theorem encryptPieces_sealed {objectKey : SecretKey} {objectContextDigest : Digest}
    {chunkCount : Nat} {source : NonceSource} {nonces after : Nonces}
    {pieces : List (Bytes × Nat)} {entries : List (EncryptedChunk × Bytes)}
    (ran : encryptPieces objectKey objectContextDigest chunkCount source nonces pieces =
      .ok (entries, after)) :
    List.Forall₂ (SealsPiece objectKey objectContextDigest chunkCount) pieces entries ∧
      ∃ drawn, Nonces.Draws source nonces drawn after ∧
        entries.map (fun entry => entry.1.nonce) = drawn.map nonceText := by
  induction pieces generalizing nonces entries with
  | nil =>
      cases ran
      exact ⟨.nil, [], rfl, rfl⟩
  | cons piece rest ih =>
      simp only [encryptPieces, bind_eq_ok, pure_eq_ok, Prod.exists, Prod.mk.injEq] at ran
      obtain ⟨chunk, stored, next, first, others, _, later, rfl, rfl⟩ := ran
      obtain ⟨one, nonce, drew, text⟩ := encryptPiece_sealed first
      obtain ⟨all, drawn, draws, texts⟩ := ih later
      exact ⟨.cons one all, nonce :: drawn, ⟨next, drew, draws⟩, congrArg₂ List.cons text texts⟩

/-- A stored chunk has twenty-eight bytes more than its piece. -/
theorem SealsPiece.length_stored (correct : AeadCorrect) {objectKey : SecretKey}
    {objectContextDigest : Digest} {chunkCount : Nat} {piece : Bytes × Nat}
    {entry : EncryptedChunk × Bytes}
    (one : SealsPiece objectKey objectContextDigest chunkCount piece entry) :
    entry.2.length = piece.1.length + minCipherSize := by
  obtain ⟨nonce, context, chunkKey, -, -, -, encrypted⟩ := one.encrypted
  exact length_of_encryptChunk correct encrypted

/-! ## One object -/

/-- The material is the object, cut into chunks. -/
structure SealsObject (request : SealRequest) (descriptor : LogicalObject) (bytes : Bytes)
    (material : EncryptedMaterial) : Prop where
  digest : descriptor.plainDigest = Digest.of bytes
  size : descriptor.plainSize.toNat = bytes.length
  few : pieceCount chunkBytes bytes.length ≤ 32767
  object : material.object.descriptor = descriptor
  length : material.object.chunks.length = material.stored.length
  chunks : ∃ objectKey objectContextDigest,
    deriveObjectKey request.occurrenceKey request.metadata.captureId
      (request.objectContext descriptor) = .ok objectKey ∧
    Canonical.digest (request.objectContext descriptor) = .ok objectContextDigest ∧
    List.Forall₂ (SealsPiece objectKey objectContextDigest (pieceCount chunkBytes bytes.length))
      (pieces chunkBytes bytes).zipIdx (material.object.chunks.zip material.stored)

theorem encryptObject_sealed {request : SealRequest} {source : NonceSource}
    {nonces after : Nonces} {descriptor : LogicalObject} {bytes : Bytes}
    {material : EncryptedMaterial}
    (ran : encryptObject request source nonces descriptor bytes = .ok (material, after)) :
    SealsObject request descriptor bytes material ∧
      ∃ drawn, Nonces.Draws source nonces drawn after ∧
        material.object.chunks.map EncryptedChunk.nonce = drawn.map nonceText := by
  simp only [encryptObject, bind_eq_ok, rejectIf_eq_ok, pure_eq_ok, Prod.exists, Prod.mk.injEq,
    not_or, not_not, not_lt] at ran
  obtain ⟨_, ⟨digest, size⟩, objectKey, derived, objectContextDigest, written, _, few, entries, _,
    encrypted, rfl, rfl⟩ := ran
  obtain ⟨all, drawn, draws, texts⟩ := encryptPieces_sealed encrypted
  refine ⟨?_, drawn, draws, List.map_map.trans texts⟩
  constructor
  case digest => exact digest
  case size => exact size
  case few => exact few
  case object => rfl
  case length => rw [List.length_map, List.length_map]
  case chunks =>
    refine ⟨objectKey, objectContextDigest, derived, written, ?_⟩
    rw [List.zip_map', List.map_id']
    exact all

/-- The stored chunks with their digests. -/
def EncryptedMaterial.entries (material : EncryptedMaterial) : List (Digest × Bytes) :=
  (material.uploads.map UploadObject.cipherDigest).zip material.stored

/-- The nonces of the chunks. -/
def EncryptedMaterial.nonces (material : EncryptedMaterial) : List String :=
  material.object.chunks.map EncryptedChunk.nonce

namespace SealsObject

variable {request : SealRequest} {descriptor : LogicalObject} {bytes : Bytes}
  {material : EncryptedMaterial}

theorem length_chunks (seals : SealsObject request descriptor bytes material) :
    material.object.chunks.length = pieceCount chunkBytes bytes.length := by
  obtain ⟨objectKey, objectContextDigest, -, -, all⟩ := seals.chunks
  have lengths := all.length_eq
  rw [List.length_zipIdx, length_pieces, List.length_zip, ← seals.length, min_self] at lengths
  exact lengths.symm

/-- The stored sizes are the sizes of the pieces and twenty-eight bytes more. -/
theorem map_length_stored (correct : AeadCorrect)
    (seals : SealsObject request descriptor bytes material) :
    material.stored.map List.length =
      (pieceSizes chunkBytes bytes.length).map (· + minCipherSize) := by
  obtain ⟨objectKey, objectContextDigest, -, -, all⟩ := seals.chunks
  have lengths := map_eq_of_pairing (fun _ _ one => one.length_stored correct) all
  rw [← map_length_pieces, List.map_map]
  calc material.stored.map List.length
      = ((material.object.chunks.zip material.stored).map Prod.snd).map List.length := by
        rw [List.map_snd_zip seals.length.ge]
    _ = (material.object.chunks.zip material.stored).map fun entry => entry.2.length :=
        List.map_map
    _ = (pieces chunkBytes bytes).zipIdx.map fun piece => piece.1.length + minCipherSize := lengths
    _ = ((pieces chunkBytes bytes).zipIdx.map Prod.fst).map fun piece =>
          piece.length + minCipherSize := by rw [List.map_map]; rfl
    _ = (pieces chunkBytes bytes).map fun piece => piece.length + minCipherSize := by
        rw [List.zipIdx_map_fst]

/-- The bytes that an object takes when it is stored. -/
theorem sum_stored (correct : AeadCorrect)
    (seals : SealsObject request descriptor bytes material) :
    (material.stored.map List.length).sum =
      bytes.length + pieceCount chunkBytes bytes.length * minCipherSize := by
  have wide : 0 < chunkBytes := by decide
  rw [seals.map_length_stored correct, List.sum_map_add, List.map_const',
    List.sum_replicate_nat, length_pieceSizes, List.map_id', sum_pieceSizes wide]

end SealsObject

/-! ## All objects -/

omit [Primitives] in
theorem appendCiphertext_eq_ok {encrypted : EncryptedMaterial}
    {before after : OrderedMap Digest Bytes} :
    appendCiphertext encrypted before = .ok after ↔
      before.insertAllNew encrypted.entries = some after :=
  okOr_eq_ok _ _ _

theorem encryptObjects_sealed {request : SealRequest} {source : NonceSource}
    {plaintext : OrderedMap ObjectId Bytes} {before result : CaptureMaterial}
    {nonces after : Nonces} {descriptors : List LogicalObject}
    (ran : encryptObjects request source plaintext before nonces descriptors =
      .ok (result, after)) :
    ∃ materials : List EncryptedMaterial,
      List.Forall₂ (fun descriptor material => ∃ bytes,
        plaintext[descriptor.objectId]? = some bytes ∧
          SealsObject request descriptor bytes material) descriptors materials ∧
      before.ciphertext.insertAllNew (materials.flatMap EncryptedMaterial.entries) =
        some result.ciphertext ∧
      result.encryptedObjects =
        before.encryptedObjects ++ materials.map EncryptedMaterial.object ∧
      result.uploadObjects =
        before.uploadObjects ++ materials.flatMap EncryptedMaterial.uploads ∧
      ∃ drawn, Nonces.Draws source nonces drawn after ∧
        materials.flatMap EncryptedMaterial.nonces = drawn.map nonceText := by
  induction descriptors generalizing before nonces with
  | nil =>
      cases ran
      exact ⟨[], .nil, rfl, (List.append_nil _).symm, (List.append_nil _).symm, [], rfl, rfl⟩
  | cons descriptor rest ih =>
      simp only [encryptObjects, bind_eq_ok, okOr_eq_ok, Prod.exists, appendCiphertext_eq_ok] at ran
      obtain ⟨bytes, found, material, next, encrypted, ciphertext, appended, later⟩ := ran
      obtain ⟨one, first, drew, texts⟩ := encryptObject_sealed encrypted
      obtain ⟨materials, all, inserted, objects, uploads, others, draws, rests⟩ := ih later
      refine ⟨material :: materials, .cons ⟨bytes, found, one⟩ all, ?_, ?_, ?_, first ++ others,
        Nonces.draws_append.mpr ⟨next, drew, draws⟩, ?_⟩
      · rw [List.flatMap_cons, OrderedMap.insertAllNew_append, appended]
        exact inserted
      · rw [objects, List.map_cons, List.append_assoc, List.singleton_append]
      · rw [uploads, List.flatMap_cons, List.append_assoc]
      · rw [List.flatMap_cons, List.map_append, rests]
        exact congrArg (· ++ _) texts

/-! ## The whole upload -/

/-- The stored form of the manifest under its identifier. -/
def manifestObjectOf (chunk : EncryptedChunk) (objectId : ObjectId) : ManifestUploadObject where
  cipherDigest := chunk.cipherDigest
  cipherSize := chunk.cipherSize
  nonce := chunk.nonce
  objectId := objectId

/-- The upload is the sealed form of the request: its objects are the plain objects in the
order of their identifiers, and its last object is its manifest. -/
structure Seals (request : SealRequest) (upload : SealedUpload)
    (plaintext : OrderedMap ObjectId Bytes) (descriptors : List LogicalObject)
    (materials : List EncryptedMaterial) (last : EncryptedMaterial) : Prop where
  ids : validateSealingIds request = .ok ()
  gathered : plainObjects request = .ok (plaintext, descriptors)
  objects : List.Forall₂ (fun descriptor material => ∃ bytes,
    plaintext[descriptor.objectId]? = some bytes ∧ SealsObject request descriptor bytes material)
      (descriptors.insertionSort (·.objectId ≤ ·.objectId)) materials
  built : buildManifest request (materials.map EncryptedMaterial.object) = .ok upload.manifest
  manifest : ∃ descriptor bytes, Canonical.bytes upload.manifest = .ok bytes ∧
    descriptor.objectId = request.ids.manifestObjectId ∧
      descriptor.role = .captureBatchManifest ∧ SealsObject request descriptor bytes last
  ciphertext : OrderedMap.insertAllNew ∅ ((materials ++ [last]).flatMap EncryptedMaterial.entries) =
    some upload.ciphertext
  nonces : ∃ drawn : List Nonce, drawn.Nodup ∧
    (materials ++ [last]).flatMap EncryptedMaterial.nonces = drawn.map nonceText
  envelope : ∃ chunk, last.object.chunks = [chunk] ∧
    buildEnvelope request upload.manifest (manifestObjectOf chunk request.ids.manifestObjectId)
      ((materials.flatMap EncryptedMaterial.uploads).insertionSort (·.key ≤ ·.key)) =
        .ok upload.envelope

omit [Primitives] in
theorem pairwise_objectId (descriptors : List LogicalObject) :
    (descriptors.insertionSort (·.objectId ≤ ·.objectId)).Pairwise (·.objectId ≤ ·.objectId) :=
  List.pairwise_insertionSort _ descriptors

/-- The descriptors of the encrypted objects are the given ones. -/
theorem map_descriptor_of_sealed {request : SealRequest}
    {plaintext : OrderedMap ObjectId Bytes} {descriptors : List LogicalObject}
    {materials : List EncryptedMaterial}
    (all : List.Forall₂ (fun descriptor material => ∃ bytes,
      plaintext[descriptor.objectId]? = some bytes ∧
        SealsObject request descriptor bytes material) descriptors materials) :
    materials.map (fun material => material.object.descriptor) = descriptors := by
  have mapped : materials.map (fun material => material.object.descriptor) =
      descriptors.map id := by
    apply map_eq_of_pairing _ all
    intro descriptor material ⟨bytes, _, seals⟩
    exact seals.object
  rw [mapped, List.map_id]

/-- The encrypted objects of sorted descriptors are sorted. -/
theorem insertionSort_objects {request : SealRequest} {plaintext : OrderedMap ObjectId Bytes}
    {descriptors : List LogicalObject} {materials : List EncryptedMaterial}
    (all : List.Forall₂ (fun descriptor material => ∃ bytes,
      plaintext[descriptor.objectId]? = some bytes ∧ SealsObject request descriptor bytes material)
        (descriptors.insertionSort (·.objectId ≤ ·.objectId)) materials) :
    (materials.map EncryptedMaterial.object).insertionSort
      (·.descriptor.objectId ≤ ·.descriptor.objectId) = materials.map EncryptedMaterial.object := by
  apply List.Pairwise.insertionSort_eq
  have ascending := pairwise_objectId descriptors
  rw [← map_descriptor_of_sealed all, List.pairwise_map] at ascending
  exact List.pairwise_map.mpr ascending

theorem buildManifest_objects {request : SealRequest} {objects : List EncryptedObject}
    {manifest : CaptureBatchManifest} (built : buildManifest request objects = .ok manifest) :
    manifest.objects = objects := by
  simp only [buildManifest, bind_eq_ok, pure_eq_ok] at built
  obtain ⟨_, -, -, -, rfl⟩ := built
  rfl

theorem sealUpload_sealed {request : SealRequest} {source : NonceSource} {upload : SealedUpload}
    (ran : sealUpload request source = .ok upload) :
    ∃ plaintext descriptors materials last,
      Seals request upload plaintext descriptors materials last := by
  simp only [sealUpload, encryptCaptureObjects, encryptManifest, bind_eq_ok, rejectIf_eq_ok,
    okOr_eq_ok, pure_eq_ok, Prod.exists, Prod.mk.injEq, appendCiphertext_eq_ok, not_not] at ran
  obtain ⟨_, ids, _, nonces, ⟨plaintext, descriptors, gathered, material, _, encrypted, rfl, rfl⟩,
    manifest, built, manifestBytes, written, _, _, ⟨plainSize, sized, last, _, sealedManifest, _,
      single, rfl, rfl⟩, ciphertext, appended, first, head, envelope, enveloped, rfl⟩ := ran
  obtain ⟨materials, all, inserted, objects, uploads, first, drew, texts⟩ :=
    encryptObjects_sealed encrypted
  obtain ⟨sealsLast, others, draws, rest⟩ := encryptObject_sealed sealedManifest
  refine ⟨plaintext, descriptors, materials, last, ?_⟩
  constructor
  case ids => exact ids
  case gathered => exact gathered
  case objects => exact all
  case built =>
    rw [objects, List.nil_append, insertionSort_objects all] at built
    exact built
  case manifest => exact ⟨_, manifestBytes, written, rfl, rfl, sealsLast⟩
  case ciphertext =>
    rw [List.flatMap_append, OrderedMap.insertAllNew_append, inserted, List.flatMap_singleton]
    exact appended
  case nonces =>
    refine ⟨first ++ others, ?_, ?_⟩
    · exact (Nonces.draws_append.mpr ⟨_, drew, draws⟩).nodup_of_start
    · rw [List.flatMap_append, texts, List.flatMap_singleton, List.map_append]
      exact congrArg _ rest
  case envelope =>
    rw [EncryptedMaterial.uploads, List.length_map, List.length_eq_one_iff] at single
    obtain ⟨chunk, one⟩ := single
    rw [EncryptedMaterial.uploads, one] at head
    obtain rfl := Option.some.inj head
    rw [uploads, List.nil_append] at enveloped
    exact ⟨chunk, one, enveloped⟩

/-! ## Stored bytes -/

/-- The bytes that a plaintext takes when it is stored. -/
def storedSize (plainSize : Nat) : Nat := plainSize + pieceCount chunkBytes plainSize * minCipherSize

/-- The plaintext of the objects of a sealed capture. -/
def SealedUpload.plainBytes (upload : SealedUpload) : Nat :=
  (upload.manifest.objects.map fun object => object.descriptor.plainSize.toNat).sum

/-- The stored bytes of a sealed capture, by its plain objects and its manifest. -/
def SealedUpload.storedBytes (upload : SealedUpload) : Nat :=
  (upload.manifest.objects.map fun object => storedSize object.descriptor.plainSize.toNat).sum +
    ((Canonical.text upload.manifest).length + minCipherSize)

theorem SealsObject.sum_entries (correct : AeadCorrect) {request : SealRequest}
    {descriptor : LogicalObject} {bytes : Bytes} {material : EncryptedMaterial}
    (seals : SealsObject request descriptor bytes material) :
    (material.entries.map fun entry => entry.2.length).sum =
      storedSize material.object.descriptor.plainSize.toNat := by
  have lengths : material.stored.length ≤
      (material.uploads.map UploadObject.cipherDigest).length := by
    rw [EncryptedMaterial.uploads, List.length_map, List.length_map, seals.length]
  have stored : material.entries.map (fun entry => entry.2.length) =
      material.stored.map List.length := by
    calc material.entries.map (fun entry => entry.2.length)
        = (material.entries.map Prod.snd).map List.length := by rw [List.map_map]; rfl
      _ = material.stored.map List.length := by
          rw [EncryptedMaterial.entries, List.map_snd_zip lengths]
  rw [stored, seals.sum_stored correct, storedSize, seals.object, seals.size]

namespace Seals

variable {request : SealRequest} {upload : SealedUpload} {plaintext : OrderedMap ObjectId Bytes}
  {descriptors : List LogicalObject} {materials : List EncryptedMaterial}
  {last : EncryptedMaterial}

theorem manifest_objects
    (seals : Seals request upload plaintext descriptors materials last) :
    upload.manifest.objects = materials.map EncryptedMaterial.object :=
  buildManifest_objects seals.built

/-- The stored chunks have the bytes of the objects and of the manifest, and twenty-eight
bytes more each. -/
theorem sum_ciphertext (correct : AeadCorrect)
    (seals : Seals request upload plaintext descriptors materials last) :
    (upload.ciphertext.toList.map fun entry => entry.2.length).sum = upload.storedBytes := by
  have objects : ∀ material ∈ materials,
      (material.entries.map fun entry => entry.2.length).sum =
        storedSize material.object.descriptor.plainSize.toNat := by
    intro material listed
    obtain ⟨descriptor, -, bytes, -, one⟩ := exists_source seals.objects listed
    exact one.sum_entries correct
  have manifest : (last.entries.map fun entry => entry.2.length).sum =
      (Canonical.text upload.manifest).length + minCipherSize := by
    obtain ⟨descriptor, bytes, written, -, -, one⟩ := seals.manifest
    obtain ⟨chunk, single, -⟩ := seals.envelope
    obtain ⟨-, rfl⟩ := Canonical.bytes_eq_ok.mp written
    have count := one.length_chunks
    rw [single, List.length_singleton] at count
    rw [one.sum_entries correct, storedSize, one.object, one.size, ← count, one_mul]
    rfl
  have entries := OrderedMap.toList_perm_of_inserted seals.ciphertext
  calc (upload.ciphertext.toList.map fun entry => entry.2.length).sum
      = (((materials ++ [last]).flatMap EncryptedMaterial.entries).map
          fun entry => entry.2.length).sum := (entries.map _).sum_eq
    _ = ((materials ++ [last]).map fun material =>
          (material.entries.map fun entry => entry.2.length).sum).sum := by
        rw [List.map_flatMap, List.flatMap_def, List.sum_flatten, List.map_map]
        rfl
    _ = (materials.map fun material =>
          storedSize material.object.descriptor.plainSize.toNat).sum +
          ((Canonical.text upload.manifest).length + minCipherSize) := by
        rw [List.map_append, List.sum_append, List.map_congr_left objects, List.map_singleton,
          List.sum_singleton, manifest]
    _ = upload.storedBytes := by
        rw [SealedUpload.storedBytes, seals.manifest_objects, List.map_map]
        rfl

theorem validate_envelope
    (seals : Seals request upload plaintext descriptors materials last) :
    upload.envelope.validate = .ok () := by
  obtain ⟨chunk, -, built⟩ := seals.envelope
  simp only [buildEnvelope, bind_eq_ok, pure_eq_ok] at built
  obtain ⟨_, _, _, _, _, _, _, _, _, _, _, _, _, _, _, valid, same⟩ := built
  rwa [same] at valid

/-- The envelope has short canonical bytes. -/
theorem bytes_envelope
    (seals : Seals request upload plaintext descriptors materials last) :
    ∃ bytes, Canonical.bytes upload.envelope = .ok bytes ∧ bytes ≠ [] ∧
      bytes.length ≤ maxBatchDocumentBytes := by
  have valid := seals.validate_envelope
  simp only [UploadEnvelope.validate, bind_eq_ok, rejectIf_eq_ok, not_lt] at valid
  obtain ⟨_, _, _, _, _, _, _, _, _, _, _, _, _, _, _, _, _, _, bytes, written, _, short, _⟩ := valid
  refine ⟨bytes, written, ?_, short⟩
  obtain ⟨-, rfl⟩ := Canonical.bytes_eq_ok.mp written
  apply List.ne_nil_of_length_pos
  change 0 < (Canonical.text upload.envelope).length
  rw [Canonical.length_text]
  change 0 < UploadEnvelope.codec.size upload.envelope
  rw [UploadEnvelope.codec, Codec.size_record]
  omega

end Seals

end Reproit.Backend
