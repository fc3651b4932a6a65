/-
# When a capture is sealed

A prepared and described request is sealed exactly when its chunks are few enough and its
manifest is short enough.  Nothing else can be refused: the envelope is always short.
-/

import Reproit.Backend.SealedEnvelope

namespace Reproit.Backend

variable [Primitives] {request : SealRequest} {source : NonceSource} {nonce : Nat → Nonce}

/-- No object has more chunks than there may be in all. -/
theorem SealRequest.pieceCount_le (few : request.storedChunks ≤ 32768) {object : LogicalObject}
    (listed : object ∈ request.descriptors) :
    pieceCount chunkBytes object.plainSize.toNat ≤ 32767 := by
  have count : pieceCount chunkBytes object.plainSize.toNat ∈ request.descriptors.map
      fun object => pieceCount chunkBytes object.plainSize.toNat := List.mem_map_of_mem listed
  have part := List.single_le_sum (fun _ _ => Nat.zero_le _) _ count
  rw [SealRequest.storedChunks] at few
  omega

omit [Primitives] in
theorem insertAllNew_empty_nodup {entries : List (Digest × Bytes)}
    {ciphertext : OrderedMap Digest Bytes}
    (inserted : OrderedMap.insertAllNew ∅ entries = some ciphertext) :
    (entries.map Prod.fst).Nodup :=
  (OrderedMap.insertAllNew_eq_some.mp inserted).1

/-- The objects of a prepared request are encrypted. -/
theorem exists_encryptCaptureObjects (works : EncryptionWorks)
    (supplies : Supplies source nonce request.storedChunks) (prepared : request.Prepared)
    (few : request.storedChunks ≤ 32768) :
    ∃ plaintext material nonces, plainObjects request = .ok (plaintext, request.descriptors) ∧
      encryptObjects request source plaintext
        { ciphertext := ∅, encryptedObjects := [], uploadObjects := [] } .start request.sorted =
          .ok (material, nonces) ∧ nonces.Fresh nonce ∧
            Registered material.ciphertext nonces ∧ nonces.drawn + 1 = request.storedChunks := by
  obtain ⟨plaintext, gathered, found⟩ := prepared.exists_plainObjects
  have every : ∀ object ∈ request.sorted, Encryptable plaintext object := by
    intro object listed
    rw [(SealRequest.Prepared.perm_sorted request).mem_iff] at listed
    obtain ⟨bytes, present, digest, size⟩ := found object listed
    exact ⟨bytes, present, digest, size, size ▸ request.pieceCount_le few listed⟩
  have held : Registered (∅ : OrderedMap Digest Bytes) Nonces.start :=
    fun digest present => absurd present Std.ExtTreeMap.not_mem_empty
  have sum := ((SealRequest.Prepared.perm_sorted request).map fun object =>
    pieceCount chunkBytes object.plainSize.toNat).sum_eq
  have none : Nonces.start.drawn = 0 := rfl
  have left : Nonces.start.drawn + (request.sorted.map fun object =>
      pieceCount chunkBytes object.plainSize.toNat).sum ≤ request.storedChunks := by
    rw [sum, SealRequest.storedChunks, none]
    omega
  obtain ⟨material, nonces, ran, fresh, registered, drawn⟩ : ∃ material nonces,
      encryptObjects request source plaintext
        { ciphertext := ∅, encryptedObjects := [], uploadObjects := [] } .start request.sorted =
          .ok (material, nonces) ∧ nonces.Fresh nonce ∧ Registered material.ciphertext nonces ∧
            nonces.drawn = Nonces.start.drawn + _ :=
    exists_encryptObjects works supplies (Nonces.fresh_start nonce) request held every left
  refine ⟨plaintext, material, nonces, gathered, ran, fresh, registered, ?_⟩
  rw [drawn, sum, SealRequest.storedChunks, none]
  omega

/-- A manifest of at most one chunk is encrypted as one chunk. -/
theorem exists_encryptManifest (works : EncryptionWorks) {count : Nat}
    (supplies : Supplies source nonce count) {nonces : Nonces} (fresh : nonces.Fresh nonce)
    (left : nonces.drawn + 1 ≤ count) (request : SealRequest) {bytes : Bytes}
    (short : bytes.length ≤ chunkBytes) :
    ∃ material after descriptor chunk, encryptManifest request source nonces bytes =
      .ok (material, after) ∧ encryptObject request source nonces descriptor bytes =
        .ok (material, after) ∧ material.object.chunks = [chunk] := by
  have sized : (UInt64.ofNat bytes.length).toNat = bytes.length :=
    UInt64.toNat_ofNat_of_lt' (short.trans_lt (by decide))
  have one : pieceCount chunkBytes bytes.length = 1 := by
    rw [← length_pieceSizes, pieceSizes_of_le short, List.length_singleton]
  obtain ⟨descriptor, built⟩ : ∃ descriptor : LogicalObject, descriptor =
      { mediaType := "application/reproit-capture-batch+json"
        objectId := request.ids.manifestObjectId
        plainDigest := Digest.of bytes
        plainSize := UInt64.ofNat bytes.length
        role := .captureBatchManifest } := ⟨_, rfl⟩
  have digest : descriptor.plainDigest = Digest.of bytes := built ▸ rfl
  have size : descriptor.plainSize.toNat = bytes.length := built ▸ sized
  obtain ⟨material, after, encrypted, -⟩ := exists_encryptObject works supplies fresh request
    digest size (one.trans_le (by decide)) (one ▸ left)
  obtain ⟨seals, -⟩ := encryptObject_sealed encrypted
  obtain ⟨chunk, single⟩ := List.length_eq_one_iff.mp (seals.length_chunks.trans one)
  refine ⟨material, after, descriptor, chunk, ?_, encrypted, single⟩
  subst built
  simp only [encryptManifest, bind_eq_ok, okOr_eq_ok, uint64OfNat_eq_some, rejectIf_eq_ok,
    pure_eq_ok, Prod.exists, not_not]
  refine ⟨_, sized, material, after, encrypted, (), ?_, rfl⟩
  rw [EncryptedMaterial.uploads, single]
  rfl

/-- A request is sealed exactly when it has few enough chunks and a short manifest. -/
theorem exists_sealUpload_iff (works : EncryptionWorks)
    (supplies : Supplies source nonce request.storedChunks) (prepared : request.Prepared)
    (described : request.Described) :
    (∃ upload, sealUpload request source = .ok upload) ↔
      request.storedChunks ≤ 32768 ∧ request.manifestBytes ≤ maxBatchDocumentBytes := by
  constructor
  · intro ⟨upload, ran⟩
    obtain ⟨plaintext, descriptors, materials, last, seals⟩ := sealUpload_sealed ran
    obtain ⟨other, gathered, -⟩ := prepared.exists_plainObjects
    obtain ⟨rfl, rfl⟩ := Prod.mk.inj (Except.ok.inj (seals.gathered.symm.trans gathered))
    exact ((SealRequest.Prepared.buildManifest_iff works.correct prepared seals.objects).mp
      seals.built).2
  · intro ⟨few, short⟩
    obtain ⟨plaintext, material, nonces, gathered, encrypted, fresh, registered, drawn⟩ :=
      exists_encryptCaptureObjects works supplies prepared few
    obtain ⟨materials, all, inserted, objects, uploads, first, drew, texts⟩ :=
      encryptObjects_sealed encrypted
    have built := (SealRequest.Prepared.buildManifest_iff works.correct prepared all).mpr
      ⟨rfl, few, short⟩
    have exact := (SealRequest.Prepared.wellFormed works.correct prepared all).exact
    have length : (Canonical.text (request.manifest
        (materials.map EncryptedMaterial.object))).length ≤ chunkBytes := by
      rw [CaptureBatchManifest.length_text,
        SealRequest.Prepared.documentBytes_manifest works.correct all]
      exact short
    obtain ⟨last, after, descriptor, chunk, sealedManifest, ran, single⟩ :=
      exists_encryptManifest works supplies fresh drawn.le request length
    obtain ⟨sealsLast, others, draws, rest⟩ := encryptObject_sealed ran
    obtain ⟨ciphertext, appended, -⟩ := exists_appendCiphertext works sealsLast draws rest
      fresh.nodup registered
    have stores : StoresAll request plaintext materials last chunk := by
      constructor
      case all => exact all
      case single => exact single
      case manifest => exact ⟨descriptor, _, sealsLast⟩
      case digests =>
        have whole : OrderedMap.insertAllNew ∅
            ((materials ++ [last]).flatMap EncryptedMaterial.entries) = some ciphertext := by
          rw [List.flatMap_append, OrderedMap.insertAllNew_append, inserted,
            List.flatMap_singleton]
          exact appendCiphertext_eq_ok.mp appended
        exact insertAllNew_empty_nodup whole
      case nonces =>
        refine ⟨first ++ others, ?_, ?_⟩
        · exact (Nonces.draws_append.mpr ⟨_, drew, draws⟩).nodup_of_start
        · rw [List.flatMap_append, texts, List.flatMap_singleton, List.map_append]
          exact congrArg _ rest
    obtain ⟨envelope, enveloped⟩ :=
      stores.exists_buildEnvelope works.correct prepared described few short
    refine ⟨⟨ciphertext, envelope, request.manifest (materials.map EncryptedMaterial.object)⟩, ?_⟩
    rw [List.nil_append] at objects uploads
    simp only [sealUpload, encryptCaptureObjects, bind_eq_ok, okOr_eq_ok, pure_eq_ok, Prod.exists,
      Prod.mk.injEq]
    refine ⟨(), prepared.ids, _, nonces, ⟨plaintext, _, gathered, material, nonces, encrypted, rfl,
      rfl⟩, _, ?_, _, Canonical.bytes_of_exact exact, last, after, sealedManifest, ciphertext,
      appended, ?_⟩
    · rw [objects, insertionSort_objects all]
      exact built
    · refine ⟨{ cipherDigest := chunk.cipherDigest
                cipherSize := chunk.cipherSize
                nonce := chunk.nonce }, ?_, envelope, ?_, rfl⟩
      · rw [EncryptedMaterial.uploads, single]
        rfl
      · rw [uploads]
        exact enveloped

/-- The manifest lists the descriptors of the request. -/
theorem perm_descriptors (prepared : request.Prepared) {upload : SealedUpload}
    (ran : sealUpload request source = .ok upload) :
    (upload.manifest.objects.map EncryptedObject.descriptor).Perm request.descriptors := by
  obtain ⟨plaintext, descriptors, materials, last, seals⟩ := sealUpload_sealed ran
  obtain ⟨other, gathered, -⟩ := prepared.exists_plainObjects
  obtain ⟨rfl, rfl⟩ := Prod.mk.inj (Except.ok.inj (seals.gathered.symm.trans gathered))
  rw [seals.manifest_objects, SealRequest.Prepared.map_descriptor seals.objects]
  exact SealRequest.Prepared.perm_sorted request

/-- The manifest has the bytes that the request gives it. -/
theorem length_text_manifest (correct : AeadCorrect) (prepared : request.Prepared)
    {upload : SealedUpload} (ran : sealUpload request source = .ok upload) :
    (Canonical.text upload.manifest).length = request.manifestBytes ∧
      request.manifestBytes ≤ maxBatchDocumentBytes := by
  obtain ⟨plaintext, descriptors, materials, last, seals⟩ := sealUpload_sealed ran
  obtain ⟨other, gathered, -⟩ := prepared.exists_plainObjects
  obtain ⟨rfl, rfl⟩ := Prod.mk.inj (Except.ok.inj (seals.gathered.symm.trans gathered))
  obtain ⟨built, -, short⟩ :=
    (SealRequest.Prepared.buildManifest_iff correct prepared seals.objects).mp seals.built
  refine ⟨?_, short⟩
  rw [built, CaptureBatchManifest.length_text,
    SealRequest.Prepared.documentBytes_manifest correct seals.objects]

end Reproit.Backend
