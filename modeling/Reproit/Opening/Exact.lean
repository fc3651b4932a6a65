/-
# Every blob is used once

The blobs of an opened capture are the ones of its envelope, and all but that of the manifest
are the chunks of its manifest, in another order.  A digest is named once, so every blob is one
chunk of one object.  The blobs of one object are enough to open it alone, with the same bytes.
-/

import Reproit.Opening.RoundTrip

namespace Reproit

/-- Among different keys the first with a key is the only one. -/
theorem find?_key_eq_some {α κ : Type} [DecidableEq κ] {items : List α} {key : α → κ} {item : α}
    (distinct : (items.map key).Nodup) (listed : item ∈ items) :
    items.find? (fun other => key other = key item) = some item := by
  induction items with
  | nil => cases listed
  | cons first rest ih =>
      rw [List.map_cons, List.nodup_cons] at distinct
      rcases List.mem_cons.mp listed with rfl | later
      · exact List.find?_cons_of_pos (decide_eq_true rfl)
      · have other : key first ≠ key item := fun same =>
          distinct.1 (same ▸ List.mem_map_of_mem later)
        rw [List.find?_cons_of_neg (by rwa [decide_eq_true_eq])]
        exact ih distinct.2 later

/-- The chunk at a position of the manifest has the digest. -/
def CaptureBatchManifest.UsesAt (manifest : CaptureBatchManifest) (digest : Digest)
    (position : Nat × Nat) : Prop :=
  ∃ object chunk, manifest.objects[position.1]? = some object ∧
    object.chunks[position.2]? = some chunk ∧ chunk.cipherDigest = digest

namespace Backend

variable [Primitives]

/-- The capture is opened exactly, and every object of it can be opened alone. -/
structure OpensExactly (envelope : UploadEnvelope) (occurrenceKey : SecretKey)
    (ciphertext : OrderedMap Digest Bytes) (capture : OpenedCapture) : Prop where
  named : ∀ digest, digest ∈ ciphertext ↔ digest = envelope.manifestObject.cipherDigest ∨
    digest ∈ envelope.objects.map UploadObject.cipherDigest
  used : ∀ digest ∈ ciphertext, digest ≠ envelope.manifestObject.cipherDigest →
    ∃! position, capture.manifest.UsesAt digest position
  returned : ∀ objectId bytes, capture.objects[objectId]? = some bytes →
    ∃ object ∈ capture.manifest.objects, object.descriptor.objectId = objectId ∧
      object.descriptor.plainSize.toNat = bytes.length ∧
        object.descriptor.plainDigest = Digest.of bytes
  alone : ∀ object ∈ capture.manifest.objects, ∃ bytes,
    capture.objects[object.descriptor.objectId]? = some bytes ∧
      openCaptureObject envelope occurrenceKey capture.manifest object.descriptor.objectId
        (ciphertext.restrict (object.chunks.map EncryptedChunk.cipherDigest)) = .ok bytes

/-! ## The digests of the chunks -/

namespace ManifestBound

variable {envelope : UploadEnvelope} {manifest : CaptureBatchManifest}
  {ciphertext : OrderedMap Digest Bytes}

omit [Primitives] in
/-- The digests of the chunks are those that the envelope names. -/
theorem perm_digests (manifest : CaptureBatchManifest) :
    ((payloadUploads manifest).map UploadObject.cipherDigest).Perm
      ((manifest.objects.flatMap EncryptedObject.chunks).map EncryptedChunk.cipherDigest) :=
  perm_map_payloadUploads manifest fun _ => rfl

/-- No digest is named twice. -/
theorem nodup_digests (bound : ManifestBound envelope manifest) (holds : HoldsBlobs envelope ciphertext) :
    ((manifest.objects.flatMap EncryptedObject.chunks).map EncryptedChunk.cipherDigest).Nodup := by
  have distinct := holds.distinct
  rw [map_fst_storedBlobs, ← bound.uploads] at distinct
  exact (perm_digests manifest).nodup_iff.mp (List.nodup_cons.mp distinct).2

/-- A blob that is not the manifest is one chunk. -/
theorem used (bound : ManifestBound envelope manifest) (holds : HoldsBlobs envelope ciphertext)
    {digest : Digest} (present : digest ∈ ciphertext)
    (other : digest ≠ envelope.manifestObject.cipherDigest) :
    ∃! position, manifest.UsesAt digest position := by
  rw [holds.named, map_fst_storedBlobs, List.mem_cons, or_iff_right other, ← bound.uploads,
    (perm_digests manifest).mem_iff] at present
  obtain ⟨chunk, listed, rfl⟩ := List.mem_map.mp present
  obtain ⟨object, among, inside⟩ := List.mem_flatMap.mp listed
  obtain ⟨first, found⟩ := List.mem_iff_getElem?.mp among
  obtain ⟨second, here⟩ := List.mem_iff_getElem?.mp inside
  refine ⟨(first, second), ⟨object, chunk, found, here, rfl⟩, ?_⟩
  intro position ⟨there, same, at', within, digest⟩
  exact position_eq (bound.nodup_digests holds) at' within found here digest

/-- Every chunk of the manifest is stored. -/
theorem mem_ciphertext (bound : ManifestBound envelope manifest) (holds : HoldsBlobs envelope ciphertext)
    {object : EncryptedObject} (listed : object ∈ manifest.objects) {chunk : EncryptedChunk}
    (inside : chunk ∈ object.chunks) : chunk.cipherDigest ∈ ciphertext := by
  rw [holds.named, map_fst_storedBlobs, ← bound.uploads]
  apply List.mem_cons_of_mem
  rw [(perm_digests manifest).mem_iff]
  exact List.mem_map_of_mem (List.mem_flatMap.mpr ⟨object, listed, inside⟩)

/-- An object is opened alone as it is opened with the others. -/
theorem openCaptureObject_eq (bound : ManifestBound envelope manifest)
    (holds : HoldsBlobs envelope ciphertext) (occurrenceKey : SecretKey)
    {object : EncryptedObject} (listed : object ∈ manifest.objects) :
    openCaptureObject envelope occurrenceKey manifest object.descriptor.objectId
        (ciphertext.restrict (object.chunks.map EncryptedChunk.cipherDigest)) =
      decryptObject envelope occurrenceKey object ciphertext := by
  have uploads : validatePayloadUploads envelope manifest = .ok () :=
    rejectIf_of_not _ (not_not.mpr bound.uploads)
  have first : manifest.objects.find? (fun other =>
      other.descriptor.objectId = object.descriptor.objectId) = some object := by
    have distinct : (manifest.objects.map fun object => object.descriptor.objectId).Nodup :=
      bound.formed.ordered.imp fun below => ne_of_lt below
    exact find?_key_eq_some distinct listed
  have once : (object.chunks.map EncryptedChunk.cipherDigest).Nodup := by
    have distinct := bound.nodup_digests holds
    rw [List.map_flatMap, List.nodup_flatMap] at distinct
    exact distinct.1 object listed
  have keys : (ciphertext.restrict (object.chunks.map EncryptedChunk.cipherDigest)).keys =
      sortDedup (object.chunks.map EncryptedChunk.cipherDigest) := by
    apply OrderedMap.keys_eq_of_ascending (pairwise_sortDedup _)
    intro digest
    rw [mem_sortDedup, OrderedMap.mem_restrict]
    refine (and_iff_left_of_imp fun named => ?_).symm
    obtain ⟨chunk, inside, rfl⟩ := List.mem_map.mp named
    exact bound.mem_ciphertext holds listed inside
  have exact : rejectIf (¬ (object.chunks.map EncryptedChunk.cipherDigest).Nodup ∨
      (ciphertext.restrict (object.chunks.map EncryptedChunk.cipherDigest)).keys ≠
        sortDedup (object.chunks.map EncryptedChunk.cipherDigest)) Error.objectDigestMismatch =
      .ok () := rejectIf_of_not _ (not_or.mpr ⟨not_not.mpr once, not_not.mpr keys⟩)
  rw [openCaptureObject, bound.binding, ok_bind, uploads, ok_bind, first]
  change (rejectIf _ _ >>= fun _ => _) = _
  rw [exact, ok_bind]
  apply decryptObject_congr
  intro chunk inside
  exact OrderedMap.getElem?_restrict (List.mem_map_of_mem inside)

end ManifestBound

/-! ## Exact opening -/

/-- Opening is exact, and an object that is opened alone gives the same bytes. -/
theorem opensExactly_of_openCapture {envelope : UploadEnvelope}
    {verificationKey occurrenceKey : SecretKey} {ciphertext : OrderedMap Digest Bytes}
    {capture : OpenedCapture} (opened : openCapture envelope verificationKey occurrenceKey
      ciphertext = .ok capture) : OpensExactly envelope occurrenceKey ciphertext capture := by
  simp only [openCapture, bind_eq_ok, okOr_eq_ok, pure_eq_ok] at opened
  obtain ⟨_, closed, stored, -, manifest, manifestOpened, objects, decrypted, rfl⟩ := opened
  have holds := (validateCiphertextClosure_eq_ok.mp closed).2
  have bound := manifestBound_of_openManifest manifestOpened
  obtain ⟨plaintexts, every, inserted⟩ := decryptObjects_eq_ok.mp decrypted
  obtain ⟨-, -, found⟩ := OrderedMap.insertAllNew_eq_some.mp inserted
  obtain ⟨lengths, decryptedEach⟩ := List.forall₂_iff_zip.mp every
  have lookup : ∀ objectId bytes, objects[objectId]? = some bytes ↔ (objectId, bytes) ∈
      (manifest.objects.zip plaintexts).map fun pair => (pair.1.descriptor.objectId, pair.2) := by
    intro objectId bytes
    rw [found, Std.ExtTreeMap.getElem?_empty, or_iff_left (Option.some_ne_none bytes).symm, List.zip_map_left]
    rfl
  constructor
  case named =>
    intro digest
    rw [holds.named, map_fst_storedBlobs, List.mem_cons]
  case used => exact fun digest present other => bound.used holds present other
  case returned =>
    intro objectId bytes held
    rw [lookup] at held
    obtain ⟨⟨object, plaintext⟩, pair, same⟩ := List.mem_map.mp held
    obtain ⟨rfl, rfl⟩ := Prod.mk.inj same
    obtain ⟨-, size, digest⟩ := decryptObject_eq_ok.mp (decryptedEach pair)
    exact ⟨object, (List.of_mem_zip pair).1, rfl, size, digest⟩
  case alone =>
    intro object listed
    rw [← List.map_fst_zip lengths.le] at listed
    obtain ⟨⟨object, bytes⟩, pair, rfl⟩ := List.mem_map.mp listed
    refine ⟨bytes, (lookup _ _).mpr (List.mem_map.mpr ⟨_, pair, rfl⟩), ?_⟩
    rw [bound.openCaptureObject_eq holds occurrenceKey (List.of_mem_zip pair).1]
    exact decryptedEach pair

omit [Primitives] in
/-- The sample capture is opened exactly. -/
theorem opensExactly_of_openCapture_sample :
    letI := Sample.marked
    ∃ upload capture, sealUpload (Sample.sealRequest []) Sample.nonceSource = .ok upload ∧
      openCapture upload.envelope (Vector.replicate 32 0)
        (Sample.sealRequest []).occurrenceKey upload.ciphertext = .ok capture ∧
      OpensExactly upload.envelope (Sample.sealRequest []).occurrenceKey upload.ciphertext
        capture := by
  let _ := Sample.marked
  obtain ⟨upload, ran⟩ := @Sample.exists_sealUpload [] (Nat.zero_le _)
  obtain ⟨plaintext, descriptors, materials, last, seals⟩ := sealUpload_sealed ran
  obtain ⟨objects, opened, -⟩ := seals.openCapture Sample.encryptionWorks.correct
    (seals.verifies rfl Sample.signs)
  exact ⟨upload, _, ran, opened, opensExactly_of_openCapture opened⟩

end Backend

end Reproit
