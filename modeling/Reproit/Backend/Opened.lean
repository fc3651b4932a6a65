/-
# What an opened capture holds

A capture that is opened was stored exactly: every blob is the one that the envelope names, and
every blob but that of the manifest is one chunk of one object.  So an object that is opened
alone, with its own blobs only, gives the same bytes as the whole capture.
-/

import Reproit.Backend.Open
import Reproit.Core.CaptureBatch

namespace Reproit

/-! ## Lists of lists -/

section Positions

variable {α β γ : Type} {outer : List α} {inner : α → List β} {key : β → γ}

theorem disjoint_of_lt (distinct : ((outer.flatMap inner).map key).Nodup) {first second : Nat}
    (below : first < second) {here there : α} (found : outer[first]? = some here)
    (others : outer[second]? = some there) {item other : β} (listed : item ∈ inner here)
    (among : other ∈ inner there) : key item ≠ key other := by
  rw [List.map_flatMap, List.nodup_flatMap, List.pairwise_iff_getElem] at distinct
  obtain ⟨inside, rfl⟩ := List.getElem?_eq_some_iff.mp found
  obtain ⟨within, rfl⟩ := List.getElem?_eq_some_iff.mp others
  intro same
  have apart := distinct.2 first second inside within below
  exact apart (List.mem_map_of_mem listed) (same ▸ List.mem_map_of_mem among)

/-- Without repetition a key is at one position. -/
theorem position_eq (distinct : ((outer.flatMap inner).map key).Nodup) {first second : Nat × Nat}
    {here there : α} {item other : β} (found : outer[first.1]? = some here)
    (listed : (inner here)[first.2]? = some item) (others : outer[second.1]? = some there)
    (among : (inner there)[second.2]? = some other) (same : key item = key other) :
    first = second := by
  have outside : first.1 = second.1 := by
    by_contra different
    rcases Nat.lt_or_gt_of_ne different with below | above
    · exact disjoint_of_lt distinct below found others (List.mem_of_getElem? listed)
        (List.mem_of_getElem? among) same
    · exact disjoint_of_lt distinct above others found (List.mem_of_getElem? among)
        (List.mem_of_getElem? listed) same.symm
  rw [outside, others] at found
  obtain rfl := Option.some.inj found
  rw [List.map_flatMap, List.nodup_flatMap] at distinct
  have once := distinct.1 _ (List.mem_of_getElem? others)
  have inside : first.2 < ((inner there).map key).length := by
    rw [List.length_map]
    exact (List.getElem?_eq_some_iff.mp listed).1
  have equal : ((inner there).map key)[first.2]? = ((inner there).map key)[second.2]? := by
    rw [List.getElem?_map, List.getElem?_map, listed, among]
    exact congrArg some same
  exact Prod.ext outside ((List.getElem?_inj inside once).mp equal)

end Positions

theorem collect_congr {ε α γ : Type} {items : List γ} {compute other : γ → Except ε α}
    (same : ∀ item ∈ items, compute item = other item) :
    collect items compute = collect items other := by
  induction items with
  | nil => rfl
  | cons item rest ih =>
      rw [collect, collect, same item List.mem_cons_self,
        ih fun later listed => same later (List.mem_cons_of_mem _ listed)]

namespace Backend

variable [Primitives]

/-! ## Stored blobs -/

/-- The stored blob is the one that is told of. -/
structure IsBlob (stored : Bytes) (digest : Digest) (size : UInt64) (nonce : String) : Prop where
  hashed : Digest.of stored = digest
  sized : stored.length = size.toNat
  led : ∃ bytes : Nonce, nonce = encodeBase64Url bytes.toList ∧ stored.take 12 = bytes.toList

theorem validateStoredBlob_eq_ok {ciphertext : OrderedMap Digest Bytes} {digest : Digest}
    {size : UInt64} {nonce : String} :
    validateStoredBlob ciphertext digest size nonce = .ok () ↔
      ∃ stored, ciphertext[digest]? = some stored ∧ IsBlob stored digest size nonce := by
  simp only [validateStoredBlob, bind_eq_ok, okOr_eq_ok, rejectIf_eq_ok, uint64OfNat_eq_some,
    decodeBase64Url_eq_ok, not_not]
  constructor
  · rintro ⟨stored, found, _, hashed, _, sized, _, same, bytes, text, led⟩
    exact ⟨stored, found, hashed, same ▸ sized.symm, bytes, text, led⟩
  · rintro ⟨stored, found, blob⟩
    obtain ⟨bytes, text, led⟩ := blob.led
    exact ⟨stored, found, (), blob.hashed, size, blob.sized.symm, (), rfl, bytes, text, led⟩

/-- The stored blobs are exactly the ones that the envelope names. -/
structure HoldsBlobs (envelope : UploadEnvelope) (ciphertext : OrderedMap Digest Bytes) :
    Prop where
  distinct : ((storedBlobs envelope).map Prod.fst).Nodup
  named : ∀ digest, digest ∈ ciphertext ↔ digest ∈ (storedBlobs envelope).map Prod.fst
  blobs : ∀ blob ∈ storedBlobs envelope, ∃ stored,
    ciphertext[blob.1]? = some stored ∧ IsBlob stored blob.1 blob.2.1 blob.2.2

omit [Primitives] in
theorem map_fst_storedBlobs (envelope : UploadEnvelope) :
    (storedBlobs envelope).map Prod.fst = envelope.manifestObject.cipherDigest ::
      envelope.objects.map UploadObject.cipherDigest := by
  rw [storedBlobs, List.map_cons, List.map_map]
  rfl

/-- A blob that is held is stored. -/
theorem mem_of_validateStoredBlob {ciphertext : OrderedMap Digest Bytes}
    {blob : Digest × UInt64 × String}
    (valid : validateStoredBlob ciphertext blob.1 blob.2.1 blob.2.2 = .ok ()) :
    blob.1 ∈ ciphertext := by
  obtain ⟨stored, found, -⟩ := validateStoredBlob_eq_ok.mp valid
  rw [Std.ExtTreeMap.mem_iff_isSome_getElem?, found]
  rfl

theorem validateCiphertextClosure_eq_ok {envelope : UploadEnvelope}
    {ciphertext : OrderedMap Digest Bytes} :
    validateCiphertextClosure envelope ciphertext = .ok () ↔
      envelope.Valid ∧ HoldsBlobs envelope ciphertext := by
  have closed := @OrderedMap.exists_closed_iff _ _ _ _ (storedBlobs envelope) ciphertext _
    fun _ => mem_of_validateStoredBlob
  simp only [validateCiphertextClosure, bind_eq_ok, okOr_eq_ok, rejectIf_eq_ok, forEach_eq_ok,
    not_not]
  constructor
  · rintro ⟨_, valid, expected, inserted, _, size, each⟩
    obtain ⟨distinct, named, blobs⟩ := closed.mp ⟨expected, inserted, size, each⟩
    exact ⟨UploadEnvelope.validate_eq_ok.mp valid, distinct, named,
      fun blob among => validateStoredBlob_eq_ok.mp (blobs blob among)⟩
  · rintro ⟨valid, holds⟩
    obtain ⟨expected, inserted, size, each⟩ := closed.mpr ⟨holds.distinct, holds.named,
      fun blob among => validateStoredBlob_eq_ok.mpr (holds.blobs blob among)⟩
    exact ⟨(), UploadEnvelope.validate_eq_ok.mpr valid, expected, inserted, (), size, each⟩

/-! ## The opened manifest -/

/-- The manifest is well formed and is the one of the envelope. -/
structure ManifestBound (envelope : UploadEnvelope) (manifest : CaptureBatchManifest) : Prop where
  valid : envelope.Valid
  formed : manifest.WellFormed
  binding : validateEnvelopeManifestBinding envelope manifest = .ok ()
  uploads : payloadUploads manifest = envelope.objects

theorem manifestBound_of_openManifest {envelope : UploadEnvelope} {verificationKey occurrenceKey : SecretKey}
    {stored : Bytes} {manifest : CaptureBatchManifest}
    (opened : openManifest envelope verificationKey occurrenceKey stored = .ok manifest) :
    ManifestBound envelope manifest := by
  simp only [openManifest, bind_eq_ok, pure_eq_ok] at opened
  obtain ⟨_, valid, _, -, _, -, _, -, _, -, _, -, _, -, _, -, _, bound, _, binding, _, uploads,
    rfl⟩ := opened
  simp only [validateManifestBinding, bind_eq_ok] at bound
  obtain ⟨_, formed, -⟩ := bound
  rw [validatePayloadUploads, rejectIf_eq_ok, not_not] at uploads
  constructor
  case valid => exact UploadEnvelope.validate_eq_ok.mp valid
  case formed => exact (CaptureBatchManifest.validate_eq_ok.mp formed).1
  case binding => exact binding
  case uploads => exact uploads

omit [Primitives] in
/-- What is told of the chunks of a manifest is told of its uploads. -/
theorem perm_map_payloadUploads {γ : Type} (manifest : CaptureBatchManifest)
    {ofUpload : UploadObject → γ} {ofChunk : EncryptedChunk → γ}
    (same : ∀ chunk : EncryptedChunk, ofUpload ⟨chunk.cipherDigest, chunk.cipherSize,
      chunk.nonce⟩ = ofChunk chunk) :
    ((payloadUploads manifest).map ofUpload).Perm
      ((manifest.objects.flatMap EncryptedObject.chunks).map ofChunk) := by
  refine ((List.perm_insertionSort _ _).map ofUpload).trans ?_
  rw [List.map_map]
  exact (List.map_congr_left fun chunk _ => same chunk) ▸ .refl _

/-! ## The opened objects -/

theorem decryptObject_eq_ok {envelope : UploadEnvelope} {occurrenceKey : SecretKey}
    {encrypted : EncryptedObject} {ciphertext : OrderedMap Digest Bytes} {bytes : Bytes} :
    decryptObject envelope occurrenceKey encrypted ciphertext = .ok bytes ↔
      (∃ objectKey objectContextDigest chunkCount plaintexts,
        deriveObjectKey occurrenceKey envelope.captureId
          (openedObjectContext envelope encrypted.descriptor) = .ok objectKey ∧
        Canonical.digest (openedObjectContext envelope encrypted.descriptor) =
          .ok objectContextDigest ∧
        chunkCount.toNat = encrypted.chunks.length ∧
        List.Forall₂ (fun chunk plaintext => decryptPiece objectKey objectContextDigest chunkCount
          ciphertext chunk = .ok plaintext) encrypted.chunks plaintexts ∧
        bytes = plaintexts.flatten) ∧
      encrypted.descriptor.plainSize.toNat = bytes.length ∧
        encrypted.descriptor.plainDigest = Digest.of bytes := by
  simp only [decryptObject, bind_eq_ok, okOr_eq_ok, collect_eq_ok, uint32OfNat_eq_some,
    uint64OfNat_eq_some, rejectIf_eq_ok, pure_eq_ok, not_or, not_not]
  constructor
  · rintro ⟨objectKey, derived, objectContextDigest, written, chunkCount, counted, plaintexts,
      each, size, sized, _, ⟨same, hashed⟩, rfl⟩
    exact ⟨⟨objectKey, objectContextDigest, chunkCount, plaintexts, derived, written, counted,
      each, rfl⟩, same ▸ sized, hashed.symm⟩
  · rintro ⟨⟨objectKey, objectContextDigest, chunkCount, plaintexts, derived, written, counted,
      each, rfl⟩, sized, hashed⟩
    exact ⟨objectKey, derived, objectContextDigest, written, chunkCount, counted, plaintexts, each,
      _, sized, (), ⟨rfl, hashed.symm⟩, rfl⟩

/-- Only the blobs of the object matter. -/
theorem decryptObject_congr {envelope : UploadEnvelope} {occurrenceKey : SecretKey}
    {encrypted : EncryptedObject} {first second : OrderedMap Digest Bytes}
    (same : ∀ chunk ∈ encrypted.chunks, first[chunk.cipherDigest]? = second[chunk.cipherDigest]?) :
    decryptObject envelope occurrenceKey encrypted first =
      decryptObject envelope occurrenceKey encrypted second := by
  have pieces : ∀ objectKey objectContextDigest chunkCount,
      collect encrypted.chunks (decryptPiece objectKey objectContextDigest chunkCount first) =
        collect encrypted.chunks (decryptPiece objectKey objectContextDigest chunkCount second) := by
    intro objectKey objectContextDigest chunkCount
    apply collect_congr
    intro chunk listed
    rw [decryptPiece, decryptPiece, same chunk listed]
  simp only [decryptObject, pieces]

theorem decryptObjects_eq_ok {envelope : UploadEnvelope} {occurrenceKey : SecretKey}
    {ciphertext : OrderedMap Digest Bytes} {before after : OrderedMap ObjectId Bytes}
    {objects : List EncryptedObject} :
    decryptObjects envelope occurrenceKey ciphertext before objects = .ok after ↔
      ∃ plaintexts, List.Forall₂ (fun object bytes =>
        decryptObject envelope occurrenceKey object ciphertext = .ok bytes) objects plaintexts ∧
          before.insertAllNew ((objects.map fun object =>
            object.descriptor.objectId).zip plaintexts) = some after := by
  induction objects generalizing before with
  | nil =>
      rw [decryptObjects]
      constructor
      · intro done
        obtain rfl := Except.ok.inj done
        exact ⟨[], .nil, rfl⟩
      · rintro ⟨plaintexts, every, inserted⟩
        cases every
        exact congrArg Except.ok (Option.some.inj inserted)
  | cons object rest ih =>
      simp only [decryptObjects, bind_eq_ok, okOr_eq_ok, ih]
      constructor
      · rintro ⟨bytes, decrypted, between, inserted, plaintexts, every, others⟩
        refine ⟨bytes :: plaintexts, .cons decrypted every, ?_⟩
        rw [List.map_cons, List.zip_cons_cons, OrderedMap.insertAllNew, List.foldlM_cons, inserted]
        exact others
      · rintro ⟨plaintexts, every, inserted⟩
        cases every with
        | @cons _ bytes _ plaintexts decrypted every =>
            rw [List.map_cons, List.zip_cons_cons, OrderedMap.insertAllNew, List.foldlM_cons,
              Option.bind_eq_bind, Option.bind_eq_some_iff] at inserted
            obtain ⟨between, first, others⟩ := inserted
            exact ⟨bytes, decrypted, between, first, plaintexts, every, others⟩

end Backend

end Reproit
