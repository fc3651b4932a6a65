/-
# When objects can be encrypted

When the source yields enough different nonces, the supplied functions encrypt every chunk and
stored chunks under different nonces have different digests, every closed object of not too
many chunks is encrypted.
-/

import Reproit.Backend.Sealed

namespace Reproit.Backend

/-! ## Nonces -/

/-- The source yields a number of different nonces. -/
structure Supplies (source : NonceSource) (nonce : Nat → Nonce) (count : Nat) : Prop where
  answers : ∀ index < count, source index = .ok (nonce index)
  distinct : ∀ first < count, ∀ second < count, nonce first = nonce second → first = second

/-- The registered nonces are different ones that the source has yielded. -/
structure Nonces.Fresh (nonce : Nat → Nonce) (nonces : Nonces) : Prop where
  yielded : ∀ used ∈ nonces.registry.used, ∃ index < nonces.drawn, used = nonce index
  nodup : nonces.registry.used.Nodup

theorem Nonces.fresh_start (nonce : Nat → Nonce) : Nonces.start.Fresh nonce :=
  ⟨fun _ listed => (List.not_mem_nil listed).elim, List.nodup_nil⟩

theorem exists_next {source : NonceSource} {nonce : Nat → Nonce} {count : Nat} {nonces : Nonces}
    (supplies : Supplies source nonce count) (fresh : nonces.Fresh nonce)
    (left : nonces.drawn < count) :
    ∃ drawn after, nonces.next source = .ok (drawn, after) ∧ after.Fresh nonce ∧
      after.drawn = nonces.drawn + 1 := by
  have new : nonce nonces.drawn ∉ nonces.registry.used := by
    intro used
    obtain ⟨index, below, same⟩ := fresh.yielded _ used
    have equal := supplies.distinct _ left _ (below.trans left) same
    omega
  refine ⟨_, _, Nonces.next_eq_ok.mpr ⟨supplies.answers _ left, new, rfl⟩, ?_, rfl⟩
  constructor
  case yielded =>
    intro used listed
    rcases List.mem_cons.mp listed with rfl | earlier
    · exact ⟨nonces.drawn, Nat.lt_succ_self _, rfl⟩
    · obtain ⟨index, below, same⟩ := fresh.yielded used earlier
      exact ⟨index, Nat.lt_succ_of_lt below, same⟩
  case nodup => exact List.nodup_cons.mpr ⟨new, fresh.nodup⟩

variable [Primitives]

/-! ## Encryption -/

/-- The supplied functions encrypt every chunk, and stored chunks under different nonces have
different digests. -/
structure EncryptionWorks : Prop where
  correct : AeadCorrect
  encrypts : ∀ (key : SecretKey) (nonce : Nonce) (message aad : Bytes),
    message.length ≤ chunkBytes → ∃ encrypted,
      Primitives.aesGcmEncrypt key nonce message aad = some encrypted
  digests : ∀ (first second : Nonce) (message other : Bytes),
    Digest.of (first.toList ++ message) = Digest.of (second.toList ++ other) → first = second

omit [Primitives] in
theorem validate_chunkContext {context : ChunkKeyContext} {chunkCount chunkIndex plainSize : Nat}
    {objectContextDigest : Digest}
    (same : IsChunkContext context objectContextDigest chunkCount chunkIndex plainSize)
    (few : chunkCount ≤ 32767) (inside : chunkIndex < chunkCount) (small : plainSize ≤ chunkBytes) :
    context.validate = .ok () := by
  have count : (32767 : UInt32).toNat = 32767 := rfl
  have size : (8388608 : UInt64).toNat = chunkBytes := rfl
  rw [ChunkKeyContext.validate, rejectIf_eq_ok _ _ (), gt_iff_lt, gt_iff_lt, ge_iff_le,
    ← UInt32.toNat_inj, UInt32.lt_iff_toNat_lt, UInt32.le_iff_toNat_le, UInt64.lt_iff_toNat_lt,
    same.count, same.index, same.size, count, size, UInt32.toNat_zero]
  omega

theorem exists_encryptPiece (works : EncryptionWorks) {source : NonceSource}
    {nonce : Nat → Nonce} {count : Nat} {nonces : Nonces} (supplies : Supplies source nonce count)
    (fresh : nonces.Fresh nonce) (left : nonces.drawn < count) (objectKey : SecretKey) (objectContextDigest : Digest)
    {chunkCount chunkIndex : Nat} {plaintext : Bytes} (few : chunkCount ≤ 32767)
    (inside : chunkIndex < chunkCount) (small : plaintext.length ≤ chunkBytes) :
    ∃ entry after, encryptPiece objectKey objectContextDigest chunkCount source nonces plaintext
      chunkIndex = .ok (entry, after) ∧ after.Fresh nonce ∧ after.drawn = nonces.drawn + 1 := by
  obtain ⟨drawn, after, drew, later⟩ := exists_next supplies fresh left
  have counted : (UInt32.ofNat chunkCount).toNat = chunkCount :=
    UInt32.toNat_ofNat_of_lt' (lt_of_le_of_lt few (by decide))
  have indexed : (UInt32.ofNat chunkIndex).toNat = chunkIndex :=
    UInt32.toNat_ofNat_of_lt' (lt_trans (lt_of_lt_of_le inside few) (by decide))
  have sized : (UInt64.ofNat plaintext.length).toNat = plaintext.length :=
    UInt64.toNat_ofNat_of_lt' (lt_of_le_of_lt small (by decide))
  obtain ⟨context, built⟩ : ∃ context : ChunkKeyContext, context =
      { chunkCount := UInt32.ofNat chunkCount
        chunkIndex := UInt32.ofNat chunkIndex
        format := .v1
        objectContextDigest
        plainSize := UInt64.ofNat plaintext.length } := ⟨_, rfl⟩
  have same : IsChunkContext context objectContextDigest chunkCount chunkIndex
      plaintext.length := built ▸ ⟨rfl, counted, indexed, sized⟩
  have valid := validate_chunkContext same few inside small
  have written := Canonical.bytes_of_exact (ChunkKeyContext.exact valid)
  obtain ⟨chunkKey, derived⟩ : ∃ chunkKey, deriveChunkKey objectKey context = .ok chunkKey := by
    rw [deriveChunkKey, valid, ok_bind, written, ok_bind]
    exact ⟨_, rfl⟩
  obtain ⟨encrypted, wrote⟩ := works.encrypts chunkKey drawn plaintext _ small
  have sealed : encryptChunk chunkKey drawn plaintext context =
      .ok (drawn.toList ++ encrypted) :=
    encryptChunk_eq_ok.mpr ⟨valid, small, same.size, _, encrypted, written, wrote, rfl⟩
  have length := length_of_encryptChunk works.correct sealed
  have stored : (UInt64.ofNat (drawn.toList ++ encrypted).length).toNat =
      (drawn.toList ++ encrypted).length :=
    UInt64.toNat_ofNat_of_lt' (length ▸ lt_of_le_of_lt
      (Nat.add_le_add_right small minCipherSize) (by decide))
  subst built
  refine ⟨({
    cipherDigest := ciphertextDigest (drawn.toList ++ encrypted)
    cipherSize := UInt64.ofNat (drawn.toList ++ encrypted).length
    index := UInt32.ofNat chunkIndex
    nonce := nonceText drawn }, drawn.toList ++ encrypted), after, ?_, later⟩
  simp only [encryptPiece, bind_eq_ok, okOr_eq_ok, pure_eq_ok, Prod.exists, uint32OfNat_eq_some,
    uint64OfNat_eq_some, Prod.mk.injEq]
  exact ⟨drawn, after, drew, _, counted, _, indexed, _, sized, chunkKey, derived, _, sealed, _,
    stored, ⟨rfl, rfl⟩, rfl⟩

theorem exists_encryptPieces (works : EncryptionWorks) {source : NonceSource}
    {nonce : Nat → Nonce} {count : Nat} {nonces : Nonces} (supplies : Supplies source nonce count)
    (fresh : nonces.Fresh nonce) (objectKey : SecretKey) (objectContextDigest : Digest)
    {chunkCount : Nat} {pieces : List (Bytes × Nat)} (few : chunkCount ≤ 32767)
    (left : nonces.drawn + pieces.length ≤ count)
    (inside : ∀ piece ∈ pieces, piece.2 < chunkCount ∧ piece.1.length ≤ chunkBytes) :
    ∃ entries after, encryptPieces objectKey objectContextDigest chunkCount source nonces pieces =
      .ok (entries, after) ∧ after.Fresh nonce ∧
        after.drawn = nonces.drawn + pieces.length := by
  induction pieces generalizing nonces with
  | nil => exact ⟨[], nonces, rfl, fresh, rfl⟩
  | cons piece rest ih =>
      rw [List.length_cons] at left
      obtain ⟨here, others⟩ := List.forall_mem_cons.mp inside
      obtain ⟨entry, next, first, later, drew⟩ := exists_encryptPiece works supplies fresh
        (by omega) objectKey objectContextDigest few here.1 here.2
      obtain ⟨entries, after, ran, done, draws⟩ := ih later (by omega) others
      refine ⟨entry :: entries, after, ?_, done, by rw [List.length_cons]; omega⟩
      simp only [encryptPieces, bind_eq_ok, pure_eq_ok, Prod.exists, Prod.mk.injEq]
      exact ⟨entry.1, entry.2, next, first, entries, after, ran, rfl, rfl⟩

theorem deriveObjectKey_objectContext (request : SealRequest) (descriptor : LogicalObject) :
    ∃ objectKey, deriveObjectKey request.occurrenceKey request.metadata.captureId
      (request.objectContext descriptor) = .ok objectKey := by
  have valid : (request.objectContext descriptor).validate = .ok () :=
    (rejectIf_eq_ok _ _ ()).mpr (not_not.mpr rfl)
  have scope : rejectIf (request.metadata.captureId ≠ (request.objectContext descriptor).captureId)
      Error.schemaInvalid = .ok () := (rejectIf_eq_ok _ _ ()).mpr (not_not.mpr rfl)
  rw [deriveObjectKey, valid, ok_bind, scope, ok_bind,
    Canonical.bytes_of_exact (ObjectKeyContext.exact _), ok_bind]
  exact ⟨_, rfl⟩

/-- Every object of not too many chunks is encrypted. -/
theorem exists_encryptObject (works : EncryptionWorks) {source : NonceSource}
    {nonce : Nat → Nonce} {count : Nat} {nonces : Nonces} (supplies : Supplies source nonce count)
    (fresh : nonces.Fresh nonce) (request : SealRequest) {descriptor : LogicalObject}
    {bytes : Bytes} (digest : descriptor.plainDigest = Digest.of bytes)
    (size : descriptor.plainSize.toNat = bytes.length)
    (few : pieceCount chunkBytes bytes.length ≤ 32767)
    (left : nonces.drawn + pieceCount chunkBytes bytes.length ≤ count) :
    ∃ material after, encryptObject request source nonces descriptor bytes =
      .ok (material, after) ∧ after.Fresh nonce ∧
        after.drawn = nonces.drawn + pieceCount chunkBytes bytes.length := by
  obtain ⟨objectKey, derived⟩ := deriveObjectKey_objectContext request descriptor
  have inside : ∀ piece ∈ (pieces chunkBytes bytes).zipIdx,
      piece.2 < pieceCount chunkBytes bytes.length ∧ piece.1.length ≤ chunkBytes := by
    intro piece listed
    have below := List.snd_lt_of_mem_zipIdx listed
    rw [length_pieces, add_zero] at below
    exact ⟨below, length_le_of_mem_pieces (List.fst_mem_of_mem_zipIdx listed)⟩
  have length : (pieces chunkBytes bytes).zipIdx.length = pieceCount chunkBytes bytes.length := by
    rw [List.length_zipIdx, length_pieces]
  rw [← length] at left
  obtain ⟨entries, after, ran, later⟩ := exists_encryptPieces works supplies fresh objectKey
    (Digest.of (Canonical.text (request.objectContext descriptor))) few left inside
  rw [length] at later
  refine ⟨{
    object := { chunks := entries.map Prod.fst, descriptor }
    stored := entries.map Prod.snd }, after, ?_, later⟩
  simp only [encryptObject, bind_eq_ok, rejectIf_eq_ok, pure_eq_ok, Prod.exists, Prod.mk.injEq,
    not_or, not_not, not_lt]
  exact ⟨(), ⟨digest, size⟩, objectKey, derived, _,
    Canonical.digest_of_exact (ObjectKeyContext.exact _), (), few, entries, after, ran, rfl, rfl⟩

/-! ## Stored digests -/

/-- The digest of something that is stored under the nonce. -/
def IsStored (digest : Digest) (nonce : Nonce) : Prop :=
  ∃ rest : Bytes, digest = Digest.of (nonce.toList ++ rest)

theorem EncryptionWorks.nonce_eq (works : EncryptionWorks) {digest : Digest}
    {first second : Nonce} (one : IsStored digest first) (other : IsStored digest second) :
    first = second := by
  obtain ⟨message, rfl⟩ := one
  obtain ⟨rest, same⟩ := other
  exact works.digests _ _ _ _ same

/-- Different nonces have different digests. -/
theorem nodup_of_stored (works : EncryptionWorks) {digests : List Digest} {drawn : List Nonce}
    (pairs : List.Forall₂ IsStored digests drawn) (distinct : drawn.Nodup) : digests.Nodup := by
  induction pairs with
  | nil => exact List.nodup_nil
  | cons here rest ih =>
      obtain ⟨new, others⟩ := List.nodup_cons.mp distinct
      refine List.nodup_cons.mpr ⟨fun listed => ?_, ih others⟩
      obtain ⟨nonce, among, stored⟩ := exists_result rest listed
      obtain rfl := works.nonce_eq here stored
      exact new among

theorem SealsObject.isStored {request : SealRequest} {descriptor : LogicalObject} {bytes : Bytes}
    {material : EncryptedMaterial} (seals : SealsObject request descriptor bytes material)
    {drawn : List Nonce} (texts : material.nonces = drawn.map nonceText) :
    List.Forall₂ IsStored (material.entries.map Prod.fst) drawn := by
  have each : ∀ chunk ∈ material.object.chunks, ∃ nonce, chunk.nonce = nonceText nonce ∧
      IsStored chunk.cipherDigest nonce := by
    intro chunk listed
    rw [← List.map_fst_zip seals.length.le] at listed
    obtain ⟨⟨_, stored⟩, among, rfl⟩ := List.mem_map.mp listed
    obtain ⟨objectKey, objectContextDigest, -, -, all⟩ := seals.chunks
    obtain ⟨piece, -, one⟩ := exists_source all among
    obtain ⟨nonce, context, chunkKey, text, -, -, encrypted⟩ := one.encrypted
    obtain ⟨-, -, -, aad, rest, -, -, same⟩ := encryptChunk_eq_ok.mp encrypted
    exact ⟨nonce, text, rest, one.digest.trans (congrArg Digest.of same)⟩
  have pairs : List.Forall₂ (fun chunk nonce => EncryptedChunk.nonce chunk = nonceText nonce)
      material.object.chunks drawn := by
    have same : List.Forall₂ (· = ·) (material.object.chunks.map EncryptedChunk.nonce)
        (drawn.map nonceText) := texts ▸ List.forall₂_refl _
    rwa [List.forall₂_map_left_iff, List.forall₂_map_right_iff] at same
  have digests : material.entries.map Prod.fst =
      material.object.chunks.map EncryptedChunk.cipherDigest := by
    have lengths : (material.uploads.map UploadObject.cipherDigest).length ≤
        material.stored.length := by
      rw [EncryptedMaterial.uploads, List.length_map, List.length_map, seals.length]
    rw [EncryptedMaterial.entries, List.map_fst_zip lengths, EncryptedMaterial.uploads,
      List.map_map]
    rfl
  rw [digests]
  apply List.forall₂_map_left_iff.mpr
  refine ((List.forall₂_and_left _ _).mpr ⟨each, pairs⟩).imp ?_
  rintro chunk nonce ⟨⟨other, text, stored⟩, same⟩
  obtain rfl := nonceText_injective (text.symm.trans same)
  exact stored

/-- Every stored digest belongs to a registered nonce. -/
def Registered (ciphertext : OrderedMap Digest Bytes) (nonces : Nonces) : Prop :=
  ∀ digest ∈ ciphertext, ∃ nonce ∈ nonces.registry.used, IsStored digest nonce

theorem exists_appendCiphertext (works : EncryptionWorks) {request : SealRequest}
    {source : NonceSource} {nonces after : Nonces} {descriptor : LogicalObject} {bytes : Bytes}
    {material : EncryptedMaterial} {drawn : List Nonce} {before : OrderedMap Digest Bytes}
    (seals : SealsObject request descriptor bytes material)
    (draws : Nonces.Draws source nonces drawn after)
    (texts : material.nonces = drawn.map nonceText) (distinct : nonces.registry.used.Nodup)
    (held : Registered before nonces) :
    ∃ ciphertext, appendCiphertext material before = .ok ciphertext ∧
      Registered ciphertext after := by
  have apart := draws.nodup distinct
  have stored := seals.isStored texts
  rw [draws.used, List.nodup_append] at apart
  have new : ∀ key ∈ material.entries.map Prod.fst, key ∉ before := by
    intro key listed present
    obtain ⟨nonce, among, one⟩ := exists_result stored listed
    obtain ⟨used, registered, other⟩ := held key present
    obtain rfl := works.nonce_eq one other
    exact apart.2.2 nonce (List.mem_reverse.mpr among) nonce registered rfl
  obtain ⟨ciphertext, inserted⟩ := OrderedMap.exists_insertAllNew
    (nodup_of_stored works stored (List.nodup_reverse.mp apart.1)) new
  refine ⟨ciphertext, appendCiphertext_eq_ok.mpr inserted, fun key present => ?_⟩
  obtain ⟨-, -, found⟩ := OrderedMap.insertAllNew_eq_some.mp inserted
  rw [Std.ExtTreeMap.mem_iff_isSome_getElem?, Option.isSome_iff_exists] at present
  obtain ⟨value, looked⟩ := present
  rw [draws.used]
  rcases (found key value).mp looked with here | earlier
  · obtain ⟨nonce, among, one⟩ := exists_result stored (List.mem_map_of_mem here)
    exact ⟨nonce, List.mem_append_left _ (List.mem_reverse.mpr among), one⟩
  · obtain ⟨nonce, registered, one⟩ := held key
      (Std.ExtTreeMap.mem_iff_isSome_getElem?.mpr (Option.isSome_iff_exists.mpr ⟨value, earlier⟩))
    exact ⟨nonce, List.mem_append_right _ registered, one⟩

/-- The object is in the closure, and it has not too many chunks. -/
def Encryptable (plaintext : OrderedMap ObjectId Bytes) (descriptor : LogicalObject) : Prop :=
  ∃ bytes, plaintext[descriptor.objectId]? = some bytes ∧
    descriptor.plainDigest = Digest.of bytes ∧ descriptor.plainSize.toNat = bytes.length ∧
      pieceCount chunkBytes bytes.length ≤ 32767

theorem exists_encryptObjects (works : EncryptionWorks) {source : NonceSource}
    {nonce : Nat → Nonce} {count : Nat} {nonces : Nonces} (supplies : Supplies source nonce count)
    (fresh : nonces.Fresh nonce) (request : SealRequest) {plaintext : OrderedMap ObjectId Bytes}
    {before : CaptureMaterial} {descriptors : List LogicalObject}
    (held : Registered before.ciphertext nonces)
    (every : ∀ descriptor ∈ descriptors, Encryptable plaintext descriptor)
    (left : nonces.drawn + (descriptors.map fun object =>
      pieceCount chunkBytes object.plainSize.toNat).sum ≤ count) :
    ∃ result after, encryptObjects request source plaintext before nonces descriptors =
      .ok (result, after) ∧ after.Fresh nonce ∧ Registered result.ciphertext after ∧
        after.drawn = nonces.drawn + (descriptors.map fun object =>
          pieceCount chunkBytes object.plainSize.toNat).sum := by
  induction descriptors generalizing before nonces with
  | nil => exact ⟨before, nonces, rfl, fresh, held, rfl⟩
  | cons descriptor rest ih =>
      rw [List.map_cons, List.sum_cons] at left
      obtain ⟨⟨bytes, found, digest, size, few⟩, others⟩ := List.forall_mem_cons.mp every
      rw [size] at left
      obtain ⟨material, next, encrypted, later, drew⟩ := exists_encryptObject works supplies fresh
        request digest size few (by omega)
      obtain ⟨seals, drawn, draws, texts⟩ := encryptObject_sealed encrypted
      obtain ⟨ciphertext, appended, registered⟩ := exists_appendCiphertext works seals draws texts
        fresh.nodup held
      let extended : CaptureMaterial :=
        { ciphertext
          encryptedObjects := before.encryptedObjects ++ [material.object]
          uploadObjects := before.uploadObjects ++ material.uploads }
      have heldNext : Registered extended.ciphertext next := registered
      obtain ⟨result, after, ran, done, kept, total⟩ := ih later heldNext others (by omega)
      refine ⟨result, after, ?_, done, kept, ?_⟩
      rotate_left
      · rw [List.map_cons, List.sum_cons, size]
        omega
      simp only [encryptObjects, bind_eq_ok, okOr_eq_ok, Prod.exists]
      exact ⟨bytes, found, material, next, encrypted, ciphertext, appended, ran⟩

end Reproit.Backend
