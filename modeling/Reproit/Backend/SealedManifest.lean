/-
# The manifest of a sealed capture

An admitted capture is sealed with its capsule and its three proofs.  All of them are found,
their identifiers are different, and the manifest that lists their chunks is well formed.  It
is accepted exactly when there are few enough chunks and when it is short, and both are known
from the descriptors of the objects before anything is encrypted.
-/

import Reproit.Backend.PlainObjects
import Reproit.Backend.Sealable
import Reproit.Core.CaptureBatch
import Reproit.Data.Sorted

namespace Reproit.Backend

open Json

variable [Primitives]

/-! ## The chunks of one object -/

namespace SealsObject

variable {request : SealRequest} {descriptor : LogicalObject} {bytes : Bytes}
  {material : EncryptedMaterial}

/-- What every chunk has in common with its piece, all chunks have with all pieces. -/
theorem map_chunks {β : Type} (seals : SealsObject request descriptor bytes material)
    {f : EncryptedChunk → β} {g : Bytes × Nat → β}
    (same : ∀ {objectKey objectContextDigest chunkCount piece entry},
      SealsPiece objectKey objectContextDigest chunkCount piece entry → f entry.1 = g piece) :
    material.object.chunks.map f = (pieces chunkBytes bytes).zipIdx.map g := by
  obtain ⟨objectKey, objectContextDigest, -, -, all⟩ := seals.chunks
  have entries := map_eq_of_pairing (fun _ _ one => same one) all
  calc material.object.chunks.map f
      = ((material.object.chunks.zip material.stored).map Prod.fst).map f := by
        rw [List.map_fst_zip seals.length.le]
    _ = (material.object.chunks.zip material.stored).map fun entry => f entry.1 := List.map_map
    _ = (pieces chunkBytes bytes).zipIdx.map g := entries

theorem map_index (seals : SealsObject request descriptor bytes material) :
    material.object.chunks.map (fun chunk => chunk.index.toNat) =
      List.range material.object.chunks.length := by
  have indexes : material.object.chunks.map (fun chunk => chunk.index.toNat) =
      (pieces chunkBytes bytes).zipIdx.map Prod.snd := seals.map_chunks fun one => one.index
  rw [indexes, List.zipIdx_map_snd, seals.length_chunks, length_pieces, List.range_eq_range']

theorem validChunks (correct : AeadCorrect)
    (seals : SealsObject request descriptor bytes material) :
    ValidChunks material.object.chunks := by
  have each : ∀ chunk ∈ material.object.chunks, ∃ size ≤ chunkBytes,
      chunk.cipherSize.toNat = size + minCipherSize ∧
        ∃ nonce, chunk.nonce = nonceText nonce := by
    intro chunk listed
    rw [← List.map_fst_zip seals.length.le] at listed
    obtain ⟨entry, among, rfl⟩ := List.mem_map.mp listed
    obtain ⟨objectKey, objectContextDigest, -, -, all⟩ := seals.chunks
    obtain ⟨piece, part, one⟩ := exists_source all among
    obtain ⟨nonce, -, -, text, -⟩ := one.encrypted
    exact ⟨piece.1.length, length_le_of_mem_pieces (List.fst_mem_of_mem_zipIdx part),
      one.size.trans (one.length_stored correct), nonce, text⟩
  constructor
  case nonempty =>
    rw [← List.length_pos_iff, seals.length_chunks]
    exact pieceCount_pos _ _
  case few => exact seals.length_chunks.trans_le seals.few
  case indexes => exact seals.map_index
  case sizes =>
    intro chunk listed
    obtain ⟨size, small, same, -⟩ := each chunk listed
    rw [same]
    exact ⟨Nat.le_add_left _ _, Nat.add_le_add_right small minCipherSize⟩
  case nonces =>
    intro chunk listed
    obtain ⟨-, -, -, nonce, text⟩ := each chunk listed
    rw [text, nonceText, utf8ByteSize_encodeBase64Url, Vector.length_toList]

/-- The entry of a sealed object is known from its descriptor. -/
theorem size_object (correct : AeadCorrect)
    (seals : SealsObject request descriptor bytes material) :
    EncryptedObject.codec.size material.object = objectEntryBytes descriptor := by
  have chunks : material.object.chunks.map EncryptedChunk.codec.size =
      (pieces chunkBytes bytes).zipIdx.map fun piece =>
        chunkEntryBytes (piece.1.length + minCipherSize) piece.2 := by
    apply seals.map_chunks
    intro objectKey objectContextDigest chunkCount piece entry one
    obtain ⟨nonce, -, -, text, -⟩ := one.encrypted
    rw [EncryptedChunk.size_eq text, one.size, one.length_stored correct, one.index]
  have sizes : (pieces chunkBytes bytes).zipIdx.map (fun piece =>
      chunkEntryBytes (piece.1.length + minCipherSize) piece.2) =
        (pieceSizes chunkBytes bytes.length).zipIdx.map fun piece =>
          chunkEntryBytes (piece.1 + minCipherSize) piece.2 := by
    rw [← map_length_pieces, List.zipIdx_map, List.map_map]
    rfl
  have names : stringSize "chunks" = 8 ∧ stringSize "descriptor" = 12 := by decide
  simp only [EncryptedObject.codec, Codec.size_record, Codec.size_list_eq, Fields.size_required,
    Fields.size_done, LogicalObject.size_eq, names, chunks, sizes, seals.object, ← seals.size,
    objectEntryBytes]
  omega

end SealsObject

/-! ## The objects of a prepared request -/

/-- The request seals an admitted capture whose objects are closed. -/
structure SealRequest.Prepared (request : SealRequest) : Prop where
  ids : validateSealingIds request = .ok ()
  capsule : request.input.capsule.Valid
  closed : ∀ object ∈ request.input.capsule.objects, ∃ bytes,
    request.input.objects.objects[object.objectId]? = some bytes ∧
      object.plainDigest = Digest.of bytes ∧ object.plainSize.toNat = bytes.length
  capsuleDigest :
    request.admitted.capsuleDigest = Digest.of (Canonical.text request.input.capsule)
  modes : ∀ proof ∈ request.admitted.proofs.toList,
    proof.processingMode = request.input.capsule.processingMode
  distinct : (request.admitted.proofs.toList.map fun proof =>
    Digest.of (Canonical.text proof)).Nodup

namespace SealRequest

/-- The objects that are sealed: those of the capsule, the capsule itself and the proofs. -/
def descriptors (request : SealRequest) : List LogicalObject :=
  request.input.capsule.objects ++ addedObjects request

/-- The chunks of all objects and of the manifest. -/
def storedChunks (request : SealRequest) : Nat :=
  1 + (request.descriptors.map fun object => pieceCount chunkBytes object.plainSize.toNat).sum

/-- The bytes of the manifest. -/
def manifestBytes (request : SealRequest) : Nat :=
  851 + arrayBytes (request.descriptors.map objectEntryBytes) +
    arrayBytes (request.input.capsule.requiredCapabilities.map stringSize) +
    stringSize request.input.capsule.processingMode.name +
    stringSize request.metadata.repositoryId + stringSize request.metadata.servicePath +
    stringSize request.metadata.sourceRevision

omit [Primitives] in
theorem map_fst_proofs (request : SealRequest) :
    request.proofs.map Prod.fst = request.admitted.proofs.toList := by
  rw [proofs, List.map_fst_zip]
  rw [Vector.length_toList, Vector.length_toList]

omit [Primitives] in
theorem map_snd_proofs (request : SealRequest) :
    request.proofs.map Prod.snd = request.ids.proofObjectIds.toList := by
  rw [proofs, List.map_snd_zip]
  rw [Vector.length_toList, Vector.length_toList]

omit [Primitives] in
theorem length_proofs (request : SealRequest) : request.proofs.length = 3 := by
  have length := congrArg List.length request.map_fst_proofs
  rwa [List.length_map, Vector.length_toList] at length

theorem map_objectId_addedObjects (request : SealRequest) :
    (addedObjects request).map LogicalObject.objectId =
      request.ids.capsuleObjectId :: request.ids.proofObjectIds.toList := by
  rw [addedObjects, List.map_cons, List.map_map, ← map_snd_proofs]
  rfl

omit [Primitives] in
theorem map_fst_addedBytes (request : SealRequest) :
    (addedBytes request).map Prod.fst =
      request.ids.capsuleObjectId :: request.ids.proofObjectIds.toList := by
  rw [addedBytes, List.map_cons, List.map_map, ← map_snd_proofs]
  rfl

omit [Primitives] in
theorem mem_ids (request : SealRequest) {objectId : ObjectId}
    (listed : objectId ∈ request.ids.capsuleObjectId :: request.ids.proofObjectIds.toList) :
    objectId ∈ request.ids.all ∧ (request.ids.all.Nodup →
      objectId ≠ request.ids.manifestObjectId) := by
  rw [SealingIds.all]
  rcases List.mem_cons.mp listed with rfl | later
  · refine ⟨List.mem_cons_self, fun distinct same => ?_⟩
    exact (List.nodup_cons.mp distinct).1 (List.mem_cons.mpr (.inl same))
  · refine ⟨List.mem_cons_of_mem _ (List.mem_cons_of_mem _ later), fun distinct same => ?_⟩
    exact (List.nodup_cons.mp (List.nodup_cons.mp distinct).2).1 (same ▸ later)

namespace Prepared

variable {request : SealRequest}

theorem ids_fresh (prepared : request.Prepared) :
    request.ids.all.Nodup ∧ request.ids.proofObjectIds.toList.IsChain (· < ·) ∧
      ∀ id ∈ request.ids.all, id ∉ request.input.objects.objects := by
  have ids := prepared.ids
  rw [validateSealingIds, rejectIf_eq_ok _ _ (), not_or, not_or, not_not, not_not] at ids
  exact ⟨ids.1, ids.2.1, fun id listed held => ids.2.2 ⟨id, listed, held⟩⟩

theorem nodup_added (prepared : request.Prepared) :
    (request.ids.capsuleObjectId :: request.ids.proofObjectIds.toList).Nodup :=
  prepared.ids_fresh.1.sublist ((List.sublist_cons_self _ _).cons_cons _)

/-- An object of the capsule is one of the closed objects. -/
theorem mem_objects (prepared : request.Prepared) {objectId : ObjectId}
    (listed : objectId ∈ request.input.capsule.objects.map LogicalObject.objectId) :
    objectId ∈ request.input.objects.objects := by
  obtain ⟨object, among, rfl⟩ := List.mem_map.mp listed
  obtain ⟨bytes, found, -⟩ := prepared.closed object among
  exact Std.ExtTreeMap.mem_iff_isSome_getElem?.mpr (Option.isSome_iff_exists.mpr ⟨bytes, found⟩)

theorem nodup (prepared : request.Prepared) :
    (request.descriptors.map LogicalObject.objectId).Nodup := by
  rw [descriptors, List.map_append, map_objectId_addedObjects, List.nodup_append]
  refine ⟨prepared.capsule.nodup, prepared.nodup_added, ?_⟩
  rintro objectId listed other added rfl
  exact prepared.ids_fresh.2.2 _ (request.mem_ids added).1 (prepared.mem_objects listed)

/-- The size of the capsule is one of the recorded sizes. -/
theorem length_capsule (prepared : request.Prepared) :
    (capsuleObject request).plainSize.toNat = (Canonical.text request.input.capsule).length :=
  UInt64.toNat_ofNat_of_lt'
    ((ReplayCapsule.length_text_le prepared.capsule).trans_lt (by decide))

omit [Primitives] in
theorem length_proof (pair : Proof × ObjectId) :
    (UInt64.ofNat (Canonical.text pair.1).length).toNat = (Canonical.text pair.1).length :=
  UInt64.toNat_ofNat_of_lt' ((Proof.length_text_le pair.1).trans_lt (by decide))

/-- The plain objects are gathered, and the bytes of every one are there. -/
theorem exists_plainObjects (prepared : request.Prepared) :
    ∃ plaintext, plainObjects request = .ok (plaintext, request.descriptors) ∧
      ∀ object ∈ request.descriptors, ∃ bytes, plaintext[object.objectId]? = some bytes ∧
        object.plainDigest = Digest.of bytes ∧ object.plainSize.toNat = bytes.length := by
  have new : ∀ id ∈ (addedBytes request).map Prod.fst, id ∉ request.input.objects.objects := by
    intro id listed
    rw [map_fst_addedBytes] at listed
    exact prepared.ids_fresh.2.2 id (request.mem_ids listed).1
  have distinct : ((addedBytes request).map Prod.fst).Nodup := by
    rw [map_fst_addedBytes]
    exact prepared.nodup_added
  obtain ⟨plaintext, inserted⟩ := OrderedMap.exists_insertAllNew distinct new
  refine ⟨plaintext, plainObjects_eq_ok.mpr ⟨ReplayCapsule.exact prepared.capsule, ?_, inserted,
    ?_, rfl⟩, ?_⟩
  · exact (ReplayCapsule.length_text_le prepared.capsule).trans_lt (by decide)
  · intro object listed held
    have added := List.mem_map_of_mem (f := LogicalObject.objectId) listed
    rw [map_objectId_addedObjects] at added
    exact prepared.ids_fresh.2.2 _ (request.mem_ids added).1 (prepared.mem_objects held)
  · obtain ⟨-, -, found⟩ := OrderedMap.insertAllNew_eq_some.mp inserted
    intro object listed
    rcases List.mem_append.mp listed with inner | added
    · obtain ⟨bytes, present, same⟩ := prepared.closed object inner
      exact ⟨bytes, (found _ _).mpr (.inr present), same⟩
    · rcases List.mem_cons.mp added with rfl | proof
      · exact ⟨_, (found _ _).mpr (.inl List.mem_cons_self), prepared.capsuleDigest,
          prepared.length_capsule⟩
      · obtain ⟨pair, among, rfl⟩ := List.mem_map.mp proof
        exact ⟨_, (found _ _).mpr (.inl (List.mem_cons_of_mem _ (List.mem_map_of_mem among))), rfl,
          length_proof pair⟩

/-- Every descriptor is valid. -/
theorem validate_descriptor (prepared : request.Prepared) {object : LogicalObject}
    (listed : object ∈ request.descriptors) : object.validate = .ok () := by
  have texts : ("application/reproit-replay-capsule+json".isEmpty = false ∧
      "application/reproit-replay-capsule+json".utf8ByteSize ≤ 128) ∧
        "application/reproit-proof+json".isEmpty = false ∧
          "application/reproit-proof+json".utf8ByteSize ≤ 128 := by decide
  rcases List.mem_append.mp listed with inner | added
  · exact (prepared.capsule.objects object inner).1
  · rw [LogicalObject.validate_eq_ok]
    rcases List.mem_cons.mp added with rfl | proof
    · have short := ReplayCapsule.length_text_le prepared.capsule
      rw [← prepared.length_capsule] at short
      exact ⟨texts.1.1, texts.1.2, short.trans (by decide), nofun⟩
    · obtain ⟨pair, -, rfl⟩ := List.mem_map.mp proof
      have short := Proof.length_text_le pair.1
      rw [← length_proof pair] at short
      exact ⟨texts.2.1, texts.2.2, short.trans (by decide), nofun⟩

end Prepared

/-- The descriptors in the order of the manifest. -/
def sorted (request : SealRequest) : List LogicalObject :=
  request.descriptors.insertionSort (·.objectId ≤ ·.objectId)

/-- The manifest of some encrypted objects. -/
def manifest (request : SealRequest) (objects : List EncryptedObject) : CaptureBatchManifest where
  captureId := request.metadata.captureId
  encryptionContextVersion := 1
  format := .v1
  objects := objects
  organizationId := request.metadata.organizationId
  processingMode := request.input.capsule.processingMode
  profile := "backend"
  profileFormat := 1
  projectId := request.metadata.projectId
  proofDigests := request.admitted.proofs.toList.map fun proof => Digest.of (Canonical.text proof)
  replayCapsuleDigest := request.admitted.capsuleDigest
  replayCapsuleObjectId := request.ids.capsuleObjectId
  repositoryId := request.metadata.repositoryId
  requiredCapabilities := request.input.capsule.requiredCapabilities
  serviceId := request.metadata.serviceId
  servicePath := request.metadata.servicePath
  sourceRevision := request.metadata.sourceRevision

theorem buildManifest_eq_ok {request : SealRequest} {objects : List EncryptedObject}
    {built : CaptureBatchManifest} :
    buildManifest request objects = .ok built ↔ built = request.manifest objects ∧
      validateCaptureManifest (request.manifest objects) request.admitted.capsuleDigest
        request.admitted.proofs.toList = .ok () := by
  have digests : collect request.admitted.proofs.toList Canonical.digest =
      .ok (request.admitted.proofs.toList.map fun proof => Digest.of (Canonical.text proof)) := by
    rw [collect_eq_ok, List.forall₂_map_right_iff, List.forall₂_same]
    exact fun proof _ => Canonical.digest_of_exact proof.exact
  rw [buildManifest, digests, ok_bind]
  simp only [bind_eq_ok, pure_eq_ok]
  constructor
  · rintro ⟨_, valid, same⟩
    exact ⟨same.symm, valid⟩
  · rintro ⟨same, valid⟩
    exact ⟨(), valid, same.symm⟩

end SealRequest

/-! ## The manifest is accepted -/

namespace SealRequest.Prepared

variable {request : SealRequest}

theorem perm_sorted (request : SealRequest) : request.sorted.Perm request.descriptors :=
  List.perm_insertionSort _ _

theorem pairwise_sorted (prepared : request.Prepared) :
    request.sorted.Pairwise (·.objectId < ·.objectId) :=
  pairwise_lt_insertionSort_key prepared.nodup

/-- An object of the capsule is neither a capsule nor a proof. -/
theorem filter_objects (prepared : request.Prepared) {role : LogicalObjectRole}
    (added : role = .replayCapsuleManifest ∨ role = .admissionProof) :
    request.input.capsule.objects.filter (fun object => object.role = role) = [] := by
  rw [List.filter_eq_nil_iff]
  intro object listed
  obtain ⟨-, proof, -, -, capsule⟩ := prepared.capsule.objects object listed
  rw [decide_eq_true_eq]
  rintro rfl
  rcases added with same | same
  · exact capsule same
  · exact proof same

/-- The capsule is the one object of its role. -/
theorem filter_capsule (prepared : request.Prepared) :
    request.sorted.filter (fun object => object.role = .replayCapsuleManifest) =
      [capsuleObject request] := by
  have selected : request.descriptors.filter
      (fun object => object.role = .replayCapsuleManifest) = [capsuleObject request] := by
    have proofs : (request.proofs.map proofObject).filter
        (fun object => object.role = .replayCapsuleManifest) = [] := by
      rw [List.filter_map, List.map_eq_nil_iff, List.filter_eq_nil_iff]
      exact fun _ _ => nofun
    rw [descriptors, List.filter_append, prepared.filter_objects (.inl rfl), addedObjects,
      List.filter_cons_of_pos rfl, proofs, List.nil_append]
  have perm := (perm_sorted request).filter fun object => object.role = .replayCapsuleManifest
  rw [selected] at perm
  exact List.perm_singleton.mp perm

/-- The proofs are in the order of the runs, since their identifiers are. -/
theorem filter_proofs (prepared : request.Prepared) :
    request.sorted.filter (fun object => object.role = .admissionProof) =
      request.proofs.map proofObject := by
  have selected : request.descriptors.filter (fun object => object.role = .admissionProof) =
      request.proofs.map proofObject := by
    have proofs : (request.proofs.map proofObject).filter
        (fun object => object.role = .admissionProof) = request.proofs.map proofObject := by
      rw [List.filter_eq_self]
      intro object listed
      obtain ⟨pair, -, rfl⟩ := List.mem_map.mp listed
      rfl
    have capsule : ¬ decide ((capsuleObject request).role = .admissionProof) = true :=
      show ¬ decide (LogicalObjectRole.replayCapsuleManifest = .admissionProof) = true by decide
    rw [descriptors, List.filter_append, prepared.filter_objects (.inr rfl), addedObjects,
      List.filter_cons, if_neg capsule, proofs, List.nil_append]
  have ascending : (request.proofs.map proofObject).Pairwise (·.objectId < ·.objectId) := by
    have chain := List.isChain_iff_pairwise.mp prepared.ids_fresh.2.1
    rw [← map_snd_proofs, List.pairwise_map] at chain
    exact List.pairwise_map.mpr chain
  rw [sorted, filter_insertionSort_key prepared.nodup, selected]
  rw [selected]
  exact ascending

/-- The proof objects record the digests of the proofs. -/
theorem recorded_digests {pairs : List (Proof × ObjectId)} {objects : List EncryptedObject}
    (every : List.Forall₂ (fun pair object => object.descriptor = proofObject pair) pairs objects) :
    ∀ entry ∈ (pairs.map Prod.fst).zip
        ((pairs.map fun pair => Digest.of (Canonical.text pair.1)).zip objects),
      entry.2.1 = Digest.of (Canonical.text entry.1) ∧
        entry.2.2.descriptor.plainDigest = Digest.of (Canonical.text entry.1) := by
  induction every with
  | nil => exact nofun
  | cons here rest ih =>
      intro entry listed
      rw [List.map_cons, List.map_cons, List.zip_cons_cons, List.zip_cons_cons] at listed
      rcases List.mem_cons.mp listed with rfl | later
      · exact ⟨rfl, congrArg LogicalObject.plainDigest here⟩
      · exact ih entry later

/-- A valid manifest of the sorted objects binds the capsule and the proofs. -/
theorem validateCaptureManifest_eq_ok (prepared : request.Prepared)
    {objects : List EncryptedObject}
    (listed : objects.map EncryptedObject.descriptor = request.sorted) :
    validateCaptureManifest (request.manifest objects) request.admitted.capsuleDigest
      request.admitted.proofs.toList = .ok () ↔ (request.manifest objects).validate = .ok () := by
  have selected : ∀ role, ((request.manifest objects).objectsOf role).map
      EncryptedObject.descriptor = request.sorted.filter fun object => object.role = role := by
    intro role
    rw [CaptureBatchManifest.map_descriptor_objectsOf, ← listed]
    rfl
  have capsules := (selected .replayCapsuleManifest).trans prepared.filter_capsule
  have proofs := (selected .admissionProof).trans prepared.filter_proofs
  have single : ((request.manifest objects).objectsOf .replayCapsuleManifest).map
      (fun object => (object.descriptor.objectId, object.descriptor.plainDigest)) =
        [(request.ids.capsuleObjectId, request.admitted.capsuleDigest)] :=
    calc _ = (((request.manifest objects).objectsOf .replayCapsuleManifest).map
          EncryptedObject.descriptor).map fun object => (object.objectId, object.plainDigest) := by
            rw [List.map_map]; rfl
      _ = [(request.ids.capsuleObjectId, request.admitted.capsuleDigest)] := by
            rw [capsules]; rfl
  have three : ((request.manifest objects).objectsOf .admissionProof).length = 3 := by
    have length := congrArg List.length proofs
    rwa [List.length_map, List.length_map, length_proofs] at length
  have every : List.Forall₂ (fun pair object => EncryptedObject.descriptor object =
      proofObject pair) request.proofs ((request.manifest objects).objectsOf .admissionProof) := by
    have same : List.Forall₂ (fun second first => first = second)
        (request.proofs.map proofObject)
        (((request.manifest objects).objectsOf .admissionProof).map
          EncryptedObject.descriptor) := by
      rw [proofs]
      exact List.forall₂_same.mpr fun _ _ => rfl
    rwa [List.forall₂_map_left_iff, List.forall₂_map_right_iff] at same
  have recorded := recorded_digests every
  rw [map_fst_proofs] at recorded
  have digests : (request.proofs.map fun pair => Digest.of (Canonical.text pair.1)) =
      (request.manifest objects).proofDigests := by
    rw [manifest, ← map_fst_proofs, List.map_map]
    rfl
  rw [digests] at recorded
  simp only [validateCaptureManifest, bind_eq_ok, rejectIf_eq_ok, forEach_eq_ok, not_or, not_not,
    not_exists, not_and]
  constructor
  · rintro ⟨_, valid, _⟩
    exact valid
  · intro valid
    refine ⟨(), valid, (), ⟨rfl, Vector.length_toList, prepared.modes⟩, (), single, (), three,
      fun entry among => ?_⟩
    exact ⟨_, Canonical.digest_of_exact entry.1.exact, recorded entry among⟩

/-- The materials are those of the sorted objects. -/
def SealsAll (request : SealRequest) (plaintext : OrderedMap ObjectId Bytes)
    (materials : List EncryptedMaterial) : Prop :=
  List.Forall₂ (fun descriptor material => ∃ bytes,
    plaintext[descriptor.objectId]? = some bytes ∧ SealsObject request descriptor bytes material)
      request.sorted materials

variable {plaintext : OrderedMap ObjectId Bytes} {materials : List EncryptedMaterial}

omit [Primitives] in
theorem arrayBytes_perm {first second : List Nat} (perm : first.Perm second) :
    arrayBytes first = arrayBytes second := by
  rw [arrayBytes, arrayBytes, (perm.map (1 + ·)).sum_eq]

theorem map_descriptor (all : SealsAll request plaintext materials) :
    (materials.map EncryptedMaterial.object).map EncryptedObject.descriptor = request.sorted := by
  rw [List.map_map]
  exact map_descriptor_of_sealed all

theorem wellFormed (correct : AeadCorrect) (prepared : request.Prepared)
    (all : SealsAll request plaintext materials) :
    (request.manifest (materials.map EncryptedMaterial.object)).WellFormed := by
  have names : (validLowerIdentity "backend" = true ∧ "backend".utf8ByteSize ≤ 128) ∧
      1 ≤ (1 : UInt64).toNat ∧ (1 : UInt64).toNat ≤ maxExactInteger := by decide
  have listed := map_descriptor all
  constructor
  case version => rfl
  case profile => exact names.1
  case profileFormat => exact names.2
  case least =>
    have count := congrArg List.length listed
    rw [List.length_map, (perm_sorted request).length_eq, descriptors, List.length_append,
      addedObjects, List.length_cons, List.length_map, List.length_map, length_proofs] at count
    change 4 ≤ (materials.map EncryptedMaterial.object).length
    rw [List.length_map, count]
    omega
  case proofs => exact (List.length_map _).trans Vector.length_toList
  case distinct => exact prepared.distinct
  case ordered =>
    have ascending := prepared.pairwise_sorted
    rw [← listed, List.pairwise_map] at ascending
    exact List.pairwise_map.mpr ascending
  case capabilities => exact prepared.capsule.capabilities
  case objects =>
    intro object among
    obtain ⟨material, part, rfl⟩ := List.mem_map.mp among
    obtain ⟨descriptor, source, bytes, -, one⟩ := exists_source all part
    refine ⟨?_, one.validChunks correct⟩
    rw [one.object]
    exact prepared.validate_descriptor ((perm_sorted request).mem_iff.mp source)

theorem chunkCount_manifest (all : SealsAll request plaintext materials) :
    (request.manifest (materials.map EncryptedMaterial.object)).chunkCount =
      request.storedChunks := by
  have counts : materials.map (fun material => material.object.chunks.length) =
      request.sorted.map fun object => pieceCount chunkBytes object.plainSize.toNat := by
    apply map_eq_of_pairing _ all
    rintro descriptor material ⟨bytes, _, one⟩
    rw [one.length_chunks, one.size]
  have sums := ((perm_sorted request).map
    fun object => pieceCount chunkBytes object.plainSize.toNat).sum_eq
  rw [CaptureBatchManifest.chunkCount, storedChunks, ← sums, ← counts]
  exact congrArg (1 + ·) (congrArg List.sum List.map_map)

theorem documentBytes_manifest (correct : AeadCorrect)
    (all : SealsAll request plaintext materials) :
    (request.manifest (materials.map EncryptedMaterial.object)).documentBytes =
      request.manifestBytes := by
  have sizes : materials.map (fun material => EncryptedObject.codec.size material.object) =
      request.sorted.map objectEntryBytes := by
    apply map_eq_of_pairing _ all
    rintro descriptor material ⟨bytes, _, one⟩
    exact one.size_object correct
  have objects : arrayBytes ((materials.map EncryptedMaterial.object).map
      EncryptedObject.codec.size) = arrayBytes (request.descriptors.map objectEntryBytes) := by
    rw [List.map_map, ← arrayBytes_perm ((perm_sorted request).map objectEntryBytes), ← sizes]
    rfl
  have proofs : ((request.manifest (materials.map EncryptedMaterial.object)).proofDigests.map
      fun _ => 73) = [73, 73, 73] := by
    rw [List.map_const', manifest, List.length_map, Vector.length_toList]
    rfl
  have fixed : arrayBytes [73, 73, 73] = 223 ∧ stringSize "backend" = 9 ∧
      digits (1 : UInt64).toNat = 1 ∧ digits (1 : UInt8).toNat = 1 := by decide
  rw [CaptureBatchManifest.documentBytes, proofs, manifestBytes]
  simp only [manifest, objects, fixed]
  omega

/-- The manifest is accepted when there are few enough chunks and it is short. -/
theorem buildManifest_iff (correct : AeadCorrect) (prepared : request.Prepared)
    (all : SealsAll request plaintext materials) {built : CaptureBatchManifest} :
    buildManifest request (materials.map EncryptedMaterial.object) = .ok built ↔
      built = request.manifest (materials.map EncryptedMaterial.object) ∧
        request.storedChunks ≤ 32768 ∧ request.manifestBytes ≤ maxBatchDocumentBytes := by
  rw [buildManifest_eq_ok, prepared.validateCaptureManifest_eq_ok (map_descriptor all),
    CaptureBatchManifest.validate_eq_ok, chunkCount_manifest all,
    documentBytes_manifest correct all]
  exact and_congr_right fun _ => and_iff_right (wellFormed correct prepared all)

end SealRequest.Prepared

end Reproit.Backend
