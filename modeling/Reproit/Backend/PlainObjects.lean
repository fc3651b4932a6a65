/-
# The plain objects of a sealed capture

A capture is sealed with four more objects than its capsule lists: the capsule itself and the
proofs of the three runs.  Their identifiers are new, so that nothing is overwritten.
-/

import Reproit.Backend.Seal
import Reproit.Core.CaptureSize
import Reproit.Core.Exactness

namespace Reproit.Backend

variable [Primitives]

/-- The object of the capsule. -/
def capsuleObject (request : SealRequest) : LogicalObject where
  mediaType := "application/reproit-replay-capsule+json"
  objectId := request.ids.capsuleObjectId
  plainDigest := request.admitted.capsuleDigest
  plainSize := UInt64.ofNat (Canonical.text request.input.capsule).length
  role := .replayCapsuleManifest

/-- The object of a proof. -/
def proofObject (pair : Proof × ObjectId) : LogicalObject where
  mediaType := "application/reproit-proof+json"
  objectId := pair.2
  plainDigest := Digest.of (Canonical.text pair.1)
  plainSize := UInt64.ofNat (Canonical.text pair.1).length
  role := .admissionProof

omit [Primitives] in
/-- The proofs with their identifiers. -/
def SealRequest.proofs (request : SealRequest) : List (Proof × ObjectId) :=
  request.admitted.proofs.toList.zip request.ids.proofObjectIds.toList

/-- The objects that sealing adds. -/
def addedObjects (request : SealRequest) : List LogicalObject :=
  capsuleObject request :: request.proofs.map proofObject

omit [Primitives] in
/-- The bytes of the objects that sealing adds. -/
def addedBytes (request : SealRequest) : List (ObjectId × Bytes) :=
  (request.ids.capsuleObjectId, Canonical.text request.input.capsule) ::
    request.proofs.map fun pair => (pair.2, Canonical.text pair.1)

omit [Primitives] in
theorem addPlainObject_eq_ok {plaintext after : OrderedMap ObjectId Bytes}
    {descriptors all : List LogicalObject} {descriptor : LogicalObject} {bytes : Bytes} :
    addPlainObject plaintext descriptors descriptor bytes = .ok (after, all) ↔
      plaintext.insertNew descriptor.objectId bytes = some after ∧
        descriptor.objectId ∉ descriptors.map LogicalObject.objectId ∧
          all = descriptors ++ [descriptor] := by
  simp only [addPlainObject, bind_eq_ok, okOr_eq_ok, rejectIf_eq_ok, pure_eq_ok, Prod.mk.injEq]
  constructor
  · rintro ⟨_, inserted, _, new, rfl, rfl⟩
    exact ⟨inserted, new, rfl⟩
  · rintro ⟨inserted, new, rfl⟩
    exact ⟨after, inserted, (), new, rfl, rfl⟩

theorem addProof_eq_ok {plaintext after : OrderedMap ObjectId Bytes}
    {descriptors all : List LogicalObject} {pair : Proof × ObjectId} :
    addProof plaintext descriptors pair.1 pair.2 = .ok (after, all) ↔
      plaintext.insertNew pair.2 (Canonical.text pair.1) = some after ∧
        pair.2 ∉ descriptors.map LogicalObject.objectId ∧
          all = descriptors ++ [proofObject pair] := by
  have size : uint64OfNat (Canonical.text pair.1).length =
      some (UInt64.ofNat (Canonical.text pair.1).length) :=
    uint64OfNat_eq_some.mpr (UInt64.toNat_ofNat_of_lt'
      (lt_of_le_of_lt (Proof.length_text_le pair.1) (by decide)))
  rw [addProof, Canonical.bytes_of_exact (Proof.exact _), ok_bind,
    Canonical.digest_of_exact (Proof.exact _), ok_bind, size]
  exact addPlainObject_eq_ok

theorem addProofs_eq_ok {plaintext after : OrderedMap ObjectId Bytes}
    {descriptors all : List LogicalObject} {pairs : List (Proof × ObjectId)} :
    addProofs plaintext descriptors pairs = .ok (after, all) ↔
      plaintext.insertAllNew (pairs.map fun pair => (pair.2, Canonical.text pair.1)) =
        some after ∧
      (∀ pair ∈ pairs, pair.2 ∉ descriptors.map LogicalObject.objectId) ∧
        all = descriptors ++ pairs.map proofObject := by
  induction pairs generalizing plaintext descriptors with
  | nil =>
      rw [addProofs, Except.ok.injEq, Prod.mk.injEq]
      simp only [List.map_nil, List.append_nil, List.not_mem_nil, false_implies, implies_true,
        true_and, OrderedMap.insertAllNew, List.foldlM_nil, Option.pure_def, Option.some.injEq]
      exact and_congr_right fun _ => eq_comm
  | cons pair rest ih =>
      simp only [addProofs, bind_eq_ok, Prod.exists, addProof_eq_ok, ih, List.map_cons,
        List.forall_mem_cons]
      constructor
      · rintro ⟨between, _, ⟨inserted, new, rfl⟩, others, news, rfl⟩
        refine ⟨?_, ⟨new, fun other listed => ?_⟩, List.append_assoc _ _ _⟩
        · rw [OrderedMap.insertAllNew, List.foldlM_cons, inserted]
          exact others
        · have missing := news other listed
          rw [List.map_append, List.mem_append, not_or] at missing
          exact missing.1
      · rintro ⟨inserted, ⟨new, news⟩, rfl⟩
        have distinct := (OrderedMap.insertAllNew_eq_some.mp inserted).1
        rw [OrderedMap.insertAllNew, List.foldlM_cons, Option.bind_eq_bind,
          Option.bind_eq_some_iff] at inserted
        obtain ⟨between, first, others⟩ := inserted
        refine ⟨between, _, ⟨first, new, rfl⟩, others, fun other listed => ?_,
          List.append_cons _ _ _⟩
        rw [List.map_append, List.mem_append, not_or, List.map_singleton, List.mem_singleton]
        refine ⟨news other listed, fun same => ?_⟩
        rw [List.map_cons, List.nodup_cons, List.map_map] at distinct
        exact distinct.1 (List.mem_map.mpr ⟨other, listed, same⟩)

/-- The plain objects are those of the capsule with the capsule and the proofs. -/
theorem plainObjects_eq_ok {request : SealRequest} {plaintext : OrderedMap ObjectId Bytes}
    {descriptors : List LogicalObject} :
    plainObjects request = .ok (plaintext, descriptors) ↔
      Document.Exact request.input.capsule ∧
      (Canonical.text request.input.capsule).length < 2 ^ 64 ∧
      request.input.objects.objects.insertAllNew (addedBytes request) = some plaintext ∧
      (∀ object ∈ addedObjects request,
        object.objectId ∉ request.input.capsule.objects.map LogicalObject.objectId) ∧
      descriptors = request.input.capsule.objects ++ addedObjects request := by
  have capsule : ∀ {between : OrderedMap ObjectId Bytes} {listed : List LogicalObject},
      addCapsule request request.input.objects.objects request.input.capsule.objects =
        .ok (between, listed) ↔ Document.Exact request.input.capsule ∧
          (Canonical.text request.input.capsule).length < 2 ^ 64 ∧
          request.input.objects.objects.insertNew request.ids.capsuleObjectId
            (Canonical.text request.input.capsule) = some between ∧
          request.ids.capsuleObjectId ∉
            request.input.capsule.objects.map LogicalObject.objectId ∧
          listed = request.input.capsule.objects ++ [capsuleObject request] := by
    intro between listed
    simp only [addCapsule, bind_eq_ok, okOr_eq_ok, Canonical.bytes_eq_ok, uint64OfNat_eq_some]
    constructor
    · rintro ⟨_, ⟨exact, rfl⟩, size, sized, added⟩
      have small : (Canonical.text request.input.capsule).length < 2 ^ 64 :=
        sized.symm.trans_lt size.toNat_lt
      obtain rfl : size = UInt64.ofNat (Canonical.text request.input.capsule).length :=
        UInt64.toNat_inj.mp (sized.trans (UInt64.toNat_ofNat_of_lt' small).symm)
      exact ⟨exact, small, addPlainObject_eq_ok.mp added⟩
    · rintro ⟨exact, small, added⟩
      exact ⟨_, ⟨exact, rfl⟩, _, UInt64.toNat_ofNat_of_lt' small, addPlainObject_eq_ok.mpr added⟩
  simp only [plainObjects, bind_eq_ok, Prod.exists, capsule, addProofs_eq_ok]
  constructor
  · rintro ⟨between, _, ⟨exact, small, inserted, new, rfl⟩, others, news, rfl⟩
    refine ⟨exact, small, ?_, ?_, List.append_assoc _ _ _⟩
    · rw [addedBytes, OrderedMap.insertAllNew, List.foldlM_cons, inserted]
      exact others
    · rw [addedObjects, List.forall_mem_cons]
      refine ⟨new, fun object listed => ?_⟩
      obtain ⟨pair, among, rfl⟩ := List.mem_map.mp listed
      have missing := news pair among
      rw [List.map_append, List.mem_append, not_or] at missing
      exact missing.1
  · rintro ⟨exact, small, inserted, news, rfl⟩
    have distinct := (OrderedMap.insertAllNew_eq_some.mp inserted).1
    rw [addedBytes, OrderedMap.insertAllNew, List.foldlM_cons, Option.bind_eq_bind,
      Option.bind_eq_some_iff] at inserted
    obtain ⟨between, first, others⟩ := inserted
    rw [addedObjects, List.forall_mem_cons] at news
    refine ⟨between, _, ⟨exact, small, first, news.1, rfl⟩, others, fun pair listed => ?_,
      List.append_cons _ _ _⟩
    rw [List.map_append, List.mem_append, not_or, List.map_singleton, List.mem_singleton]
    refine ⟨news.2 (proofObject pair) (List.mem_map_of_mem listed), fun same => ?_⟩
    rw [addedBytes, List.map_cons, List.nodup_cons, List.map_map] at distinct
    exact distinct.1 (List.mem_map.mpr ⟨pair, listed, same⟩)

end Reproit.Backend
