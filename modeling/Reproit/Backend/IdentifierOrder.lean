/-
# The order of identifiers and of their texts

Lists are sorted by identifiers and by digests, and checked by their texts.  Both orders
are one order, so a check accepts exactly the sorted lists without repetitions.
-/

import Mathlib.Data.ZMod.Defs
import Reproit.Backend.Closure
import Reproit.Core.UuidText
import Reproit.Data.Sorted
import Reproit.Support.Registry

namespace Reproit

/-! ## Texts that keep an order -/

section

variable {α β : Type} [LinearOrder β] {toText : β → String}

/-- The texts of two values compare like the values. -/
def OrderedByText (toText : β → String) : Prop :=
  ∀ first second : β, first < second ↔ toText first < toText second

theorem OrderedByText.pairwise_iff (ordered : OrderedByText toText) (key : α → β)
    (items : List α) :
    requireStrictOrder (items.map fun item => toText (key item)) = .ok () ↔
      items.Pairwise fun first second => key first < key second := by
  rw [requireStrictOrder_eq_ok, List.pairwise_map]
  simp only [← ordered (key _) (key _)]

/-- What is sorted is accepted unless two keys are the same. -/
theorem OrderedByText.sorted_iff (ordered : OrderedByText toText) (key : α → β)
    (items : List α) :
    requireStrictOrder
        ((items.insertionSort (key · ≤ key ·)).map fun item => toText (key item)) = .ok () ↔
      (items.map key).Nodup := by
  rw [ordered.pairwise_iff]
  constructor
  · intro ascending
    have perm := (List.perm_insertionSort (key · ≤ key ·) items).map key
    rw [← perm.nodup_iff, List.Nodup, List.pairwise_map]
    exact ascending.imp fun less => less.ne
  · exact pairwise_lt_insertionSort_key

/-- What is accepted is sorted. -/
theorem OrderedByText.insertionSort_eq (ordered : OrderedByText toText) {key : α → β}
    {items : List α}
    (accepted : requireStrictOrder (items.map fun item => toText (key item)) = .ok ()) :
    items.insertionSort (key · ≤ key ·) = items := by
  apply List.Pairwise.insertionSort_eq
  exact ((ordered.pairwise_iff key items).mp accepted).imp fun less => less.le

end

theorem TypedId.orderedByText (kind : IdKind) :
    OrderedByText (toText : TypedId kind → String) :=
  fun first second => (toText_lt_iff first second).symm

theorem Digest.orderedByText : OrderedByText Digest.toText :=
  fun first second => (toText_lt_iff first second).symm

/-- The tag of a digest and its digits. -/
def digestPattern : Pattern := .word Digest.tag ++ .times 64 isLowerHex

theorem Digest.exists_toText_iff (text : String) :
    (∃ digest : Digest, text = digest.toText) ↔ digestPattern.accepts text.toList = true := by
  have whole : 2 ^ 256 = 16 ^ 64 := by norm_num
  rw [digestPattern, Pattern.accepts_append]
  simp only [Pattern.accepts_word, accepts_times_isLowerHex]
  constructor
  · rintro ⟨digest, rfl⟩
    exact ⟨_, _, String.toList_ofList, rfl, digest.number, digest.number.isLt.trans_eq whole, rfl⟩
  · rintro ⟨_, _, spelled, rfl, number, small, digits⟩
    rw [← whole] at small
    obtain ⟨digest, rfl⟩ : ∃ digest : Digest, digest.number.val = number :=
      ⟨⟨⟨number, small⟩⟩, rfl⟩
    refine ⟨digest, String.toList_injective ?_⟩
    rw [spelled, digits, toText, String.toList_ofList]

/-- The objects of a closure are in the order that a capsule requires. -/
theorem Backend.requireStrictOrder_replayObjects {candidateObjects objects : List LogicalObject}
    (closed : Backend.replayObjects candidateObjects = .ok objects) :
    requireStrictOrder (objects.map fun object => object.objectId.toText) = .ok () := by
  simp only [Backend.replayObjects, bind_eq_ok, rejectIf_eq_ok, pure_eq_ok, not_or,
    not_not] at closed
  obtain ⟨_, _, _, ⟨distinct, _⟩, rfl⟩ := closed
  have perm := (List.perm_insertionSort (·.objectId ≤ ·.objectId)
    (candidateObjects.filter fun object => object.role ≠ .candidate)).map LogicalObject.objectId
  exact ((TypedId.orderedByText .object).sorted_iff LogicalObject.objectId _).mpr
    (perm.nodup_iff.mp distinct)

/-- Identifiers and digests have one spelling and one order. -/
theorem identifiers_one_spelling_one_order {parse : List Char → Option (Fin (2 ^ 128))}
    (parses : ParsesHyphenated parse) :
    (∀ (kind : IdKind) (value : String) (id : TypedId kind),
      TypedId.fromStr parse value = .ok id ↔ value = id.toText) ∧
    (∀ (kind : IdKind) (text : String), (∃ id : TypedId kind, text = id.toText) ↔
      (.word kind.tag.toList ++ uuidPattern isLowerHex : Pattern).accepts text.toList = true) ∧
    (∀ (text : String) (digest : Digest),
      Digest.ofText text = some digest ↔ text = digest.toText) ∧
    (∀ text : String, (∃ digest : Digest, text = digest.toText) ↔
      digestPattern.accepts text.toList = true) ∧
    (∀ (kind : IdKind) (first second : TypedId kind),
      first < second ↔ first.toText < second.toText) ∧
    (∀ first second : Digest, first < second ↔ first.toText < second.toText) ∧
    (∀ (kind : IdKind) (α : Type) (key : α → TypedId kind) (items : List α),
      (requireStrictOrder
          ((items.insertionSort (key · ≤ key ·)).map fun item => (key item).toText) = .ok () ↔
        (items.map key).Nodup) ∧
      (requireStrictOrder (items.map fun item => (key item).toText) = .ok () ↔
        items.Pairwise fun first second => key first < key second)) ∧
    (∀ (α : Type) (key : α → Digest) (items : List α),
      (requireStrictOrder
          ((items.insertionSort (key · ≤ key ·)).map fun item => (key item).toText) = .ok () ↔
        (items.map key).Nodup) ∧
      (requireStrictOrder (items.map fun item => (key item).toText) = .ok () ↔
        items.Pairwise fun first second => key first < key second)) ∧
    ∀ candidateObjects objects : List LogicalObject,
      Backend.replayObjects candidateObjects = .ok objects →
        requireStrictOrder (objects.map fun object => object.objectId.toText) = .ok () := by
  refine ⟨fun kind value id => TypedId.fromStr_eq_ok parses, TypedId.exists_toText_iff,
    fun text digest => Digest.ofText_eq_some, Digest.exists_toText_iff, TypedId.orderedByText,
    Digest.orderedByText, ?_, ?_, fun _ _ => Backend.requireStrictOrder_replayObjects⟩
  · intro kind α key items
    have ordered := TypedId.orderedByText kind
    exact ⟨ordered.sorted_iff key items, ordered.pairwise_iff key items⟩
  · intro α key items
    exact ⟨Digest.orderedByText.sorted_iff key items, Digest.orderedByText.pairwise_iff key items⟩

set_option maxRecDepth 2000 in
/-- The first capture of version 7 and the second one. -/
theorem identifiers_one_spelling_one_order_captures :
    let first : CaptureId := ⟨7 * 2 ^ 76, by decide⟩
    let second : CaptureId := ⟨7 * 2 ^ 76 + 1, by decide⟩
    TypedId.fromStr Uuid.parseDigits "cap_00000000-0000-7000-0000-000000000000" = .ok first ∧
      (first < second ↔ first.toText < second.toText) := by
  intro first second
  have facts := identifiers_one_spelling_one_order Uuid.parsesHyphenated_parseDigits
  exact ⟨(facts.1 .capture _ first).mpr (by decide), facts.2.2.2.2.1 .capture first second⟩

end Reproit
