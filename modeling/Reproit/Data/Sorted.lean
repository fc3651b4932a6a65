/-
# Sorted lists without repetition

A list is sorted, and the equal elements that are next to each other are merged.  The
result depends on the members of the list alone.
-/

import Mathlib.Data.List.Sort

namespace Reproit

variable {α : Type} [LinearOrder α]

/-- Merge the equal elements next to each other. -/
def dedupAdjacent : List α → List α
  | [] => []
  | [value] => [value]
  | first :: second :: rest =>
      if first = second then dedupAdjacent (second :: rest)
      else first :: dedupAdjacent (second :: rest)

@[simp]
theorem mem_dedupAdjacent {value : α} {values : List α} :
    value ∈ dedupAdjacent values ↔ value ∈ values := by
  induction values using dedupAdjacent.induct with
  | case1 => rfl
  | case2 => rfl
  | case3 second rest ih =>
      rw [dedupAdjacent, if_pos rfl, ih]
      simp
  | case4 first second rest different ih =>
      rw [dedupAdjacent, if_neg different, List.mem_cons, ih]
      exact List.mem_cons.symm

theorem length_dedupAdjacent_le (values : List α) :
    (dedupAdjacent values).length ≤ values.length := by
  induction values using dedupAdjacent.induct with
  | case1 => exact le_rfl
  | case2 => exact le_rfl
  | case3 second rest ih =>
      rw [dedupAdjacent, if_pos rfl]
      exact ih.trans (Nat.le_succ _)
  | case4 first second rest different ih =>
      rw [dedupAdjacent, if_neg different]
      exact Nat.succ_le_succ ih

/-- In a sorted list all equal elements are next to each other. -/
theorem pairwise_dedupAdjacent {values : List α} (sorted : values.Pairwise (· ≤ ·)) :
    (dedupAdjacent values).Pairwise (· < ·) := by
  induction values using dedupAdjacent.induct with
  | case1 => exact .nil
  | case2 => exact List.pairwise_singleton _ _
  | case3 second rest ih =>
      rw [dedupAdjacent, if_pos rfl]
      exact ih (List.pairwise_cons.mp sorted).2
  | case4 first second rest different ih =>
      obtain ⟨below, sorted⟩ := List.pairwise_cons.mp sorted
      have above := (List.pairwise_cons.mp sorted).1
      have less : first < second :=
        lt_of_le_of_ne (below second List.mem_cons_self) different
      rw [dedupAdjacent, if_neg different, List.pairwise_cons]
      refine ⟨fun value member => ?_, ih sorted⟩
      rcases List.mem_cons.mp (mem_dedupAdjacent.mp member) with rfl | later
      · exact less
      · exact less.trans_le (above value later)

/-- Sort a list and drop its repetitions. -/
def sortDedup (values : List α) : List α :=
  dedupAdjacent (values.insertionSort (· ≤ ·))

@[simp]
theorem mem_sortDedup {value : α} {values : List α} :
    value ∈ sortDedup values ↔ value ∈ values := by
  rw [sortDedup, mem_dedupAdjacent, List.mem_insertionSort]

theorem pairwise_sortDedup (values : List α) : (sortDedup values).Pairwise (· < ·) :=
  pairwise_dedupAdjacent (List.pairwise_insertionSort _ values)

theorem length_sortDedup_le (values : List α) : (sortDedup values).length ≤ values.length := by
  rw [sortDedup, ← List.length_insertionSort (· ≤ ·) values]
  exact length_dedupAdjacent_le _

/-- Nothing is dropped exactly when nothing is repeated. -/
theorem length_sortDedup_eq_iff {values : List α} :
    (sortDedup values).length = values.length ↔ values.Nodup := by
  have distinct : (sortDedup values).Nodup := (pairwise_sortDedup values).imp ne_of_lt
  constructor
  · intro same
    have within : (sortDedup values).Subperm values :=
      List.subperm_of_subset distinct fun _ member => mem_sortDedup.mp member
    exact (within.perm_of_length_le same.ge).nodup_iff.mp distinct
  · intro nodup
    exact ((List.perm_ext_iff_of_nodup distinct nodup).mpr fun _ => mem_sortDedup).length_eq

/-- The sorted list of some members is unique. -/
theorem sortDedup_eq {values sorted : List α} (ascending : sorted.Pairwise (· < ·))
    (same : ∀ value, value ∈ sorted ↔ value ∈ values) : sortDedup values = sorted :=
  List.Pairwise.eq_of_mem_iff (pairwise_sortDedup values) ascending fun value =>
    mem_sortDedup.trans (same value).symm

theorem sortDedup_of_pairwise {values : List α} (ascending : values.Pairwise (· < ·)) :
    sortDedup values = values :=
  sortDedup_eq ascending fun _ => Iff.rfl

theorem sortDedup_congr {first second : List α}
    (same : ∀ value, value ∈ first ↔ value ∈ second) : sortDedup first = sortDedup second :=
  sortDedup_eq (pairwise_sortDedup second) fun value => mem_sortDedup.trans (same value).symm

/-- Selecting commutes with sorting. -/
theorem filter_sortDedup (select : α → Bool) (values : List α) :
    (sortDedup values).filter select = sortDedup (values.filter select) := by
  symm
  apply sortDedup_eq ((pairwise_sortDedup values).filter _)
  intro value
  rw [List.mem_filter, List.mem_filter, mem_sortDedup]

/-- Without repetitions only the sorting is left. -/
theorem insertionSort_eq_sortDedup {values : List α} (distinct : values.Nodup) :
    values.insertionSort (· ≤ ·) = sortDedup values := by
  have perm := List.perm_insertionSort (· ≤ ·) values
  symm
  apply sortDedup_eq
  · exact ((List.pairwise_insertionSort (· ≤ ·) values).and (perm.nodup_iff.mpr distinct)).imp
      fun both => lt_of_le_of_ne both.1 both.2
  · exact fun value => perm.mem_iff

/-! ## Sorting by a key -/

section Key

variable {β : Type} {key : β → α} {values : List β}

/-- Different keys are sorted strictly. -/
theorem pairwise_lt_insertionSort_key (distinct : (values.map key).Nodup) :
    (values.insertionSort (key · ≤ key ·)).Pairwise (key · < key ·) := by
  have perm := List.perm_insertionSort (key · ≤ key ·) values
  have apart := (perm.map key).nodup_iff.mpr distinct
  rw [List.Nodup, List.pairwise_map] at apart
  exact ((List.pairwise_insertionSort (key · ≤ key ·) values).and apart).imp
    fun both => lt_of_le_of_ne both.1 both.2

/-- What a sorted list selects is what the list selects, when that is sorted already. -/
theorem filter_insertionSort_key (distinct : (values.map key).Nodup) {select : β → Bool}
    (ascending : (values.filter select).Pairwise (key · < key ·)) :
    (values.insertionSort (key · ≤ key ·)).filter select = values.filter select := by
  have sorted := (pairwise_lt_insertionSort_key distinct).filter select
  have perm := (List.perm_insertionSort (key · ≤ key ·) values).filter select
  exact perm.eq_of_pairwise (fun _ _ _ _ below above => absurd above below.asymm) sorted ascending

end Key

end Reproit
