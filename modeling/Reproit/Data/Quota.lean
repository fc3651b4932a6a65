/-
# Quotas with shares

A table holds reservations, each for one owner and with an amount of use.  The whole
use is limited, and so is the use of every owner that has a share; nobody else may
hold anything.  A reservation is admitted exactly when the table with it is within the
limits, so admission depends on the table alone and not on the order it was filled in.
-/

import Mathlib.Algebra.Order.BigOperators.Group.List
import Reproit.Data.OrderedMap

namespace Reproit

/-- A limit on the whole use, and a share for some owners. -/
structure Limits (ω ρ : Type) where
  whole : ρ
  share : ω → Option ρ

namespace Quota

variable {κ α ω ρ : Type} [LinearOrder κ] [DecidableEq ω] (owner : α → ω) (use : α → ρ)

section Load

variable [AddCommMonoid ρ]

/-- What all reservations use. -/
def load (table : OrderedMap κ α) : ρ := (table.toList.map fun entry => use entry.2).sum

/-- What the reservations of one owner use. -/
def ownLoad (who : ω) (table : OrderedMap κ α) : ρ :=
  ((table.toList.filter fun entry => owner entry.2 = who).map fun entry => use entry.2).sum

theorem load_empty : load use (∅ : OrderedMap κ α) = 0 := by
  simp [load]

theorem ownLoad_empty (who : ω) : ownLoad owner use who (∅ : OrderedMap κ α) = 0 := by
  simp [ownLoad]

variable {table : OrderedMap κ α} {key : κ} {held : α}

theorem load_insert (fresh : table[key]? = none) (added : α) :
    load use (table.insert key added) = load use table + use added := by
  have entries := OrderedMap.toList_insert_perm fresh added
  rw [load, (entries.map _).sum_eq, List.map_cons, List.sum_cons, add_comm]
  rfl

theorem ownLoad_insert (fresh : table[key]? = none) (added : α) :
    ownLoad owner use (owner added) (table.insert key added) =
      ownLoad owner use (owner added) table + use added := by
  have entries := (OrderedMap.toList_insert_perm fresh added).filter
    fun entry => owner entry.2 = owner added
  rw [ownLoad, (entries.map _).sum_eq, List.filter_cons_of_pos (by simp), List.map_cons,
    List.sum_cons, add_comm]
  rfl

theorem ownLoad_insert_of_ne (fresh : table[key]? = none) {added : α} {who : ω}
    (other : owner added ≠ who) :
    ownLoad owner use who (table.insert key added) = ownLoad owner use who table := by
  have entries := (OrderedMap.toList_insert_perm fresh added).filter
    fun entry => owner entry.2 = who
  rw [ownLoad, (entries.map _).sum_eq, List.filter_cons_of_neg (by simpa using other)]
  rfl

end Load

section Limits

variable [AddCommMonoid ρ] [PartialOrder ρ] [IsOrderedAddMonoid ρ] [CanonicallyOrderedAdd ρ]
  (limits : Limits ω ρ)

/-- The table keeps every limit. -/
structure Kept (table : OrderedMap κ α) : Prop where
  whole : load use table ≤ limits.whole
  shares : ∀ (key : κ) (held : α), table[key]? = some held → ∃ share, limits.share (owner held) = some share ∧
    ownLoad owner use (owner held) table ≤ share

/-- There is room for one more reservation. -/
def Admits (table : OrderedMap κ α) (added : α) : Prop :=
  load use table + use added ≤ limits.whole ∧ ∃ share, limits.share (owner added) = some share ∧
    ownLoad owner use (owner added) table + use added ≤ share

variable {owner use limits} {table : OrderedMap κ α}

omit [IsOrderedAddMonoid ρ] in
theorem kept_empty : Kept owner use limits (∅ : OrderedMap κ α) := by
  constructor
  · rw [load_empty]
    exact zero_le
  · intro key held present
    simp at present

/-- A share bounds the use of its owner, whether or not the owner holds something. -/
theorem Kept.ownLoad_le (kept : Kept owner use limits table) {who : ω} {share : ρ}
    (shared : limits.share who = some share) : ownLoad owner use who table ≤ share := by
  by_cases holds : ∃ entry ∈ table.toList, owner entry.2 = who
  · obtain ⟨entry, member, rfl⟩ := holds
    obtain ⟨found, same, below⟩ := kept.shares _ _ (OrderedMap.mem_toList.mp member)
    rwa [← Option.some.inj (same.symm.trans shared)]
  · have nothing : table.toList.filter (fun entry => owner entry.2 = who) = [] := by
      apply List.filter_eq_nil_iff.mpr
      intro entry member same
      exact holds ⟨entry, member, of_decide_eq_true same⟩
    rw [ownLoad, nothing]
    exact zero_le

theorem load_mono {first second : OrderedMap κ α} (within : first.Within second) :
    load use first ≤ load use second := by
  obtain ⟨part, same, sublist⟩ := within.subperm
  rw [load, ← (same.map _).sum_eq]
  exact (sublist.map _).sum_le_sum fun _ _ => zero_le

theorem ownLoad_mono {first second : OrderedMap κ α} (within : first.Within second) (who : ω) :
    ownLoad owner use who first ≤ ownLoad owner use who second := by
  obtain ⟨part, same, sublist⟩ := within.subperm
  rw [ownLoad, ← ((same.filter _).map _).sum_eq]
  exact ((sublist.filter _).map _).sum_le_sum fun _ _ => zero_le

/-- A table with fewer reservations keeps the limits. -/
theorem Kept.mono {first second : OrderedMap κ α} (kept : Kept owner use limits second)
    (within : first.Within second) : Kept owner use limits first := by
  constructor
  · exact (load_mono within).trans kept.whole
  · intro key held present
    obtain ⟨share, same, below⟩ := kept.shares _ _ (within _ _ present)
    exact ⟨share, same, (ownLoad_mono within _).trans below⟩

/-- A new reservation is admitted exactly when the table with it keeps the limits. -/
theorem admits_iff_kept_insert (kept : Kept owner use limits table) {key : κ}
    (fresh : table[key]? = none) (added : α) :
    Admits owner use limits table added ↔ Kept owner use limits (table.insert key added) := by
  constructor
  · rintro ⟨whole, share, shared, own⟩
    constructor
    · rwa [load_insert use fresh]
    · intro wanted held present
      by_cases same : owner added = owner held
      · rw [← same, ownLoad_insert owner use fresh]
        exact ⟨share, shared, own⟩
      · rw [OrderedMap.getElem?_insert] at present
        split_ifs at present with chosen
        · exact absurd (congrArg owner (Option.some.inj present)) same
        · rw [ownLoad_insert_of_ne owner use fresh same]
          exact kept.shares _ _ present
  · intro after
    have present : (table.insert key added)[key]? = some added := by
      rw [OrderedMap.getElem?_insert, if_pos rfl]
    obtain ⟨share, shared, own⟩ := after.shares _ _ present
    rw [ownLoad_insert owner use fresh] at own
    refine ⟨?_, share, shared, own⟩
    rw [← load_insert use fresh]
    exact after.whole

/-- What was released can be reserved again. -/
theorem Kept.admits_erase (kept : Kept owner use limits table) {key : κ} {held : α}
    (present : table[key]? = some held) : Admits owner use limits (table.erase key) held := by
  have gone : (table.erase key)[key]? = none := by rw [OrderedMap.getElem?_erase, if_pos rfl]
  apply (admits_iff_kept_insert (kept.mono (OrderedMap.within_erase table key)) gone held).mpr
  apply kept.mono
  intro wanted value found
  rw [OrderedMap.getElem?_insert, OrderedMap.getElem?_erase] at found
  split_ifs at found with same
  · rw [← same, present, found]
  · exact found

end Limits

end Quota

end Reproit
