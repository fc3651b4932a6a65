/-
# Grants that are dropped once

Something is granted under a new name each time and dropped under that name later.  The
grants are settled when every one of them was dropped exactly once or is still held.
-/

import Mathlib.Data.List.Perm.Basic
import Mathlib.Data.List.Nodup

namespace Reproit

variable {κ : Type} {granted dropped held : List κ}

/-- What one more event adds to a selection. -/
theorem filterMap_concat {ε : Type} (pick : ε → Option κ) (log : List ε) (event : ε) :
    (log ++ [event]).filterMap pick = log.filterMap pick ++ (pick event).toList := by
  rw [List.filterMap_append]
  cases chosen : pick event with
  | none => rw [List.filterMap_cons_none chosen, List.filterMap_nil, Option.toList_none]
  | some key => rw [List.filterMap_cons_some chosen, List.filterMap_nil, Option.toList_some]

/-- No name was granted twice, and every grant was dropped once or is still held. -/
structure Settled (granted dropped held : List κ) : Prop where
  distinct : granted.Nodup
  parted : granted.Perm (dropped ++ held)

namespace Settled

theorem nothing : Settled ([] : List κ) [] [] := ⟨List.nodup_nil, List.Perm.refl _⟩

theorem perm (settled : Settled granted dropped held) {after : List κ} (same : held.Perm after) :
    Settled granted dropped after :=
  ⟨settled.distinct, settled.parted.trans (same.append_left dropped)⟩

theorem grant (settled : Settled granted dropped held) {key : κ} (fresh : key ∉ granted) :
    Settled (granted ++ [key]) dropped (key :: held) := by
  refine ⟨?_, ?_⟩
  · rw [List.nodup_append_comm, List.singleton_append, List.nodup_cons]
    exact ⟨fresh, settled.distinct⟩
  · calc
      (granted ++ [key]).Perm (key :: granted) := List.perm_append_singleton key granted
      (key :: granted).Perm (key :: (dropped ++ held)) := settled.parted.cons key
      (key :: (dropped ++ held)).Perm (dropped ++ key :: held) := List.perm_middle.symm

theorem drop {key : κ} (settled : Settled granted dropped (key :: held)) :
    Settled granted (dropped ++ [key]) held := by
  refine ⟨settled.distinct, ?_⟩
  rw [List.append_assoc, List.singleton_append]
  exact settled.parted

/-- A grant that is not held any more was dropped exactly once. -/
theorem count_dropped [DecidableEq κ] (settled : Settled granted dropped held) {key : κ}
    (member : key ∈ granted) (gone : key ∉ held) : dropped.count key = 1 := by
  have whole : granted.count key = 1 := List.count_eq_one_of_mem settled.distinct member
  rw [settled.parted.count_eq, List.count_append, List.count_eq_zero_of_not_mem gone] at whole
  exact whole

end Settled

end Reproit
