/-
# Binary search

A window of a list is halved until one position is left, and the value there is compared.
On a list in which the values below a match come first and the values above it last, the
search finds a match if there is one.
-/

import Mathlib.Order.Compare
import Mathlib.Order.Lattice
import Mathlib.Data.List.Basic

namespace Reproit

variable {α : Type}

/-- The position that is left of a window. A half is kept when its first value is not above
the match. -/
def narrowWindow (order : α → Ordering) (values : List α) (base size : Nat) : Nat :=
  if 1 < size then
    let half := size / 2
    let mid := base + half
    narrowWindow order values (if values[mid]?.map order = some .gt then base else mid)
      (size - half)
  else base
termination_by size
decreasing_by omega

/-- The position of a match, or one where a match could be inserted. -/
def binarySearchBy (order : α → Ordering) (values : List α) : Except Nat Nat :=
  let base := narrowWindow order values 0 values.length
  match values[base]?.map order with
  | none => .error 0
  | some .eq => .ok base
  | some .lt => .error (base + 1)
  | some .gt => .error base

def binarySearch [LinearOrder α] (values : List α) (wanted : α) : Except Nat Nat :=
  binarySearchBy (fun value => compare value wanted) values

/-- Values below a match come before matches, and values above one come after them. -/
def Partitioned (order : α → Ordering) (values : List α) : Prop :=
  values.Pairwise fun first second =>
    (order first = .gt → order second = .gt) ∧ (order second = .lt → order first = .lt)

/-- Everything behind the window is above a match, and its first value is not, unless
nothing is in front of the window. -/
structure WindowKept (order : α → Ordering) (values : List α) (base size : Nat) : Prop where
  within : base + size ≤ values.length
  above : ∀ position value, values[position]? = some value → base + size ≤ position →
    order value = .gt
  notAbove : base = 0 ∨ ∀ value, values[base]? = some value → order value ≠ .gt

variable {order : α → Ordering} {values : List α}

theorem Partitioned.of_lt (partitioned : Partitioned order values) {before behind : Nat}
    {first second : α} (less : before < behind) (here : values[before]? = some first)
    (there : values[behind]? = some second) :
    (order first = .gt → order second = .gt) ∧ (order second = .lt → order first = .lt) := by
  obtain ⟨inFront, rfl⟩ := List.getElem?_eq_some_iff.mp here
  obtain ⟨within, rfl⟩ := List.getElem?_eq_some_iff.mp there
  exact List.pairwise_iff_getElem.mp partitioned before behind inFront within less

/-- Halving keeps what is known about the window, down to one position. -/
theorem narrowWindow_kept (partitioned : Partitioned order values) {base size : Nat}
    (positive : 0 < size) (kept : WindowKept order values base size) :
    WindowKept order values (narrowWindow order values base size) 1 := by
  induction base, size using narrowWindow.induct order values with
  | case1 base size wide half mid ih =>
      rw [narrowWindow, if_pos wide]
      apply ih (by omega)
      have inside : mid < values.length := by
        have within := kept.within
        omega
      obtain ⟨middle, found⟩ : ∃ middle, values[mid]? = some middle :=
        ⟨_, List.getElem?_eq_getElem inside⟩
      by_cases high : order middle = .gt
      · -- everything from the middle on is above the match
        rw [found, Option.map_some, dif_pos (congrArg some high)]
        refine ⟨by have within := kept.within; omega, ?_, kept.notAbove⟩
        intro position value there behind
        rcases Nat.lt_or_ge mid position with later | first
        · exact (partitioned.of_lt later found there).1 high
        · obtain rfl : position = mid := by omega
          rw [found] at there
          exact Option.some.inj there ▸ high
      · rw [found, Option.map_some, dif_neg fun same => high (Option.some.inj same)]
        refine ⟨by have within := kept.within; omega, ?_, .inr ?_⟩
        · intro position value there behind
          exact kept.above position value there (by omega)
        · intro value there
          rw [found] at there
          exact Option.some.inj there ▸ high
  | case2 base size narrow =>
      rw [narrowWindow, if_neg narrow]
      obtain rfl : size = 1 := by omega
      exact kept

/-- The search of a partitioned list finds a match exactly when the list has one. -/
theorem binarySearchBy_isOk (partitioned : Partitioned order values) :
    (binarySearchBy order values).isOk = true ↔ ∃ value ∈ values, order value = .eq := by
  rw [binarySearchBy]
  constructor
  · intro found
    cases here : values[narrowWindow order values 0 values.length]? with
    | none =>
        rw [here] at found
        cases found
    | some value =>
        refine ⟨value, List.mem_of_getElem? here, ?_⟩
        rw [here, Option.map_some] at found
        cases same : order value with
        | eq => rfl
        | lt =>
            rw [same] at found
            cases found
        | gt =>
            rw [same] at found
            cases found
  · rintro ⟨value, member, same⟩
    obtain ⟨position, there⟩ := List.getElem?_of_mem member
    have inside : position < values.length := (List.getElem?_eq_some_iff.mp there).1
    have start : WindowKept order values 0 values.length := by
      refine ⟨Nat.le_of_eq (Nat.zero_add _), ?_, .inl rfl⟩
      intro position value there behind
      have inside := (List.getElem?_eq_some_iff.mp there).1
      omega
    have kept := narrowWindow_kept partitioned (by omega) start
    generalize narrowWindow order values 0 values.length = base at kept ⊢
    obtain ⟨last, here⟩ : ∃ last, values[base]? = some last :=
      ⟨_, List.getElem?_eq_getElem kept.within⟩
    have equal : order last = .eq := by
      rcases Nat.lt_trichotomy position base with before | rfl | behind
      · have ordered := partitioned.of_lt before there here
        rcases kept.notAbove with zero | notAbove
        · omega
        · cases compared : order last with
          | eq => rfl
          | lt => exact absurd (same.symm.trans (ordered.2 compared)) (by decide)
          | gt => exact absurd compared (notAbove last here)
      · rw [there] at here
        exact Option.some.inj here ▸ same
      · exact absurd (same.symm.trans (kept.above position value there behind)) (by decide)
    rw [here, Option.map_some, equal]
    rfl

/-- The search of a sorted list finds its members and nothing else. -/
theorem binarySearch_isOk [LinearOrder α] {values : List α} (sorted : values.Pairwise (· < ·))
    (wanted : α) : (binarySearch values wanted).isOk = true ↔ wanted ∈ values := by
  rw [binarySearch, binarySearchBy_isOk]
  · simp only [compare_eq_iff_eq, exists_eq_right]
  · refine sorted.imp ?_
    intro first second less
    rw [compare_gt_iff_gt, compare_gt_iff_gt, compare_lt_iff_lt, compare_lt_iff_lt]
    exact ⟨fun above => above.trans less, fun below => less.trans below⟩

end Reproit
