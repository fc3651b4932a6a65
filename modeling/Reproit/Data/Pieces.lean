/-
# Cutting into pieces

A sequence is cut into pieces of one width.  The last piece holds what remains, and an empty
sequence is one empty piece.
-/

import Mathlib.Algebra.BigOperators.Group.List.Basic
import Mathlib.Tactic.Linarith

namespace Reproit

/-- How many pieces there are; an empty sequence is one piece. -/
def pieceCount (width size : Nat) : Nat := max 1 ((size + (width - 1)) / width)

/-- The sizes of the pieces in order. -/
def pieceSizes (width size : Nat) : List Nat :=
  (List.range (pieceCount width size)).map fun index => min width (size - index * width)

/-- The pieces of a sequence in order. -/
def pieces {α : Type} (width : Nat) (items : List α) : List (List α) :=
  (List.range (pieceCount width items.length)).map fun index =>
    (items.drop (index * width)).take width

theorem length_pieceSizes (width size : Nat) :
    (pieceSizes width size).length = pieceCount width size := by
  rw [pieceSizes, List.length_map, List.length_range]

theorem pieceCount_pos (width size : Nat) : 0 < pieceCount width size :=
  lt_of_lt_of_le one_pos (le_max_left _ _)

/-- A sequence of at most one width is one piece. -/
theorem pieceSizes_of_le {width size : Nat} (small : size ≤ width) :
    pieceSizes width size = [size] := by
  have few : (size + (width - 1)) / width ≤ 1 := by
    by_cases wide : width = 0
    · subst wide
      rw [Nat.div_zero]
      exact Nat.zero_le 1
    · rw [Nat.div_le_iff_le_mul (Nat.pos_of_ne_zero wide)]
      omega
  rw [pieceSizes, pieceCount, max_eq_left few]
  simp [small]

theorem le_of_mem_pieceSizes {width size piece : Nat} (listed : piece ∈ pieceSizes width size) :
    piece ≤ width := by
  obtain ⟨index, -, rfl⟩ := List.mem_map.mp listed
  exact min_le_left _ _

theorem le_pieceCount_mul {width : Nat} (wide : 0 < width) (size : Nat) :
    size ≤ pieceCount width size * width := by
  have covered : size + (width - 1) < (size + (width - 1)) / width * width + width :=
    Nat.lt_div_mul_add wide
  have count := Nat.mul_le_mul_right width (le_max_right 1 ((size + (width - 1)) / width))
  rw [pieceCount]
  omega

/-- The pieces have the size of the whole. -/
theorem sum_pieceSizes {width : Nat} (wide : 0 < width) (size : Nat) :
    (pieceSizes width size).sum = size := by
  -- the first pieces hold whole widths until nothing is left
  have first : ∀ count, ((List.range count).map fun index =>
      min width (size - index * width)).sum = min (count * width) size := by
    intro count
    induction count with
    | zero => simp
    | succ count ih =>
        rw [List.range_succ, List.map_append, List.sum_append, ih, List.map_singleton,
          List.sum_singleton, Nat.succ_mul]
        omega
  rw [pieceSizes, first, min_eq_right (le_pieceCount_mul wide size)]

theorem length_pieces {α : Type} (width : Nat) (items : List α) :
    (pieces width items).length = pieceCount width items.length := by
  rw [pieces, List.length_map, List.length_range]

theorem map_length_pieces {α : Type} (width : Nat) (items : List α) :
    (pieces width items).map List.length = pieceSizes width items.length := by
  rw [pieces, pieceSizes, List.map_map]
  apply List.map_congr_left
  intro index _
  exact List.length_take.trans (congrArg (min width) List.length_drop)

theorem length_le_of_mem_pieces {α : Type} {width : Nat} {items piece : List α}
    (listed : piece ∈ pieces width items) : piece.length ≤ width := by
  apply le_of_mem_pieceSizes
  rw [← map_length_pieces width items]
  exact List.mem_map_of_mem listed

/-- The pieces one after the other are the whole. -/
theorem flatten_pieces {α : Type} {width : Nat} (wide : 0 < width) (items : List α) :
    (pieces width items).flatten = items := by
  have first : ∀ count, ((List.range count).map fun index =>
      (items.drop (index * width)).take width).flatten = items.take (count * width) := by
    intro count
    induction count with
    | zero => simp
    | succ count ih =>
        rw [List.range_succ, List.map_append, List.flatten_append, ih, List.map_singleton,
          List.flatten_singleton, Nat.succ_mul, List.take_add]
  rw [pieces, first, List.take_of_length_le (le_pieceCount_mul wide items.length)]

end Reproit
