/-
# Searching a stream through a window

A stream is read in short pieces.  The search looks at the piece that was read last
behind the end of what came before it.  It finds every pattern of the stream when the
kept end is only one item shorter than the longest pattern, however the pieces fall.
-/

import Mathlib.Data.List.Infix

namespace Reproit

variable {α : Type}

/-! ## Windows -/

/-- The parts of a fixed size in a row, from the first to the last. -/
def windows (size : Nat) (items : List α) : List (List α) :=
  (List.range (items.length + 1 - size)).map fun start => (items.drop start).take size

theorem mem_windows {size : Nat} {items part : List α} :
    part ∈ windows size items ↔ part.length = size ∧ part <:+: items := by
  rw [windows, List.mem_map]
  constructor
  · intro ⟨start, listed, same⟩
    rw [List.mem_range] at listed
    subst same
    constructor
    · rw [List.length_take, List.length_drop]
      omega
    · exact (List.take_prefix _ _).isInfix.trans (List.drop_suffix _ _).isInfix
  · intro ⟨width, before, after, split⟩
    subst split
    refine ⟨before.length, ?_, ?_⟩
    · rw [List.mem_range, List.length_append, List.length_append]
      omega
    · rw [List.append_assoc, List.drop_left, ← width, List.take_left]

/-- The last items of a list. -/
def keepLast (count : Nat) (items : List α) : List α := items.drop (items.length - count)

theorem length_keepLast (count : Nat) (items : List α) :
    (keepLast count items).length = min count items.length := by
  rw [keepLast, List.length_drop]
  omega

theorem keepLast_nil (count : Nat) : keepLast count ([] : List α) = [] := List.drop_nil

theorem keepLast_suffix (count : Nat) (items : List α) : keepLast count items <:+ items :=
  List.drop_suffix _ _

/-- A suffix that is short enough lies in the kept end. -/
theorem suffix_keepLast {count : Nat} {part items : List α} (ends : part <:+ items)
    (short : part.length ≤ count) : part <:+ keepLast count items := by
  apply List.suffix_of_suffix_length_le ends (keepLast_suffix count items)
  have := ends.length_le
  rw [length_keepLast]
  omega

/-- What is kept of a list does not depend on what was forgotten before. -/
theorem keepLast_append (count : Nat) (earlier piece : List α) :
    keepLast count (keepLast count earlier ++ piece) = keepLast count (earlier ++ piece) := by
  have ends : keepLast count (keepLast count earlier ++ piece) <:+ earlier ++ piece :=
    (keepLast_suffix _ _).trans
      ((List.suffix_append_self_iff).mpr (keepLast_suffix count earlier))
  apply (suffix_keepLast ends (by rw [length_keepLast]; omega)).eq_of_length
  simp only [length_keepLast, List.length_append]
  omega

/-- A short pattern lies in what came before or in the window. -/
theorem infix_append_iff_window {count : Nat} {pattern earlier piece : List α}
    (short : pattern.length ≤ count + 1) :
    pattern <:+: earlier ++ piece ↔
      pattern <:+: earlier ∨ pattern <:+: keepLast count earlier ++ piece := by
  constructor
  · intro found
    rcases List.infix_append_iff.mp found with inside | new | ⟨front, back, rfl, ends, begins⟩
    · exact .inl inside
    · exact .inr (List.infix_append_of_infix_right new)
    · -- a pattern across the border has a nonempty back, so its front fits the kept end
      cases back with
      | nil => exact .inl (by simpa using ends.isInfix)
      | cons first back =>
          right
          rw [List.length_append, List.length_cons] at short
          refine List.infix_append_iff.mpr (.inr (.inr ⟨front, first :: back, rfl, ?_, begins⟩))
          exact suffix_keepLast ends (by omega)
  · intro found
    rcases found with inside | window
    · exact List.infix_append_of_infix_left inside
    · exact window.trans ((List.suffix_append_self_iff).mpr (keepLast_suffix count earlier)).isInfix

/-! ## Reading in pieces -/

/-- How many items every read of a stream offers; none is offered only at the end. -/
structure ShortReads where
  offer : Nat → Nat
  positive : ∀ turn, 0 < offer turn

/-- The items that a read puts into a buffer. -/
def ShortReads.read (reads : ShortReads) (turn capacity : Nat) (rest : List α) : List α :=
  rest.take (min (reads.offer turn) capacity)

theorem ShortReads.read_prefix (reads : ShortReads) (turn capacity : Nat) (rest : List α) :
    reads.read turn capacity rest ++ rest.drop (reads.read turn capacity rest).length = rest := by
  have short : (reads.read turn capacity rest).length =
      min (min (reads.offer turn) capacity) rest.length := List.length_take
  rw [short, read, ← List.drop_eq_drop_min, List.take_append_drop]

theorem ShortReads.length_drop_read_lt (reads : ShortReads) {turn capacity : Nat} {rest : List α}
    (some : (reads.read turn capacity rest).length ≠ 0) :
    (rest.drop (reads.read turn capacity rest).length).length < rest.length := by
  have lengths := congrArg List.length (reads.read_prefix turn capacity rest)
  rw [List.length_append] at lengths
  omega

/-- A read into a buffer with room gets nothing only at the end of the stream. -/
theorem ShortReads.read_eq_nil {reads : ShortReads} {turn capacity : Nat} {rest : List α}
    (room : 0 < capacity) : reads.read turn capacity rest = [] ↔ rest = [] := by
  have positive := reads.positive turn
  rw [read, List.take_eq_nil_iff]
  constructor
  · intro nothing
    rcases nothing with none | ended
    · omega
    · exact ended
  · exact .inr

/-! ## The search -/

/-- Read the stream into a buffer behind the kept end until something is found in the
buffer or the stream ends. -/
def streamSearch (found : List α → Bool) (count capacity : Nat) (reads : ShortReads) (turn : Nat)
    (retained rest : List α) : Bool :=
  let taken := reads.read turn (capacity - retained.length) rest
  let buffer := retained ++ taken
  if found buffer then true
  else if taken.length = 0 then false
  else
    streamSearch found count capacity reads (turn + 1) (keepLast count buffer)
      (rest.drop taken.length)
termination_by rest.length
decreasing_by
  rename_i nonempty
  exact reads.length_drop_read_lt nonempty

/-- The search finds what is in the whole stream, whatever the reads are. -/
theorem streamSearch_iff {found : List α → Bool} {count capacity : Nat} {reads : ShortReads}
    {patterns : List (List α)}
    (finds : ∀ buffer, found buffer = true ↔ ∃ pattern ∈ patterns, pattern <:+: buffer)
    (short : ∀ pattern ∈ patterns, pattern.length ≤ count + 1) (room : count < capacity)
    (turn : Nat) (earlier rest : List α)
    (nothing : ∀ pattern ∈ patterns, ¬ pattern <:+: earlier) :
    streamSearch found count capacity reads turn (keepLast count earlier) rest = true ↔
      ∃ pattern ∈ patterns, pattern <:+: earlier ++ rest := by
  -- what was read so far has no pattern, and the retained items are its end
  induction size : rest.length using Nat.strongRecOn generalizing turn earlier rest with
  | ind length ih =>
      have free : 0 < capacity - (keepLast count earlier).length := by
        rw [length_keepLast]
        omega
      have whole := reads.read_prefix turn (capacity - (keepLast count earlier).length) rest
      rw [streamSearch]
      generalize taken_eq :
        reads.read turn (capacity - (keepLast count earlier).length) rest = taken at whole ⊢
      by_cases here : found (keepLast count earlier ++ taken) = true
      · obtain ⟨pattern, listed, inside⟩ := (finds _).mp here
        rw [if_pos here]
        refine iff_of_true rfl ⟨pattern, listed, ?_⟩
        rw [← whole, ← List.append_assoc]
        apply List.infix_append_of_infix_left
        exact (infix_append_iff_window (short pattern listed)).mpr (.inr inside)
      · have absent : ∀ pattern ∈ patterns, ¬ pattern <:+: earlier ++ taken := by
          intro pattern listed inside
          rcases (infix_append_iff_window (short pattern listed)).mp inside with old | window
          · exact nothing pattern listed old
          · exact here ((finds _).mpr ⟨pattern, listed, window⟩)
        rw [if_neg here]
        by_cases ended : taken.length = 0
        · have last := List.eq_nil_of_length_eq_zero ended
          rw [if_pos ended]
          rw [last] at taken_eq absent
          rw [(ShortReads.read_eq_nil free).mp taken_eq]
          apply iff_of_false (by simp)
          intro ⟨pattern, listed, inside⟩
          exact absent pattern listed inside
        · have shorter : (rest.drop taken.length).length < length := by
            rw [← size, ← taken_eq]
            exact reads.length_drop_read_lt (by rwa [taken_eq])
          rw [if_neg ended, keepLast_append,
            ih _ shorter (turn + 1) (earlier ++ taken) (rest.drop taken.length) absent rfl,
            List.append_assoc, whole]

end Reproit
