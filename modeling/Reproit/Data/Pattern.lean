/-
# Texts by position

A pattern gives the class of the character at every position, so every text that it
accepts has one length.  A text of such a form can be checked character by character or
cut into its parts, and its parts can be found again by their bytes.
-/

import Mathlib.Data.List.TakeWhile
import Reproit.Data.DocumentSize
import Reproit.Data.Text

namespace Reproit

/-- The class of the character at every position of a text. -/
abbrev Pattern := List (Char → Bool)

namespace Pattern

/-- The text has a character of its class at every position, and no other. -/
def accepts : Pattern → List Char → Bool
  | [], text => text.isEmpty
  | _ :: _, [] => false
  | holds :: rest, c :: text => holds c && accepts rest text

/-- The pattern of one word. -/
def word (text : List Char) : Pattern := text.map fun c other => other = c

/-- A number of characters of one class. -/
def times (width : Nat) (holds : Char → Bool) : Pattern := List.replicate width holds

theorem accepts_nil (text : List Char) : accepts [] text = true ↔ text = [] :=
  List.isEmpty_iff

theorem accepts_cons (holds : Char → Bool) (rest : Pattern) (text : List Char) :
    accepts (holds :: rest) text = true ↔
      ∃ c tail, text = c :: tail ∧ holds c = true ∧ accepts rest tail = true := by
  cases text with
  | nil => simp [accepts]
  | cons c tail => simp [accepts]

theorem accepts_append (first second : Pattern) (text : List Char) :
    accepts (first ++ second) text = true ↔
      ∃ head tail, text = head ++ tail ∧ accepts first head = true ∧
        accepts second tail = true := by
  induction first generalizing text with
  | nil => simp [accepts_nil]
  | cons holds rest ih =>
      rw [List.cons_append, accepts_cons]
      constructor
      · intro ⟨c, behind, spelled, valid, accepted⟩
        obtain ⟨head, tail, rfl, left, right⟩ := (ih behind).mp accepted
        exact ⟨c :: head, tail, spelled, (accepts_cons _ _ _).mpr ⟨c, head, rfl, valid, left⟩,
          right⟩
      · intro ⟨whole, tail, spelled, left, right⟩
        obtain ⟨c, head, rfl, valid, accepted⟩ := (accepts_cons _ _ _).mp left
        exact ⟨c, head ++ tail, spelled, valid, (ih _).mpr ⟨head, tail, rfl, accepted, right⟩⟩

theorem accepts_word (expected text : List Char) :
    accepts (word expected) text = true ↔ text = expected := by
  induction expected generalizing text with
  | nil => exact accepts_nil text
  | cons c rest ih =>
      rw [word, List.map_cons, accepts_cons]
      constructor
      · intro ⟨other, tail, spelled, same, accepted⟩
        rw [spelled, of_decide_eq_true same, (ih tail).mp accepted]
      · intro spelled
        exact ⟨c, rest, spelled, decide_eq_true rfl, (ih rest).mpr rfl⟩

theorem accepts_times (width : Nat) (holds : Char → Bool) (text : List Char) :
    accepts (times width holds) text = true ↔
      text.length = width ∧ text.all holds = true := by
  induction width generalizing text with
  | zero =>
      rw [times, List.replicate_zero, accepts_nil, List.length_eq_zero_iff]
      exact ⟨fun none => ⟨none, none ▸ rfl⟩, And.left⟩
  | succ width ih =>
      rw [times, List.replicate_succ, accepts_cons]
      constructor
      · intro ⟨c, tail, spelled, valid, accepted⟩
        obtain ⟨length, all⟩ := (ih tail).mp accepted
        rw [spelled, List.length_cons, List.all_cons, valid, all, length]
        exact ⟨rfl, rfl⟩
      · intro ⟨length, all⟩
        obtain ⟨c, tail, rfl⟩ := List.exists_cons_of_length_eq_add_one length
        rw [List.all_cons, Bool.and_eq_true] at all
        exact ⟨c, tail, rfl, all.1, (ih tail).mpr ⟨Nat.succ.inj length, all.2⟩⟩

theorem length_of_accepts {pattern : Pattern} {text : List Char}
    (accepted : accepts pattern text = true) : text.length = pattern.length := by
  induction pattern generalizing text with
  | nil =>
      rw [(accepts_nil text).mp accepted]
      rfl
  | cons holds rest ih =>
      obtain ⟨c, tail, rfl, _, later⟩ := (accepts_cons _ _ _).mp accepted
      rw [List.length_cons, List.length_cons, ih later]

/-- A pattern is checked character by character. -/
theorem accepts_iff_forall (pattern : Pattern) (text : List Char) :
    accepts pattern text = true ↔ text.length = pattern.length ∧
      ∀ (index : Nat) (c : Char), text[index]? = some c →
        ∃ holds, pattern[index]? = some holds ∧ holds c = true := by
  induction pattern generalizing text with
  | nil =>
      rw [accepts_nil, List.length_nil, List.length_eq_zero_iff]
      refine ⟨fun none => ⟨none, fun index c found => ?_⟩, And.left⟩
      rw [none] at found
      cases found
  | cons holds rest ih =>
      rw [accepts_cons]
      constructor
      · intro ⟨c, tail, spelled, valid, accepted⟩
        obtain ⟨length, each⟩ := (ih tail).mp accepted
        subst spelled
        refine ⟨congrArg _ length, fun index other found => ?_⟩
        cases index with
        | zero => exact ⟨holds, rfl, Option.some.inj found ▸ valid⟩
        | succ index => exact each index other found
      · intro ⟨length, each⟩
        obtain ⟨c, tail, rfl⟩ := List.exists_cons_of_length_eq_add_one length
        obtain ⟨_, same, valid⟩ := each 0 c rfl
        obtain rfl := Option.some.inj same
        exact ⟨c, tail, rfl, valid, (ih tail).mpr ⟨Nat.succ.inj length, fun index =>
          each (index + 1)⟩⟩

/-- A pattern that is given by the classes of the characters of an example. -/
theorem accepts_map (classOf : Char → Char → Bool) (shape text : List Char) :
    accepts (shape.map classOf) text =
      (decide (text.length = shape.length) &&
        (text.zip shape).all fun (held, expected) => classOf expected held) := by
  induction shape generalizing text with
  | nil => cases text <;> rfl
  | cons expected shape ih =>
      cases text with
      | nil => rfl
      | cons held text =>
          rw [List.map_cons, accepts, ih, List.zip_cons_cons, List.all_cons, Bool.and_left_comm]
          simp

/-- A text that is accepted has characters of these classes only. -/
theorem of_mem_of_accepts {pattern : Pattern} {text : List Char}
    (accepted : accepts pattern text = true) {c : Char} (member : c ∈ text) :
    ∃ holds ∈ pattern, holds c = true := by
  obtain ⟨index, found⟩ := List.mem_iff_getElem?.mp member
  obtain ⟨holds, listed, valid⟩ := ((accepts_iff_forall pattern text).mp accepted).2 _ _ found
  exact ⟨holds, List.mem_of_getElem? listed, valid⟩

end Pattern

/-! ## Cutting by bytes -/

/-- Cut a text behind a number of bytes, if a character ends there. -/
def splitAtByte : Nat → List Char → Option (List Char × List Char)
  | 0, text => some ([], text)
  | _ + 1, [] => none
  | size + 1, c :: rest =>
      if c.utf8Size ≤ size + 1 then
        (splitAtByte (size + 1 - c.utf8Size) rest).map fun (head, tail) => (c :: head, tail)
      else none

theorem splitAtByte_append (head tail : List Char) :
    splitAtByte (Json.textBytes head).length (head ++ tail) = some (head, tail) := by
  induction head with
  | nil => cases tail <;> rfl
  | cons c head ih =>
      obtain ⟨size, more⟩ := Nat.exists_eq_succ_of_ne_zero c.utf8Size_pos.ne'
      rw [Json.length_textBytes_cons, Nat.add_comm, more, Nat.add_succ, List.cons_append,
        splitAtByte, more, if_pos (by omega)]
      have left : (Json.textBytes head).length + size + 1 - size.succ =
          (Json.textBytes head).length := by omega
      rw [left, ih]
      rfl

/-- The part of a text between two bytes, if characters end there. -/
def byteSlice (first last : Nat) (text : List Char) : Option (List Char) := do
  let (head, _) ← splitAtByte last text
  let (_, slice) ← splitAtByte first head
  return slice

/-- A part is found between the bytes in front of it and behind it. -/
theorem byteSlice_append {head part tail : List Char} {first last : Nat}
    (before : (Json.textBytes head).length = first)
    (behind : (Json.textBytes (head ++ part)).length = last) :
    byteSlice first last (head ++ part ++ tail) = some part := by
  rw [byteSlice, ← behind, splitAtByte_append, ← before]
  simp only [Option.bind_eq_bind, Option.bind_some, splitAtByte_append]
  rfl

/-! ## The first separator -/

/-- A text is cut at its first separator. -/
theorem splitOnce_eq_some {separator : Char} {text first second : List Char} :
    splitOnce separator text = some (first, second) ↔
      text = first ++ separator :: second ∧ separator ∉ first := by
  rw [splitOnce]
  constructor
  · intro found
    split_ifs at found with member
    · obtain ⟨rfl, rfl⟩ := Prod.mk.inj (Option.some.inj found)
      refine ⟨?_, fun inside => ?_⟩
      · have behind : text.dropWhile (· ≠ separator) ≠ [] := by
          intro none
          rw [List.dropWhile_eq_nil_iff] at none
          exact absurd rfl (of_decide_eq_true (none _ member))
        have head := List.head_dropWhile_not (· ≠ separator) behind
        rw [decide_eq_false_iff_not, not_not] at head
        conv_lhs => rw [← List.takeWhile_append_dropWhile (p := (· ≠ separator)) (l := text)]
        rw [← List.cons_head_tail behind, head, List.tail_cons]
      · have other := List.mem_takeWhile_imp (p := fun c => decide (c ≠ separator)) inside
        exact of_decide_eq_true other rfl
  · rintro ⟨rfl, without⟩
    have all : ∀ c ∈ first, decide (c ≠ separator) = true := fun c inside =>
      decide_eq_true fun same => without (same ▸ inside)
    rw [if_pos (by simp), List.takeWhile_append_of_pos all, List.dropWhile_append_of_pos all]
    simp

end Reproit
