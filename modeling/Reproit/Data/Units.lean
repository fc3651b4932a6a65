/-
# Counting in units

A count is given as a number of units and a rest that is smaller than one unit, and the
units may have different sizes: years, months, hours.  Such counts compare by the units first
and by the rests then, like the texts that spell the two numbers with fixed widths.
-/

import Reproit.Data.Decimal
import Reproit.Data.Radix

namespace Reproit

/-! ## Numerals of a fixed width -/

/-- Numerals of one width compare like their numbers. -/
theorem ofDigitChars_lt_iff {first second : List Char} (same : first.length = second.length)
    (hfirst : first.all Char.isDigit = true) (hsecond : second.all Char.isDigit = true)
    (start other : Nat) :
    Nat.ofDigitChars 10 first start < Nat.ofDigitChars 10 second other ↔
      start < other ∨ start = other ∧ first < second := by
  induction first generalizing second start other with
  | nil =>
      obtain rfl := List.length_eq_zero_iff.mp same.symm
      simp [Nat.ofDigitChars_nil]
  | cons c rest ih =>
      cases second with
      | nil => cases same
      | cons d others =>
          rw [List.all_cons, Bool.and_eq_true] at hfirst hsecond
          obtain ⟨hc, spelledC⟩ := digitChar_of_isDigit hfirst.1
          obtain ⟨hd, spelledD⟩ := digitChar_of_isDigit hsecond.1
          have zero : '0'.toNat = 48 := rfl
          have low : ∀ c : Char, c.isDigit = true → 48 ≤ c.toNat := by
            intro c digit
            simp only [Char.isDigit, Bool.and_eq_true, decide_eq_true_eq] at digit
            exact UInt32.le_iff_toNat_le.mp digit.1
          have order : c < d ↔ c.toNat - '0'.toNat < d.toNat - '0'.toNat := by
            have lowC := low c hfirst.1
            have lowD := low d hsecond.1
            have codes : c < d ↔ c.toNat < d.toNat := by
              rw [Char.lt_def, UInt32.lt_iff_toNat_lt]
              rfl
            rw [codes]
            omega
          have equal : c = d ↔ c.toNat - '0'.toNat = d.toNat - '0'.toNat :=
            ⟨fun same => same ▸ rfl, fun same => by rw [← spelledC, same, spelledD]⟩
          rw [Nat.ofDigitChars_cons, Nat.ofDigitChars_cons,
            ih (Nat.succ.inj same) hfirst.2 hsecond.2, List.cons_lt_cons_iff, order, equal]
          by_cases tails : rest < others
          · simp only [tails, and_true]
            omega
          · simp only [tails, and_false, or_false]
            omega

theorem ofDigitChars_inj {first second : List Char} (same : first.length = second.length)
    (hfirst : first.all Char.isDigit = true) (hsecond : second.all Char.isDigit = true)
    (equal : Nat.ofDigitChars 10 first 0 = Nat.ofDigitChars 10 second 0) : first = second := by
  rcases lt_trichotomy first second with below | equal' | above
  · exact absurd ((ofDigitChars_lt_iff same hfirst hsecond 0 0).mpr (.inr ⟨rfl, below⟩))
      equal.not_lt
  · exact equal'
  · exact absurd ((ofDigitChars_lt_iff same.symm hsecond hfirst 0 0).mpr (.inr ⟨rfl, above⟩))
      equal.symm.not_lt

/-- A numeral of a width is below the power of ten. -/
theorem ofDigitChars_lt_pow {digits : List Char} (all : digits.all Char.isDigit = true) :
    Nat.ofDigitChars 10 digits 0 < 10 ^ digits.length := by
  induction digits using List.reverseRecOn with
  | nil => simp
  | append_singleton rest c ih =>
      rw [List.all_append, Bool.and_eq_true, List.all_cons, Bool.and_eq_true] at all
      have small := ih all.1
      obtain ⟨digit, _⟩ := digitChar_of_isDigit all.2.1
      rw [Nat.ofDigitChars_append, Nat.ofDigitChars_cons, Nat.ofDigitChars_nil, List.length_append,
        List.length_singleton, pow_succ]
      omega

/-- A numeral of a fixed width. -/
structure Numeral (width : Nat) (digits : List Char) (number : Nat) : Prop where
  length : digits.length = width
  all : digits.all Char.isDigit = true
  value : Nat.ofDigitChars 10 digits 0 = number

namespace Numeral

variable {width number other : Nat} {digits others : List Char}

theorem eq_iff (first : Numeral width digits number) (second : Numeral width others other) :
    digits = others ↔ number = other := by
  have same := first.length.trans second.length.symm
  rw [← first.value, ← second.value]
  exact ⟨fun equal => equal ▸ rfl, ofDigitChars_inj same first.all second.all⟩

theorem lt_iff (first : Numeral width digits number) (second : Numeral width others other) :
    digits < others ↔ number < other := by
  have less := ofDigitChars_lt_iff (first.length.trans second.length.symm) first.all
    second.all 0 0
  rw [first.value, second.value] at less
  simp [less]

theorem lt (numeral : Numeral width digits number) : number < 10 ^ width := by
  rw [← numeral.value, ← numeral.length]
  exact ofDigitChars_lt_pow numeral.all

/-- Texts compare by the numeral in front first. -/
theorem append_cons_lt_iff (first : Numeral width digits number)
    (second : Numeral width others other) (separator : Char) (rest behind : List Char) :
    digits ++ separator :: rest < others ++ separator :: behind ↔
      number < other ∨ number = other ∧ rest < behind := by
  rw [Radix.append_lt_append_iff (first.length.trans second.length.symm), first.lt_iff second,
    first.eq_iff second, List.cons_lt_cons_iff]
  simp

end Numeral

/-! ## Units of different sizes -/

section

variable {before size : Nat → Nat}

/-- The units up to one fit below every later one. -/
theorem before_add_size_le (step : ∀ unit, before (unit + 1) = before unit + size unit)
    {unit later : Nat} (less : unit < later) : before unit + size unit ≤ before later := by
  induction later with
  | zero => cases less
  | succ later ih =>
      rw [step]
      by_cases last : unit = later
      · rw [last]
      · exact (ih (by omega)).trans (Nat.le_add_right _ _)

/-- Counts compare by their units first and then by their rests. -/
theorem count_lt_iff (step : ∀ unit, before (unit + 1) = before unit + size unit)
    {unit other rest otherRest : Nat} (small : rest < size unit)
    (otherSmall : otherRest < size other) :
    before unit + rest < before other + otherRest ↔
      unit < other ∨ unit = other ∧ rest < otherRest := by
  rcases lt_trichotomy unit other with below | rfl | above
  · have fits := before_add_size_le step below
    exact iff_of_true (by omega) (.inl below)
  · simp
  · have fits := before_add_size_le step above
    exact iff_of_false (by omega) (by omega)

/-- Equal counts have equal units and rests. -/
theorem count_eq_iff (step : ∀ unit, before (unit + 1) = before unit + size unit)
    {unit other rest otherRest : Nat} (small : rest < size unit)
    (otherSmall : otherRest < size other) :
    before unit + rest = before other + otherRest ↔ unit = other ∧ rest = otherRest := by
  have less := count_lt_iff step small otherSmall
  have greater := count_lt_iff step otherSmall small
  constructor
  · intro same
    rcases lt_trichotomy unit other with below | rfl | above
    · exact absurd (less.mpr (.inl below)) same.not_lt
    · exact ⟨rfl, Nat.add_left_cancel same⟩
    · exact absurd (greater.mpr (.inl above)) same.symm.not_lt
  · rintro ⟨rfl, rfl⟩
    rfl

end

end Reproit
