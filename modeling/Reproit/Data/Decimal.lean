/-
# Decimal numerals

The numerals of natural numbers among all texts of digits: those without a superfluous zero.
Reading digits and writing the number again gives back the digits exactly for these.
-/

import Reproit.Data.JsonRoundTrip

namespace Reproit

/-- Digits without a superfluous zero in front. -/
structure IsDecimal (digits : List Char) : Prop where
  nonempty : digits ≠ []
  all : digits.all Char.isDigit = true
  plain : digits.head? = some '0' → digits = ['0']

theorem digitChar_of_isDigit {c : Char} (digit : c.isDigit = true) :
    c.toNat - '0'.toNat < 10 ∧ Nat.digitChar (c.toNat - '0'.toNat) = c := by
  simp only [Char.isDigit, Bool.and_eq_true, decide_eq_true_eq] at digit
  have low : 48 ≤ c.toNat := UInt32.le_iff_toNat_le.mp digit.1
  have high : c.toNat ≤ 57 := UInt32.le_iff_toNat_le.mp digit.2
  have zero : '0'.toNat = 48 := rfl
  have small : c.toNat - '0'.toNat < 10 := by omega
  refine ⟨small, Char.toNat_inj.mp ?_⟩
  rw [Nat.toNat_digitChar_of_lt_ten small]
  omega

/-- Digits behind a positive number continue its numeral. -/
theorem toDigits_append_digits {digits : List Char} (all : digits.all Char.isDigit = true)
    {start : Nat} (positive : 0 < start) :
    Nat.toDigits 10 start ++ digits = Nat.toDigits 10 (Nat.ofDigitChars 10 digits start) := by
  induction digits generalizing start with
  | nil => rw [List.append_nil, Nat.ofDigitChars_nil]
  | cons c rest ih =>
      rw [List.all_cons, Bool.and_eq_true] at all
      obtain ⟨small, same⟩ := digitChar_of_isDigit all.1
      have next := Nat.toDigits_append_toDigits (b := 10) (by decide) positive small
      rw [Nat.toDigits_of_lt_base small, same] at next
      rw [Nat.ofDigitChars_cons, ← ih all.2 (by omega), ← next, List.append_assoc,
        List.singleton_append]

/-- The numeral of a number is read and written again as it is. -/
theorem IsDecimal.toDigits_ofDigitChars {digits : List Char} (decimal : IsDecimal digits) :
    Nat.toDigits 10 (Nat.ofDigitChars 10 digits 0) = digits := by
  obtain ⟨nonempty, all, plain⟩ := decimal
  cases digits with
  | nil => exact absurd rfl nonempty
  | cons c rest =>
      by_cases zero : c = '0'
      · subst zero
        rw [plain rfl]
        rfl
      · rw [List.all_cons, Bool.and_eq_true] at all
        obtain ⟨small, same⟩ := digitChar_of_isDigit all.1
        have positive : 0 < c.toNat - '0'.toNat := by
          apply Nat.pos_of_ne_zero
          intro none
          rw [none] at same
          exact zero same.symm
        rw [Nat.ofDigitChars_cons, Nat.mul_zero, Nat.zero_add,
          ← toDigits_append_digits all.2 positive, Nat.toDigits_of_lt_base small, same,
          List.singleton_append]

theorem isDecimal_toDigits (number : Nat) : IsDecimal (Nat.toDigits 10 number) where
  nonempty := Nat.toDigits_ne_nil
  all := List.all_eq_true.mpr fun _ member =>
    Nat.isDigit_of_mem_toDigits (by decide) (by decide) member
  plain := by
    intro head
    have short := Json.toDigits_head number
    have positive := Nat.length_toDigits_pos (b := 10) (n := number)
    have single : (Nat.toDigits 10 number).length = 1 := by
      by_contra longer
      exact short ⟨by omega, head⟩
    obtain ⟨c, same⟩ := List.length_eq_one_iff.mp single
    rw [same] at head ⊢
    exact congrArg (fun c => [c]) (Option.some.inj head)

end Reproit
