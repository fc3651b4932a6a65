/-
# Fixed-width lowercase hexadecimal text

Identifiers and digests are spelled as a fixed number of lowercase hexadecimal
digits, most significant first.  For one width the spelling is a bijection with
the numbers below the bound, and it preserves the order: comparing two spellings
as text compares the numbers.
-/

import Mathlib.Data.List.Induction
import Mathlib.Data.List.Lex
import Mathlib.Data.Nat.Digits.Defs
import Mathlib.Data.String.Basic
import Mathlib.Tactic.Ring

namespace Reproit.Radix

/-- The lowercase hexadecimal digits of `number`, truncated to `width` digits. -/
def hexText : (width number : Nat) → List Char
  | 0, _ => []
  | width + 1, number => hexText width (number / 16) ++ [Nat.digitChar (number % 16)]

/-- The value of one lowercase hexadecimal digit. -/
def hexValue (digit : Char) : Option Nat :=
  if '0' ≤ digit ∧ digit ≤ '9' then some (digit.toNat - '0'.toNat)
  else if 'a' ≤ digit ∧ digit ≤ 'f' then some (digit.toNat - 'a'.toNat + 10)
  else none

/-- Continue reading lowercase hexadecimal digits after the value read so far. -/
def readHex (start : Nat) : List Char → Option Nat
  | [] => some start
  | digit :: rest => (hexValue digit).bind fun value => readHex (16 * start + value) rest

@[simp]
theorem length_hexText (width number : Nat) : (hexText width number).length = width := by
  induction width generalizing number with
  | zero => rfl
  | succ width ih => simp [hexText, ih]

theorem hexValue_digitChar : ∀ value < 16, hexValue (Nat.digitChar value) = some value := by
  decide

theorem readHex_append (start : Nat) (first second : List Char) :
    readHex start (first ++ second) = (readHex start first).bind (readHex · second) := by
  induction first generalizing start with
  | nil => rfl
  | cons digit rest ih =>
      cases hvalue : hexValue digit with
      | none => simp [readHex, hvalue]
      | some value => simp [readHex, hvalue, ih]

/-- Reading a spelling returns the number, up to the digits the width drops. -/
theorem readHex_hexText (start width number : Nat) :
    readHex start (hexText width number) =
      some (start * 16 ^ width + number % 16 ^ width) := by
  induction width generalizing number with
  | zero => simp [hexText, readHex, Nat.mod_one]
  | succ width ih =>
      have last := hexValue_digitChar (number % 16) (Nat.mod_lt _ (by omega))
      have split : number % 16 ^ (width + 1) =
          16 * (number / 16 % 16 ^ width) + number % 16 := by
        rw [pow_succ', Nat.mod_mul]
        ring
      simp only [hexText, readHex_append, ih, Option.bind_some, readHex, last, split]
      congr 1
      ring

/-- Only the digits that fit the width are spelled. -/
theorem hexText_mod (width number : Nat) :
    hexText width (number % 16 ^ width) = hexText width number := by
  induction width generalizing number with
  | zero => rfl
  | succ width ih =>
      have high : number % 16 ^ (width + 1) / 16 = number / 16 % 16 ^ width := by
        rw [pow_succ', Nat.mod_mul_right_div_self]
      have low : number % 16 ^ (width + 1) % 16 = number % 16 := by
        rw [pow_succ', Nat.mod_mul_right_mod]
      rw [hexText, hexText, high, low, ih]

theorem readHex_zero_hexText {width number : Nat} (small : number < 16 ^ width) :
    readHex 0 (hexText width number) = some number := by
  simp [readHex_hexText, Nat.mod_eq_of_lt small]

/-- Two numbers below the bound have one spelling only when they are equal. -/
theorem hexText_injective {width first second : Nat} (hfirst : first < 16 ^ width)
    (hsecond : second < 16 ^ width) (same : hexText width first = hexText width second) :
    first = second := by
  have read := congrArg (readHex 0) same
  rw [readHex_zero_hexText hfirst, readHex_zero_hexText hsecond] at read
  exact Option.some.inj read

theorem digitChar_lt : ∀ first < 16, ∀ second < 16, first < second →
    Nat.digitChar first < Nat.digitChar second := by
  decide

/-- Texts that agree in length compare by their first parts, then by their rest. -/
theorem append_lt_append_iff {α : Type} [LinearOrder α] {first second : List α}
    (same : first.length = second.length) (firstRest secondRest : List α) :
    first ++ firstRest < second ++ secondRest ↔
      first < second ∨ first = second ∧ firstRest < secondRest := by
  induction first generalizing second with
  | nil =>
      have empty : second = [] := List.length_eq_zero_iff.mp same.symm
      subst empty
      simp
  | cons head tail ih =>
      cases second with
      | nil => simp at same
      | cons otherHead otherTail =>
          have tails := @ih otherTail (by simpa using same)
          rw [List.cons_append, List.cons_append, List.cons_lt_cons_iff,
            List.cons_lt_cons_iff, tails]
          simp only [List.cons.injEq]
          tauto

/-- For one width, text order is numeric order. -/
theorem hexText_lt_iff {width first second : Nat} (hfirst : first < 16 ^ width)
    (hsecond : second < 16 ^ width) :
    hexText width first < hexText width second ↔ first < second := by
  induction width generalizing first second with
  | zero => simp_all [hexText]
  | succ width ih =>
      have hfirst' : first / 16 < 16 ^ width := by
        rw [pow_succ] at hfirst
        omega
      have hsecond' : second / 16 < 16 ^ width := by
        rw [pow_succ] at hsecond
        omega
      have lastLt : [Nat.digitChar (first % 16)] < [Nat.digitChar (second % 16)] ↔
          first % 16 < second % 16 := by
        rw [List.cons_lt_cons_iff]
        simp only [List.not_lt_nil, and_false, or_false]
        constructor
        · intro hlt
          by_contra hge
          rcases Nat.lt_or_eq_of_le (Nat.le_of_not_lt hge) with hgt | heq
          · exact lt_asymm hlt (digitChar_lt _ (Nat.mod_lt _ (by omega)) _
              (Nat.mod_lt _ (by omega)) hgt)
          · rw [heq] at hlt
            exact lt_irrefl _ hlt
        · exact digitChar_lt _ (Nat.mod_lt _ (by omega)) _ (Nat.mod_lt _ (by omega))
      have sameIff : hexText width (first / 16) = hexText width (second / 16) ↔
          first / 16 = second / 16 :=
        ⟨hexText_injective hfirst' hsecond', fun h => by rw [h]⟩
      rw [hexText, hexText, append_lt_append_iff (by simp), ih hfirst' hsecond', sameIff, lastLt]
      omega

/-- Comparing residues compares the high part first, then the low part. -/
theorem mod_mul_lt_iff {low high first second : Nat} (pos : 0 < low) :
    first % (low * high) < second % (low * high) ↔
      first / low % high < second / low % high ∨
        first / low % high = second / low % high ∧ first % low < second % low := by
  have firstLow := Nat.mod_lt first pos
  have secondLow := Nat.mod_lt second pos
  rw [Nat.mod_mul, Nat.mod_mul]
  rcases lt_trichotomy (first / low % high) (second / low % high) with below | same | above
  · have step : low * (first / low % high + 1) ≤ low * (second / low % high) :=
      Nat.mul_le_mul_left low below
    rw [mul_add] at step
    simp only [below, true_or, iff_true]
    omega
  · simp [same]
  · have step : low * (second / low % high + 1) ≤ low * (first / low % high) :=
      Nat.mul_le_mul_left low above
    rw [mul_add] at step
    simp only [above.not_gt, above.ne', false_and, or_self, iff_false]
    omega

/-- Every digit of a spelling is a lowercase hexadecimal digit. -/
theorem hexValue_isSome_of_mem_hexText {width number : Nat} {digit : Char}
    (member : digit ∈ hexText width number) : (hexValue digit).isSome := by
  induction width generalizing number with
  | zero => simp [hexText] at member
  | succ width ih =>
      rcases List.mem_append.mp member with earlier | last
      · exact ih earlier
      · rw [List.mem_singleton.mp last, hexValue_digitChar _ (Nat.mod_lt _ (by omega))]
        rfl

/-- A digit is the spelling of its value. -/
theorem digitChar_of_hexValue {digit : Char} {value : Nat} (read : hexValue digit = some value) :
    value < 16 ∧ Nat.digitChar value = digit := by
  have decimalDigits : ∀ offset < 10, Nat.digitChar offset = Char.ofNat (48 + offset) := by decide
  have letterDigits : ∀ offset < 6, Nat.digitChar (10 + offset) = Char.ofNat (97 + offset) := by
    decide
  rw [hexValue] at read
  by_cases decimal : '0' ≤ digit ∧ digit ≤ '9'
  · have low : 48 ≤ digit.toNat := decimal.1
    have high : digit.toNat ≤ 57 := decimal.2
    rw [if_pos decimal] at read
    have found : digit.toNat - 48 = value := Option.some.inj read
    have small : value < 10 := by omega
    have code : 48 + value = digit.toNat := by omega
    exact ⟨by omega, by rw [decimalDigits value small, code, Char.ofNat_toNat]⟩
  · rw [if_neg decimal] at read
    by_cases letter : 'a' ≤ digit ∧ digit ≤ 'f'
    · have low : 97 ≤ digit.toNat := letter.1
      have high : digit.toNat ≤ 102 := letter.2
      rw [if_pos letter] at read
      have found : digit.toNat - 97 + 10 = value := Option.some.inj read
      obtain ⟨offset, rfl⟩ := Nat.exists_eq_add_of_le (show 10 ≤ value by omega)
      have small : offset < 6 := by omega
      have code : 97 + offset = digit.toNat := by omega
      exact ⟨by omega, by rw [letterDigits offset small, code, Char.ofNat_toNat]⟩
    · rw [if_neg letter] at read
      cases read

/-- Digits are the spelling of what they are read as. -/
theorem eq_hexText_of_readHex {digits : List Char} {start number : Nat}
    (read : readHex start digits = some number) :
    ∃ rest < 16 ^ digits.length, number = start * 16 ^ digits.length + rest ∧
      digits = hexText digits.length rest := by
  induction digits using List.reverseRecOn generalizing number with
  | nil =>
      cases read
      exact ⟨0, Nat.one_pos, by simp, rfl⟩
  | append_singleton digits digit ih =>
      rw [readHex_append, Option.bind_eq_some_iff] at read
      obtain ⟨high, readHigh, readLow⟩ := read
      obtain ⟨rest, small, same, spelled⟩ := ih readHigh
      rw [readHex, Option.bind_eq_some_iff] at readLow
      obtain ⟨low, valued, last⟩ := readLow
      obtain ⟨digitSmall, char⟩ := digitChar_of_hexValue valued
      have total : 16 * high + low = number := Option.some.inj last
      refine ⟨16 * rest + low, ?_, ?_, ?_⟩
      · rw [List.length_append, List.length_singleton, pow_succ]
        omega
      · rw [← total, same, List.length_append, List.length_singleton, pow_succ]
        ring
      · rw [List.length_append, List.length_singleton, hexText,
          show (16 * rest + low) / 16 = rest by omega,
          show (16 * rest + low) % 16 = low by omega, ← spelled, char]

end Reproit.Radix
