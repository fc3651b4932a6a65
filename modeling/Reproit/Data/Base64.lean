/-
# Unpadded URL-safe base 64

Three bytes are written as four digits; a rest of one or two bytes is written as two
or three digits whose unused low bits are zero.  The reader refuses other digits,
a single left-over digit and unused bits that are set, so it is the exact inverse of
the writer.
-/

import Mathlib.Data.List.Basic
import Mathlib.Data.List.Nodup

namespace Reproit.Base64

/-- The digits in the order of their values. -/
def alphabet : List Char :=
  "ABCDEFGHIJKLMNOPQRSTUVWXYZabcdefghijklmnopqrstuvwxyz0123456789-_".toList

def digit (value : Nat) : Char := alphabet.getD value 'A'

def digitValue (c : Char) : Option Nat :=
  if c ∈ alphabet then some (alphabet.idxOf c) else none

theorem digitValue_digit : ∀ value < 64, digitValue (digit value) = some value := by
  decide

theorem digitValue_eq_some {c : Char} {value : Nat} (read : digitValue c = some value) :
    value < 64 ∧ digit value = c := by
  unfold digitValue at read
  split_ifs at read with member
  obtain rfl := Option.some.inj read
  have small : alphabet.idxOf c < alphabet.length := List.idxOf_lt_length_of_mem member
  refine ⟨small, ?_⟩
  rw [digit, List.getD_eq_getElem?_getD, List.getElem?_eq_getElem small,
    List.getElem_idxOf small, Option.getD_some]

def encode : List UInt8 → List Char
  | [] => []
  | [a] =>
      let group := a.toNat * 16
      [digit (group / 64), digit (group % 64)]
  | [a, b] =>
      let group := (a.toNat * 256 + b.toNat) * 4
      [digit (group / 4096), digit (group / 64 % 64), digit (group % 64)]
  | a :: b :: c :: rest =>
      let group := (a.toNat * 256 + b.toNat) * 256 + c.toNat
      digit (group / 262144) :: digit (group / 4096 % 64) :: digit (group / 64 % 64) ::
        digit (group % 64) :: encode rest

def decode : List Char → Option (List UInt8)
  | [] => some []
  | [_] => none
  | [a, b] => do
      let a ← digitValue a
      let b ← digitValue b
      let group := a * 64 + b
      if group % 16 = 0 then some [UInt8.ofNat (group / 16)] else none
  | [a, b, c] => do
      let a ← digitValue a
      let b ← digitValue b
      let c ← digitValue c
      let group := (a * 64 + b) * 64 + c
      if group % 4 = 0 then some [UInt8.ofNat (group / 1024), UInt8.ofNat (group / 4)] else none
  | a :: b :: c :: d :: rest => do
      let a ← digitValue a
      let b ← digitValue b
      let c ← digitValue c
      let d ← digitValue d
      let bytes ← decode rest
      let group := ((a * 64 + b) * 64 + c) * 64 + d
      some (UInt8.ofNat (group / 65536) :: UInt8.ofNat (group / 256) :: UInt8.ofNat group :: bytes)

theorem ofNat_eq {number : Nat} {byte : UInt8} (same : number % 256 = byte.toNat) :
    UInt8.ofNat number = byte := by
  rw [← UInt8.toNat_inj, UInt8.toNat_ofNat']
  exact same

/-- Reading inverts writing. -/
theorem decode_encode (bytes : List UInt8) : decode (encode bytes) = some bytes := by
  induction bytes using encode.induct with
  | case1 => rfl
  | case2 a =>
      have ha := a.toNat_lt
      have first := digitValue_digit (a.toNat * 16 / 64) (by omega)
      have second := digitValue_digit (a.toNat * 16 % 64) (by omega)
      simp only [encode, decode, first, second, Option.bind_eq_bind, Option.bind_some]
      rw [if_pos (by omega)]
      congr 2
      exact ofNat_eq (by omega)
  | case3 a b =>
      have ha := a.toNat_lt
      have hb := b.toNat_lt
      have first := digitValue_digit ((a.toNat * 256 + b.toNat) * 4 / 4096) (by omega)
      have second := digitValue_digit ((a.toNat * 256 + b.toNat) * 4 / 64 % 64) (by omega)
      have third := digitValue_digit ((a.toNat * 256 + b.toNat) * 4 % 64) (by omega)
      simp only [encode, decode, first, second, third, Option.bind_eq_bind, Option.bind_some]
      rw [if_pos (by omega)]
      congr 2
      · exact ofNat_eq (by omega)
      · congr 1
        exact ofNat_eq (by omega)
  | case4 a b c rest ih =>
      have ha := a.toNat_lt
      have hb := b.toNat_lt
      have hc := c.toNat_lt
      have first := digitValue_digit
        (((a.toNat * 256 + b.toNat) * 256 + c.toNat) / 262144) (by omega)
      have second := digitValue_digit
        (((a.toNat * 256 + b.toNat) * 256 + c.toNat) / 4096 % 64) (by omega)
      have third := digitValue_digit
        (((a.toNat * 256 + b.toNat) * 256 + c.toNat) / 64 % 64) (by omega)
      have fourth := digitValue_digit
        (((a.toNat * 256 + b.toNat) * 256 + c.toNat) % 64) (by omega)
      simp only [encode, decode, first, second, third, fourth, ih, Option.bind_eq_bind,
        Option.bind_some]
      congr 2
      · exact ofNat_eq (by omega)
      · congr 1
        · exact ofNat_eq (by omega)
        · congr 1
          exact ofNat_eq (by omega)

/-- Only the text of the bytes is read as the bytes. -/
theorem encode_of_decode {text : List Char} {bytes : List UInt8}
    (read : decode text = some bytes) : encode bytes = text := by
  induction text using decode.induct generalizing bytes with
  | case1 =>
      obtain rfl := Option.some.inj read
      rfl
  | case2 _ => cases read
  | case3 a b =>
      simp only [decode, Option.bind_eq_bind, Option.bind_eq_some_iff, Option.ite_none_right_eq_some,
        Option.some.injEq] at read
      obtain ⟨first, hfirst, second, hsecond, even, rfl⟩ := read
      obtain ⟨firstSmall, rfl⟩ := digitValue_eq_some hfirst
      obtain ⟨secondSmall, rfl⟩ := digitValue_eq_some hsecond
      have group : (first * 64 + second) / 16 % 2 ^ 8 * 16 = first * 64 + second := by omega
      have high : (first * 64 + second) / 64 = first := by omega
      have low : (first * 64 + second) % 64 = second := by omega
      simp only [encode, UInt8.toNat_ofNat', group, high, low]
  | case4 a b c =>
      simp only [decode, Option.bind_eq_bind, Option.bind_eq_some_iff, Option.ite_none_right_eq_some,
        Option.some.injEq] at read
      obtain ⟨first, hfirst, second, hsecond, third, hthird, even, rfl⟩ := read
      obtain ⟨firstSmall, rfl⟩ := digitValue_eq_some hfirst
      obtain ⟨secondSmall, rfl⟩ := digitValue_eq_some hsecond
      obtain ⟨thirdSmall, rfl⟩ := digitValue_eq_some hthird
      have group : (((first * 64 + second) * 64 + third) / 1024 % 2 ^ 8 * 256 +
          ((first * 64 + second) * 64 + third) / 4 % 2 ^ 8) * 4 =
            (first * 64 + second) * 64 + third := by omega
      have high : ((first * 64 + second) * 64 + third) / 4096 = first := by omega
      have middle : ((first * 64 + second) * 64 + third) / 64 % 64 = second := by omega
      have low : ((first * 64 + second) * 64 + third) % 64 = third := by omega
      simp only [encode, UInt8.toNat_ofNat', group, high, middle, low]
  | case5 a b c d rest ih =>
      simp only [decode, Option.bind_eq_bind, Option.bind_eq_some_iff, Option.some.injEq] at read
      obtain ⟨first, hfirst, second, hsecond, third, hthird, fourth, hfourth, others, hothers,
        rfl⟩ := read
      obtain ⟨firstSmall, rfl⟩ := digitValue_eq_some hfirst
      obtain ⟨secondSmall, rfl⟩ := digitValue_eq_some hsecond
      obtain ⟨thirdSmall, rfl⟩ := digitValue_eq_some hthird
      obtain ⟨fourthSmall, rfl⟩ := digitValue_eq_some hfourth
      have group : ((((first * 64 + second) * 64 + third) * 64 + fourth) / 65536 % 2 ^ 8 * 256 +
          (((first * 64 + second) * 64 + third) * 64 + fourth) / 256 % 2 ^ 8) * 256 +
            (((first * 64 + second) * 64 + third) * 64 + fourth) % 2 ^ 8 =
          ((first * 64 + second) * 64 + third) * 64 + fourth := by omega
      have highest : (((first * 64 + second) * 64 + third) * 64 + fourth) / 262144 = first := by
        omega
      have high : (((first * 64 + second) * 64 + third) * 64 + fourth) / 4096 % 64 = second := by
        omega
      have low : (((first * 64 + second) * 64 + third) * 64 + fourth) / 64 % 64 = third := by
        omega
      have lowest : (((first * 64 + second) * 64 + third) * 64 + fourth) % 64 = fourth := by omega
      simp only [encode, UInt8.toNat_ofNat', ih hothers, group, highest, high, low, lowest]

theorem digit_mem (value : Nat) : digit value ∈ alphabet := by
  rw [digit, List.getD_eq_getElem?_getD]
  cases found : alphabet[value]? with
  | none => decide +kernel
  | some c => exact List.mem_of_getElem? found

/-- Only digits are written. -/
theorem mem_alphabet_of_mem_encode {bytes : List UInt8} {c : Char} (member : c ∈ encode bytes) :
    c ∈ alphabet := by
  induction bytes using encode.induct with
  | case1 => simp [encode] at member
  | case2 a =>
      simp only [encode, List.mem_cons, List.not_mem_nil, or_false] at member
      rcases member with rfl | rfl <;> exact digit_mem _
  | case3 a b =>
      simp only [encode, List.mem_cons, List.not_mem_nil, or_false] at member
      rcases member with rfl | rfl | rfl <;> exact digit_mem _
  | case4 a b c rest ih =>
      simp only [encode, List.mem_cons] at member
      rcases member with rfl | rfl | rfl | rfl | later
      · exact digit_mem _
      · exact digit_mem _
      · exact digit_mem _
      · exact digit_mem _
      · exact ih later

/-- Whole groups of digits are always read. -/
theorem exists_decode {groups : Nat} {text : List Char} (digits : ∀ c ∈ text, c ∈ alphabet)
    (whole : text.length = 4 * groups) :
    ∃ bytes, decode text = some bytes ∧ bytes.length = 3 * groups := by
  induction groups generalizing text with
  | zero =>
      obtain rfl := List.length_eq_zero_iff.mp whole
      exact ⟨[], rfl, rfl⟩
  | succ groups ih =>
      match text, whole with
      | a :: b :: c :: d :: rest, whole =>
        simp only [List.forall_mem_cons] at digits
        obtain ⟨first, second, third, fourth, others⟩ := digits
        simp only [List.length_cons] at whole
        obtain ⟨bytes, read, length⟩ := ih others (by omega)
        let group := ((alphabet.idxOf a * 64 + alphabet.idxOf b) * 64 + alphabet.idxOf c) * 64 +
          alphabet.idxOf d
        refine ⟨UInt8.ofNat (group / 65536) :: UInt8.ofNat (group / 256) :: UInt8.ofNat group ::
          bytes, ?_, ?_⟩
        · simp only [decode, digitValue, if_pos first, if_pos second, if_pos third, if_pos fourth,
            read, Option.bind_eq_bind, Option.bind_some]
          rfl
        · simp only [List.length_cons, length]
          omega

/-- The number of digits of a number of bytes. -/
theorem length_encode (bytes : List UInt8) :
    (encode bytes).length = (bytes.length * 4 + 2) / 3 := by
  induction bytes using encode.induct with
  | case1 => rfl
  | case2 a => simp [encode]
  | case3 a b => simp [encode]
  | case4 a b c rest ih =>
      simp only [encode, List.length_cons, ih]
      omega

end Reproit.Base64
