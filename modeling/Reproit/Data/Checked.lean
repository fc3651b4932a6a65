/-
# Checked machine arithmetic

Conversions to unsigned integers and sums of 64-bit ones that fail when they leave the
range, as the checked conversions and additions of the program do.
-/

import Mathlib.Algebra.GroupWithZero.Nat
import Mathlib.Algebra.Order.BigOperators.Group.List

namespace Reproit

/-- The 16-bit integer of a number, if it is in range. -/
def uint16OfNat (number : Nat) : Option UInt16 :=
  if number < 2 ^ 16 then some (UInt16.ofNat number) else none

/-- The 32-bit integer of a number, if it is in range. -/
def uint32OfNat (number : Nat) : Option UInt32 :=
  if number < 2 ^ 32 then some (UInt32.ofNat number) else none

/-- The 64-bit integer of a number, if it is in range. -/
def uint64OfNat (number : Nat) : Option UInt64 :=
  if number < 2 ^ 64 then some (UInt64.ofNat number) else none

theorem uint16OfNat_eq_some {number : Nat} {integer : UInt16} :
    uint16OfNat number = some integer ↔ integer.toNat = number := by
  unfold uint16OfNat
  split_ifs with small
  · rw [Option.some.injEq, ← UInt16.toNat_inj, UInt16.toNat_ofNat', Nat.mod_eq_of_lt small, eq_comm]
  · have bound := integer.toNat_lt
    simp only [false_iff]
    omega

theorem uint32OfNat_eq_some {number : Nat} {integer : UInt32} :
    uint32OfNat number = some integer ↔ integer.toNat = number := by
  unfold uint32OfNat
  split_ifs with small
  · rw [Option.some.injEq, ← UInt32.toNat_inj, UInt32.toNat_ofNat', Nat.mod_eq_of_lt small, eq_comm]
  · have bound := integer.toNat_lt
    simp only [false_iff]
    omega

theorem uint64OfNat_eq_some {number : Nat} {integer : UInt64} :
    uint64OfNat number = some integer ↔ integer.toNat = number := by
  unfold uint64OfNat
  split_ifs with small
  · rw [Option.some.injEq, ← UInt64.toNat_inj, UInt64.toNat_ofNat', Nat.mod_eq_of_lt small, eq_comm]
  · have bound := integer.toNat_lt
    simp only [false_iff]
    omega

/-- The sum of two integers, if it is in range. -/
def checkedAdd (first second : UInt64) : Option UInt64 :=
  if first.toNat + second.toNat < 2 ^ 64 then some (first + second) else none

/-- Add every integer in turn. -/
def checkedSum (start : UInt64) (values : List UInt64) : Option UInt64 :=
  values.foldlM checkedAdd start

theorem checkedAdd_eq_some {first second total : UInt64} :
    checkedAdd first second = some total ↔ first.toNat + second.toNat = total.toNat := by
  unfold checkedAdd
  split_ifs with small
  · rw [Option.some.injEq, ← UInt64.toNat_inj, UInt64.toNat_add, Nat.mod_eq_of_lt small]
  · simp only [false_iff]
    have bound := total.toNat_lt
    omega

/-- A checked sum is the exact sum. -/
theorem checkedSum_eq_some {start total : UInt64} {values : List UInt64} :
    checkedSum start values = some total ↔
      start.toNat + (values.map UInt64.toNat).sum = total.toNat := by
  induction values generalizing start with
  | nil => simp [checkedSum, UInt64.toNat_inj]
  | cons value values ih =>
      rw [checkedSum, List.foldlM_cons, Option.bind_eq_bind, Option.bind_eq_some_iff]
      simp only [checkedAdd_eq_some, List.map_cons, List.sum_cons]
      constructor
      · rintro ⟨next, step, rest⟩
        have later := ih.mp rest
        omega
      · intro whole
        have bound := total.toNat_lt
        have small : start.toNat + value.toNat < 2 ^ 64 := by omega
        have step : (start + value).toNat = start.toNat + value.toNat := by
          rw [UInt64.toNat_add, Nat.mod_eq_of_lt small]
        exact ⟨start + value, step.symm, ih.mpr (by omega)⟩

end Reproit
