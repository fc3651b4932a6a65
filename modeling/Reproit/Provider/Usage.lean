/-
# The use of reservations as a vector

A reservation uses one lease and the four components of its claim.  Checked sums of
claims are sums of such vectors, and a request is available exactly when the vector
sum is within the limit.
-/

import Mathlib.Algebra.Order.Monoid.Prod
import Reproit.Core.ResourceModel
import Reproit.Data.Quota

namespace Reproit

/-- Leases, materialized bytes, objects, pinned bytes and temporary bytes. -/
abbrev Demand := ℕ × ℕ × ℕ × ℕ × ℕ

namespace ProviderResourceClaim

/-- The components of a claim. -/
def components (claim : ProviderResourceClaim) : ℕ × ℕ × ℕ × ℕ :=
  (claim.materializedBytes.toNat, claim.objects.toNat, claim.pinnedBytes.toNat,
    claim.temporaryBytes.toNat)

theorem components_injective : Function.Injective components := by
  intro first second same
  cases first
  cases second
  simpa [components, UInt64.toNat_inj] using same

theorem claimFits_iff {claim maximum : ProviderResourceClaim} :
    claimFits claim maximum ↔ claim.components ≤ maximum.components := by
  simp only [claimFits, components, Prod.mk_le_mk, UInt64.le_iff_toNat_le]

/-- A checked sum is the exact sum of the components. -/
theorem addClaim_eq_ok {left right sum : ProviderResourceClaim} :
    addClaim left right = .ok sum ↔ left.components + right.components = sum.components := by
  obtain ⟨materialized, objects, pinned, temporary⟩ := sum
  simp only [addClaim, bind_eq_ok, okOr_eq_ok, pure_eq_ok, checkedAdd_eq_some, components,
    Prod.mk_add_mk, Prod.mk.injEq, ProviderResourceClaim.mk.injEq]
  constructor
  · rintro ⟨_, first, _, second, _, third, _, fourth, rfl, rfl, rfl, rfl⟩
    exact ⟨first, second, third, fourth⟩
  · rintro ⟨first, second, third, fourth⟩
    exact ⟨_, first, _, second, _, third, _, fourth, rfl, rfl, rfl, rfl⟩

/-- Amounts below those of a claim are the components of a claim. -/
theorem exists_components {amounts : ℕ × ℕ × ℕ × ℕ} {maximum : ProviderResourceClaim}
    (below : amounts ≤ maximum.components) : ∃ claim, components claim = amounts := by
  obtain ⟨materialized, objects, pinned, temporary⟩ := amounts
  simp only [components, Prod.mk_le_mk] at below
  refine ⟨⟨.ofNat materialized, .ofNat objects, .ofNat pinned, .ofNat temporary⟩, ?_⟩
  have small : ∀ {amount : ℕ} {limit : UInt64}, amount ≤ limit.toNat →
      (UInt64.ofNat amount).toNat = amount := fun held =>
    UInt64.toNat_ofNat_of_lt (lt_of_le_of_lt held (UInt64.toNat_lt _))
  simp only [components, small below.1, small below.2.1, small below.2.2.1, small below.2.2.2]

theorem validate_eq_ok {claim : ProviderResourceClaim} {done : Unit} :
    claim.validate = .ok done ↔ claim.components ≤
      (maxExactInteger, maxExactInteger, maxExactInteger, maxExactInteger) := by
  simp [validate, validateExact, components]

end ProviderResourceClaim

/-- What a reservation uses. -/
def ActiveReservation.demand (reservation : ActiveReservation) : Demand :=
  (1, reservation.claim.components)

namespace Usage

/-- The usage as a vector. -/
def amount (usage : Usage) : Demand := (usage.leases.toNat, usage.claim.components)

theorem add_eq_ok {before after : Usage} {reservation : ActiveReservation} :
    before.add reservation = .ok after ↔ before.amount + reservation.demand = after.amount := by
  obtain ⟨claim, leases⟩ := after
  simp only [add, bind_eq_ok, okOr_eq_ok, pure_eq_ok, checkedAdd_eq_some,
    ProviderResourceClaim.addClaim_eq_ok, amount, ActiveReservation.demand, Prod.mk_add_mk,
    Prod.mk.injEq, Usage.mk.injEq]
  constructor
  · rintro ⟨_, count, _, sum, rfl, rfl⟩
    exact ⟨count, sum⟩
  · rintro ⟨count, sum⟩
    exact ⟨_, count, _, sum, rfl, rfl⟩

/-- Amounts below those of a usage are the amounts of a usage. -/
theorem exists_amount {demand : Demand} {limit : Usage} (below : demand ≤ limit.amount) :
    ∃ usage, amount usage = demand := by
  obtain ⟨count, amounts⟩ := demand
  obtain ⟨countBelow, claimBelow⟩ := Prod.mk_le_mk.mp below
  obtain ⟨claim, same⟩ := ProviderResourceClaim.exists_components claimBelow
  have small : (UInt64.ofNat count).toNat = count :=
    UInt64.toNat_ofNat_of_lt (lt_of_le_of_lt countBelow (UInt64.toNat_lt _))
  exact ⟨⟨claim, .ofNat count⟩, by rw [amount, small, same]⟩

theorem amount_injective : Function.Injective amount := by
  intro first second same
  cases first
  cases second
  obtain ⟨count, amounts⟩ := Prod.mk.inj same
  exact congrArg₂ Usage.mk (ProviderResourceClaim.components_injective amounts)
    (UInt64.toNat_inj.mp count)

/-- A checked sum of reservations succeeds exactly with the sum of their uses. -/
theorem foldlM_add_eq_ok {before after : Usage} {active : List ActiveReservation} :
    active.foldlM add before = .ok after ↔
      before.amount + (active.map ActiveReservation.demand).sum = after.amount := by
  induction active generalizing before with
  | nil =>
      rw [List.foldlM_nil, pure_eq_ok, List.map_nil, List.sum_nil, add_zero,
        amount_injective.eq_iff]
  | cons reservation active ih =>
      rw [List.foldlM_cons, bind_eq_ok, List.map_cons, List.sum_cons, ← add_assoc]
      simp only [add_eq_ok, ih]
      constructor
      · rintro ⟨between, step, rest⟩
        rw [step, rest]
      · intro whole
        -- what is used after one reservation is below what is used in the end
        have below : before.amount + reservation.demand ≤ after.amount := by
          rw [← whole]
          exact le_self_add
        obtain ⟨between, same⟩ := exists_amount below
        exact ⟨between, same.symm, by rw [same, whole]⟩

end Usage

/-- The usage of reservations is the sum of their uses. -/
theorem usage_eq_ok {active : List ActiveReservation} {used : Usage} :
    usage active = .ok used ↔ (active.map ActiveReservation.demand).sum = used.amount := by
  have nothing : noUsage.amount = 0 := rfl
  rw [usage, Usage.foldlM_add_eq_ok, nothing, zero_add]

/-- A request is available exactly when it fits on top of the usage. -/
theorem requireAvailable_eq_ok {used : Usage} {requested maximumClaim : ProviderResourceClaim}
    {maximumLeases : UInt64} {done : Unit} :
    requireAvailable used requested maximumLeases maximumClaim = .ok done ↔
      used.amount + (1, requested.components) ≤ (maximumLeases.toNat, maximumClaim.components) := by
  simp only [requireAvailable, bind_eq_ok, rejectIf_eq_ok, not_or, not_not,
    ProviderResourceClaim.addClaim_eq_ok, ProviderResourceClaim.claimFits_iff, Usage.amount,
    Prod.mk_add_mk, Prod.mk_le_mk, UInt64.le_iff_toNat_le, not_le, ge_iff_le, Nat.lt_iff_add_one_le]
  constructor
  · rintro ⟨next, sum, count, fits⟩
    exact ⟨count, sum ▸ fits⟩
  · rintro ⟨count, fits⟩
    obtain ⟨next, same⟩ := ProviderResourceClaim.exists_components fits
    exact ⟨next, same.symm, count, same ▸ fits⟩

end Reproit
