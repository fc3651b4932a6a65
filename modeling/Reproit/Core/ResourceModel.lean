/-
# Provider reservations

A provider reserves resources for the leases of its services.  The environment has a
capacity and every service has a share of it; both limit the number of leases and
every component of the sum of their claims.
-/

import Reproit.Core.Model.World
import Reproit.Data.OrderedMap
import Reproit.Data.Update

namespace Reproit

def reservationQuota : Error :=
  .new .runtimeQuota "The provider resource reservation is full."

/-! ## Claims -/

/-- The sum of two claims, if every component is in range. -/
def addClaim (left right : ProviderResourceClaim) : Result ProviderResourceClaim := do
  let materializedBytes ← okOr (checkedAdd left.materializedBytes right.materializedBytes)
    reservationQuota
  let objects ← okOr (checkedAdd left.objects right.objects) reservationQuota
  let pinnedBytes ← okOr (checkedAdd left.pinnedBytes right.pinnedBytes) reservationQuota
  let temporaryBytes ← okOr (checkedAdd left.temporaryBytes right.temporaryBytes)
    reservationQuota
  return { materializedBytes, objects, pinnedBytes, temporaryBytes }

def claimFits (claim maximum : ProviderResourceClaim) : Prop :=
  claim.materializedBytes ≤ maximum.materializedBytes ∧ claim.objects ≤ maximum.objects ∧
    claim.pinnedBytes ≤ maximum.pinnedBytes ∧ claim.temporaryBytes ≤ maximum.temporaryBytes

instance (claim maximum : ProviderResourceClaim) : Decidable (claimFits claim maximum) :=
  inferInstanceAs (Decidable (_ ∧ _))

/-! ## Capacities -/

structure ProviderServiceCapacity where
  maximumActiveLeases : UInt64
  maximumResourceClaim : ProviderResourceClaim

/-- The capacity of the environment, and the share of every service. -/
structure ProviderCapacity where
  maximumActiveLeases : UInt64
  maximumResourceClaim : ProviderResourceClaim
  serviceShares : OrderedMap ServiceId ProviderServiceCapacity

def validateCapacity (maximumActiveLeases : UInt64) (maximumResourceClaim : ProviderResourceClaim) :
    Result Unit := do
  maximumResourceClaim.validate
  rejectIf (maximumActiveLeases = 0 ∨ maximumActiveLeases > 1024) .schemaInvalid

def ProviderCapacity.validate (capacity : ProviderCapacity) : Result Unit := do
  validateCapacity capacity.maximumActiveLeases capacity.maximumResourceClaim
  rejectIf (capacity.serviceShares.isEmpty ∨ capacity.serviceShares.size > 10000) .schemaInvalid
  forEach capacity.serviceShares.toList fun (_, share) => do
    validateCapacity share.maximumActiveLeases share.maximumResourceClaim
    rejectIf (share.maximumActiveLeases > capacity.maximumActiveLeases ∨
      ¬ claimFits share.maximumResourceClaim capacity.maximumResourceClaim) .schemaInvalid

/-! ## Reservations -/

inductive ReservationResult
  | reserved | alreadyReserved
  deriving DecidableEq

structure ActiveReservation where
  claim : ProviderResourceClaim
  serviceId : ServiceId
  deriving DecidableEq

structure ProviderReservationModel where
  active : OrderedMap Digest ActiveReservation
  capacity : ProviderCapacity

structure Usage where
  claim : ProviderResourceClaim
  leases : UInt64

def noUsage : Usage where
  claim := { materializedBytes := 0, objects := 0, pinnedBytes := 0, temporaryBytes := 0 }
  leases := 0

/-- Add one reservation to the usage. -/
def Usage.add (usage : Usage) (reservation : ActiveReservation) : Result Usage := do
  let leases ← okOr (checkedAdd usage.leases 1) reservationQuota
  let claim ← addClaim usage.claim reservation.claim
  return { claim, leases }

def usage (active : List ActiveReservation) : Result Usage := active.foldlM Usage.add noUsage

def requireAvailable (usage : Usage) (requested : ProviderResourceClaim) (maximumLeases : UInt64)
    (maximumClaim : ProviderResourceClaim) : Result Unit := do
  let nextClaim ← addClaim usage.claim requested
  rejectIf (usage.leases ≥ maximumLeases ∨ ¬ claimFits nextClaim maximumClaim) reservationQuota

namespace ProviderReservationModel

def new (capacity : ProviderCapacity) : Result ProviderReservationModel := do
  capacity.validate
  return { active := ∅, capacity }

/-- The reservations in the order of their ids. -/
def reservations (model : ProviderReservationModel) : List ActiveReservation :=
  model.active.toList.map Prod.snd

/-- The reservations of one service. -/
def reservationsOf (model : ProviderReservationModel) (serviceId : ServiceId) :
    List ActiveReservation :=
  model.reservations.filter fun active => active.serviceId = serviceId

/-- Reserve a claim. A reservation that is already there is found again. -/
def reserve (reservationId : Digest) (serviceId : ServiceId) (claim : ProviderResourceClaim) :
    Update Error ProviderReservationModel ReservationResult := do
  Update.attempt claim.validate
  let model ← get
  match model.active[reservationId]? with
  | some active =>
      if active.serviceId = serviceId ∧ active.claim = claim then return .alreadyReserved
      else throw .schemaInvalid
  | none =>
      let serviceCapacity ← Update.attempt
        (okOr model.capacity.serviceShares[serviceId]? reservationQuota)
      let environmentUsage ← Update.attempt (usage model.reservations)
      let serviceUsage ← Update.attempt (usage (model.reservationsOf serviceId))
      Update.attempt (requireAvailable environmentUsage claim model.capacity.maximumActiveLeases
        model.capacity.maximumResourceClaim)
      Update.attempt (requireAvailable serviceUsage claim serviceCapacity.maximumActiveLeases
        serviceCapacity.maximumResourceClaim)
      set { model with active := model.active.insert reservationId { claim, serviceId } }
      return .reserved

def release (reservationId : Digest) (serviceId : ServiceId) :
    Update Error ProviderReservationModel Unit := do
  let model ← get
  let active ← Update.attempt (okOr model.active[reservationId]? .schemaInvalid)
  if active.serviceId ≠ serviceId then throw .schemaInvalid
  set { model with active := model.active.erase reservationId }

def activeLeases (model : ProviderReservationModel) : Nat := model.active.size

def usageForService (model : ProviderReservationModel) (serviceId : ServiceId) :
    Result ProviderResourceClaim :=
  Usage.claim <$> usage (model.reservationsOf serviceId)

end ProviderReservationModel

end Reproit
