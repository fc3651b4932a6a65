/-
# Reservations stay within the capacity

Every call of a reservation model keeps its reservations within the capacity of the
environment and the shares of the services, and a request is admitted exactly when
there is room for it.
-/

import Reproit.Provider.Usage

namespace Reproit

/-! ## The capacity as limits -/

def ProviderServiceCapacity.amount (capacity : ProviderServiceCapacity) : Demand :=
  (capacity.maximumActiveLeases.toNat, capacity.maximumResourceClaim.components)

/-- The limits that a capacity sets. -/
def ProviderCapacity.limits (capacity : ProviderCapacity) : Limits ServiceId Demand where
  whole := (capacity.maximumActiveLeases.toNat, capacity.maximumResourceClaim.components)
  share serviceId := capacity.serviceShares[serviceId]?.map ProviderServiceCapacity.amount

namespace ProviderReservationModel

/-- What the active reservations use. -/
def environmentUse (model : ProviderReservationModel) : Demand :=
  Quota.load ActiveReservation.demand model.active

/-- What the active reservations of a service use. -/
def serviceUse (model : ProviderReservationModel) (serviceId : ServiceId) : Demand :=
  Quota.ownLoad ActiveReservation.serviceId ActiveReservation.demand serviceId model.active

/-- The active reservations are within the capacity. -/
def Kept (model : ProviderReservationModel) : Prop :=
  Quota.Kept ActiveReservation.serviceId ActiveReservation.demand model.capacity.limits
    model.active

/-- The active reservations are within the capacity and have valid claims. -/
structure Sound (model : ProviderReservationModel) : Prop where
  kept : model.Kept
  valid : ∀ (reservationId : Digest) active, model.active[reservationId]? = some active →
    active.claim.validate = .ok ()

/-- There is room for one more reservation. -/
def Admits (model : ProviderReservationModel) (added : ActiveReservation) : Prop :=
  Quota.Admits ActiveReservation.serviceId ActiveReservation.demand model.capacity.limits
    model.active added

variable {model : ProviderReservationModel}

theorem usage_reservations {used : Usage} :
    usage model.reservations = .ok used ↔ model.environmentUse = used.amount := by
  rw [usage_eq_ok, reservations, List.map_map]
  rfl

theorem usage_reservationsOf {serviceId : ServiceId} {used : Usage} :
    usage (model.reservationsOf serviceId) = .ok used ↔
      model.serviceUse serviceId = used.amount := by
  rw [usage_eq_ok, reservationsOf, reservations, List.filter_map, List.map_map]
  rfl

theorem share_limits {capacity : ProviderCapacity} {serviceId : ServiceId} {bound : Demand} :
    capacity.limits.share serviceId = some bound ↔
      ∃ share, capacity.serviceShares[serviceId]? = some share ∧ share.amount = bound :=
  Option.map_eq_some_iff

/-- The use of the environment is computed without overflow. -/
theorem Kept.exists_environment (kept : model.Kept) :
    ∃ used, usage model.reservations = .ok used := by
  obtain ⟨used, same⟩ := @Usage.exists_amount _
    ⟨model.capacity.maximumResourceClaim, model.capacity.maximumActiveLeases⟩ kept.whole
  exact ⟨used, usage_reservations.mpr same.symm⟩

theorem Kept.serviceUse_le (kept : model.Kept) {serviceId : ServiceId}
    {share : ProviderServiceCapacity}
    (shared : model.capacity.serviceShares[serviceId]? = some share) :
    model.serviceUse serviceId ≤ share.amount :=
  Quota.Kept.ownLoad_le kept (share_limits.mpr ⟨share, shared, rfl⟩)

/-- The use of a service is computed without overflow. -/
theorem Kept.exists_service (kept : model.Kept) {serviceId : ServiceId}
    {share : ProviderServiceCapacity}
    (shared : model.capacity.serviceShares[serviceId]? = some share) :
    ∃ used, usage (model.reservationsOf serviceId) = .ok used := by
  obtain ⟨used, same⟩ := @Usage.exists_amount _
    ⟨share.maximumResourceClaim, share.maximumActiveLeases⟩ (kept.serviceUse_le shared)
  exact ⟨used, usage_reservationsOf.mpr same.symm⟩

/-! ## What a call does -/

/-- The model with one more reservation. -/
def insert (model : ProviderReservationModel) (reservationId : Digest)
    (added : ActiveReservation) : ProviderReservationModel :=
  { model with active := model.active.insert reservationId added }

def erase (model : ProviderReservationModel) (reservationId : Digest) :
    ProviderReservationModel :=
  { model with active := model.active.erase reservationId }

variable {reservationId : Digest} {serviceId : ServiceId} {claim : ProviderResourceClaim}

/-- A reservation that is there is found again. -/
theorem reserve_of_present (valid : claim.validate = .ok ())
    (present : model.active[reservationId]? = some ⟨claim, serviceId⟩) :
    reserve reservationId serviceId claim model = .ok .alreadyReserved model := by
  rw [reserve, Update.attempt_bind_ok valid, Update.get_bind, present]
  simp

theorem reserve_of_admits (valid : claim.validate = .ok ())
    (fresh : model.active[reservationId]? = none) (kept : model.Kept)
    (room : model.Admits ⟨claim, serviceId⟩) :
    reserve reservationId serviceId claim model =
      .ok .reserved (model.insert reservationId ⟨claim, serviceId⟩) := by
  obtain ⟨environmentRoom, bound, limit, serviceRoom⟩ := room
  obtain ⟨share, shared, rfl⟩ := share_limits.mp limit
  obtain ⟨environment, environmentUsage⟩ := kept.exists_environment
  obtain ⟨service, serviceUsage⟩ := kept.exists_service shared
  have environmentAvailable : requireAvailable environment claim
      model.capacity.maximumActiveLeases model.capacity.maximumResourceClaim = .ok () := by
    rw [requireAvailable_eq_ok, ← usage_reservations.mp environmentUsage]
    exact environmentRoom
  have serviceAvailable : requireAvailable service claim share.maximumActiveLeases
      share.maximumResourceClaim = .ok () := by
    rw [requireAvailable_eq_ok, ← usage_reservationsOf.mp serviceUsage]
    exact serviceRoom
  rw [reserve, Update.attempt_bind_ok valid, Update.get_bind, fresh]
  dsimp only
  rw [Update.attempt_bind_ok ((okOr_eq_ok _ _ _).mpr shared),
    Update.attempt_bind_ok environmentUsage, Update.attempt_bind_ok serviceUsage,
    Update.attempt_bind_ok environmentAvailable, Update.attempt_bind_ok serviceAvailable]
  rfl

/-- What a successful reservation did. -/
theorem reserve_eq_ok {result : ReservationResult} {after : ProviderReservationModel}
    (success : reserve reservationId serviceId claim model = .ok result after) :
    claim.validate = .ok () ∧
      (result = .alreadyReserved ∧ model.active[reservationId]? = some ⟨claim, serviceId⟩ ∧
          after = model ∨
        result = .reserved ∧ model.active[reservationId]? = none ∧
          model.Admits ⟨claim, serviceId⟩ ∧
          after = model.insert reservationId ⟨claim, serviceId⟩) := by
  rw [reserve, Update.bind_eq_ok] at success
  obtain ⟨_, _, checked, ran⟩ := success
  obtain ⟨valid, rfl⟩ := Update.attempt_eq_ok.mp checked
  refine ⟨valid, ?_⟩
  rw [Update.get_bind] at ran
  cases present : model.active[reservationId]? with
  | some active =>
      left
      rw [present] at ran
      dsimp only at ran
      split_ifs at ran with same
      · obtain ⟨rfl, rfl⟩ := same
        cases ran
        exact ⟨rfl, rfl, rfl⟩
      · cases ran
  | none =>
      right
      rw [present] at ran
      simp only [Update.bind_eq_ok, Update.attempt_eq_ok, okOr_eq_ok, requireAvailable_eq_ok,
        usage_reservations, usage_reservationsOf] at ran
      obtain ⟨share, _, ⟨shared, rfl⟩, environment, _, ⟨environmentUse, rfl⟩, service, _,
        ⟨serviceUse, rfl⟩, _, _, ⟨environmentRoom, rfl⟩, _, _, ⟨serviceRoom, rfl⟩, _, _,
        written, done⟩ := ran
      cases written
      cases done
      rw [← environmentUse] at environmentRoom
      rw [← serviceUse] at serviceRoom
      exact ⟨rfl, rfl, ⟨environmentRoom, _, share_limits.mpr ⟨share, shared, rfl⟩, serviceRoom⟩,
        rfl⟩

/-- A failed reservation changes nothing. -/
theorem reserve_atomic : Update.Atomic (reserve reservationId serviceId claim) := by
  apply Update.Atomic.attempt_bind
  intro _
  apply Update.Atomic.get_bind
  intro model
  cases model.active[reservationId]? with
  | some active =>
      dsimp only
      split_ifs
      · exact Update.atomic_pure _
      · exact Update.atomic_throw _
  | none =>
      dsimp only
      apply Update.Atomic.attempt_bind
      intro share
      apply Update.Atomic.attempt_bind
      intro environment
      apply Update.Atomic.attempt_bind
      intro service
      apply Update.Atomic.attempt_bind
      intro _
      apply Update.Atomic.attempt_bind
      intro _
      exact Update.atomic_set_pure _ _

/-- Releasing succeeds exactly for the service of the reservation. -/
theorem release_eq_ok {after : ProviderReservationModel} {done : Unit} :
    release reservationId serviceId model = .ok done after ↔
      (∃ active, model.active[reservationId]? = some active ∧ active.serviceId = serviceId) ∧
        after = model.erase reservationId := by
  rw [release, Update.get_bind, Update.bind_eq_ok]
  simp only [Update.attempt_eq_ok, okOr_eq_ok]
  constructor
  · rintro ⟨active, _, ⟨present, rfl⟩, ran⟩
    split_ifs at ran with other
    · cases ran
    · cases ran
      exact ⟨⟨active, present, not_not.mp other⟩, rfl⟩
  · rintro ⟨⟨active, present, rfl⟩, rfl⟩
    refine ⟨active, model, ⟨present, rfl⟩, ?_⟩
    rw [if_neg (not_not.mpr rfl)]
    rfl

/-- A failed release changes nothing. -/
theorem release_atomic : Update.Atomic (release reservationId serviceId) := by
  apply Update.Atomic.get_bind
  intro model
  apply Update.Atomic.attempt_bind
  intro active
  split_ifs
  · exact Update.atomic_throw _
  · intro _ _ _ failed
    cases failed

end ProviderReservationModel

/-! ## Runs -/

/-- One call of a client. -/
inductive ReservationCall
  | reserve (reservationId : Digest) (serviceId : ServiceId) (claim : ProviderResourceClaim)
  | release (reservationId : Digest) (serviceId : ServiceId)

namespace ReservationCall

/-- The call on a model; a release has no result. -/
def run : ReservationCall → Update Error ProviderReservationModel (Option ReservationResult)
  | .reserve reservationId serviceId claim => do
      let result ← ProviderReservationModel.reserve reservationId serviceId claim
      return some result
  | .release reservationId serviceId => do
      ProviderReservationModel.release reservationId serviceId
      return none

/-- The model after the call, whether it succeeded or not. -/
def next (model : ProviderReservationModel) (call : ReservationCall) : ProviderReservationModel :=
  Update.state (call.run model)

/-- The model after all calls, in order. -/
def runAll (model : ProviderReservationModel) (calls : List ReservationCall) :
    ProviderReservationModel :=
  calls.foldl next model

theorem run_atomic (call : ReservationCall) : Update.Atomic call.run := by
  cases call with
  | reserve reservationId serviceId claim =>
      exact ProviderReservationModel.reserve_atomic.bind_pure _
  | release reservationId serviceId =>
      exact ProviderReservationModel.release_atomic.bind_pure _

theorem next_reserve (model : ProviderReservationModel) (reservationId : Digest)
    (serviceId : ServiceId) (claim : ProviderResourceClaim) :
    (reserve reservationId serviceId claim).next model =
      Update.state (ProviderReservationModel.reserve reservationId serviceId claim model) :=
  Update.state_bind_pure _ some model

theorem next_release (model : ProviderReservationModel) (reservationId : Digest)
    (serviceId : ServiceId) :
    (release reservationId serviceId).next model =
      Update.state (ProviderReservationModel.release reservationId serviceId model) :=
  Update.state_bind_pure _ (fun _ => none) model

variable {model : ProviderReservationModel}

/-- A call reserves one admitted claim, releases one reservation or changes nothing. -/
theorem next_cases (model : ProviderReservationModel) (call : ReservationCall) :
    call.next model = model ∨
      (∃ reservationId added, model.active[reservationId]? = none ∧
        added.claim.validate = .ok () ∧ model.Admits added ∧
        call.next model = model.insert reservationId added) ∨
      ∃ reservationId, call.next model = model.erase reservationId := by
  unfold next
  cases ran : call.run model with
  | error error after => exact .inl (run_atomic call _ _ _ ran)
  | ok result after =>
      cases call with
      | reserve reservationId serviceId claim =>
          obtain ⟨_, _, success, done⟩ := Update.bind_eq_ok.mp ran
          cases done
          obtain ⟨valid, found | reserved⟩ := ProviderReservationModel.reserve_eq_ok success
          · exact .inl found.2.2
          · obtain ⟨-, fresh, room, rfl⟩ := reserved
            exact .inr (.inl ⟨_, _, fresh, valid, room, rfl⟩)
      | release reservationId serviceId =>
          obtain ⟨_, _, success, done⟩ := Update.bind_eq_ok.mp ran
          cases done
          exact .inr (.inr ⟨_, (ProviderReservationModel.release_eq_ok.mp success).2⟩)

/-- One call keeps the reservations within the capacity. -/
theorem next_sound (sound : model.Sound) (call : ReservationCall) :
    (call.next model).Sound ∧ (call.next model).capacity = model.capacity := by
  rcases next_cases model call with same | ⟨reservationId, added, fresh, valid, room, same⟩ |
    ⟨reservationId, same⟩
  · rw [same]
    exact ⟨sound, rfl⟩
  · rw [same]
    refine ⟨⟨(Quota.admits_iff_kept_insert sound.kept fresh _).mp room, ?_⟩, rfl⟩
    intro wanted active present
    change (model.active.insert reservationId added)[wanted]? = some active at present
    rw [OrderedMap.getElem?_insert] at present
    split_ifs at present with chosen
    · rw [← Option.some.inj present]
      exact valid
    · exact sound.valid _ _ present
  · rw [same]
    have within := OrderedMap.within_erase model.active reservationId
    exact ⟨⟨sound.kept.mono within, fun _ _ present => sound.valid _ _ (within _ _ present)⟩, rfl⟩

/-- Every run keeps the reservations within the capacity. -/
theorem runAll_sound (sound : model.Sound) (calls : List ReservationCall) :
    (runAll model calls).Sound ∧ (runAll model calls).capacity = model.capacity := by
  induction calls generalizing model with
  | nil => exact ⟨sound, rfl⟩
  | cons call calls ih =>
      obtain ⟨stepSound, stepCapacity⟩ := next_sound sound call
      obtain ⟨restSound, restCapacity⟩ := ih stepSound
      exact ⟨restSound, restCapacity.trans stepCapacity⟩

end ReservationCall

/-- The claims of a valid capacity are valid. -/
theorem ProviderCapacity.claims_valid {capacity : ProviderCapacity}
    (valid : capacity.validate = .ok ()) {serviceId : ServiceId} {share : ProviderServiceCapacity}
    (shared : capacity.serviceShares[serviceId]? = some share) :
    capacity.maximumResourceClaim.validate = .ok () ∧
      share.maximumResourceClaim.validate = .ok () := by
  simp only [validate, validateCapacity, bind_eq_ok, forEach_eq_ok] at valid
  obtain ⟨_, ⟨_, whole, -⟩, _, -, shares⟩ := valid
  obtain ⟨_, ⟨_, own, -⟩, -⟩ := shares _ ((@OrderedMap.mem_toList _ _ _ _ (serviceId, share)).mpr shared)
  exact ⟨whole, own⟩

theorem ProviderReservationModel.new_sound {capacity : ProviderCapacity}
    {model : ProviderReservationModel} (created : new capacity = .ok model) :
    model.Sound ∧ model.capacity = capacity ∧ capacity.validate = .ok () := by
  simp only [new, bind_eq_ok, pure_eq_ok] at created
  obtain ⟨_, valid, rfl⟩ := created
  exact ⟨⟨Quota.kept_empty, fun _ _ present => by simp at present⟩, rfl, valid⟩

/-! ## The laws of every reachable model -/

/-- What holds of a model with a capacity. -/
structure ReservationLaws (capacity : ProviderCapacity) (model : ProviderReservationModel) :
    Prop where
  fixed : model.capacity = capacity
  leases : model.activeLeases ≤ capacity.maximumActiveLeases.toNat
  environment : model.environmentUse ≤
    (capacity.maximumActiveLeases.toNat, capacity.maximumResourceClaim.components)
  service : ∀ serviceId share, capacity.serviceShares[serviceId]? = some share →
    model.serviceUse serviceId ≤ share.amount
  shared : ∀ (reservationId : Digest) active, model.active[reservationId]? = some active →
    ∃ share, capacity.serviceShares[active.serviceId]? = some share
  /-- No addition overflows: the uses are the exact sums, and a claim can be added. -/
  exact : ∀ serviceId share, capacity.serviceShares[serviceId]? = some share →
    ∃ environment service, usage model.reservations = .ok environment ∧
      environment.amount = model.environmentUse ∧
      usage (model.reservationsOf serviceId) = .ok service ∧
      service.amount = model.serviceUse serviceId ∧
      ∀ claim : ProviderResourceClaim, claim.validate = .ok () →
        (∃ sum, addClaim environment.claim claim = .ok sum ∧
          environment.claim.components + claim.components = sum.components) ∧
        ∃ sum, addClaim service.claim claim = .ok sum ∧
          service.claim.components + claim.components = sum.components
  unchanged : ∀ (call : ReservationCall) error after, call.run model = .error error after →
    after = model
  admission : ∀ reservationId serviceId (claim : ProviderResourceClaim),
    claim.validate = .ok () → reservationId ∉ model.active →
      ((∃ after, ProviderReservationModel.reserve reservationId serviceId claim model =
          .ok .reserved after) ↔
        ∃ share, capacity.serviceShares[serviceId]? = some share ∧
          model.environmentUse + (1, claim.components) ≤
            (capacity.maximumActiveLeases.toNat, capacity.maximumResourceClaim.components) ∧
          model.serviceUse serviceId + (1, claim.components) ≤ share.amount)
  repeated : ∀ reservationId serviceId claim result after,
    ProviderReservationModel.reserve reservationId serviceId claim model = .ok result after →
      ProviderReservationModel.reserve reservationId serviceId claim after =
        .ok .alreadyReserved after
  restored : ∀ (reservationId : Digest) serviceId claim,
    model.active[reservationId]? = some ⟨claim, serviceId⟩ →
      ∃ after, ProviderReservationModel.release reservationId serviceId model = .ok () after ∧
        ProviderReservationModel.reserve reservationId serviceId claim after =
          .ok .reserved model

namespace ProviderReservationModel

variable {model : ProviderReservationModel}

/-- The first component of the use is the number of leases. -/
theorem environmentUse_fst : model.environmentUse.1 = model.activeLeases := by
  have leases : model.environmentUse.1 =
      ((model.active.toList.map fun entry => entry.2.demand).map
        (AddMonoidHom.fst ℕ (ℕ × ℕ × ℕ × ℕ))).sum :=
    map_list_sum (AddMonoidHom.fst ℕ (ℕ × ℕ × ℕ × ℕ)) _
  rw [leases, List.map_map, activeLeases, ← Std.ExtTreeMap.length_toList]
  have each : (AddMonoidHom.fst ℕ (ℕ × ℕ × ℕ × ℕ)) ∘
      (fun entry : Digest × ActiveReservation => entry.2.demand) = fun _ => 1 := rfl
  rw [each]
  simp

/-- A valid claim can be added to a use that is below a valid claim. -/
theorem exists_addClaim {used claim maximum : ProviderResourceClaim}
    (below : used.components ≤ maximum.components) (bounded : maximum.validate = .ok ())
    (valid : claim.validate = .ok ()) :
    ∃ sum, addClaim used claim = .ok sum ∧ used.components + claim.components = sum.components := by
  have exactly := ProviderResourceClaim.validate_eq_ok.mp valid
  have usedExactly := below.trans (ProviderResourceClaim.validate_eq_ok.mp bounded)
  -- two exact integers add up to far less than 2 ^ 64
  let double : ProviderResourceClaim := ⟨18014398509481982, 18014398509481982,
    18014398509481982, 18014398509481982⟩
  have small : used.components + claim.components ≤ double.components :=
    add_le_add usedExactly exactly
  obtain ⟨sum, same⟩ := ProviderResourceClaim.exists_components small
  exact ⟨sum, ProviderResourceClaim.addClaim_eq_ok.mpr same.symm, same.symm⟩

/-- What a reservation found or made is found again. -/
theorem Sound.repeated (sound : model.Sound) {reservationId : Digest} {serviceId : ServiceId}
    {claim : ProviderResourceClaim} {result : ReservationResult}
    {after : ProviderReservationModel}
    (success : reserve reservationId serviceId claim model = .ok result after) :
    reserve reservationId serviceId claim after = .ok .alreadyReserved after := by
  obtain ⟨valid, found | reserved⟩ := reserve_eq_ok success
  · obtain ⟨-, present, rfl⟩ := found
    exact reserve_of_present valid present
  · obtain ⟨-, -, -, rfl⟩ := reserved
    apply reserve_of_present valid
    change (model.active.insert reservationId _)[reservationId]? = _
    rw [OrderedMap.getElem?_insert, if_pos rfl]

/-- What is released can be reserved again, and then the model is as before. -/
theorem Sound.restored (sound : model.Sound) {reservationId : Digest} {serviceId : ServiceId}
    {claim : ProviderResourceClaim}
    (present : model.active[reservationId]? = some ⟨claim, serviceId⟩) :
    release reservationId serviceId model = .ok () (model.erase reservationId) ∧
      reserve reservationId serviceId claim (model.erase reservationId) = .ok .reserved model := by
  refine ⟨release_eq_ok.mpr ⟨⟨_, present, rfl⟩, rfl⟩, ?_⟩
  have gone : (model.erase reservationId).active[reservationId]? = none := by
    change (model.active.erase reservationId)[reservationId]? = none
    rw [OrderedMap.getElem?_erase, if_pos rfl]
  have kept : (model.erase reservationId).Kept :=
    sound.kept.mono (OrderedMap.within_erase _ _)
  rw [reserve_of_admits (sound.valid _ _ present) gone kept (sound.kept.admits_erase present)]
  have same : (model.active.erase reservationId).insert reservationId ⟨claim, serviceId⟩ =
      model.active := by
    apply Std.ExtTreeMap.ext_getElem?
    intro wanted
    rw [OrderedMap.getElem?_insert, OrderedMap.getElem?_erase]
    by_cases chosen : reservationId = wanted
    · rw [if_pos chosen, ← chosen, present]
    · rw [if_neg chosen, if_neg chosen]
  rw [insert, erase, same]

end ProviderReservationModel

/-- The laws hold of a sound model. -/
theorem ProviderReservationModel.Sound.laws {model : ProviderReservationModel}
    (sound : model.Sound) (valid : model.capacity.validate = .ok ()) :
    ReservationLaws model.capacity model := by
  constructor
  case fixed => rfl
  case leases =>
    rw [← environmentUse_fst]
    exact sound.kept.whole.1
  case environment => exact sound.kept.whole
  case service => exact fun _ _ shared => sound.kept.serviceUse_le shared
  case shared =>
    intro reservationId active present
    obtain ⟨bound, limit, -⟩ := sound.kept.shares _ _ present
    obtain ⟨share, shared, -⟩ := share_limits.mp limit
    exact ⟨share, shared⟩
  case exact =>
    intro serviceId share shared
    obtain ⟨wholeValid, shareValid⟩ := ProviderCapacity.claims_valid valid shared
    obtain ⟨environment, environmentUsage⟩ := sound.kept.exists_environment
    obtain ⟨service, serviceUsage⟩ := sound.kept.exists_service shared
    have environmentSame := usage_reservations.mp environmentUsage
    have serviceSame := usage_reservationsOf.mp serviceUsage
    have environmentBelow := sound.kept.whole
    have serviceBelow := sound.kept.serviceUse_le shared
    rw [serviceSame] at serviceBelow
    change model.environmentUse ≤ _ at environmentBelow
    rw [environmentSame] at environmentBelow
    exact ⟨environment, service, environmentUsage, environmentSame.symm, serviceUsage,
      serviceSame.symm, fun claim claimValid =>
        ⟨exists_addClaim environmentBelow.2 wholeValid claimValid,
          exists_addClaim serviceBelow.2 shareValid claimValid⟩⟩
  case unchanged => exact fun call error after failed => call.run_atomic _ _ _ failed
  case admission =>
    intro reservationId serviceId claim claimValid missing
    have fresh : model.active[reservationId]? = none := Std.ExtTreeMap.getElem?_eq_none missing
    constructor
    · rintro ⟨after, success⟩
      obtain ⟨-, found | reserved⟩ := reserve_eq_ok success
      · exact absurd found.1 (by decide)
      · obtain ⟨-, -, ⟨environmentRoom, bound, limit, serviceRoom⟩, -⟩ := reserved
        obtain ⟨share, shared, rfl⟩ := share_limits.mp limit
        exact ⟨share, shared, environmentRoom, serviceRoom⟩
    · rintro ⟨share, shared, environmentRoom, serviceRoom⟩
      have room : model.Admits ⟨claim, serviceId⟩ :=
        ⟨environmentRoom, _, share_limits.mpr ⟨share, shared, rfl⟩, serviceRoom⟩
      exact ⟨_, reserve_of_admits claimValid fresh sound.kept room⟩
  case repeated => exact fun _ _ _ _ _ success => sound.repeated success
  case restored => exact fun _ _ _ present => ⟨_, sound.restored present⟩

/-- Every model that calls can reach obeys the laws, and the answers to a call depend
only on the reservations that are active. -/
theorem reservations_lawful {capacity : ProviderCapacity} {model : ProviderReservationModel}
    (created : ProviderReservationModel.new capacity = .ok model) (calls : List ReservationCall) :
    ReservationLaws capacity (ReservationCall.runAll model calls) ∧
      ∀ others : List ReservationCall,
        (∀ (reservationId : Digest) active,
          (ReservationCall.runAll model calls).active[reservationId]? = some active ↔
            (ReservationCall.runAll model others).active[reservationId]? = some active) →
        ∀ call : ReservationCall,
          Update.verdict (call.run (ReservationCall.runAll model calls)) =
            Update.verdict (call.run (ReservationCall.runAll model others)) := by
  obtain ⟨sound, rfl, valid⟩ := ProviderReservationModel.new_sound created
  obtain ⟨reached, fixed⟩ := ReservationCall.runAll_sound sound calls
  constructor
  · rw [← fixed]
    exact reached.laws (fixed ▸ valid)
  · intro others alike call
    obtain ⟨-, otherFixed⟩ := ReservationCall.runAll_sound sound others
    have same : ReservationCall.runAll model calls = ReservationCall.runAll model others := by
      have active : (ReservationCall.runAll model calls).active =
          (ReservationCall.runAll model others).active := by
        apply Std.ExtTreeMap.ext_getElem?
        intro reservationId
        exact Option.ext (alike reservationId)
      cases reachedModel : ReservationCall.runAll model calls
      cases otherModel : ReservationCall.runAll model others
      rw [reachedModel] at active fixed
      rw [otherModel] at active otherFixed
      exact congrArg₂ ProviderReservationModel.mk active (fixed.trans otherFixed.symm)
    rw [same]

/-! ## A capacity with one service -/

def onlyService : ServiceId := ⟨⟨7 * 2 ^ 76, by decide⟩, by decide⟩

def onlyShare : ProviderServiceCapacity where
  maximumActiveLeases := 2
  maximumResourceClaim := ⟨8, 8, 8, 8⟩

def onlyCapacity : ProviderCapacity where
  maximumActiveLeases := 4
  maximumResourceClaim := ⟨16, 16, 16, 16⟩
  serviceShares := (∅ : OrderedMap _ _).insert onlyService onlyShare

theorem validate_onlyCapacity : onlyCapacity.validate = .ok () := by
  simp only [ProviderCapacity.validate, bind_eq_ok, forEach_eq_ok, rejectIf_eq_ok, not_or]
  refine ⟨(), rfl, (), ?_, ?_⟩
  · simp [onlyCapacity, Std.ExtTreeMap.size_insert]
  · intro entry member
    have present := OrderedMap.mem_toList.mp member
    simp only [onlyCapacity, OrderedMap.getElem?_insert] at present
    split_ifs at present
    · rw [← Option.some.inj present]
      exact ⟨(), rfl, by decide⟩
    · simp at present

theorem reservations_lawful_onlyCapacity :
    ∃ model, ProviderReservationModel.new onlyCapacity = .ok model ∧
      ReservationLaws onlyCapacity (ReservationCall.runAll model
        [.reserve ⟨1⟩ onlyService ⟨4, 4, 4, 4⟩, .reserve ⟨2⟩ onlyService ⟨4, 4, 4, 4⟩,
          .release ⟨1⟩ onlyService]) := by
  have created : ProviderReservationModel.new onlyCapacity = .ok ⟨∅, onlyCapacity⟩ := by
    rw [ProviderReservationModel.new, validate_onlyCapacity]
    rfl
  exact ⟨_, created, (reservations_lawful created _).1⟩

end Reproit
