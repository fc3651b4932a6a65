/-
# The quota of a checkpoint provider

A pin rebuilds a reservation model from the lease table, in the order of the lease ids,
and asks it for room.  The model that is rebuilt is the one that the same calls keep in
their own order, so its answer depends on the sum of the active claims alone.
-/

import Reproit.Provider.CheckpointSample

namespace Reproit

open Backend

variable [Primitives]

/-! ## The rebuilt model -/

/-- The reservation of one active lease. -/
def leaseReservation (config : FileCheckpointConfig) (active : ActiveLease) : ActiveReservation :=
  ⟨active.resourceClaim, config.serviceId⟩

/-- No two of the leases have one digest. -/
def NoLeaseCollision (ids : List LeaseId) : Prop :=
  ∀ first ∈ ids, ∀ second ∈ ids, leaseDigest first = leaseDigest second → first = second

/-- The model reserves exactly what the table holds. -/
structure Mirrors (config : FileCheckpointConfig) (ids : List LeaseId)
    (leases : OrderedMap LeaseId ActiveLease) (model : ProviderReservationModel) : Prop where
  capacity : model.capacity = config.capacity
  sound : model.Sound
  listed : ∀ (id : LeaseId) active, leases[id]? = some active →
    id ∈ ids ∧ active.lease.leaseId = id
  entries : ∀ (digest : Digest) reservation, model.active[digest]? = some reservation ↔
    ∃ id active, leases[id]? = some active ∧ leaseDigest id = digest ∧
      leaseReservation config active = reservation

variable {config : FileCheckpointConfig} {ids : List LeaseId}
  {leases : OrderedMap LeaseId ActiveLease} {model : ProviderReservationModel}

/-- A lease that is not in the table is not reserved. -/
theorem Mirrors.fresh (mirrors : Mirrors config ids leases model) (distinct : NoLeaseCollision ids)
    {id : LeaseId} (known : id ∈ ids) (missing : leases[id]? = none) :
    model.active[leaseDigest id]? = none := by
  cases present : model.active[leaseDigest id]? with
  | none => rfl
  | some reservation =>
      obtain ⟨other, active, held, same, -⟩ := (mirrors.entries _ _).mp present
      obtain rfl := distinct _ (mirrors.listed _ _ held).1 _ known same
      rw [held] at missing
      cases missing

/-- Reserving leases of the table again succeeds, in whatever order they come. -/
theorem Mirrors.replay (mirrors : Mirrors config ids leases model)
    (distinct : NoLeaseCollision ids) (rest : List (LeaseId × ActiveLease))
    (rebuilt : ProviderReservationModel) (fixed : rebuilt.capacity = model.capacity)
    (within : OrderedMap.Within rebuilt.active model.active)
    (held : ∀ entry ∈ rest, leases[entry.1]? = some entry.2)
    (fresh : ∀ entry ∈ rest, rebuilt.active[leaseDigest entry.1]? = none)
    (nodup : (rest.map Prod.fst).Nodup) :
    ∃ after, replayLeases config (rest.map Prod.snd) rebuilt = .ok () after ∧
      after.capacity = model.capacity ∧ OrderedMap.Within after.active model.active ∧
      OrderedMap.Within rebuilt.active after.active ∧
      ∀ entry ∈ rest, after.active[leaseDigest entry.1]? =
        some (leaseReservation config entry.2) := by
  induction rest generalizing rebuilt with
  | nil => exact ⟨rebuilt, rfl, fixed, within, fun _ _ present => present, nofun⟩
  | cons entry rest ih =>
      obtain ⟨id, active⟩ := entry
      rw [List.forall_mem_cons] at held fresh
      rw [List.map_cons, List.nodup_cons] at nodup
      obtain ⟨listed, sameId⟩ := mirrors.listed _ _ held.1
      have reserved : model.active[leaseDigest id]? = some (leaseReservation config active) :=
        (mirrors.entries _ _).mpr ⟨id, active, held.1, rfl, rfl⟩
      -- with this lease the rebuilt model is still a part of the whole one
      have part : OrderedMap.Within
          (rebuilt.active.insert (leaseDigest id) (leaseReservation config active))
          model.active := by
        intro digest reservation present
        rw [OrderedMap.getElem?_insert] at present
        split_ifs at present with same
        · rw [← same, reserved, present]
        · exact within _ _ present
      have kept : rebuilt.Kept := by
        rw [ProviderReservationModel.Kept, fixed]
        exact mirrors.sound.kept.mono within
      have room : rebuilt.Admits (leaseReservation config active) := by
        apply (Quota.admits_iff_kept_insert kept fresh.1 _).mpr
        rw [fixed]
        exact mirrors.sound.kept.mono part
      have step := ProviderReservationModel.reserve_of_admits
        (mirrors.sound.valid _ _ reserved) fresh.1 kept room
      have later : ∀ entry ∈ rest,
          (rebuilt.insert (leaseDigest id) (leaseReservation config active)).active[
            leaseDigest entry.1]? = none := by
        intro other member
        change (rebuilt.active.insert _ _)[leaseDigest other.1]? = none
        rw [OrderedMap.getElem?_insert, if_neg, fresh.2 _ member]
        intro same
        have otherListed := (mirrors.listed _ _ (held.2 _ member)).1
        exact nodup.1 (distinct _ listed _ otherListed same ▸ List.mem_map_of_mem member)
      obtain ⟨after, replayed, sameCapacity, inside, grown, each⟩ :=
        ih (rebuilt.insert (leaseDigest id) (leaseReservation config active)) fixed part held.2
          later nodup.2
      refine ⟨after, ?_, sameCapacity, inside, ?_, ?_⟩
      · rw [List.map_cons, replayLeases]
        apply Update.bind_eq_ok.mpr
        refine ⟨.reserved, _, ?_, replayed⟩
        rw [sameId]
        exact step
      · intro digest reservation present
        apply grown
        change (rebuilt.active.insert _ _)[digest]? = some reservation
        rw [OrderedMap.getElem?_insert, if_neg, present]
        rintro rfl
        rw [fresh.1] at present
        cases present
      · rintro other (_ | ⟨_, member⟩)
        · apply grown
          change (rebuilt.active.insert _ _)[leaseDigest id]? = _
          rw [OrderedMap.getElem?_insert, if_pos rfl]
        · exact each _ member

/-- The table rebuilds the model that mirrors it. -/
theorem Mirrors.replay_leases (mirrors : Mirrors config ids leases model)
    (distinct : NoLeaseCollision ids) :
    replayLeases config (leases.toList.map Prod.snd) ⟨∅, config.capacity⟩ = .ok () model := by
  have empty : ∀ digest : Digest, (∅ : OrderedMap Digest ActiveReservation)[digest]? = none :=
    fun _ => by simp
  obtain ⟨after, replayed, fixed, inside, -, each⟩ := mirrors.replay distinct leases.toList
    ⟨∅, config.capacity⟩ mirrors.capacity.symm
    (fun digest reservation present => by simp at present)
    (fun entry member => OrderedMap.mem_toList.mp member) (fun entry _ => empty _)
    (by rw [Std.ExtTreeMap.map_fst_toList_eq_keys]; exact OrderedMap.nodup_keys leases)
  have same : after.active = model.active := by
    apply Std.ExtTreeMap.ext_getElem?
    intro digest
    apply Option.ext
    intro reservation
    constructor
    · exact inside _ _
    · intro present
      obtain ⟨id, active, held, rfl, rfl⟩ := (mirrors.entries _ _).mp present
      exact each (id, active) (OrderedMap.mem_toList.mpr held)
  rw [replayed]
  cases after
  cases model
  cases same
  cases fixed
  rfl

/-! ## The decision of one pin -/

omit [Primitives] in
/-- The capacity of a valid configuration is valid. -/
theorem validate_capacity (valid : config.validate = .ok ()) :
    config.capacity.validate = .ok () := by
  simp only [FileCheckpointConfig.validate, bind_eq_ok, rejectIf_eq_ok, not_or] at valid
  obtain ⟨_, ⟨-, -, -, -, -, -, -, -, positive, bounded, -⟩, claim⟩ := valid
  have own : validateCapacity config.maximumActiveLeases config.maximumResourceClaim = .ok () := by
    simp only [validateCapacity, bind_eq_ok, rejectIf_eq_ok, not_or]
    exact ⟨(), claim, positive, bounded⟩
  simp only [ProviderCapacity.validate, bind_eq_ok, forEach_eq_ok, rejectIf_eq_ok, not_or]
  refine ⟨(), own, (), ?_, ?_⟩
  · simp [FileCheckpointConfig.capacity, Std.ExtTreeMap.size_insert]
  · intro entry member
    have present := OrderedMap.mem_toList.mp member
    simp only [FileCheckpointConfig.capacity, OrderedMap.getElem?_insert] at present
    split_ifs at present
    · rw [← Option.some.inj present]
      exact ⟨(), own, UInt64.lt_irrefl _, not_not.mpr
        ⟨UInt64.le_refl _, UInt64.le_refl _, UInt64.le_refl _, UInt64.le_refl _⟩⟩
    · simp at present

/-- The rebuilt model decides like the one that it mirrors. -/
theorem Mirrors.reserveClaim_iff (mirrors : Mirrors config ids leases model)
    (distinct : NoLeaseCollision ids) (valid : config.validate = .ok ()) {id : LeaseId}
    {claim : ProviderResourceClaim} {done : Unit} :
    reserveClaim config (leases.toList.map Prod.snd) id claim = .ok done ↔
      ∃ result after, ProviderReservationModel.reserve (leaseDigest id) config.serviceId claim
        model = .ok result after := by
  have created : ProviderReservationModel.new config.capacity = .ok ⟨∅, config.capacity⟩ := by
    rw [ProviderReservationModel.new, validate_capacity valid]
    rfl
  have replayed : ∀ claim, (do
      replayLeases config (leases.toList.map Prod.snd)
      ProviderReservationModel.reserve (leaseDigest id) config.serviceId claim :
        Update Error ProviderReservationModel ReservationResult) ⟨∅, config.capacity⟩ =
      ProviderReservationModel.reserve (leaseDigest id) config.serviceId claim model := by
    intro claim
    change EStateM.bind _ _ _ = _
    rw [EStateM.bind, mirrors.replay_leases distinct]
  rw [reserveClaim, created, ok_bind]
  dsimp only
  rw [replayed]
  cases ProviderReservationModel.reserve (leaseDigest id) config.serviceId claim model with
  | ok result after => simp [Update.verdict]
  | error error after => simp [Update.verdict]

/-- The sum of the active claims. -/
def claimSum (leases : OrderedMap LeaseId ActiveLease) : ℕ × ℕ × ℕ × ℕ :=
  (leases.toList.map fun entry => entry.2.resourceClaim.components).sum

theorem Mirrors.toList_perm (mirrors : Mirrors config ids leases model)
    (distinct : NoLeaseCollision ids) :
    model.active.toList.Perm
      (leases.toList.map fun entry => (leaseDigest entry.1, leaseReservation config entry.2)) := by
  apply OrderedMap.toList_perm
  · apply List.Nodup.map_on _ (OrderedMap.nodup_toList leases)
    intro first firstMember second secondMember same
    have firstHeld := OrderedMap.mem_toList.mp firstMember
    have secondHeld := OrderedMap.mem_toList.mp secondMember
    have sameId := distinct _ (mirrors.listed _ _ firstHeld).1 _ (mirrors.listed _ _ secondHeld).1
      (Prod.mk.inj same).1
    rw [← sameId, firstHeld] at secondHeld
    exact Prod.ext sameId (Option.some.inj secondHeld)
  · intro entry
    rw [mirrors.entries]
    simp only [List.mem_map, OrderedMap.mem_toList, Prod.ext_iff, Prod.exists]

/-- The use of the environment is one lease for each entry and the sum of the claims. -/
theorem Mirrors.environmentUse (mirrors : Mirrors config ids leases model)
    (distinct : NoLeaseCollision ids) :
    model.environmentUse = (leases.size, claimSum leases) := by
  have perm := mirrors.toList_perm distinct
  have use : model.environmentUse = ((leases.toList.map fun entry =>
      (1, entry.2.resourceClaim.components)) : List Demand).sum := by
    rw [ProviderReservationModel.environmentUse, Quota.load, (perm.map _).sum_eq, List.map_map]
    rfl
  rw [use, claimSum, ← Std.ExtTreeMap.length_toList]
  induction leases.toList with
  | nil => rfl
  | cons entry rest ih =>
      rw [List.map_cons, List.sum_cons, ih, List.map_cons, List.sum_cons, Prod.mk_add_mk,
        List.length_cons, add_comm 1]

theorem Mirrors.serviceUse (mirrors : Mirrors config ids leases model) :
    model.serviceUse config.serviceId = model.environmentUse := by
  rw [ProviderReservationModel.serviceUse, Quota.ownLoad, List.filter_eq_self.mpr]
  · rfl
  · intro entry member
    obtain ⟨id, active, -, -, same⟩ := (mirrors.entries _ _).mp (OrderedMap.mem_toList.mp member)
    rw [← same]
    simp [leaseReservation]

/-- There is room exactly when the leases and every component of the claims stay within
the configuration. -/
theorem Mirrors.admits_iff (mirrors : Mirrors config ids leases model)
    (distinct : NoLeaseCollision ids) (claim : ProviderResourceClaim) :
    model.Admits ⟨claim, config.serviceId⟩ ↔
      leases.size < config.maximumActiveLeases.toNat ∧
        claimSum leases + claim.components ≤ config.maximumResourceClaim.components := by
  have share : config.capacity.serviceShares[config.serviceId]? =
      some ⟨config.maximumActiveLeases, config.maximumResourceClaim⟩ := by
    rw [FileCheckpointConfig.capacity, OrderedMap.getElem?_insert, if_pos rfl]
  have whole : model.environmentUse + (1, claim.components) ≤
      (config.maximumActiveLeases.toNat, config.maximumResourceClaim.components) ↔
      leases.size < config.maximumActiveLeases.toNat ∧
        claimSum leases + claim.components ≤ config.maximumResourceClaim.components := by
    rw [mirrors.environmentUse distinct, Prod.mk_add_mk, Prod.mk_le_mk, Nat.add_one_le_iff]
  rw [← whole]
  constructor
  · rintro ⟨room, -⟩
    rw [mirrors.capacity] at room
    exact room
  · intro room
    refine ⟨by rw [mirrors.capacity]; exact room, _,
      ProviderReservationModel.share_limits.mpr ⟨_, by rw [mirrors.capacity]; exact share, rfl⟩, ?_⟩
    change model.serviceUse config.serviceId + _ ≤ _
    rw [mirrors.serviceUse]
    exact room

/-- A new claim is admitted exactly when it fits on top of the active ones. -/
theorem Mirrors.reserve_iff (mirrors : Mirrors config ids leases model)
    (distinct : NoLeaseCollision ids) {id : LeaseId} (known : id ∈ ids)
    (missing : leases[id]? = none) {claim : ProviderResourceClaim}
    (valid : claim.validate = .ok ()) :
    (∃ result after, ProviderReservationModel.reserve (leaseDigest id) config.serviceId claim
        model = .ok result after) ↔
      leases.size < config.maximumActiveLeases.toNat ∧
        claimSum leases + claim.components ≤ config.maximumResourceClaim.components := by
  have fresh := mirrors.fresh distinct known missing
  rw [← mirrors.admits_iff distinct]
  constructor
  · rintro ⟨result, after, success⟩
    obtain ⟨-, found | reserved⟩ := ProviderReservationModel.reserve_eq_ok success
    · rw [fresh] at found
      cases found.2.1
    · exact reserved.2.2.1
  · intro room
    exact ⟨_, _, ProviderReservationModel.reserve_of_admits valid fresh mirrors.sound.kept room⟩

/-! ## What a pin does -/

variable {state after : CheckpointState} {point : Backend.RecoverablePoint}
  {captureId : CaptureId} {worldId : Digest}

/-- The locked half finds the lease or inserts it where there is room. -/
theorem pinLocked_eq_ok {progress : PinProgress} :
    pinLocked point captureId worldId state = .ok progress after ↔
      ∃ digest id, selectArtifact state.provider point = .ok digest ∧
        leaseId captureId point.pointDigest worldId = .ok id ∧
        ¬ (state.provider.leases.size ≥ state.provider.config.maximumActiveLeases.toNat ∧
          id ∉ state.provider.leases) ∧
        ((∃ active, state.provider.leases[id]? = some active ∧
            active.lease = requestedLease point captureId worldId id ∧
            progress = .found active.lease ∧ after = state) ∨
          state.provider.leases[id]? = none ∧
            reserveClaim state.provider.config (state.provider.leases.toList.map Prod.snd) id
              point.resourceClaim = .ok () ∧
            progress = .inserted (requestedLease point captureId worldId id)
              (artifactPath state.provider.config digest) digest ∧
            after = state.insert id (newEntry state.provider.config point
              (requestedLease point captureId worldId id) digest)) := by
  rw [pinLocked, Update.get_bind]
  simp only [Update.bind_eq_ok, Update.attempt_eq_ok, rejectIf_eq_ok]
  constructor
  · rintro ⟨digest, _, ⟨selected, rfl⟩, id, _, ⟨identified, rfl⟩, _, _, ⟨few, rfl⟩, ran⟩
    refine ⟨digest, id, selected, identified, few, ?_⟩
    cases present : state.provider.leases[id]? with
    | some active =>
        rw [present] at ran
        by_cases same : active.lease = requestedLease point captureId worldId id
        · simp only [same, if_true] at ran
          cases ran
          exact .inl ⟨active, rfl, same, by rw [same], rfl⟩
        · simp only [same, if_false] at ran
          cases ran
    | none =>
        rw [present] at ran
        simp only [Update.bind_eq_ok, Update.attempt_eq_ok] at ran
        obtain ⟨_, _, ⟨room, rfl⟩, _, _, written, done⟩ := ran
        cases written
        cases done
        exact .inr ⟨rfl, room, rfl, rfl⟩
  · rintro ⟨digest, id, selected, identified, few, found | inserted⟩
    · obtain ⟨active, present, same, rfl, rfl⟩ := found
      refine ⟨digest, _, ⟨selected, rfl⟩, id, _, ⟨identified, rfl⟩, (), _, ⟨few, rfl⟩, ?_⟩
      rw [present]
      simp only [same, if_true]
      rfl
    · obtain ⟨missing, room, rfl, rfl⟩ := inserted
      refine ⟨digest, _, ⟨selected, rfl⟩, id, _, ⟨identified, rfl⟩, (), _, ⟨few, rfl⟩, ?_⟩
      rw [missing]
      dsimp only
      rw [Update.attempt_bind_ok room]
      rfl

/-- A locked half that fails changes nothing. -/
theorem pinLocked_atomic : Update.Atomic (pinLocked point captureId worldId) := by
  apply Update.Atomic.get_bind
  intro state
  apply Update.Atomic.attempt_bind
  intro digest
  apply Update.Atomic.attempt_bind
  intro id
  apply Update.Atomic.attempt_bind
  intro _
  cases state.provider.leases[id]? with
  | some active =>
      dsimp only
      split_ifs
      · exact Update.atomic_pure _
      · exact Update.atomic_throw _
  | none =>
      dsimp only
      apply Update.Atomic.attempt_bind
      intro _
      exact Update.atomic_set_pure _ _

/-- Reading the checkpoint keeps the state, or it fails and takes the new lease out. -/
theorem pinVerify_cases (faults : Faults) (lease : ProviderLease) (artifact : Path)
    (digest : Digest) (state : CheckpointState) :
    pinVerify faults (.inserted lease artifact digest) state = .ok lease state ∨
      pinVerify faults (.inserted lease artifact digest) state =
        .error .objectDigestMismatch (state.erase lease.leaseId) := by
  rw [pinVerify, Update.get_bind]
  cases readCheckpoint faults artifact state.provider.config.maximumCheckpointBytes state.disk with
  | ok bytes =>
      dsimp only
      by_cases same : Digest.of bytes = digest
      · rw [if_pos same]
        exact .inl rfl
      · rw [if_neg same]
        exact .inr rfl
  | error error => exact .inr rfl

/-! ## Runs -/

/-- One call of a client; the faults are those that the call meets. -/
inductive CheckpointCall
  | pin (faults : Faults) (point : Backend.RecoverablePoint) (captureId : CaptureId)
      (worldId : Digest)
  | release (faults : Faults) (lease : ProviderLease)

namespace CheckpointCall

/-- The state after the call, whether it succeeded or not. -/
def next (state : CheckpointState) : CheckpointCall → CheckpointState
  | .pin faults point captureId worldId =>
      Update.state (Backend.pin faults point captureId worldId state)
  | .release faults lease => Update.state (Backend.release faults lease state)

/-- The leases that the call is about. -/
def leaseIds : CheckpointCall → List LeaseId
  | .pin _ point captureId worldId =>
      (leaseId captureId point.pointDigest worldId).toOption.toList
  | .release _ lease => [lease.leaseId]

/-- The same call on one reservation model: a pin of a point that the provider supplies
reserves, a pin that fails to read its checkpoint releases again. -/
def reservationCalls (state : CheckpointState) : CheckpointCall → List ReservationCall
  | .pin faults point captureId worldId =>
      let serviceId := state.provider.config.serviceId
      match selectArtifact state.provider point, leaseId captureId point.pointDigest worldId with
      | .ok _, .ok id =>
          .reserve (leaseDigest id) serviceId point.resourceClaim ::
            match pinLocked point captureId worldId state with
            | .ok (.inserted lease artifact digest) between =>
                match pinVerify faults (.inserted lease artifact digest) between with
                | .ok _ _ => []
                | .error _ _ => [.release (leaseDigest id) serviceId]
            | _ => []
      | _, _ => []
  | .release _ lease =>
      [.release (leaseDigest lease.leaseId) state.provider.config.serviceId]

/-- Run the calls on the provider and on one reservation model. -/
def runBoth (state : CheckpointState) (model : ProviderReservationModel) :
    List CheckpointCall → CheckpointState × ProviderReservationModel
  | [] => (state, model)
  | call :: rest =>
      runBoth (call.next state) (ReservationCall.runAll model (call.reservationCalls state)) rest

end CheckpointCall

/-! ## One call on both sides -/

omit [Primitives] in
/-- A reservation that is there stays as it is. -/
theorem next_reserve_of_present {digest : Digest} {reservation : ActiveReservation}
    (present : model.active[digest]? = some reservation) (serviceId : ServiceId)
    (claim : ProviderResourceClaim) :
    (ReservationCall.reserve digest serviceId claim).next model = model := by
  rw [ReservationCall.next_reserve]
  cases ran : ProviderReservationModel.reserve digest serviceId claim model with
  | error error after => exact ProviderReservationModel.reserve_atomic _ _ _ ran
  | ok result after =>
      obtain ⟨-, found | reserved⟩ := ProviderReservationModel.reserve_eq_ok ran
      · exact found.2.2
      · rw [present] at reserved
        cases reserved.2.1

/-- A lease that was pinned is reserved. -/
theorem Mirrors.insert (mirrors : Mirrors config ids leases model) (distinct : NoLeaseCollision ids)
    {id : LeaseId} (known : id ∈ ids) (missing : leases[id]? = none) {active : ActiveLease}
    (named : active.lease.leaseId = id)
    (room : model.Admits (leaseReservation config active))
    (valid : active.resourceClaim.validate = .ok ()) :
    (ReservationCall.reserve (leaseDigest id) config.serviceId active.resourceClaim).next model =
        model.insert (leaseDigest id) (leaseReservation config active) ∧
      Mirrors config ids (leases.insert id active)
        (model.insert (leaseDigest id) (leaseReservation config active)) := by
  have fresh := mirrors.fresh distinct known missing
  have step := ProviderReservationModel.reserve_of_admits valid fresh mirrors.sound.kept room
  have next : (ReservationCall.reserve (leaseDigest id) config.serviceId
      active.resourceClaim).next model =
        model.insert (leaseDigest id) (leaseReservation config active) := by
    rw [ReservationCall.next_reserve, step]
    rfl
  refine ⟨next, ?_⟩
  constructor
  case capacity => exact mirrors.capacity
  case sound => exact next ▸ (ReservationCall.next_sound mirrors.sound _).1
  case listed =>
    intro other held present
    rw [OrderedMap.getElem?_insert] at present
    split_ifs at present with same
    · obtain rfl := Option.some.inj present
      exact ⟨same ▸ known, named.trans same⟩
    · exact mirrors.listed _ _ present
  case entries =>
    intro digest reservation
    change (model.active.insert _ _)[digest]? = _ ↔ _
    rw [OrderedMap.getElem?_insert]
    constructor
    · intro present
      split_ifs at present with same
      · refine ⟨id, active, ?_, same, Option.some.inj present⟩
        rw [OrderedMap.getElem?_insert, if_pos rfl]
      · obtain ⟨other, held, listed, sameDigest, reserved⟩ := (mirrors.entries _ _).mp present
        refine ⟨other, held, ?_, sameDigest, reserved⟩
        rw [OrderedMap.getElem?_insert, if_neg, listed]
        rintro rfl
        exact same sameDigest
    · rintro ⟨other, held, listed, sameDigest, reserved⟩
      rw [OrderedMap.getElem?_insert] at listed
      split_ifs at listed with same
      · obtain rfl := Option.some.inj listed
        rw [if_pos (same ▸ sameDigest), reserved]
      · rw [if_neg]
        · exact (mirrors.entries _ _).mpr ⟨other, held, listed, sameDigest, reserved⟩
        · intro sameAsNew
          exact same (distinct _ known _ (mirrors.listed _ _ listed).1
            (sameAsNew.trans sameDigest.symm))

/-- A lease that was released is not reserved. -/
theorem Mirrors.erase (mirrors : Mirrors config ids leases model) (distinct : NoLeaseCollision ids)
    {id : LeaseId} (known : id ∈ ids) :
    Mirrors config ids (leases.erase id)
      ((ReservationCall.release (leaseDigest id) config.serviceId).next model) := by
  have next : (ReservationCall.release (leaseDigest id) config.serviceId).next model =
      model.erase (leaseDigest id) := by
    rw [ReservationCall.next_release]
    cases ran : ProviderReservationModel.release (leaseDigest id) config.serviceId model with
    | ok done after => exact (ProviderReservationModel.release_eq_ok.mp ran).2
    | error error after =>
        -- nothing is reserved under the id, so that erasing changes nothing either
        have missing : model.active[leaseDigest id]? = none := by
          cases present : model.active[leaseDigest id]? with
          | none => rfl
          | some reservation =>
              obtain ⟨other, active, held, -, same⟩ := (mirrors.entries _ _).mp present
              have released := (@ProviderReservationModel.release_eq_ok model (leaseDigest id)
                config.serviceId _ ()).mpr ⟨⟨_, present, by rw [← same]; rfl⟩, rfl⟩
              rw [ran] at released
              cases released
        have same : model.active.erase (leaseDigest id) = model.active := by
          apply Std.ExtTreeMap.ext_getElem?
          intro digest
          rw [OrderedMap.getElem?_erase]
          split_ifs with chosen
          · rw [← chosen, missing]
          · rfl
        rw [ProviderReservationModel.erase, same]
        exact ProviderReservationModel.release_atomic _ _ _ ran
  rw [next]
  constructor
  case capacity => exact mirrors.capacity
  case sound => exact next ▸ (ReservationCall.next_sound mirrors.sound _).1
  case listed =>
    exact fun other held present =>
      mirrors.listed _ _ (OrderedMap.within_erase _ _ _ _ present)
  case entries =>
    intro digest reservation
    change (model.active.erase _)[digest]? = _ ↔ _
    rw [OrderedMap.getElem?_erase]
    constructor
    · intro present
      split_ifs at present with same
      obtain ⟨other, held, listed, sameDigest, reserved⟩ := (mirrors.entries _ _).mp present
      refine ⟨other, held, ?_, sameDigest, reserved⟩
      rw [OrderedMap.getElem?_erase, if_neg, listed]
      rintro rfl
      exact same sameDigest
    · rintro ⟨other, held, listed, sameDigest, reserved⟩
      rw [OrderedMap.getElem?_erase] at listed
      split_ifs at listed with same
      rw [if_neg]
      · exact (mirrors.entries _ _).mpr ⟨other, held, listed, sameDigest, reserved⟩
      · intro sameAsOld
        exact same (distinct _ known _ (mirrors.listed _ _ listed).1
          (sameAsOld.trans sameDigest.symm))

omit [Primitives] in
/-- Removing files does not touch the table. -/
theorem removeTargets_provider (faults : Faults) (targets : List Path) (state : CheckpointState) :
    (Update.state (removeTargets faults targets state)).provider = state.provider := by
  induction targets generalizing state with
  | nil => rfl
  | cons target rest ih =>
      rw [removeTargets, Update.get_bind]
      obtain ⟨removed, disk⟩ := removeFile faults target unavailable state.disk
      cases removed with
      | error error => rfl
      | ok done => exact ih { state with disk }

/-- A release takes its lease out of the table, whatever else it meets. -/
theorem next_release_provider (faults : Faults) (lease : ProviderLease) (state : CheckpointState) :
    ((CheckpointCall.release faults lease).next state).provider =
      { state.provider with leases := state.provider.leases.erase lease.leaseId } := by
  change CheckpointState.provider (Update.state
    (EStateM.bind (releaseLocked lease) (removeTargets faults) state)) = _
  rw [EStateM.bind, releaseLocked, Update.get_bind]
  cases present : state.provider.leases[lease.leaseId]? with
  | none =>
      have same : state.provider.leases.erase lease.leaseId = state.provider.leases := by
        apply Std.ExtTreeMap.ext_getElem?
        intro id
        rw [OrderedMap.getElem?_erase]
        split_ifs with chosen
        · rw [← chosen, present]
        · rfl
      rw [same]
      rfl
  | some active =>
      by_cases same : active.lease = lease
      · have kept : rejectIf (active.lease ≠ lease) Error.schemaInvalid = .ok () :=
          rejectIf_of_not _ (not_not.mpr same)
        rw [show okOr (some active) providerMissing = .ok active from rfl,
          Update.attempt_bind_ok rfl, Update.set_bind, Update.attempt_bind_ok kept]
        exact removeTargets_provider _ _ _
      · have other : rejectIf (active.lease ≠ lease) Error.schemaInvalid =
            .error .schemaInvalid := by
          rw [rejectIf, if_pos same]
        rw [show okOr (some active) providerMissing = .ok active from rfl,
          Update.attempt_bind_ok rfl, Update.set_bind, other]
        rfl

omit [Primitives] in
theorem validate_of_selectArtifact {provider : FileCheckpointProvider} {digest : Digest}
    (selected : selectArtifact provider point = .ok digest) :
    point.resourceClaim.validate = .ok () := by
  simp only [selectArtifact, bind_eq_ok] at selected
  obtain ⟨_, -, _, valid, -⟩ := selected
  exact valid

/-- A pin whose locked half fails changes nothing. -/
theorem next_pin_of_error {state : CheckpointState} (faults : Faults) {error : Error}
    (failed : pinLocked point captureId worldId state = .error error after) :
    (CheckpointCall.pin faults point captureId worldId).next state = state := by
  change Update.state (EStateM.bind (pinLocked point captureId worldId) _ state) = state
  rw [EStateM.bind, failed]
  exact pinLocked_atomic _ _ _ failed

theorem next_pin_of_unsupplied {state : CheckpointState} (faults : Faults)
    (unsupplied : ∀ digest id, ¬ (selectArtifact state.provider point = .ok digest ∧
      leaseId captureId point.pointDigest worldId = .ok id)) :
    (CheckpointCall.pin faults point captureId worldId).next state = state := by
  cases located : pinLocked point captureId worldId state with
  | error error after => exact next_pin_of_error faults located
  | ok progress after =>
      obtain ⟨digest, id, selected, identified, -⟩ := pinLocked_eq_ok.mp located
      exact absurd ⟨selected, identified⟩ (unsupplied digest id)

theorem next_pin_of_ok {state between : CheckpointState} (faults : Faults)
    {progress : PinProgress}
    (located : pinLocked point captureId worldId state = .ok progress between) :
    (CheckpointCall.pin faults point captureId worldId).next state =
      Update.state (pinVerify faults progress between) := by
  change Update.state (EStateM.bind (pinLocked point captureId worldId) _ state) = _
  rw [EStateM.bind, located]

/-- A reservation is refused where the pin is refused. -/
theorem Mirrors.next_reserve_of_error {state : CheckpointState}
    (mirrors : Mirrors config ids state.provider.leases model)
    (distinct : NoLeaseCollision ids) (configured : state.provider.config = config)
    (valid : config.validate = .ok ()) {digest : Digest} {id : LeaseId} (known : id ∈ ids)
    (selected : selectArtifact state.provider point = .ok digest)
    (identified : leaseId captureId point.pointDigest worldId = .ok id) {error : Error}
    (failed : pinLocked point captureId worldId state = .error error after) :
    (ReservationCall.reserve (leaseDigest id) config.serviceId point.resourceClaim).next model =
      model := by
  cases present : state.provider.leases[id]? with
  | some active =>
      exact next_reserve_of_present
        ((mirrors.entries _ _).mpr ⟨id, active, present, rfl, rfl⟩) _ _
  | none =>
      rw [ReservationCall.next_reserve]
      cases ran : ProviderReservationModel.reserve (leaseDigest id) config.serviceId
        point.resourceClaim model with
      | error error after => exact ProviderReservationModel.reserve_atomic _ _ _ ran
      | ok result reserved =>
          -- with room on the model the pin would have inserted its lease
          have claimValid := validate_of_selectArtifact selected
          have room := (mirrors.reserve_iff distinct known present claimValid).mp ⟨_, _, ran⟩
          have few : ¬ (state.provider.leases.size ≥
              state.provider.config.maximumActiveLeases.toNat ∧ id ∉ state.provider.leases) := by
            rintro ⟨full, -⟩
            rw [configured] at full
            exact absurd room.1 (not_lt.mpr full)
          have claimed : reserveClaim state.provider.config
              (state.provider.leases.toList.map Prod.snd) id point.resourceClaim = .ok () := by
            rw [configured]
            exact (mirrors.reserveClaim_iff distinct valid).mpr ⟨_, _, ran⟩
          have located := pinLocked_eq_ok.mpr ⟨digest, id, selected, identified, few,
            .inr ⟨present, claimed, rfl, rfl⟩⟩
          rw [failed] at located
          cases located

/-- A new lease is reserved, and it is released again when its checkpoint is wrong. -/
theorem Mirrors.next_of_inserted {state : CheckpointState}
    (mirrors : Mirrors config ids state.provider.leases model)
    (distinct : NoLeaseCollision ids) (configured : state.provider.config = config)
    (valid : config.validate = .ok ()) {digest : Digest} {id : LeaseId} (known : id ∈ ids)
    (missing : state.provider.leases[id]? = none) (claimValid : point.resourceClaim.validate = .ok ())
    (claimed : reserveClaim state.provider.config (state.provider.leases.toList.map Prod.snd) id
      point.resourceClaim = .ok ()) {faults : Faults} {artifact : Path} :
    let lease := requestedLease point captureId worldId id
    let between := state.insert id (newEntry state.provider.config point lease digest)
    let verified := pinVerify faults (.inserted lease artifact digest) between
    (Update.state verified).provider.config = config ∧
      Mirrors config ids (Update.state verified).provider.leases
        (ReservationCall.runAll model
          (.reserve (leaseDigest id) config.serviceId point.resourceClaim ::
            match verified with
            | .ok _ _ => []
            | .error _ _ => [.release (leaseDigest id) config.serviceId])) := by
  intro lease between verified
  rw [configured] at claimed
  have room : model.Admits ⟨point.resourceClaim, config.serviceId⟩ := by
    rw [mirrors.admits_iff distinct]
    exact (mirrors.reserve_iff distinct known missing claimValid).mp
      ((mirrors.reserveClaim_iff distinct valid).mp claimed)
  obtain ⟨reserved, inserted⟩ := mirrors.insert distinct known missing
    (rfl : (newEntry state.provider.config point lease digest).lease.leaseId = id) room claimValid
  have erased := inserted.erase distinct known
  rcases pinVerify_cases faults lease artifact digest between with same | same
  · change verified = _ at same
    rw [same]
    refine ⟨configured, ?_⟩
    change Mirrors _ _ _ (ReservationCall.next _ _)
    rw [show point.resourceClaim = (newEntry state.provider.config point lease digest).resourceClaim
      from rfl, reserved]
    exact inserted
  · change verified = _ at same
    rw [same]
    refine ⟨configured, ?_⟩
    change Mirrors _ _ _ (ReservationCall.next (ReservationCall.next _ _) _)
    rw [show point.resourceClaim = (newEntry state.provider.config point lease digest).resourceClaim
      from rfl, reserved]
    exact erased

/-- One call of the provider is the same call on the model. -/
theorem Mirrors.next {state : CheckpointState}
    (mirrors : Mirrors config ids state.provider.leases model)
    (distinct : NoLeaseCollision ids) (configured : state.provider.config = config)
    (valid : config.validate = .ok ()) (call : CheckpointCall)
    (known : ∀ id ∈ call.leaseIds, id ∈ ids) :
    (call.next state).provider.config = config ∧
      Mirrors config ids (call.next state).provider.leases
        (ReservationCall.runAll model (call.reservationCalls state)) := by
  cases call with
  | release faults lease =>
      have released := mirrors.erase distinct (known lease.leaseId (List.mem_singleton_self _))
      rw [next_release_provider]
      rw [CheckpointCall.reservationCalls, configured]
      exact ⟨rfl, released⟩
  | pin faults point captureId worldId =>
      cases selected : selectArtifact state.provider point with
      | error error =>
          rw [next_pin_of_unsupplied faults fun digest id both => by
            rw [selected] at both; cases both.1]
          simp only [CheckpointCall.reservationCalls, selected]
          exact ⟨configured, mirrors⟩
      | ok digest =>
      cases identified : leaseId captureId point.pointDigest worldId with
      | error error =>
          rw [next_pin_of_unsupplied faults fun digest id both => by
            rw [identified] at both; cases both.2]
          simp only [CheckpointCall.reservationCalls, selected, identified]
          exact ⟨configured, mirrors⟩
      | ok id =>
          have listed : id ∈ ids := by
            apply known
            rw [CheckpointCall.leaseIds, identified]
            exact List.mem_singleton_self id
          simp only [CheckpointCall.reservationCalls, selected, identified, configured]
          cases located : pinLocked point captureId worldId state with
          | error error between =>
              rw [next_pin_of_error faults located]
              have same := mirrors.next_reserve_of_error distinct configured valid listed selected
                identified located
              refine ⟨configured, ?_⟩
              change Mirrors _ _ _ (ReservationCall.next _ _)
              rw [same]
              exact mirrors
          | ok progress between =>
              rw [next_pin_of_ok faults located]
              obtain ⟨_, other, -, sameId, -, found | inserted⟩ := pinLocked_eq_ok.mp located
              · obtain ⟨active, present, -, rfl, rfl⟩ := found
                obtain rfl := Except.ok.inj (identified.symm.trans sameId)
                have same := next_reserve_of_present
                  ((mirrors.entries _ _).mpr ⟨id, active, present, rfl, rfl⟩) config.serviceId
                  point.resourceClaim
                refine ⟨configured, ?_⟩
                change Mirrors _ _ _ (ReservationCall.next _ _)
                rw [same]
                exact mirrors
              · obtain ⟨missing, claimed, rfl, rfl⟩ := inserted
                obtain rfl := Except.ok.inj (identified.symm.trans sameId)
                exact mirrors.next_of_inserted distinct configured valid listed missing
                  (validate_of_selectArtifact selected) claimed

/-- Every run of the provider is the same run on the model. -/
theorem Mirrors.runBoth {state : CheckpointState}
    (mirrors : Mirrors config ids state.provider.leases model)
    (distinct : NoLeaseCollision ids) (configured : state.provider.config = config)
    (valid : config.validate = .ok ()) (calls : List CheckpointCall)
    (known : ∀ call ∈ calls, ∀ id ∈ call.leaseIds, id ∈ ids) :
    (CheckpointCall.runBoth state model calls).1.provider.config = config ∧
      Mirrors config ids (CheckpointCall.runBoth state model calls).1.provider.leases
        (CheckpointCall.runBoth state model calls).2 := by
  induction calls generalizing state model with
  | nil => exact ⟨configured, mirrors⟩
  | cons call calls ih =>
      rw [List.forall_mem_cons] at known
      obtain ⟨stepConfigured, stepMirrors⟩ := mirrors.next distinct configured valid call known.1
      exact ih stepMirrors stepConfigured known.2

/-- A provider that was just opened has no leases, and neither has a new model. -/
theorem mirrors_opened (ids : List LeaseId) :
    Mirrors config ids (∅ : OrderedMap LeaseId ActiveLease) ⟨∅, config.capacity⟩ := by
  constructor
  case capacity => rfl
  case sound => exact ⟨Quota.kept_empty, fun _ _ present => by simp at present⟩
  case listed => exact fun _ _ present => by simp at present
  case entries => simp

/-- In every state that pins and releases reach, the leases of the table are reserved
again without failure, and a new claim is admitted exactly when it fits on top of the
active ones, as one reservation model that is driven by the same calls decides. -/
theorem checkpoint_quota {config : FileCheckpointConfig} {provider : FileCheckpointProvider}
    (opened : FileCheckpointProvider.open' config = .ok provider) (disk : Disk)
    (calls : List CheckpointCall) (id : LeaseId)
    (distinct : NoLeaseCollision (id :: calls.flatMap CheckpointCall.leaseIds)) :
    ∃ model, ProviderReservationModel.new config.capacity = .ok model ∧
      let (state, driven) := CheckpointCall.runBoth ⟨provider, disk⟩ model calls
      let leases := state.provider.leases
      (∃ rebuilt, replayLeases config (leases.toList.map Prod.snd) model = .ok () rebuilt) ∧
        ∀ claim : ProviderResourceClaim, claim.validate = .ok () → id ∉ leases →
          (reserveClaim config (leases.toList.map Prod.snd) id claim = .ok () ↔
            leases.size < config.maximumActiveLeases.toNat ∧
              claimSum leases + claim.components ≤ config.maximumResourceClaim.components) ∧
          (reserveClaim config (leases.toList.map Prod.snd) id claim = .ok () ↔
            ∃ after, ProviderReservationModel.reserve (leaseDigest id) config.serviceId claim
              driven = .ok .reserved after) := by
  have valid : config.validate = .ok () ∧ provider.config = config ∧ provider.leases = ∅ := by
    simp only [FileCheckpointProvider.open', bind_eq_ok, pure_eq_ok] at opened
    obtain ⟨_, valid, digest, -, rfl⟩ := opened
    exact ⟨valid, rfl, rfl⟩
  obtain ⟨valid, configured, empty⟩ := valid
  refine ⟨⟨∅, config.capacity⟩, ?_, ?_⟩
  · rw [ProviderReservationModel.new, validate_capacity valid]
    rfl
  have start : Mirrors config (id :: calls.flatMap CheckpointCall.leaseIds)
      (CheckpointState.mk provider disk).provider.leases ⟨∅, config.capacity⟩ := by
    rw [show (CheckpointState.mk provider disk).provider.leases = ∅ from empty]
    exact mirrors_opened _
  obtain ⟨-, mirrors⟩ := start.runBoth distinct configured valid calls fun call member other held =>
    List.mem_cons_of_mem _ (List.mem_flatMap.mpr ⟨call, member, held⟩)
  refine ⟨⟨_, mirrors.replay_leases distinct⟩, fun claim claimValid absent => ?_⟩
  have known : id ∈ id :: calls.flatMap CheckpointCall.leaseIds := List.mem_cons_self
  have missing := Std.ExtTreeMap.getElem?_eq_none absent
  have decision := @Mirrors.reserveClaim_iff _ _ _ _ _ mirrors distinct valid id claim ()
  have room := mirrors.reserve_iff distinct known missing claimValid
  refine ⟨decision.trans room, decision.trans ?_⟩
  constructor
  · rintro ⟨result, after, success⟩
    obtain ⟨-, found | reserved⟩ := ProviderReservationModel.reserve_eq_ok success
    · rw [mirrors.fresh distinct known missing] at found
      cases found.2.1
    · rw [reserved.1] at success
      exact ⟨after, success⟩
  · rintro ⟨after, success⟩
    exact ⟨_, after, success⟩

/-! ## A provider for one service -/

/-- A lease and at most one other have no collision. -/
theorem noLeaseCollision_pair {id : LeaseId} {other : Option LeaseId}
    (different : (other.all fun held => leaseDigest id ≠ leaseDigest held) = true) :
    NoLeaseCollision (id :: other.toList) := by
  cases other with
  | none =>
      rintro first (_ | ⟨_, ⟨⟩⟩) second (_ | ⟨_, ⟨⟩⟩) -
      rfl
  | some held =>
      have apart : leaseDigest id ≠ leaseDigest held := by simpa using different
      intro first firstMember second secondMember same
      simp only [Option.toList_some, List.mem_cons, List.not_mem_nil, or_false]
        at firstMember secondMember
      rcases firstMember with rfl | rfl <;> rcases secondMember with rfl | rfl
      · rfl
      · exact absurd same apart
      · exact absurd same.symm apart
      · rfl

/-- One pin of the point. -/
def CheckpointSample.calls : List CheckpointCall :=
  [.pin noFaults CheckpointSample.point (Sample.id 1) ⟨1⟩]

theorem CheckpointSample.noLeaseCollision
    (apart : ((leaseId (Sample.id 1) CheckpointSample.point.pointDigest ⟨1⟩).toOption.all
      fun held => leaseDigest (Sample.id 1) ≠ leaseDigest held) = true) :
    NoLeaseCollision (Sample.id 1 :: CheckpointSample.calls.flatMap CheckpointCall.leaseIds) := by
  rw [CheckpointSample.calls, List.flatMap_singleton]
  exact noLeaseCollision_pair apart

omit [Primitives] in
theorem checkpoint_quota_sample :
    letI := Sample.marked
    FileCheckpointProvider.open' CheckpointSample.config = .ok CheckpointSample.provider ∧
      NoLeaseCollision (Sample.id 1 :: CheckpointSample.calls.flatMap CheckpointCall.leaseIds) ∧
      ∃ model, ProviderReservationModel.new CheckpointSample.config.capacity = .ok model ∧
        let (state, driven) := CheckpointCall.runBoth ⟨CheckpointSample.provider, fun _ => none⟩
          model CheckpointSample.calls
        let leases := state.provider.leases
        (∃ rebuilt, replayLeases CheckpointSample.config (leases.toList.map Prod.snd) model =
            .ok () rebuilt) ∧
          ∀ claim : ProviderResourceClaim, claim.validate = .ok () → Sample.id 1 ∉ leases →
            (reserveClaim CheckpointSample.config (leases.toList.map Prod.snd) (Sample.id 1)
                claim = .ok () ↔
              leases.size < CheckpointSample.config.maximumActiveLeases.toNat ∧
                claimSum leases + claim.components ≤
                  CheckpointSample.config.maximumResourceClaim.components) ∧
            (reserveClaim CheckpointSample.config (leases.toList.map Prod.snd) (Sample.id 1)
                claim = .ok () ↔
              ∃ after, ProviderReservationModel.reserve (leaseDigest (Sample.id 1))
                CheckpointSample.config.serviceId claim driven = .ok .reserved after) :=
  have distinct := @CheckpointSample.noLeaseCollision Sample.marked CheckpointSample.leases_apart
  ⟨@CheckpointSample.opened Sample.marked, distinct,
    @checkpoint_quota Sample.marked CheckpointSample.config _
      (@CheckpointSample.opened Sample.marked) (fun _ => none)
      (@CheckpointSample.calls Sample.marked) (Sample.id 1) distinct⟩

end Reproit
