/-
# The accounting of a dependency pool

A grant adds to the counters of the pool what its destructor takes away, and a destructor
runs once.  The counters are therefore what the providers and the calls hold, whatever
the order of their steps.
-/

import Reproit.Backend.DependencyPool
import Reproit.Data.Grants

namespace Reproit

namespace Backend

/-! ## The log -/

namespace PoolEvent

def operationGranted : PoolEvent → Option Nat
  | .operationReserved provider => some provider
  | _ => none

def operationReleased : PoolEvent → Option Nat
  | .operationDropped provider _ => some provider
  | _ => none

def closeGranted : PoolEvent → Option Nat
  | .closeReserved call => some call
  | _ => none

def closeReleased : PoolEvent → Option Nat
  | .closeDropped call _ => some call
  | _ => none

/-- A counter stopped at zero. -/
def saturated : PoolEvent → Bool
  | .operationDropped _ saturated | .closeDropped _ saturated => saturated
  | _ => false

end PoolEvent

/-! ## The counters -/

theorem toNat_saturatingSub {first second : UInt64} (enough : second.toNat ≤ first.toNat) :
    (saturatingSub first second).toNat = first.toNat - second.toNat := by
  rw [saturatingSub, if_pos (UInt64.le_iff_toNat_le.mpr enough)]
  exact UInt64.toNat_sub_of_le _ _ (UInt64.le_iff_toNat_le.mpr enough)

theorem toNat_next {counter limit : UInt64} (below : counter < limit) :
    (counter + 1).toNat = counter.toNat + 1 := by
  have bound := limit.toNat_lt
  have less := UInt64.lt_iff_toNat_lt.mp below
  rw [UInt64.toNat_add]
  exact Nat.mod_eq_of_lt (by show counter.toNat + 1 < 2 ^ 64; omega)

namespace DependencyPoolState

variable {limits : DependencyLimits} {bytes : UInt64} {before after : DependencyPoolState}

/-- An operation is reserved when there is room for it. -/
theorem reserveOperation_eq_ok (granted : reserveOperation limits bytes before = .ok () after) :
    (before.sessions < limits.sessions ∧ before.activeOperations < limits.activeOperations) ∧
      (before.memoryBytes.toNat + bytes.toNat = after.memoryBytes.toNat ∧
        before.durableBytes.toNat + bytes.toNat = after.durableBytes.toNat) ∧
      (after.memoryBytes ≤ limits.memoryBytes ∧ after.durableBytes ≤ limits.durableBytes) ∧
      after = { before with
        activeOperations := before.activeOperations + 1
        durableBytes := after.durableBytes
        memoryBytes := after.memoryBytes
        sessions := before.sessions + 1 } := by
  rw [reserveOperation, Update.get_bind] at granted
  simp only [Update.bind_eq_ok, Update.attempt_eq_ok, okOr_eq_ok, checkedAdd_eq_some,
    rejectIf_eq_ok, not_or, ge_iff_le, gt_iff_lt, UInt64.not_le, UInt64.not_lt] at granted
  obtain ⟨_, _, ⟨memory, rfl⟩, _, _, ⟨durable, rfl⟩, _, _, ⟨room, rfl⟩, written⟩ := granted
  obtain ⟨sessions, operations, memoryRoom, durableRoom⟩ := room
  cases written
  exact ⟨⟨sessions, operations⟩, ⟨memory, durable⟩, ⟨memoryRoom, durableRoom⟩, rfl⟩

theorem reserveOperation_atomic (limits : DependencyLimits) (bytes : UInt64) :
    Update.Atomic (reserveOperation limits bytes) := by
  apply Update.Atomic.get_bind
  intro state
  apply Update.Atomic.attempt_bind
  intro memory
  apply Update.Atomic.attempt_bind
  intro durable
  apply Update.Atomic.attempt_bind
  intro _
  exact nofun

theorem reserveClose_eq_ok (granted : reserveClose limits before = .ok () after) :
    before.activeCloseRequests < limits.concurrentCloseRequests ∧
      after = { before with activeCloseRequests := before.activeCloseRequests + 1 } := by
  rw [reserveClose, Update.get_bind] at granted
  simp only [Update.bind_eq_ok, Update.attempt_eq_ok, rejectIf_eq_ok, ge_iff_le,
    UInt64.not_le] at granted
  obtain ⟨_, _, ⟨room, rfl⟩, written⟩ := granted
  cases written
  exact ⟨room, rfl⟩

theorem reserveClose_atomic (limits : DependencyLimits) :
    Update.Atomic (reserveClose limits) := by
  apply Update.Atomic.get_bind
  intro state
  apply Update.Atomic.attempt_bind
  intro _
  exact nofun

end DependencyPoolState

/-! ## The operations of a pool -/

/-- The counters are what the live reservations of operations come to, and every
reservation of the log was dropped once or is live. -/
structure OperationsExact (limits : DependencyLimits) (counters : DependencyPoolState)
    (live : List (Nat × UInt64)) (log : List PoolEvent) : Prop where
  sessions : counters.sessions.toNat = live.length
  activeOperations : counters.activeOperations.toNat = live.length
  memoryBytes : counters.memoryBytes.toNat = (live.map fun entry => entry.2.toNat).sum
  durableBytes : counters.durableBytes.toNat = (live.map fun entry => entry.2.toNat).sum
  sessionsWithin : counters.sessions ≤ limits.sessions
  operationsWithin : counters.activeOperations ≤ limits.activeOperations
  memoryWithin : counters.memoryBytes ≤ limits.memoryBytes
  durableWithin : counters.durableBytes ≤ limits.durableBytes
  settled : Settled (log.filterMap PoolEvent.operationGranted)
    (log.filterMap PoolEvent.operationReleased) (live.map Prod.fst)

namespace OperationsExact

variable {limits : DependencyLimits} {counters : DependencyPoolState}
  {live : List (Nat × UInt64)} {log : List PoolEvent}

theorem nothing (limits : DependencyLimits) :
    OperationsExact limits DependencyPoolState.empty [] [] where
  sessions := rfl
  activeOperations := rfl
  memoryBytes := rfl
  durableBytes := rfl
  sessionsWithin := UInt64.zero_le
  operationsWithin := UInt64.zero_le
  memoryWithin := UInt64.zero_le
  durableWithin := UInt64.zero_le
  settled := Settled.nothing

theorem perm (exact : OperationsExact limits counters live log) {others : List (Nat × UInt64)}
    (same : live.Perm others) : OperationsExact limits counters others log :=
  { exact with
    sessions := exact.sessions.trans same.length_eq
    activeOperations := exact.activeOperations.trans same.length_eq
    memoryBytes := exact.memoryBytes.trans (same.map _).sum_eq
    durableBytes := exact.durableBytes.trans (same.map _).sum_eq
    settled := exact.settled.perm (same.map Prod.fst) }

/-- Close requests and their events do not matter. -/
theorem close (exact : OperationsExact limits counters live log) (requests : UInt64)
    {event : PoolEvent} (notGranted : event.operationGranted = none)
    (notReleased : event.operationReleased = none) :
    OperationsExact limits { counters with activeCloseRequests := requests } live
      (log ++ [event]) where
  sessions := exact.sessions
  activeOperations := exact.activeOperations
  memoryBytes := exact.memoryBytes
  durableBytes := exact.durableBytes
  sessionsWithin := exact.sessionsWithin
  operationsWithin := exact.operationsWithin
  memoryWithin := exact.memoryWithin
  durableWithin := exact.durableWithin
  settled := by
    rw [filterMap_concat, filterMap_concat, notGranted, notReleased, Option.toList_none,
      List.append_nil, List.append_nil]
    exact exact.settled

theorem grant (exact : OperationsExact limits counters live log) {bytes : UInt64}
    {after : DependencyPoolState} {provider : Nat}
    (granted : DependencyPoolState.reserveOperation limits bytes counters = .ok () after)
    (fresh : provider ∉ log.filterMap PoolEvent.operationGranted) :
    OperationsExact limits after ((provider, bytes) :: live)
      (log ++ [.operationReserved provider]) := by
  obtain ⟨⟨sessions, operations⟩, ⟨memory, durable⟩, ⟨memoryRoom, durableRoom⟩, same⟩ :=
    DependencyPoolState.reserveOperation_eq_ok granted
  have moreSessions : after.sessions.toNat = counters.sessions.toNat + 1 := by
    rw [same]
    exact toNat_next sessions
  have moreOperations : after.activeOperations.toNat = counters.activeOperations.toNat + 1 := by
    rw [same]
    exact toNat_next operations
  have sessionsBelow := UInt64.lt_iff_toNat_lt.mp sessions
  have operationsBelow := UInt64.lt_iff_toNat_lt.mp operations
  constructor
  case sessions => rw [moreSessions, exact.sessions, List.length_cons]
  case activeOperations => rw [moreOperations, exact.activeOperations, List.length_cons]
  case memoryBytes =>
    rw [← memory, exact.memoryBytes, List.map_cons, List.sum_cons, Nat.add_comm]
  case durableBytes =>
    rw [← durable, exact.durableBytes, List.map_cons, List.sum_cons, Nat.add_comm]
  case sessionsWithin => exact UInt64.le_iff_toNat_le.mpr (by omega)
  case operationsWithin => exact UInt64.le_iff_toNat_le.mpr (by omega)
  case memoryWithin => exact memoryRoom
  case durableWithin => exact durableRoom
  case settled =>
    rw [filterMap_concat, filterMap_concat]
    show Settled (_ ++ [provider]) (_ ++ []) _
    rw [List.append_nil]
    exact exact.settled.grant fresh

/-- Dropping a live reservation takes away what it added. -/
theorem drop {provider : Nat} {bytes : UInt64}
    (exact : OperationsExact limits counters ((provider, bytes) :: live) log) :
    counters.operationSaturates bytes = false ∧
      OperationsExact limits (counters.dropOperation bytes) live
        (log ++ [.operationDropped provider false]) := by
  have one : (1 : UInt64).toNat = 1 := rfl
  have sessions := exact.sessions
  have operations := exact.activeOperations
  have memory := exact.memoryBytes
  have durable := exact.durableBytes
  rw [List.length_cons] at sessions operations
  rw [List.map_cons, List.sum_cons] at memory durable
  dsimp only at memory durable
  have fewerSessions := @toNat_saturatingSub counters.sessions 1 (by omega)
  have fewerOperations := @toNat_saturatingSub counters.activeOperations 1 (by omega)
  have lessMemory := @toNat_saturatingSub counters.memoryBytes bytes (by omega)
  have lessDurable := @toNat_saturatingSub counters.durableBytes bytes (by omega)
  have sessionsBelow := UInt64.le_iff_toNat_le.mp exact.sessionsWithin
  have operationsBelow := UInt64.le_iff_toNat_le.mp exact.operationsWithin
  have memoryBelow := UInt64.le_iff_toNat_le.mp exact.memoryWithin
  have durableBelow := UInt64.le_iff_toNat_le.mp exact.durableWithin
  refine ⟨?_, ?_⟩
  · simp only [DependencyPoolState.operationSaturates, Bool.or_eq_false_iff, decide_eq_false_iff_not,
      UInt64.lt_iff_toNat_lt]
    omega
  constructor
  case sessions => exact fewerSessions.trans (by omega)
  case activeOperations => exact fewerOperations.trans (by omega)
  case memoryBytes => exact lessMemory.trans (by omega)
  case durableBytes => exact lessDurable.trans (by omega)
  case sessionsWithin => exact UInt64.le_iff_toNat_le.mpr (fewerSessions.trans_le (by omega))
  case operationsWithin => exact UInt64.le_iff_toNat_le.mpr (fewerOperations.trans_le (by omega))
  case memoryWithin => exact UInt64.le_iff_toNat_le.mpr (lessMemory.trans_le (by omega))
  case durableWithin => exact UInt64.le_iff_toNat_le.mpr (lessDurable.trans_le (by omega))
  case settled =>
    rw [filterMap_concat, filterMap_concat]
    show Settled (_ ++ []) (_ ++ [provider]) _
    rw [List.append_nil]
    exact exact.settled.drop

end OperationsExact

/-! ## The close requests of a pool -/

structure ClosesExact (limits : DependencyLimits) (counters : DependencyPoolState)
    (closing : List Nat) (log : List PoolEvent) : Prop where
  count : counters.activeCloseRequests.toNat = closing.length
  within : counters.activeCloseRequests ≤ limits.concurrentCloseRequests
  settled : Settled (log.filterMap PoolEvent.closeGranted)
    (log.filterMap PoolEvent.closeReleased) closing

namespace ClosesExact

variable {limits : DependencyLimits} {counters : DependencyPoolState} {closing : List Nat}
  {log : List PoolEvent}

theorem nothing (limits : DependencyLimits) :
    ClosesExact limits DependencyPoolState.empty [] [] where
  count := rfl
  within := UInt64.zero_le
  settled := Settled.nothing

theorem perm (exact : ClosesExact limits counters closing log) {others : List Nat}
    (same : closing.Perm others) : ClosesExact limits counters others log :=
  { exact with
    count := exact.count.trans same.length_eq
    settled := exact.settled.perm same }

/-- Operations and their events do not matter. -/
theorem operation (exact : ClosesExact limits counters closing log)
    {after : DependencyPoolState} (same : after.activeCloseRequests = counters.activeCloseRequests)
    {event : PoolEvent} (notGranted : event.closeGranted = none)
    (notReleased : event.closeReleased = none) :
    ClosesExact limits after closing (log ++ [event]) where
  count := by rw [same, exact.count]
  within := by
    rw [same]
    exact exact.within
  settled := by
    rw [filterMap_concat, filterMap_concat, notGranted, notReleased, Option.toList_none,
      List.append_nil, List.append_nil]
    exact exact.settled

theorem grant (exact : ClosesExact limits counters closing log) {after : DependencyPoolState}
    {call : Nat} (granted : DependencyPoolState.reserveClose limits counters = .ok () after)
    (fresh : call ∉ log.filterMap PoolEvent.closeGranted) :
    ClosesExact limits after (call :: closing) (log ++ [.closeReserved call]) := by
  obtain ⟨room, rfl⟩ := DependencyPoolState.reserveClose_eq_ok granted
  have more := toNat_next room
  have below := UInt64.lt_iff_toNat_lt.mp room
  constructor
  case count => rw [more, exact.count, List.length_cons]
  case within =>
    show counters.activeCloseRequests + 1 ≤ limits.concurrentCloseRequests
    exact UInt64.le_iff_toNat_le.mpr (by omega)
  case settled =>
    rw [filterMap_concat, filterMap_concat]
    show Settled (_ ++ [call]) (_ ++ []) _
    rw [List.append_nil]
    exact exact.settled.grant fresh

theorem drop {call : Nat} (exact : ClosesExact limits counters (call :: closing) log) :
    counters.closeSaturates = false ∧
      ClosesExact limits counters.dropClose closing (log ++ [.closeDropped call false]) := by
  have one : (1 : UInt64).toNat = 1 := rfl
  have count := exact.count
  rw [List.length_cons] at count
  have fewer := @toNat_saturatingSub counters.activeCloseRequests 1 (by omega)
  have below := UInt64.le_iff_toNat_le.mp exact.within
  refine ⟨?_, ?_⟩
  · simp only [DependencyPoolState.closeSaturates, decide_eq_false_iff_not, UInt64.lt_iff_toNat_lt]
    omega
  constructor
  case count => exact fewer.trans (by omega)
  case within => exact UInt64.le_iff_toNat_le.mpr (fewer.trans_le (by omega))
  case settled =>
    rw [filterMap_concat, filterMap_concat]
    show Settled (_ ++ []) (_ ++ [call]) _
    rw [List.append_nil]
    exact exact.settled.drop

end ClosesExact

/-! ## What a step of a call does to the reservations -/

namespace CallPhase

theorem holdsClose_of_releases {phase : CallPhase} (releases : phase.releases = true) :
    phase.holdsClose = false := by
  cases phase <;> first | rfl | cases releases

/-- A step releases the operation, takes a close reservation, drops one, or writes to
the transcript at most. -/
inductive Effect (session : Session) : CallPhase → Option CallPhase → Session → Prop
  | released {phase : CallPhase} (releases : phase.releases = true) :
      Effect session phase none session.releaseOperation
  | closeReserved {operationId : OperationId} {pool : DependencyPoolState}
      (granted : DependencyPoolState.reserveClose session.provider.limits session.pool =
        .ok () pool) :
      Effect session (.start (.close operationId)) (some (.closeReserved operationId))
        { session with pool }
  | closeDropped {phase next : CallPhase} (holds : phase.holdsClose = true)
      (gone : next.holdsClose = false) (started : ∀ call, next ≠ .start call) :
      Effect session phase (some next) { session with pool := session.pool.dropClose }
  | kept {phase : CallPhase} {next : Option CallPhase} (state : TranscriptState)
      (keeps : phase.releases = false) (same : next.any holdsClose = phase.holdsClose)
      (started : ∀ call, next ≠ some (.start call)) :
      Effect session phase next (session.withState state)

variable [Primitives]

theorem step_effect (now : Nat) (session : Session) (phase : CallPhase) :
    Effect session phase (phase.step now session).1 (phase.step now session).2 := by
  -- A step that writes nothing keeps the transcript that is there.
  have kept : ∀ (phase : CallPhase) (next : Option CallPhase), phase.releases = false →
      next.any holdsClose = phase.holdsClose → (∀ call, next ≠ some (.start call)) →
      Effect session phase next session :=
    fun _ _ => Effect.kept session.provider.state
  cases phase with
  | start call =>
      cases call with
      | record request =>
          rw [step]
          cases session.provider.inactive now with
          | true => exact kept _ _ rfl rfl (fun _ same => by cases same)
          | false =>
              cases requireObjectSizes request with
              | error error => exact kept _ _ rfl rfl (fun _ same => by cases same)
              | ok done => exact kept _ _ rfl rfl (fun _ same => by cases same)
      | close operationId =>
          rw [step]
          cases granted : DependencyPoolState.reserveClose session.provider.limits
              session.pool with
          | error error pool =>
              obtain rfl := DependencyPoolState.reserveClose_atomic _ _ _ _ granted
              exact kept _ _ rfl rfl (fun _ same => by cases same)
          | ok done pool => exact Effect.closeReserved granted
      | discard => exact kept _ _ rfl rfl (fun _ same => by cases same)
  | recordRelease => exact Effect.released rfl
  | recordLocked request => exact Effect.kept _ rfl rfl (fun _ same => by cases same)
  | closeReserved operationId =>
      rw [step]
      cases session.provider.expired now with
      | true => exact kept _ _ rfl rfl (fun _ same => by cases same)
      | false => exact kept _ _ rfl rfl (fun _ same => by cases same)
  | closeLate => exact Effect.closeDropped rfl rfl (fun _ same => by cases same)
  | closeLocked operationId => exact Effect.kept _ rfl rfl (fun _ same => by cases same)
  | closeTaken => exact Effect.closeDropped rfl rfl (fun _ same => by cases same)
  | discardLocked => exact Effect.kept _ rfl rfl (fun _ same => by cases same)
  | release => exact Effect.released rfl

end CallPhase

/-! ## The accounting of a pool -/

namespace PoolSystem

/-- The reservation of a provider with its number. -/
def reservationOf (entry : Nat × HttpTranscriptProvider) : Option (Nat × UInt64) :=
  entry.2.reservation.map fun bytes => (entry.1, bytes)

/-- The reservations that the providers hold. -/
def live (providers : OrderedMap Nat HttpTranscriptProvider) : List (Nat × UInt64) :=
  OrderedMap.select reservationOf providers

def closeOf (entry : Nat × Nat × CallPhase) : Option Nat :=
  if entry.2.2.holdsClose then some entry.1 else none

/-- The calls that hold a close reservation. -/
def closing (calls : OrderedMap Nat (Nat × CallPhase)) : List Nat :=
  OrderedMap.select closeOf calls

/-- The counters are what the providers and the calls hold, within the limits; every
reservation was dropped once or is held; and no counter ever stopped at zero. -/
structure Accounted (system : PoolSystem) : Prop where
  operations : OperationsExact system.limits system.counters (live system.providers) system.log
  closes : ClosesExact system.limits system.counters (closing system.calls) system.log
  unsaturated : ∀ event ∈ system.log, event.saturated = false

/-- Numbers were given out in turn, and a call reserves a closing only once. -/
structure Numbered (system : PoolSystem) : Prop where
  granted : ∀ number ∈ system.log.filterMap PoolEvent.operationGranted, number < system.opened
  providers : ∀ (number : Nat) (provider : HttpTranscriptProvider),
    system.providers[number]? = some provider → number < system.opened
  closes : ∀ number ∈ system.log.filterMap PoolEvent.closeGranted, number < system.begun
  calls : ∀ (number owner : Nat) (phase : CallPhase),
    system.calls[number]? = some (owner, phase) → number < system.begun
  starting : ∀ (number owner : Nat) (call : PoolCall),
    system.calls[number]? = some (owner, .start call) →
      number ∉ system.log.filterMap PoolEvent.closeGranted
  limits : ∀ (number : Nat) (provider : HttpTranscriptProvider),
    system.providers[number]? = some provider → provider.limits = system.limits

/-! ## One step of a call -/

section Settle

variable {system : PoolSystem} {number owner : Nat} {provider : HttpTranscriptProvider}
  {phase : CallPhase} {next : Option CallPhase} {session : Session}

/-- The live reservations when a provider changes: its own and the others. -/
theorem live_insert (providers : OrderedMap Nat HttpTranscriptProvider) (owner : Nat)
    (provider : HttpTranscriptProvider) :
    (live (providers.insert owner provider)).Perm
      ((reservationOf (owner, provider)).toList ++ live (providers.erase owner)) :=
  OrderedMap.select_insert reservationOf providers owner provider

theorem live_of_present {providers : OrderedMap Nat HttpTranscriptProvider}
    (there : providers[owner]? = some provider) :
    (live providers).Perm
      ((reservationOf (owner, provider)).toList ++ live (providers.erase owner)) :=
  OrderedMap.select_of_present reservationOf there

theorem live_insert_same {providers : OrderedMap Nat HttpTranscriptProvider}
    {after : HttpTranscriptProvider} (there : providers[owner]? = some provider)
    (same : after.reservation = provider.reservation) :
    (live (providers.insert owner after)).Perm (live providers) := by
  apply OrderedMap.select_insert_same reservationOf there
  rw [reservationOf, reservationOf, same]

theorem closing_insert (calls : OrderedMap Nat (Nat × CallPhase)) (number owner : Nat)
    (phase : CallPhase) : (closing (calls.insert number (owner, phase))).Perm
      ((closeOf (number, owner, phase)).toList ++ closing (calls.erase number)) :=
  OrderedMap.select_insert closeOf calls number (owner, phase)

theorem closing_of_present {calls : OrderedMap Nat (Nat × CallPhase)}
    (there : calls[number]? = some (owner, phase)) :
    (closing calls).Perm
      ((closeOf (number, owner, phase)).toList ++ closing (calls.erase number)) :=
  OrderedMap.select_of_present closeOf there

theorem closeOf_of_not {phase : CallPhase} (idle : phase.holdsClose = false)
    (number owner : Nat) : closeOf (number, owner, phase) = none := by
  rw [closeOf, idle]
  rfl

theorem closeOf_of_holds {phase : CallPhase} (holds : phase.holdsClose = true)
    (number owner : Nat) : closeOf (number, owner, phase) = some number := by
  rw [closeOf, holds]
  rfl

/-- A call that holds nothing can go away. -/
theorem closing_erase {calls : OrderedMap Nat (Nat × CallPhase)}
    (there : calls[number]? = some (owner, phase)) (idle : phase.holdsClose = false) :
    (closing calls).Perm (closing (calls.erase number)) := by
  have parts := closing_of_present there
  rwa [closeOf_of_not idle] at parts

theorem closing_insert_same {calls : OrderedMap Nat (Nat × CallPhase)} {after : CallPhase}
    (there : calls[number]? = some (owner, phase)) (same : after.holdsClose = phase.holdsClose) :
    (closing (calls.insert number (owner, after))).Perm (closing calls) := by
  apply OrderedMap.select_insert_same closeOf there
  rw [closeOf, closeOf, same]

theorem callEvents_of_releases (releases : phase.releases = true) :
    system.callEvents number owner provider phase next = system.dropEvents owner provider := by
  rw [callEvents, if_pos releases]

theorem callEvents_of_same (keeps : phase.releases = false)
    (same : next.any CallPhase.holdsClose = phase.holdsClose) :
    system.callEvents number owner provider phase next = [] := by
  rw [callEvents, keeps, if_neg Bool.false_ne_true, same]
  cases phase.holdsClose <;> rfl

theorem callEvents_of_dropped {after : CallPhase} (holds : phase.holdsClose = true)
    (gone : after.holdsClose = false) :
    system.callEvents number owner provider phase (some after) =
      [.closeDropped number system.counters.closeSaturates] := by
  have keeps : phase.releases ≠ true := by
    intro releases
    rw [CallPhase.holdsClose_of_releases releases] at holds
    cases holds
  rw [callEvents, if_neg keeps, holds, Option.any_some, gone]

theorem unsaturated_concat {log : List PoolEvent}
    (before : ∀ event ∈ log, event.saturated = false) {added : PoolEvent}
    (now : added.saturated = false) : ∀ event ∈ log ++ [added], event.saturated = false := by
  intro other member
  rcases List.mem_append.mp member with earlier | last
  · exact before other earlier
  · obtain rfl := List.mem_singleton.mp last
    exact now

/-- The provider gives its reservation back, if it has one. -/
theorem Accounted.released (accounted : system.Accounted)
    (there : system.providers[owner]? = some provider) :
    let after := Session.releaseOperation { pool := system.counters, provider }
    let log := system.log ++ system.dropEvents owner provider
    OperationsExact system.limits after.pool (live (system.providers.erase owner)) log ∧
      (live (system.providers.insert owner after.provider)).Perm
        (live (system.providers.erase owner)) ∧
      ClosesExact system.limits after.pool (closing system.calls) log ∧
      ∀ event ∈ log, event.saturated = false := by
  intro after log
  have others := live_insert system.providers owner after.provider
  have before := live_of_present there
  cases reserved : provider.reservation with
  | none =>
      have idle : after = { pool := system.counters, provider } := by
        show Session.releaseOperation _ = _
        rw [Session.releaseOperation, reserved]
      have silent : log = system.log := by
        show system.log ++ system.dropEvents owner provider = system.log
        rw [dropEvents, reserved, List.append_nil]
      have nothing : reservationOf (owner, provider) = none := by
        rw [reservationOf, reserved, Option.map_none]
      rw [nothing, Option.toList_none, List.nil_append] at before
      rw [idle, nothing, Option.toList_none, List.nil_append] at others
      rw [idle, silent]
      exact ⟨accounted.operations.perm before, others, accounted.closes, accounted.unsaturated⟩
  | some bytes =>
      have given : after = { pool := system.counters.dropOperation bytes
                             provider := { provider with reservation := none } } := by
        show Session.releaseOperation _ = _
        rw [Session.releaseOperation, reserved]
      have held : reservationOf (owner, provider) = some (owner, bytes) := by
        rw [reservationOf, reserved, Option.map_some]
      rw [held, Option.toList_some, List.singleton_append] at before
      have nothing : reservationOf (owner, { provider with reservation := none }) = none := rfl
      rw [given, nothing, Option.toList_none, List.nil_append] at others
      obtain ⟨exactly, dropped⟩ := (accounted.operations.perm before).drop
      have event : log = system.log ++ [.operationDropped owner false] := by
        show system.log ++ system.dropEvents owner provider = _
        rw [dropEvents, reserved]
        dsimp only
        rw [exactly]
      have closes : ClosesExact system.limits (system.counters.dropOperation bytes)
          (closing system.calls) (system.log ++ [.operationDropped owner false]) := by
        apply accounted.closes.operation <;> rfl
      have unsaturated := @unsaturated_concat _ accounted.unsaturated
        (.operationDropped owner false) rfl
      rw [given, event]
      exact ⟨dropped, others, closes, unsaturated⟩

/-- Every step of a call keeps the accounting exact. -/
theorem Accounted.settle (accounted : system.Accounted)
    (called : system.calls[number]? = some (owner, phase))
    (there : system.providers[owner]? = some provider)
    (limited : provider.limits = system.limits)
    (fresh : ∀ call, phase = .start call → number ∉ system.log.filterMap PoolEvent.closeGranted)
    (effect : CallPhase.Effect { pool := system.counters, provider } phase next session) :
    (system.settle number owner provider phase next session).Accounted := by
  cases effect with
  | released releases =>
      obtain ⟨operations, others, closes, unsaturated⟩ := accounted.released there
      have idle := closing_erase called (CallPhase.holdsClose_of_releases releases)
      rw [PoolSystem.settle, callEvents_of_releases releases]
      exact ⟨operations.perm others.symm, closes.perm idle, unsaturated⟩
  | closeReserved granted =>
      rename_i operationId pool
      have same : (live (system.providers.insert owner provider)).Perm _ :=
        live_insert_same there rfl
      have idle := closing_erase called rfl
      have holding := closing_insert system.calls number owner (.closeReserved operationId)
      rw [closeOf_of_holds rfl, Option.toList_some, List.singleton_append] at holding
      dsimp only at granted
      rw [limited] at granted
      have closes := accounted.closes.grant granted (fresh _ rfl)
      obtain ⟨-, rfl⟩ := DependencyPoolState.reserveClose_eq_ok granted
      exact ⟨(accounted.operations.perm same.symm).close _ rfl rfl,
        closes.perm ((idle.cons number).trans holding.symm),
        unsaturated_concat accounted.unsaturated rfl⟩
  | closeDropped holds gone started =>
      rename_i after
      have same : (live (system.providers.insert owner provider)).Perm _ :=
        live_insert_same there rfl
      have before := closing_of_present called
      have idle := closing_insert system.calls number owner after
      rw [closeOf_of_holds holds, Option.toList_some, List.singleton_append] at before
      rw [closeOf_of_not gone, Option.toList_none, List.nil_append] at idle
      obtain ⟨exactly, dropped⟩ := (accounted.closes.perm before).drop
      rw [PoolSystem.settle, callEvents_of_dropped holds gone, exactly]
      exact ⟨(accounted.operations.perm same.symm).close _ rfl rfl, dropped.perm idle.symm,
        unsaturated_concat accounted.unsaturated rfl⟩
  | kept state keeps same started =>
      have unchanged : (live (system.providers.insert owner { provider with state })).Perm _ :=
        live_insert_same there rfl
      have calls : (closing (callsAfter system.calls number owner next)).Perm
          (closing system.calls) := by
        cases next with
        | none => exact (closing_erase called same.symm).symm
        | some after => exact closing_insert_same called same
      rw [PoolSystem.settle, callEvents_of_same keeps same, List.append_nil]
      exact ⟨accounted.operations.perm unchanged.symm, accounted.closes.perm calls.symm,
        accounted.unsaturated⟩

theorem getElem?_callsAfter (calls : OrderedMap Nat (Nat × CallPhase)) (number owner : Nat)
    (next : Option CallPhase) (wanted : Nat) :
    (callsAfter calls number owner next)[wanted]? =
      if number = wanted then next.map fun phase => (owner, phase) else calls[wanted]? := by
  cases next with
  | none => exact OrderedMap.getElem?_erase calls number wanted
  | some phase => exact OrderedMap.getElem?_insert calls number wanted (owner, phase)

theorem dropEvents_notGranted (system : PoolSystem) (number : Nat)
    (provider : HttpTranscriptProvider) :
    (system.dropEvents number provider).filterMap PoolEvent.operationGranted = [] ∧
      (system.dropEvents number provider).filterMap PoolEvent.closeGranted = [] := by
  rw [dropEvents]
  cases provider.reservation <;> exact ⟨rfl, rfl⟩

/-- A step of a call grants no operation, and a closing to no other call. -/
theorem callEvents_granted (system : PoolSystem) (number owner : Nat)
    (provider : HttpTranscriptProvider) (phase : CallPhase) (next : Option CallPhase) :
    (system.callEvents number owner provider phase next).filterMap
        PoolEvent.operationGranted = [] ∧
      ∀ call ∈ (system.callEvents number owner provider phase next).filterMap
        PoolEvent.closeGranted, call = number := by
  cases releases : phase.releases with
  | true =>
      obtain ⟨operations, closes⟩ := dropEvents_notGranted system owner provider
      rw [callEvents_of_releases releases, closes]
      exact ⟨operations, nofun⟩
  | false =>
      rw [callEvents, releases, if_neg Bool.false_ne_true]
      cases phase.holdsClose <;> cases next.any CallPhase.holdsClose
      · exact ⟨rfl, nofun⟩
      · exact ⟨rfl, fun _ member => List.mem_singleton.mp member⟩
      · exact ⟨rfl, nofun⟩
      · exact ⟨rfl, nofun⟩

theorem limits_of_effect {before : Session} (effect : CallPhase.Effect before phase next session) :
    session.provider.limits = before.provider.limits := by
  cases effect with
  | released releases => rw [before.releaseOperation_provider]
  | closeReserved granted => rfl
  | closeDropped holds gone started => rfl
  | kept state keeps same started => rfl

theorem started_of_effect {before : Session} (effect : CallPhase.Effect before phase next session)
    (call : PoolCall) : next ≠ some (.start call) := by
  cases effect with
  | released releases => exact nofun
  | closeReserved granted => exact nofun
  | closeDropped holds gone started => exact fun same => started call (Option.some.inj same)
  | kept state keeps same started => exact started call

/-- A step of a call gives out no number, and nothing is new to the other calls. -/
theorem Numbered.settle (numbered : system.Numbered)
    (called : system.calls[number]? = some (owner, phase))
    (there : system.providers[owner]? = some provider)
    (effect : CallPhase.Effect { pool := system.counters, provider } phase next session) :
    (system.settle number owner provider phase next session).Numbered := by
  obtain ⟨operations, closes⟩ := callEvents_granted system number owner provider phase next
  constructor
  case granted =>
    intro wanted member
    rw [PoolSystem.settle, List.filterMap_append, operations, List.append_nil] at member
    exact numbered.granted wanted member
  case providers =>
    intro wanted found present
    rw [PoolSystem.settle, OrderedMap.getElem?_insert] at present
    split_ifs at present with same
    · subst same
      exact numbered.providers owner provider there
    · exact numbered.providers wanted found present
  case closes =>
    intro wanted member
    rw [PoolSystem.settle, List.filterMap_append, List.mem_append] at member
    rcases member with earlier | now
    · exact numbered.closes wanted earlier
    · rw [closes wanted now]
      exact numbered.calls number owner phase called
  case calls =>
    intro wanted user found present
    rw [PoolSystem.settle, getElem?_callsAfter] at present
    split_ifs at present with same
    · subst same
      exact numbered.calls number owner phase called
    · exact numbered.calls wanted user found present
  case starting =>
    intro wanted user call present
    rw [PoolSystem.settle, getElem?_callsAfter] at present
    split_ifs at present with same
    · obtain ⟨after, continues, pair⟩ := Option.map_eq_some_iff.mp present
      cases pair
      exact absurd continues (started_of_effect effect call)
    · rw [PoolSystem.settle, List.filterMap_append, List.mem_append, not_or]
      exact ⟨numbered.starting wanted user call present,
        fun now => same (closes wanted now).symm⟩
  case limits =>
    intro wanted found present
    rw [PoolSystem.settle, OrderedMap.getElem?_insert] at present
    split_ifs at present with same
    · obtain rfl := Option.some.inj present
      exact (limits_of_effect effect).trans (numbered.limits owner provider there)
    · exact numbered.limits wanted found present

end Settle

/-! ## One step of the pool -/

theorem accounted_initial (limits : DependencyLimits) : (initial limits).Accounted where
  operations := by
    show OperationsExact limits DependencyPoolState.empty (live ∅) []
    rw [live, OrderedMap.select, OrderedMap.toList_empty]
    exact OperationsExact.nothing limits
  closes := by
    show ClosesExact limits DependencyPoolState.empty (closing ∅) []
    rw [closing, OrderedMap.select, OrderedMap.toList_empty]
    exact ClosesExact.nothing limits
  unsaturated := nofun

theorem numbered_initial (limits : DependencyLimits) : (initial limits).Numbered where
  granted := nofun
  providers := by
    intro number provider present
    cases Std.ExtTreeMap.getElem?_empty.symm.trans present
  closes := nofun
  calls := by
    intro number owner phase present
    cases Std.ExtTreeMap.getElem?_empty.symm.trans present
  starting := nofun
  limits := by
    intro number provider present
    cases Std.ExtTreeMap.getElem?_empty.symm.trans present

/-- The accounting is exact, and the numbers say so of later steps too. -/
structure Sound (system : PoolSystem) : Prop where
  accounted : system.Accounted
  numbered : system.Numbered

variable {system : PoolSystem}

theorem openProvider_atomic (limits : DependencyLimits)
    (now maximumInteractions maximumBytes : Nat) :
    Update.Atomic (openProvider limits now maximumInteractions maximumBytes) := by
  apply Update.Atomic.attempt_bind
  intro _
  apply Update.Atomic.attempt_bind
  intro bytes
  apply Update.Atomic.attempt_bind
  intro _
  apply Update.Atomic.attempt_bind
  intro _
  exact (DependencyPoolState.reserveOperation_atomic limits bytes).bind_pure _

/-- A provider is opened under a number of its own. -/
theorem Sound.opened (sound : system.Sound) {now maximumInteractions maximumBytes : Nat}
    {provider : HttpTranscriptProvider} {after : DependencyPoolState}
    (opened : openProvider system.limits now maximumInteractions maximumBytes system.counters =
      .ok provider after) :
    Sound { system with
      counters := after
      providers := system.providers.insert system.opened provider
      opened := system.opened + 1
      log := system.log ++ [.operationReserved system.opened] } := by
  obtain ⟨accounted, numbered⟩ := sound
  obtain ⟨-, bytes, -, granted, made⟩ := openProvider_eq_ok opened
  have fresh : system.opened ∉ system.log.filterMap PoolEvent.operationGranted :=
    fun member => Nat.lt_irrefl _ (numbered.granted _ member)
  have missing : system.providers[system.opened]? = none := by
    cases present : system.providers[system.opened]? with
    | none => rfl
    | some found => exact absurd (numbered.providers _ found present) (Nat.lt_irrefl _)
  have held : reservationOf (system.opened, provider) = some (system.opened, bytes) := by
    rw [made]
    rfl
  have more := live_insert system.providers system.opened provider
  rw [held, Option.toList_some, List.singleton_append,
    OrderedMap.erase_of_fresh missing] at more
  have operations := accounted.operations.grant granted fresh
  have requests : after.activeCloseRequests = system.counters.activeCloseRequests := by
    obtain ⟨-, -, -, same⟩ := DependencyPoolState.reserveOperation_eq_ok granted
    rw [same]
  have noClose : (system.log ++ [PoolEvent.operationReserved system.opened]).filterMap
      PoolEvent.closeGranted = system.log.filterMap PoolEvent.closeGranted := by
    rw [filterMap_concat]
    exact List.append_nil _
  constructor
  case accounted =>
    exact ⟨operations.perm more.symm, accounted.closes.operation requests rfl rfl,
      unsaturated_concat accounted.unsaturated rfl⟩
  case numbered =>
    constructor
    case granted =>
      intro wanted member
      rw [filterMap_concat, List.mem_append] at member
      rcases member with earlier | now
      · exact Nat.lt_succ_of_lt (numbered.granted wanted earlier)
      · rw [List.mem_singleton.mp now]
        exact Nat.lt_succ_self _
    case providers =>
      intro wanted found present
      rw [OrderedMap.getElem?_insert] at present
      split_ifs at present with same
      · rw [← same]
        exact Nat.lt_succ_self _
      · exact Nat.lt_succ_of_lt (numbered.providers wanted found present)
    case closes =>
      rw [noClose]
      exact numbered.closes
    case calls => exact numbered.calls
    case starting =>
      rw [noClose]
      exact numbered.starting
    case limits =>
      intro wanted found present
      rw [OrderedMap.getElem?_insert] at present
      split_ifs at present with same
      · obtain rfl := Option.some.inj present
        rw [made]
      · exact numbered.limits wanted found present

/-- A call starts without a reservation. -/
theorem Sound.called (sound : system.Sound) (owner : Nat) (call : PoolCall) :
    Sound { system with
      calls := system.calls.insert system.begun (owner, .start call)
      begun := system.begun + 1 } := by
  obtain ⟨accounted, numbered⟩ := sound
  have missing : system.calls[system.begun]? = none := by
    cases present : system.calls[system.begun]? with
    | none => rfl
    | some found =>
        exact absurd (numbered.calls _ found.1 found.2 present) (Nat.lt_irrefl _)
  have same := closing_insert system.calls system.begun owner (.start call)
  rw [closeOf_of_not rfl, Option.toList_none, List.nil_append,
    OrderedMap.erase_of_fresh missing] at same
  constructor
  case accounted =>
    exact { accounted with closes := accounted.closes.perm same.symm }
  case numbered =>
    constructor
    case granted => exact numbered.granted
    case providers => exact numbered.providers
    case closes => exact fun wanted member => Nat.lt_succ_of_lt (numbered.closes wanted member)
    case calls =>
      intro wanted user found present
      rw [OrderedMap.getElem?_insert] at present
      split_ifs at present with here
      · rw [← here]
        exact Nat.lt_succ_self _
      · exact Nat.lt_succ_of_lt (numbered.calls wanted user found present)
    case starting =>
      intro wanted user other present
      rw [OrderedMap.getElem?_insert] at present
      split_ifs at present with here
      · rw [← here]
        exact fun member => Nat.lt_irrefl _ (numbered.closes _ member)
      · exact numbered.starting wanted user other present
    case limits => exact numbered.limits

/-- A provider that is dropped gives its reservation back. -/
theorem Sound.drop (sound : system.Sound) (number : Nat) : (system.drop number).Sound := by
  obtain ⟨accounted, numbered⟩ := sound
  rw [PoolSystem.drop]
  cases there : system.providers[number]? with
  | none => exact ⟨accounted, numbered⟩
  | some provider =>
      dsimp only
      split_ifs with used
      · exact ⟨accounted, numbered⟩
      obtain ⟨operations, -, closes, unsaturated⟩ := accounted.released there
      obtain ⟨noOperation, noClose⟩ := dropEvents_notGranted system number provider
      constructor
      case accounted => exact ⟨operations, closes, unsaturated⟩
      case numbered =>
        constructor
        case granted =>
          rw [List.filterMap_append, noOperation, List.append_nil]
          exact numbered.granted
        case providers =>
          intro wanted found present
          exact numbered.providers wanted found
            (OrderedMap.within_erase system.providers number wanted found present)
        case closes =>
          rw [List.filterMap_append, noClose, List.append_nil]
          exact numbered.closes
        case calls => exact numbered.calls
        case starting =>
          rw [List.filterMap_append, noClose, List.append_nil]
          exact numbered.starting
        case limits =>
          intro wanted found present
          exact numbered.limits wanted found
            (OrderedMap.within_erase system.providers number wanted found present)

variable [Primitives]

/-- A call makes a step of its own, or the pool stays as it is. -/
theorem advance_eq (system : PoolSystem) (number now : Nat) :
    (system.advance number now = system ∧ ∀ owner phase provider,
        system.calls[number]? = some (owner, phase) → system.providers[owner]? ≠ some provider) ∨
      ∃ owner phase provider, system.calls[number]? = some (owner, phase) ∧
        system.providers[owner]? = some provider ∧
        system.advance number now = system.settle number owner provider phase
          (phase.step now { pool := system.counters, provider }).1
          (phase.step now { pool := system.counters, provider }).2 := by
  rw [advance]
  cases called : system.calls[number]? with
  | none => exact .inl ⟨rfl, nofun⟩
  | some call =>
      obtain ⟨owner, phase⟩ := call
      dsimp only
      cases there : system.providers[owner]? with
      | none =>
          refine .inl ⟨rfl, fun user current provider same => ?_⟩
          obtain ⟨rfl, -⟩ := Prod.mk.inj (Option.some.inj same)
          rw [there]
          exact nofun
      | some provider => exact .inr ⟨owner, phase, provider, rfl, there, rfl⟩

theorem Sound.advance (sound : system.Sound) (number now : Nat) :
    (system.advance number now).Sound := by
  rcases advance_eq system number now with
    ⟨same, -⟩ | ⟨owner, phase, provider, called, there, after⟩
  · rwa [same]
  have effect := CallPhase.step_effect now { pool := system.counters, provider } phase
  rw [after]
  refine ⟨sound.accounted.settle called there (sound.numbered.limits owner provider there) ?_
    effect, sound.numbered.settle called there effect⟩
  rintro call rfl
  exact sound.numbered.starting number owner call called

/-- Every step of the pool keeps the accounting exact. -/
theorem Sound.next (sound : system.Sound) (step : PoolStep) : (step.next system).Sound := by
  cases step with
  | openProvider now maximumInteractions maximumBytes =>
      rw [PoolStep.next]
      cases opened : openProvider system.limits now maximumInteractions maximumBytes
          system.counters with
      | error error counters =>
          obtain rfl := openProvider_atomic _ _ _ _ _ _ _ opened
          exact sound
      | ok provider counters => exact sound.opened opened
  | startCall owner call =>
      rw [PoolStep.next]
      split_ifs with there
      · exact sound.called owner call
      · exact sound
  | advanceCall number now => exact sound.advance number now
  | dropProvider provider => exact sound.drop provider

theorem sound_run (limits : DependencyLimits) (steps : List PoolStep) :
    ((initial limits).run steps).Sound := by
  have start : (initial limits).Sound := ⟨accounted_initial limits, numbered_initial limits⟩
  rw [run]
  generalize initial limits = system at start
  induction steps generalizing system with
  | nil => exact start
  | cons step rest ih => exact ih _ (start.next step)

/-! ## The end of a call -/

/-- Unless the call records, its end leaves its provider without a reservation. -/
def EndReleases (system : PoolSystem) : Prop :=
  ∀ (number now owner : Nat) (phase : CallPhase) (provider : HttpTranscriptProvider),
    system.calls[number]? = some (owner, phase) → phase.records = false →
    (system.advance number now).calls[number]? = none →
    (system.advance number now).providers[owner]? = some provider → provider.reservation = none

/-- A call that does not record goes on until it releases. -/
theorem releases_of_ended {now : Nat} {session : Session} {phase : CallPhase}
    (notRecord : phase.records = false) (ended : (phase.step now session).1 = none) :
    phase.releases = true := by
  cases phase with
  | start call =>
      cases call with
      | record request => cases notRecord
      | close operationId =>
          rw [CallPhase.step] at ended
          cases granted : DependencyPoolState.reserveClose session.provider.limits session.pool <;>
            rw [granted] at ended <;> cases ended
      | discard => cases ended
  | recordRelease => rfl
  | recordLocked request => cases notRecord
  | closeReserved operationId =>
      rw [CallPhase.step] at ended
      cases late : session.provider.expired now <;> rw [late] at ended <;> cases ended
  | closeLate => cases ended
  | closeLocked operationId => cases ended
  | closeTaken => cases ended
  | discardLocked => cases ended
  | release => rfl

theorem step_of_releases {phase : CallPhase} (releases : phase.releases = true) (now : Nat)
    (session : Session) : phase.step now session = (none, session.releaseOperation) := by
  cases phase <;> first | rfl | cases releases

theorem endReleases (system : PoolSystem) : system.EndReleases := by
  intro number now owner phase found called notRecord ended there
  rcases advance_eq system number now with
    ⟨same, -⟩ | ⟨user, current, provider, calling, used, after⟩
  · rw [same, called] at ended
    cases ended
  · obtain ⟨rfl, rfl⟩ := Prod.mk.inj (Option.some.inj (called.symm.trans calling))
    have last : (phase.step now { pool := system.counters, provider }).1 = none := by
      rw [after, PoolSystem.settle, getElem?_callsAfter, if_pos rfl] at ended
      exact Option.map_eq_none_iff.mp ended
    have releases := releases_of_ended notRecord last
    rw [after, step_of_releases releases, PoolSystem.settle, OrderedMap.getElem?_insert,
      if_pos rfl] at there
    rw [← Option.some.inj there, Session.releaseOperation_provider]

omit [Primitives] in
/-- Every reservation that nobody holds was released once. -/
structure ReleasedOnce (system : PoolSystem) : Prop where
  operations : ∀ provider ∈ system.log.filterMap PoolEvent.operationGranted,
    provider ∉ (live system.providers).map Prod.fst →
      (system.log.filterMap PoolEvent.operationReleased).count provider = 1
  closes : ∀ call ∈ system.log.filterMap PoolEvent.closeGranted,
    call ∉ closing system.calls →
      (system.log.filterMap PoolEvent.closeReleased).count call = 1

omit [Primitives] in
theorem Accounted.releasedOnce (accounted : system.Accounted) : system.ReleasedOnce where
  operations _ granted gone := accounted.operations.settled.count_dropped granted gone
  closes _ granted gone := accounted.closes.settled.count_dropped granted gone

end PoolSystem

end Backend

open Backend

variable [Primitives]

/-- In every state that steps of a pool reach, its counters are exact and within the limits,
no counter ever stopped at zero, and every reservation was released once or is still
held.  A closing, a discarding and a recording that comes too late end with the
reservation of their provider released. -/
theorem pool_accounted (limits : DependencyLimits) (steps : List PoolStep) :
    ((PoolSystem.initial limits).run steps).Accounted ∧
      ((PoolSystem.initial limits).run steps).ReleasedOnce ∧
      ((PoolSystem.initial limits).run steps).EndReleases := by
  have sound := PoolSystem.sound_run limits steps
  exact ⟨sound.accounted, sound.accounted.releasedOnce, PoolSystem.endReleases _⟩

end Reproit
