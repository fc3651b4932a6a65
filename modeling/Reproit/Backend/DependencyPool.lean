/-
# A pool with its providers and calls

Calls on the providers of one pool run side by side.  A call takes one lock after the
other, and between two of its locks any other call can advance.  A provider is dropped
when no call uses it any more; its reservation goes with it.  The log says which
reservations were granted and which of their destructors ran.
-/

import Reproit.Backend.Dependency

namespace Reproit.Backend

/-! ## Calls between two locks -/

inductive PoolCall
  | record (request : RecordRequest)
  | close (operationId : OperationId)
  | discard

/-- Where a call is. -/
inductive CallPhase
  | start (call : PoolCall)
  | recordRelease
  | recordLocked (request : RecordRequest)
  | closeReserved (operationId : OperationId)
  | closeLate
  | closeLocked (operationId : OperationId)
  | closeTaken
  | discardLocked
  | release

namespace CallPhase

/-- The call holds a close reservation. -/
def holdsClose : CallPhase → Bool
  | .closeReserved _ | .closeLate | .closeLocked _ | .closeTaken => true
  | _ => false

/-- A call that may end with its provider as it was: one that records. -/
def records : CallPhase → Bool
  | .start (.record _) | .recordLocked _ => true
  | _ => false

/-- The phase releases the reservation of its provider. -/
def releases : CallPhase → Bool
  | .recordRelease | .release => true
  | _ => false

end CallPhase

/-- The transcript of the provider is replaced. -/
def Session.withState (session : Session) (state : TranscriptState) : Session :=
  { session with provider := { session.provider with state } }

variable [Primitives]

/-- One step of a call: what it does up to the next lock, and where it is then. -/
def CallPhase.step (now : Nat) (session : Session) : CallPhase → Option CallPhase × Session
  | .start (.record request) =>
      if session.provider.inactive now then (some .recordRelease, session)
      else match requireObjectSizes request with
        | .error _ => (none, session)
        | .ok () => (some (.recordLocked request), session)
  | .recordRelease => (none, session.releaseOperation)
  | .recordLocked request =>
      (none, session.withState (Update.state (Backend.recordLocked
        session.provider.maximumInteractions session.provider.maximumBytes request
        session.provider.state)))
  | .start (.close operationId) =>
      match DependencyPoolState.reserveClose session.provider.limits session.pool with
      | .error _ pool => (some .discardLocked, { session with pool })
      | .ok () pool => (some (.closeReserved operationId), { session with pool })
  | .closeReserved operationId =>
      if session.provider.expired now then (some .closeLate, session)
      else (some (.closeLocked operationId), session)
  | .closeLate => (some .discardLocked, { session with pool := session.pool.dropClose })
  | .closeLocked operationId =>
      (some .closeTaken, session.withState (Update.state (Backend.closeLocked operationId
        session.provider.state)))
  | .closeTaken => (some .release, { session with pool := session.pool.dropClose })
  | .start .discard => (some .discardLocked, session)
  | .discardLocked => (some .release, session.withState TranscriptState.empty)
  | .release => (none, session.releaseOperation)

/-- A call that runs alone, for some steps. -/
def runCall (now : Nat) : Nat → Option CallPhase × Session → Option CallPhase × Session
  | steps + 1, (some phase, session) => runCall now steps (phase.step now session)
  | _, (none, session) => (none, session)
  | 0, running => running

/-! ## The pool -/

/-- A reservation is granted or dropped; a drop says whether it stopped at zero. -/
inductive PoolEvent
  | operationReserved (provider : Nat)
  | operationDropped (provider : Nat) (saturated : Bool)
  | closeReserved (call : Nat)
  | closeDropped (call : Nat) (saturated : Bool)

namespace DependencyPoolState

omit [Primitives] in
/-- Dropping an operation would stop a counter at zero. -/
def operationSaturates (state : DependencyPoolState) (bytes : UInt64) : Bool :=
  state.activeOperations < 1 || state.durableBytes < bytes || state.memoryBytes < bytes ||
    state.sessions < 1

omit [Primitives] in
def closeSaturates (state : DependencyPoolState) : Bool := state.activeCloseRequests < 1

end DependencyPoolState

/-- A pool with the providers that are open and the calls that run. Numbers are given out
in turn. -/
structure PoolSystem where
  limits : DependencyLimits
  counters : DependencyPoolState
  providers : OrderedMap Nat HttpTranscriptProvider
  calls : OrderedMap Nat (Nat × CallPhase)
  opened : Nat
  begun : Nat
  log : List PoolEvent

namespace PoolSystem

omit [Primitives] in
def initial (limits : DependencyLimits) : PoolSystem where
  limits := limits
  counters := DependencyPoolState.empty
  providers := ∅
  calls := ∅
  opened := 0
  begun := 0
  log := []

omit [Primitives] in
/-- A pool for validated limits. -/
def new (limits : DependencyLimits) : Result PoolSystem := do
  limits.validate
  return initial limits

omit [Primitives] in
/-- The destructor that runs when a provider gives up its reservation. -/
def dropEvents (system : PoolSystem) (number : Nat) (provider : HttpTranscriptProvider) :
    List PoolEvent :=
  match provider.reservation with
  | none => []
  | some bytes => [.operationDropped number (system.counters.operationSaturates bytes)]

omit [Primitives] in
/-- What a step of a call does to the reservations. -/
def callEvents (system : PoolSystem) (number owner : Nat) (provider : HttpTranscriptProvider)
    (phase : CallPhase) (next : Option CallPhase) : List PoolEvent :=
  if phase.releases then system.dropEvents owner provider
  else match phase.holdsClose, next.any CallPhase.holdsClose with
    | false, true => [.closeReserved number]
    | true, false => [.closeDropped number system.counters.closeSaturates]
    | _, _ => []

omit [Primitives] in
/-- The calls after one of them made a step. -/
def callsAfter (calls : OrderedMap Nat (Nat × CallPhase)) (number owner : Nat) :
    Option CallPhase → OrderedMap Nat (Nat × CallPhase)
  | some phase => calls.insert number (owner, phase)
  | none => calls.erase number

omit [Primitives] in
/-- The pool after a step of a call. -/
def settle (system : PoolSystem) (number owner : Nat) (provider : HttpTranscriptProvider)
    (phase : CallPhase) (next : Option CallPhase) (session : Session) : PoolSystem :=
  { system with
    counters := session.pool
    providers := system.providers.insert owner session.provider
    calls := callsAfter system.calls number owner next
    log := system.log ++ system.callEvents number owner provider phase next }

/-- A call advances to its next lock. -/
def advance (system : PoolSystem) (number now : Nat) : PoolSystem :=
  match system.calls[number]? with
  | none => system
  | some (owner, phase) =>
      match system.providers[owner]? with
      | none => system
      | some provider =>
          let step := phase.step now { pool := system.counters, provider }
          system.settle number owner provider phase step.1 step.2

omit [Primitives] in
/-- Drop a provider that no call uses. -/
def drop (system : PoolSystem) (number : Nat) : PoolSystem :=
  match system.providers[number]? with
  | none => system
  | some provider =>
      if system.calls.toList.any fun call => call.2.1 = number then system
      else { system with
        counters := (Session.releaseOperation { pool := system.counters, provider }).pool
        providers := system.providers.erase number
        log := system.log ++ system.dropEvents number provider }

end PoolSystem

inductive PoolStep
  | openProvider (now maximumInteractions maximumBytes : Nat)
  | startCall (provider : Nat) (call : PoolCall)
  | advanceCall (call now : Nat)
  | dropProvider (provider : Nat)

def PoolStep.next (system : PoolSystem) : PoolStep → PoolSystem
  | .openProvider now maximumInteractions maximumBytes =>
      match Backend.openProvider system.limits now maximumInteractions maximumBytes system.counters with
      | .error _ counters => { system with counters }
      | .ok provider counters =>
          { system with
            counters
            providers := system.providers.insert system.opened provider
            opened := system.opened + 1
            log := system.log ++ [.operationReserved system.opened] }
  | .startCall owner call =>
      if owner ∈ system.providers then
        { system with
          calls := system.calls.insert system.begun (owner, .start call)
          begun := system.begun + 1 }
      else system
  | .advanceCall number now => system.advance number now
  | .dropProvider provider => system.drop provider

/-- The pool after all steps, in order. -/
def PoolSystem.run (system : PoolSystem) (steps : List PoolStep) : PoolSystem :=
  steps.foldl PoolStep.next system

/-! ## Calls that run alone -/

section Alone

variable (now : Nat) (session : Session)

/-- A call that is not disturbed does what the function of the call does. -/
theorem runCall_record (request : RecordRequest) :
    runCall now 2 (some (.start (.record request)), session) =
      (none, Update.state (Session.record now request session)) := by
  rw [Session.record]
  cases inactive : session.provider.inactive now with
  | true =>
      rw [Update.bind_of_error (Session.requireActive_of_inactive inactive)]
      simp only [runCall, CallPhase.step, inactive, if_true]
      rfl
  | false =>
      rw [Update.bind_of_ok (Session.requireActive_of_active inactive)]
      simp only [runCall, CallPhase.step, inactive, Bool.false_eq_true, if_false]
      cases sized : requireObjectSizes request with
      | error error => rfl
      | ok done =>
          rw [Update.attempt_bind_ok rfl, Update.get_bind, Session.onTranscript]
          dsimp only [runCall, CallPhase.step]
          cases recordLocked session.provider.maximumInteractions session.provider.maximumBytes
            request session.provider.state <;> rfl

theorem runCall_discard :
    runCall now 3 (some (.start .discard), session) = (none, session.discard) := rfl

theorem runCall_close (operationId : OperationId) :
    runCall now 5 (some (.start (.close operationId)), session) =
      (none, Update.state (Session.close now operationId session)) := by
  rw [Session.close, Update.get_bind, runCall, CallPhase.step]
  cases DependencyPoolState.reserveClose session.provider.limits session.pool with
  | error error pool => rfl
  | ok done pool =>
      dsimp only
      rw [runCall, CallPhase.step]
      dsimp only
      cases late : session.provider.expired now with
      | true => rfl
      | false =>
          simp only [Bool.false_eq_true, if_false, Update.set_bind]
          rw [Update.followedBy, Session.onTranscript]
          dsimp only [runCall, CallPhase.step]
          cases closeLocked operationId session.provider.state <;> rfl

end Alone

end Reproit.Backend
