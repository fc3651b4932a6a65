/-
# What a dependency pool covers

The transcript of a provider and its reservation are under locks of their own.  The bytes
that are held are covered by the reservations as long as no call gives a reservation
back over a transcript that is not empty, and none records without one.
-/

import Reproit.Data.Run
import Reproit.Dependency.Accounting
import Reproit.Dependency.Recording

namespace Reproit

open Backend

namespace Backend

/-! ## The condition -/

namespace TranscriptState

/-- Neither an interaction nor an object is held. -/
def Bare (state : TranscriptState) : Prop := state.interactions = [] ∧ state.objects = ∅

theorem bare_empty : empty.Bare := ⟨rfl, rfl⟩

end TranscriptState

variable [Primitives]

/-- The checks of a recording pass. -/
structure RecordRequest.Fits (request : RecordRequest) (provider : HttpTranscriptProvider) :
    Prop where
  count : provider.state.interactions.length < provider.maximumInteractions
  bytes : provider.state.bytes + (request.request.length + request.response.length) ≤
    provider.maximumBytes
  numbered : request.Numbered provider.state.interactions.length
  different : request.interaction.requestObjectId ≠ request.interaction.responseObjectId
  freshRequest : request.interaction.requestObjectId ∉ provider.state.objects
  freshResponse : request.interaction.responseObjectId ∉ provider.state.objects

/-- A call that gives the reservation back finds the transcript empty or the reservation
gone, and one that records finds the reservation there. -/
def HttpTranscriptProvider.KeepsCover (provider : HttpTranscriptProvider) : CallPhase → Prop
  | .recordRelease | .release => provider.reservation = none ∨ provider.state.Bare
  | .recordLocked request => request.Fits provider → provider.reservation ≠ none
  | _ => True

namespace PoolSystem

/-- The condition for the call that advances. -/
def KeepsCover (system : PoolSystem) : PoolStep → Prop
  | .advanceCall number _ => ∀ (owner : Nat) (phase : CallPhase)
      (provider : HttpTranscriptProvider), system.calls[number]? = some (owner, phase) →
      system.providers[owner]? = some provider → provider.KeepsCover phase
  | _ => True

omit [Primitives] in
/-- The bytes that all providers hold. -/
def retainedBytes (providers : OrderedMap Nat HttpTranscriptProvider) : Nat :=
  Quota.load (fun provider => heldBytes provider.state.objects) providers

omit [Primitives] in
/-- The reservations cover what is held, and a provider without one holds nothing. -/
structure Covered (system : PoolSystem) : Prop where
  bytes : retainedBytes system.providers ≤ system.counters.memoryBytes.toNat
  released : ∀ (number : Nat) (provider : HttpTranscriptProvider),
    system.providers[number]? = some provider → provider.reservation = none →
      provider.state.Bare

end PoolSystem

/-! ## The transcript of one provider -/

namespace HttpTranscriptProvider

omit [Primitives] in
/-- The transcript is counted and within the bytes that were reserved for it. -/
structure Bounded (provider : HttpTranscriptProvider) : Prop where
  counted : provider.state.bytes = heldBytes provider.state.objects
  within : provider.state.bytes ≤ provider.maximumBytes
  reserved : ∀ bytes : UInt64, provider.reservation = some bytes →
    bytes.toNat = provider.maximumBytes

omit [Primitives] in
/-- Without a reservation nothing is held. -/
def Clear (provider : HttpTranscriptProvider) : Prop :=
  provider.reservation = none → provider.state.Bare

end HttpTranscriptProvider

variable {provider : HttpTranscriptProvider} {phase : CallPhase}

namespace CallPhase

/-- What a step of a call does to its provider. -/
inductive Writes (provider : HttpTranscriptProvider) :
    CallPhase → HttpTranscriptProvider → Prop
  | nothing {phase : CallPhase} (free : provider.KeepsCover phase) : Writes provider phase provider
  | released {phase : CallPhase} (releases : phase.releases = true) :
      Writes provider phase { provider with reservation := none }
  | cleared {phase : CallPhase} (free : provider.KeepsCover phase) :
      Writes provider phase { provider with state := TranscriptState.empty }
  | recorded {request : RecordRequest} {state : TranscriptState}
      (recorded : Backend.recordLocked provider.maximumInteractions provider.maximumBytes request
        provider.state = .ok () state) :
      Writes provider (.recordLocked request) { provider with state }

theorem step_writes (now : Nat) (session : Session) (phase : CallPhase) :
    Writes session.provider phase (phase.step now session).2.provider := by
  cases phase with
  | start call =>
      cases call with
      | record request =>
          rw [step]
          cases session.provider.inactive now with
          | true => exact Writes.nothing trivial
          | false => cases requireObjectSizes request <;> exact Writes.nothing trivial
      | close operationId =>
          rw [step]
          cases DependencyPoolState.reserveClose session.provider.limits session.pool <;>
            exact Writes.nothing trivial
      | discard => exact Writes.nothing trivial
  | recordRelease =>
      rw [step, Session.releaseOperation_provider]
      exact Writes.released rfl
  | recordLocked request =>
      rw [step]
      cases recorded : Backend.recordLocked session.provider.maximumInteractions
          session.provider.maximumBytes request session.provider.state with
      | ok done state => exact Writes.recorded recorded
      | error error state =>
          obtain rfl := recordLocked_atomic request _ _ _ recorded
          refine Writes.nothing fun fits => ?_
          have accepted : Backend.recordLocked session.provider.maximumInteractions
              session.provider.maximumBytes request session.provider.state = .ok () _ :=
            recordLocked_eq_ok.mpr ⟨fits.count, fits.bytes, fits.numbered, fits.different,
              fits.freshRequest, fits.freshResponse, rfl⟩
          rw [accepted] at recorded
          cases recorded
  | closeReserved operationId =>
      rw [step]
      cases session.provider.expired now <;> exact Writes.nothing trivial
  | closeLate => exact Writes.nothing trivial
  | closeLocked operationId =>
      have emptied : Update.state (Backend.closeLocked operationId session.provider.state) =
          TranscriptState.empty := by
        rw [closeLocked_eq]
        cases verifyDependencyTranscript operationId session.provider.state.interactions
          session.provider.state.objects <;> rfl
      rw [step, emptied]
      exact Writes.cleared trivial
  | closeTaken => exact Writes.nothing trivial
  | discardLocked => exact Writes.cleared trivial
  | release =>
      rw [step, Session.releaseOperation_provider]
      exact Writes.released rfl

theorem bounded_of_writes {after : HttpTranscriptProvider} (writes : Writes provider phase after)
    (bounded : provider.Bounded) : after.Bounded := by
  cases writes with
  | nothing free => exact bounded
  | released releases => exact ⟨bounded.counted, bounded.within, nofun⟩
  | cleared free => exact ⟨(Quota.load_empty _).symm, Nat.zero_le _, bounded.reserved⟩
  | recorded recorded =>
      obtain ⟨counted, within⟩ := bytes_of_recorded bounded.counted recorded
      exact ⟨counted, within, bounded.reserved⟩

/-- A step meets the condition exactly when it leaves nothing without a reservation. -/
theorem keepsCover_iff_clear {after : HttpTranscriptProvider}
    (writes : Writes provider phase after) (clear : provider.Clear) :
    provider.KeepsCover phase ↔ after.Clear := by
  cases writes with
  | nothing free => exact ⟨fun _ => clear, fun _ => free⟩
  | released releases =>
      have condition : provider.KeepsCover phase ↔
          provider.reservation = none ∨ provider.state.Bare := by
        cases phase <;> first | exact Iff.rfl | cases releases
      rw [condition]
      refine ⟨fun holds _ => ?_, fun bare => .inr (bare rfl)⟩
      rcases holds with gone | bare
      · exact clear gone
      · exact bare
  | cleared free => exact ⟨fun _ _ => TranscriptState.bare_empty, fun _ => free⟩
  | recorded recorded =>
      obtain ⟨count, bytes, numbered, different, freshRequest, freshResponse, rfl⟩ :=
        recordLocked_eq_ok.mp recorded
      refine ⟨fun holds gone => ?_, fun bare _ gone => ?_⟩
      · exact absurd gone
          (holds ⟨count, bytes, numbered, different, freshRequest, freshResponse⟩)
      · exact List.append_ne_nil_of_right_ne_nil _ (List.cons_ne_nil _ _) (bare gone).1

end CallPhase

/-! ## The providers of a pool -/

namespace PoolSystem

omit [Primitives] in
def reservedBytes (provider : HttpTranscriptProvider) : Nat :=
  (provider.reservation.map UInt64.toNat).getD 0

omit [Primitives] in
theorem sum_live (providers : OrderedMap Nat HttpTranscriptProvider) :
    ((live providers).map fun entry => entry.2.toNat).sum =
      Quota.load reservedBytes providers := by
  rw [live, OrderedMap.select, Quota.load]
  induction providers.toList with
  | nil => rfl
  | cons entry entries ih =>
      rw [List.map_cons, List.sum_cons, ← ih, reservedBytes]
      cases reserved : entry.2.reservation with
      | none =>
          have nothing : reservationOf entry = none := by rw [reservationOf, reserved]; rfl
          rw [List.filterMap_cons_none nothing]
          exact (Nat.zero_add _).symm
      | some bytes =>
          have held : reservationOf entry = some (entry.1, bytes) := by
            rw [reservationOf, reserved]
            rfl
          rw [List.filterMap_cons_some held, List.map_cons, List.sum_cons]
          rfl

/-- The accounting is exact, and every transcript is within the bytes reserved for it. -/
structure Provisioned (system : PoolSystem) : Prop where
  sound : system.Sound
  bounded : ∀ (number : Nat) (provider : HttpTranscriptProvider),
    system.providers[number]? = some provider → provider.Bounded

/-- No provider holds anything without a reservation. -/
def Clear (system : PoolSystem) : Prop :=
  ∀ (number : Nat) (provider : HttpTranscriptProvider),
    system.providers[number]? = some provider → provider.Clear

variable {system : PoolSystem}

omit [Primitives] in
/-- Reservations cover what is held exactly when nothing is held without one. -/
theorem Provisioned.covered_iff_clear (provisioned : system.Provisioned) :
    system.Covered ↔ system.Clear := by
  refine ⟨fun covered => covered.released, fun clear => ⟨?_, clear⟩⟩
  rw [provisioned.sound.accounted.operations.memoryBytes, sum_live]
  apply List.sum_le_sum
  intro entry member
  have there := OrderedMap.mem_toList.mp member
  have bounded := provisioned.bounded entry.1 entry.2 there
  rw [reservedBytes]
  cases reserved : entry.2.reservation with
  | none =>
      show heldBytes entry.2.state.objects ≤ 0
      rw [(clear entry.1 entry.2 there reserved).2]
      exact (Quota.load_empty List.length).le
  | some bytes =>
      show heldBytes entry.2.state.objects ≤ bytes.toNat
      rw [← bounded.counted, bounded.reserved bytes reserved]
      exact bounded.within

omit [Primitives] in
theorem provisioned_initial (limits : DependencyLimits) : (initial limits).Provisioned where
  sound := ⟨accounted_initial limits, numbered_initial limits⟩
  bounded := by
    intro number provider present
    cases Std.ExtTreeMap.getElem?_empty.symm.trans present

omit [Primitives] in
theorem clear_initial (limits : DependencyLimits) : (initial limits).Clear := by
  intro number provider present
  cases Std.ExtTreeMap.getElem?_empty.symm.trans present

omit [Primitives] in
/-- A property of all providers, after a step that leaves the others alone. -/
theorem forall_insert {providers : OrderedMap Nat HttpTranscriptProvider} {number : Nat}
    {property : HttpTranscriptProvider → Prop}
    (others : ∀ (wanted : Nat) (found : HttpTranscriptProvider),
      providers[wanted]? = some found → property found) :
    (∀ (wanted : Nat) (found : HttpTranscriptProvider),
      (providers.insert number provider)[wanted]? = some found → property found) ↔
      property provider := by
  refine ⟨fun all => all number provider ?_, fun here wanted found present => ?_⟩
  · rw [OrderedMap.getElem?_insert, if_pos rfl]
  · rw [OrderedMap.getElem?_insert] at present
    split_ifs at present with same
    · exact Option.some.inj present ▸ here
    · exact others wanted found present

omit [Primitives] in
theorem bounded_opened {limits : DependencyLimits} {now maximumInteractions maximumBytes : Nat}
    {before after : DependencyPoolState}
    (opened : openProvider limits now maximumInteractions maximumBytes before =
      .ok provider after) : provider.Bounded ∧ provider.Clear := by
  obtain ⟨-, bytes, sized, -, rfl⟩ := openProvider_eq_ok opened
  refine ⟨⟨(Quota.load_empty _).symm, Nat.zero_le _, ?_⟩, nofun⟩
  intro other same
  rw [← Option.some.inj same]
  exact uint64OfNat_eq_some.mp sized

theorem Provisioned.next (provisioned : system.Provisioned) (step : PoolStep) :
    (step.next system).Provisioned := by
  refine ⟨provisioned.sound.next step, ?_⟩
  cases step with
  | openProvider now maximumInteractions maximumBytes =>
      rw [PoolStep.next]
      cases opened : openProvider system.limits now maximumInteractions maximumBytes
          system.counters with
      | error error counters => exact provisioned.bounded
      | ok provider counters =>
          exact (forall_insert provisioned.bounded).mpr (bounded_opened opened).1
  | startCall owner call =>
      rw [PoolStep.next]
      split_ifs with there <;> exact provisioned.bounded
  | advanceCall number now =>
      rw [PoolStep.next]
      rcases advance_eq system number now with
        ⟨same, -⟩ | ⟨owner, phase, provider, called, there, after⟩
      · rw [same]
        exact provisioned.bounded
      · rw [after]
        apply (forall_insert provisioned.bounded).mpr
        exact CallPhase.bounded_of_writes (CallPhase.step_writes now _ phase)
          (provisioned.bounded owner provider there)
  | dropProvider number =>
      rw [PoolStep.next, PoolSystem.drop]
      cases there : system.providers[number]? with
      | none => exact provisioned.bounded
      | some provider =>
          dsimp only
          split_ifs with used
          · exact provisioned.bounded
          · exact fun wanted found present => provisioned.bounded wanted found
              (OrderedMap.within_erase system.providers number wanted found present)

/-- A step meets the condition exactly when nothing is held without a reservation after
it. -/
theorem keepsCover_iff_clear_next (clear : system.Clear) (step : PoolStep) :
    system.KeepsCover step ↔ (step.next system).Clear := by
  cases step with
  | openProvider now maximumInteractions maximumBytes =>
      refine ⟨fun _ => ?_, fun _ => trivial⟩
      rw [PoolStep.next]
      cases opened : openProvider system.limits now maximumInteractions maximumBytes
          system.counters with
      | error error counters => exact clear
      | ok provider counters => exact (forall_insert clear).mpr (bounded_opened opened).2
  | startCall owner call =>
      refine ⟨fun _ => ?_, fun _ => trivial⟩
      rw [PoolStep.next]
      split_ifs with there <;> exact clear
  | advanceCall number now =>
      rw [PoolStep.next]
      rcases advance_eq system number now with
        ⟨same, idle⟩ | ⟨owner, phase, provider, called, there, after⟩
      · rw [same]
        exact ⟨fun _ => clear, fun _ owner phase provider called there =>
          absurd there (idle owner phase provider called)⟩
      · rw [after]
        have step := CallPhase.keepsCover_iff_clear
          (CallPhase.step_writes now { pool := system.counters, provider } phase)
          (clear owner provider there)
        refine Iff.trans ⟨?_, ?_⟩ (step.trans (forall_insert clear).symm)
        · exact fun holds => holds owner phase provider called there
        · intro holds user current found calling used
          obtain ⟨rfl, rfl⟩ := Prod.mk.inj (Option.some.inj (called.symm.trans calling))
          obtain rfl := Option.some.inj (there.symm.trans used)
          exact holds
  | dropProvider number =>
      refine ⟨fun _ => ?_, fun _ => trivial⟩
      rw [PoolStep.next, PoolSystem.drop]
      cases there : system.providers[number]? with
      | none => exact clear
      | some provider =>
          dsimp only
          split_ifs with used
          · exact clear
          · exact fun wanted found present => clear wanted found
              (OrderedMap.within_erase system.providers number wanted found present)

/-! ## A recording that comes too late -/

/-- A call in its phase, and its provider. -/
structure CallAt (system : PoolSystem) (number owner : Nat) (phase : Option CallPhase)
    (provider : HttpTranscriptProvider) : Prop where
  call : system.calls[number]? = phase.map fun phase => (owner, phase)
  provider : system.providers[owner]? = some provider

theorem callAt_start {owner : Nat} (there : system.providers[owner]? = some provider)
    (call : PoolCall) : CallAt (PoolStep.next system (.startCall owner call)) system.begun owner
      (some (.start call)) provider := by
  have present : owner ∈ system.providers := Std.ExtTreeMap.mem_iff_isSome_getElem?.mpr (by
    rw [there]
    rfl)
  rw [PoolStep.next, if_pos present]
  exact ⟨(OrderedMap.getElem?_insert _ _ _ _).trans (if_pos rfl), there⟩

theorem CallAt.advance {number owner : Nat} (here : CallAt system number owner (some phase) provider)
    {now : Nat} {next : Option CallPhase} {after : HttpTranscriptProvider}
    (stepped : ∀ pool, (phase.step now { pool, provider }).1 = next ∧
      (phase.step now { pool, provider }).2.provider = after) :
    CallAt (system.advance number now) number owner next after ∧
      (system.advance number now).begun = system.begun := by
  rcases advance_eq system number now with
    ⟨-, idle⟩ | ⟨user, current, found, calling, used, same⟩
  · exact absurd here.provider (idle owner phase provider here.call)
  · obtain ⟨rfl, rfl⟩ := Prod.mk.inj (Option.some.inj (here.call.symm.trans calling))
    obtain rfl := Option.some.inj (here.provider.symm.trans used)
    obtain ⟨rfl, rfl⟩ := stepped system.counters
    rw [same]
    refine ⟨⟨?_, ?_⟩, rfl⟩
    · exact (getElem?_callsAfter _ _ _ _ _).trans (if_pos rfl)
    · exact (OrderedMap.getElem?_insert _ _ _ _).trans (if_pos rfl)

end PoolSystem

end Backend

variable [Primitives]

namespace TranscriptSample

/-- One recording, and later another one. -/
def lateRecording (later : Nat) : List PoolStep :=
  [.openProvider 0 2 1024, .startCall 0 (.record request), .advanceCall 0 0, .advanceCall 0 0,
    .startCall 0 (.record request), .advanceCall 1 later, .advanceCall 1 later]

/-- The provider with the one recording and without its reservation. -/
def lateProvider : HttpTranscriptProvider :=
  { provider with state := recordedState, reservation := none }

variable {later : Nat} (late : 60000000000 < later)

include late

omit [Primitives] in
theorem late_inactive (state : TranscriptState) :
    HttpTranscriptProvider.inactive { provider with state } later = true := by
  have lifetime : DependencyLimits.v1.cursorLifetimeMs.toNat = 60000 := rfl
  rw [HttpTranscriptProvider.inactive, HttpTranscriptProvider.expired]
  show (false || decide (later - 0 > DependencyLimits.v1.cursorLifetimeMs.toNat * 1000000)) = true
  rw [Bool.false_or, lifetime]
  exact decide_eq_true (by omega)

theorem late_provider : ((PoolSystem.initial DependencyLimits.v1).run
    (lateRecording later)).providers[0]? = some lateProvider := by
  have there : (PoolStep.next (PoolSystem.initial DependencyLimits.v1)
      (.openProvider 0 2 1024)).providers[0]? = some provider :=
    (OrderedMap.getElem?_insert _ _ _ _).trans (if_pos rfl)
  have started := PoolSystem.callAt_start there (.record request)
  obtain ⟨checked, -⟩ := @started.advance _ _ _ _ _ _ 0 (some (.recordLocked request)) provider
    fun _ => ⟨rfl, rfl⟩
  have stored : Update.state (recordLocked 2 1024 request TranscriptState.empty) =
      recordedState := by rw [recordLocked_sample]; rfl
  obtain ⟨recorded, -⟩ := @checked.advance _ _ _ _ _ _ 0 none
    { provider with state := recordedState }
    fun _ => ⟨rfl, congrArg (fun state => { provider with state }) stored⟩
  have again := PoolSystem.callAt_start recorded.provider (.record request)
  obtain ⟨passed, -⟩ := @again.advance _ _ _ _ _ _ later (some .recordRelease)
    { provider with state := recordedState } fun _ => by
      rw [CallPhase.step]
      dsimp only
      rw [if_pos (late_inactive late recordedState)]
      exact ⟨rfl, rfl⟩
  obtain ⟨released, -⟩ := @passed.advance _ _ _ _ _ _ later none lateProvider
    fun _ => ⟨rfl, rfl⟩
  exact released.provider

theorem late_covered : ¬ ((PoolSystem.initial DependencyLimits.v1).run
    (lateRecording later)).Covered := by
  intro covered
  exact List.cons_ne_nil _ _ (covered.released 0 lateProvider (late_provider late) rfl).1

end TranscriptSample

/-- In a run of a pool all states that it reaches have their reservations cover what the
providers hold if and only if every call that gives a reservation back finds the
transcript empty or the reservation gone, and every recording that is accepted finds
the reservation there. -/
theorem covered_iff (limits : DependencyLimits) (steps : List PoolStep) :
    (∀ first second, steps = first ++ second →
      ((PoolSystem.initial limits).run first).Covered) ↔
    EveryStep PoolStep.next PoolSystem.KeepsCover (PoolSystem.initial limits) steps := by
  have preserved : ∀ (system : PoolSystem) step, system.Provisioned →
      (PoolStep.next system step).Provisioned :=
    fun _ step provisioned => provisioned.next step
  have step : ∀ (system : PoolSystem) step, system.Provisioned → system.Covered →
      (system.KeepsCover step ↔ (PoolStep.next system step).Covered) := by
    intro system step provisioned covered
    rw [(provisioned.next step).covered_iff_clear]
    exact PoolSystem.keepsCover_iff_clear_next (provisioned.covered_iff_clear.mp covered) step
  have start := PoolSystem.provisioned_initial limits
  have covered := start.covered_iff_clear.mpr (PoolSystem.clear_initial limits)
  exact (EveryStep.iff_reached preserved step start covered steps).symm

omit [Primitives] in
/-- Not every run keeps what is held covered: a recording that comes too late gives the
reservation back and leaves the transcript. -/
theorem not_covered :
    letI := Sample.marked
    ¬ ∀ (limits : DependencyLimits) (steps : List PoolStep), limits.validate = .ok () →
      ((PoolSystem.initial limits).run steps).Covered := by
  intro always
  have late : 60000000000 < 60000000001 := Nat.lt_succ_self _
  exact @TranscriptSample.late_covered Sample.marked _ late
    (always DependencyLimits.v1 _ DependencyLimits.validate_v1)

end Reproit
