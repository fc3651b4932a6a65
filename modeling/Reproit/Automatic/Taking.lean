/-
# Recorded observations are handed out once

An automatic replay is a table that hands out every entry once: a call takes the
observation of its class and position when its request is the recorded one, and is
refused without a trace otherwise.
-/

import Reproit.Backend.AutomaticReplay
import Reproit.Data.Pending

namespace Reproit

open Backend

variable [Primitives]

namespace Backend

omit [Primitives] in
/-- A call for a response. -/
structure TakeCall where
  observationClass : AutomaticObservationClass
  position : UInt64
  request : Bytes

namespace TakeCall

omit [Primitives] in
def key (call : TakeCall) : ObservationKey := ⟨call.observationClass, call.position⟩

/-- What the call does to a replay. -/
def run (call : TakeCall) : Update Error AutomaticReplay RecordedObservation :=
  AutomaticReplay.takeResponse call.observationClass call.position call.request

omit [Primitives] in
/-- The call as a request for an entry. -/
def entry (call : TakeCall) : ObservationKey × Bytes := (call.key, call.request)

end TakeCall

/-- The request is the recorded one, and forms a valid pair with the recorded response. -/
structure RecordedObservation.Answers (recorded : RecordedObservation) (key : ObservationKey)
    (request : Bytes) : Prop where
  size : request.length ≤ maxRecordBytes
  digest : Digest.of request = recorded.requestDigest
  pair : validatePair request recorded.response = .ok (key.observationClass, recorded.outcome)

/-- The checks of a call for an observation. -/
def checkAnswer (key : ObservationKey) (request : Bytes) (recorded : RecordedObservation) :
    Result Unit := do
  rejectIf (request.length > maxRecordBytes ∨ Digest.of request ≠ recorded.requestDigest)
    replayMismatch
  let (observedClass, outcome) ← validatePair request recorded.response
  rejectIf (observedClass ≠ key.observationClass ∨ outcome ≠ recorded.outcome) replayMismatch

theorem checkAnswer_eq_ok {key : ObservationKey} {request : Bytes}
    {recorded : RecordedObservation} :
    checkAnswer key request recorded = .ok () ↔ recorded.Answers key request := by
  simp only [checkAnswer, bind_eq_ok, rejectIf_eq_ok, not_or, not_lt, not_not]
  constructor
  · rintro ⟨_, ⟨size, digest⟩, ⟨observed, outcome⟩, pair, rfl, rfl⟩
    exact ⟨size, digest, pair⟩
  · rintro ⟨size, digest, pair⟩
    exact ⟨(), ⟨size, digest⟩, _, pair, rfl, rfl⟩

namespace AutomaticReplay

/-- A call takes from the table of the replay. -/
theorem run_eq (replay : AutomaticReplay) (call : TakeCall) :
    call.run replay =
      match Pending.take checkAnswer replayMismatch call.entry replay.observations with
      | .ok recorded observations => .ok recorded { replay with observations }
      | .error error observations => .error error { replay with observations } := by
  have named : call.run =
      takeResponse call.key.observationClass call.key.position call.request := rfl
  rw [named, takeResponse, Update.get_bind, TakeCall.entry, Pending.take_run]
  show (Update.attempt (okOr replay.observations[call.key]? replayMismatch) >>= _) replay = _
  cases replay.observations[call.key]? with
  | none => rfl
  | some recorded =>
      have same : okOr (some recorded) replayMismatch = .ok recorded := rfl
      rw [Update.attempt_bind_ok same, Update.attempt_bind_ok same]
      simp only [checkAnswer, Update.attempt_bind, bind_assoc]
      generalize rejectIf (call.request.length > maxRecordBytes ∨
        Digest.of call.request ≠ recorded.requestDigest) replayMismatch = bounded
      cases bounded with
      | error error => rfl
      | ok done =>
          rw [Update.attempt_bind_ok rfl, Update.attempt_bind_ok rfl]
          cases validatePair call.request recorded.response with
          | error error => rfl
          | ok pair =>
              rw [Update.attempt_bind_ok rfl, Update.attempt_bind_ok rfl]
              generalize rejectIf (pair.1 ≠ call.key.observationClass ∨ pair.2 ≠ recorded.outcome)
                replayMismatch = checked
              cases checked <;> rfl

/-- The answers of calls in turn, and the replay after them. -/
def takeAll (replay : AutomaticReplay) (calls : List TakeCall) :
    List (Result RecordedObservation) × AutomaticReplay :=
  Update.each replay (calls.map TakeCall.run)

/-- The keys of the calls that were answered. -/
def taken (replay : AutomaticReplay) (calls : List TakeCall) : List ObservationKey :=
  (calls.zip (replay.takeAll calls).1).filterMap fun (call, answer) =>
    match answer with
    | .ok _ => some call.key
    | .error _ => none

/-- Calls in turn take from the table of the replay. -/
theorem takeAll_eq (replay : AutomaticReplay) (calls : List TakeCall) :
    (replay.takeAll calls).2 = { replay with
        observations := (Pending.takeAll checkAnswer replayMismatch replay.observations
          (calls.map TakeCall.entry)).2 } ∧
      (replay.takeAll calls).1 = (Pending.takeAll checkAnswer replayMismatch replay.observations
        (calls.map TakeCall.entry)).1 := by
  induction calls generalizing replay with
  | nil => exact ⟨rfl, rfl⟩
  | cons call calls ih =>
      have first := replay.run_eq call
      obtain ⟨final, answers⟩ := ih (Update.state (call.run replay))
      rw [takeAll] at final answers
      rw [takeAll, Pending.takeAll, List.map_cons, List.map_cons, List.map_cons, Update.each,
        Update.each]
      dsimp only
      rw [final, answers, first]
      cases Pending.take checkAnswer replayMismatch call.entry replay.observations <;>
        exact ⟨rfl, rfl⟩

theorem taken_eq (replay : AutomaticReplay) (calls : List TakeCall) :
    replay.taken calls = Pending.taken checkAnswer replayMismatch replay.observations
      (calls.map TakeCall.entry) := by
  induction calls generalizing replay with
  | nil => rfl
  | cons call calls ih =>
      have later := ih (Update.state (call.run replay))
      have first := replay.run_eq call
      rw [taken, takeAll] at later
      rw [taken, takeAll, List.map_cons, List.map_cons, Pending.taken, Update.each]
      dsimp only
      rw [List.zip_cons_cons, List.filterMap_cons, later, first]
      cases Pending.take checkAnswer replayMismatch call.entry replay.observations <;> rfl

/-- What a call does after others. -/
theorem run_takeAll_eq_ok {replay after : AutomaticReplay} {calls : List TakeCall}
    {call : TakeCall} {recorded : RecordedObservation} :
    call.run (replay.takeAll calls).2 = .ok recorded after ↔
      replay.observations[call.key]? = some recorded ∧ call.key ∉ replay.taken calls ∧
        recorded.Answers call.key call.request ∧
        after = { (replay.takeAll calls).2 with
          observations := (replay.takeAll calls).2.observations.erase call.key } := by
  have here : (replay.takeAll calls).2.observations[call.key]? = some recorded ↔
      replay.observations[call.key]? = some recorded ∧ call.key ∉ replay.taken calls := by
    rw [(takeAll_eq replay calls).1, taken_eq]
    exact Pending.takeAll_eq_some
  rw [run_eq, ← and_assoc, ← here]
  cases ran : Pending.take checkAnswer replayMismatch call.entry
      (replay.takeAll calls).2.observations with
  | error error observations =>
      refine ⟨nofun, fun ⟨present, answers, _⟩ => ?_⟩
      have checked : checkAnswer call.entry.1 call.entry.2 recorded = .ok () :=
        checkAnswer_eq_ok.mpr answers
      rw [Pending.take_eq_ok.mpr ⟨present, checked, rfl⟩] at ran
      cases ran
  | ok found observations =>
      obtain ⟨present, checked, rfl⟩ := Pending.take_eq_ok.mp ran
      have answers := checkAnswer_eq_ok.mp checked
      refine ⟨fun same => ?_, fun ⟨same, _, rest⟩ => ?_⟩
      · cases same
        exact ⟨present, answers, rfl⟩
      · obtain rfl := Option.some.inj (present.symm.trans same)
        rw [rest]
        rfl

/-- A call that is refused changes nothing. -/
theorem run_atomic (call : TakeCall) : Update.Atomic call.run := by
  intro replay error after refused
  rw [run_eq] at refused
  cases ran : Pending.take checkAnswer replayMismatch call.entry replay.observations with
  | ok found observations =>
      rw [ran] at refused
      cases refused
  | error failure observations =>
      obtain rfl := Pending.take_atomic call.entry _ _ _ ran
      rw [ran] at refused
      cases refused
      rfl

end AutomaticReplay

end Backend

/-- Whatever calls came before, a call is answered exactly when the observation of its class
and position was recorded, was not taken yet, and its request is the recorded one and
forms a valid pair with the recorded response, of that class and outcome; the answer is
what was recorded.  A refused call changes nothing, no observation is taken twice, two
calls for different observations can change places, and a replay is complete exactly when
every observation was taken. -/
theorem replay_takes_once (replay : AutomaticReplay) :
    (∀ (calls : List TakeCall) (call : TakeCall) (recorded : RecordedObservation)
        (after : AutomaticReplay),
      call.run (replay.takeAll calls).2 = .ok recorded after ↔
        replay.observations[call.key]? = some recorded ∧ call.key ∉ replay.taken calls ∧
          recorded.Answers call.key call.request ∧
          after = { (replay.takeAll calls).2 with
            observations := (replay.takeAll calls).2.observations.erase call.key }) ∧
      (∀ call : TakeCall, Update.Atomic call.run) ∧
      (∀ calls : List TakeCall, (replay.taken calls).Nodup) ∧
      (∀ (calls : List TakeCall) (first second : TakeCall), first.key ≠ second.key →
        ((replay.takeAll calls).2.takeAll [first, second]).1 =
            ((replay.takeAll calls).2.takeAll [second, first]).1.reverse ∧
          ((replay.takeAll calls).2.takeAll [first, second]).2 =
            ((replay.takeAll calls).2.takeAll [second, first]).2) ∧
      ∀ calls : List TakeCall, (replay.takeAll calls).2.requireComplete = .ok () ↔
        ∀ key ∈ replay.observations, key ∈ replay.taken calls := by
  refine ⟨fun _ _ _ _ => AutomaticReplay.run_takeAll_eq_ok, AutomaticReplay.run_atomic, ?_, ?_, ?_⟩
  · intro calls
    rw [AutomaticReplay.taken_eq]
    exact Pending.nodup_taken _
  · intro calls first second apart
    obtain ⟨final, answers⟩ := (replay.takeAll calls).2.takeAll_eq [first, second]
    obtain ⟨otherFinal, otherAnswers⟩ := (replay.takeAll calls).2.takeAll_eq [second, first]
    have swapped := @Pending.takeAll_comm _ _ _ _ _ checkAnswer replayMismatch
      (replay.takeAll calls).2.observations first.entry second.entry apart
    rw [final, answers, otherFinal, otherAnswers]
    refine ⟨swapped.1, ?_⟩
    rw [List.map_cons, List.map_cons, List.map_nil, List.map_cons, List.map_cons, swapped.2]
    rfl
  · intro calls
    rw [AutomaticReplay.requireComplete, rejectIf_eq_ok, not_not,
      (replay.takeAll_eq calls).1, AutomaticReplay.taken_eq]
    exact Pending.takeAll_isEmpty_iff _

end Reproit
