/-
# Replay follows the transcript

The replay of a valid transcript follows the script of its recorded requests and
responses: one exchange answers one question, and the transcript is finished exactly
when nothing is left of the script.
-/

import Reproit.Backend.DependencyTranscript
import Reproit.Backend.SamplePrimitives
import Reproit.Data.Script

namespace Reproit

open Backend

variable [Primitives]

/-- The recorded bytes of every interaction, in order. -/
def Recorded (transcript : ClosedDependencyTranscript) (recorded : List (Bytes × Bytes)) : Prop :=
  List.Forall₂ (Records transcript.objects) transcript.interactions recorded

omit [Primitives] in
/-- Every recorded request, made for the operation, with its response. -/
def recordedScript (operationId : OperationId) (recorded : List (Bytes × Bytes)) :
    List ((OperationId × Bytes) × Bytes) :=
  recorded.map fun entry => ((operationId, entry.1), entry.2)

omit [Primitives] in
/-- An exchange that has no answer fails. -/
def answered : Option Bytes → Result Bytes
  | some response => .ok response
  | none => .error dependencyMismatch

/-- A valid transcript holds the bytes of its interactions. -/
theorem exists_recorded {transcript : ClosedDependencyTranscript} {operationId : OperationId}
    (valid : transcript.validate operationId = .ok ()) :
    ∃ recorded, Recorded transcript recorded := by
  obtain ⟨_, verified, -⟩ := (bind_eq_ok _ _ _).mp valid
  obtain ⟨-, -, each⟩ := verifyDependencyTranscript_eq_ok.mp verified
  have bytes : ∀ interaction ∈ transcript.interactions,
      ∃ recorded, Records transcript.objects interaction recorded := by
    intro interaction member
    obtain ⟨index, there⟩ := List.mem_iff_getElem?.mp member
    exact (each index interaction there).2.2.2
  unfold Recorded
  generalize transcript.interactions = interactions at bytes
  induction interactions with
  | nil => exact ⟨[], .nil⟩
  | cons interaction rest ih =>
      obtain ⟨first, records⟩ := bytes interaction List.mem_cons_self
      obtain ⟨others, later⟩ := ih fun other member => bytes other (List.mem_cons_of_mem _ member)
      exact ⟨first :: others, .cons records later⟩

/-! ## One exchange -/

omit [Primitives] in
/-- What a replay has left of the script. -/
def remaining (recorded : List (Bytes × Bytes)) (replay : HttpTranscriptReplay) :
    Script.Rest (OperationId × Bytes) Bytes :=
  if replay.failed then none
  else some (recordedScript replay.operationId (recorded.drop replay.nextInteraction))

variable {transcript : ClosedDependencyTranscript} {recorded : List (Bytes × Bytes)}
  {replay : HttpTranscriptReplay}

omit [Primitives] in
theorem remaining_failed : remaining recorded { replay with failed := true } = none := if_pos rfl

omit [Primitives] in
theorem remaining_live (live : replay.failed = false) :
    remaining recorded replay =
      some (recordedScript replay.operationId (recorded.drop replay.nextInteraction)) := by
  rw [remaining, live]
  exact if_neg Bool.false_ne_true

/-- One exchange answers one question of the script. -/
theorem exchange_eq (records : Recorded replay.transcript recorded) (call : OperationId × Bytes) :
    HttpTranscriptReplay.exchange call.1 call.2 replay =
      match (Script.answer (remaining recorded replay) call).1 with
      | some response => .ok response { replay with nextInteraction := replay.nextInteraction + 1 }
      | none => .error dependencyMismatch { replay with failed := true } := by
  obtain ⟨asked, request⟩ := call
  rw [HttpTranscriptReplay.exchange, Update.get_bind]
  by_cases failed : replay.failed = true
  · have nothing : remaining recorded replay = none := if_pos failed
    rw [if_pos (.inl failed), nothing]
    rfl
  · rw [remaining_live (Bool.eq_false_iff.mpr failed)]
    -- the next interaction is the one that the rest of the script starts with
    have next := List.forall₂_drop replay.nextInteraction records
    have found : replay.transcript.interactions[replay.nextInteraction]? =
        (replay.transcript.interactions.drop replay.nextInteraction).head? := List.head?_drop.symm
    generalize replay.transcript.interactions.drop replay.nextInteraction = left at next found
    generalize recorded.drop replay.nextInteraction = script at next
    rw [found]
    cases next with
    | nil =>
        show (if replay.failed = true ∨ asked ≠ replay.operationId then
          HttpTranscriptReplay.reject else HttpTranscriptReplay.reject) replay = _
        rw [ite_self]
        rfl
    | @cons interaction entry rest script records =>
        obtain ⟨expected, response⟩ := entry
        obtain ⟨requested, responded, digest, -⟩ := records
        by_cases same : asked = replay.operationId
        · rw [if_neg (not_or.mpr ⟨failed, not_not.mpr same⟩)]
          dsimp only [List.head?_cons]
          by_cases exact : request = expected
          · subst same exact
            rw [if_pos ⟨requested, digest⟩, responded]
            rw [recordedScript, List.map_cons, Script.answer_hit]
            rfl
          · have differs : ¬ (replay.transcript.objects[interaction.requestObjectId]? =
                some request ∧ interaction.requestDigest = Digest.of request) := by
              rw [requested]
              exact fun held => exact (Option.some.inj held.1).symm
            have other : (asked, request) ≠ (replay.operationId, expected) :=
              fun equal => exact (congrArg Prod.snd equal)
            rw [if_neg differs, recordedScript, List.map_cons, Script.answer_miss other]
            rfl
        · have other : (asked, request) ≠ (replay.operationId, expected) :=
            fun equal => same (congrArg Prod.fst equal)
          rw [if_pos (.inr same), recordedScript, List.map_cons, Script.answer_miss other]
          rfl

/-- What is left of the script after one exchange. -/
theorem remaining_exchange (records : Recorded replay.transcript recorded)
    (call : OperationId × Bytes) :
    remaining recorded (Update.state (HttpTranscriptReplay.exchange call.1 call.2 replay)) =
      (Script.answer (remaining recorded replay) call).2 := by
  rw [exchange_eq records call]
  cases live : replay.failed with
  | true =>
      have nothing : remaining recorded replay = none := if_pos live
      rw [nothing]
      exact remaining_failed
  | false =>
      rw [remaining_live live]
      cases script : recorded.drop replay.nextInteraction with
      | nil => exact remaining_failed
      | cons entry rest =>
          rw [recordedScript, List.map_cons]
          by_cases same : call = (replay.operationId, entry.1)
          · subst same
            rw [Script.answer_hit]
            have later : recorded.drop (replay.nextInteraction + 1) = rest := by
              rw [← List.tail_drop, script, List.tail_cons]
            rw [← later]
            exact remaining_live rfl
          · rw [Script.answer_miss same]
            exact remaining_failed

/-- An exchange keeps the transcript and does not pass its end. -/
theorem exchange_keeps (records : Recorded replay.transcript recorded)
    (within : replay.nextInteraction ≤ recorded.length) (call : OperationId × Bytes) :
    let after := Update.state (HttpTranscriptReplay.exchange call.1 call.2 replay)
    after.transcript = replay.transcript ∧ after.nextInteraction ≤ recorded.length := by
  rw [exchange_eq records call]
  cases reply : (Script.answer (remaining recorded replay) call).1 with
  | none => exact ⟨rfl, within⟩
  | some response =>
      refine ⟨rfl, ?_⟩
      show replay.nextInteraction + 1 ≤ recorded.length
      by_contra past
      have nothing : recorded.drop replay.nextInteraction = [] :=
        List.drop_eq_nil_of_le (by omega)
      have gaveUp : (Script.answer (remaining recorded replay) call).1 = none := by
        rw [remaining, nothing]
        cases replay.failed <;> rfl
      rw [gaveUp] at reply
      cases reply

/-! ## Whole histories -/

/-- The exchanges follow the script, and the transcript is finished exactly when nothing
is left of it. -/
theorem exchangeAll_follows (records : Recorded replay.transcript recorded)
    (within : replay.nextInteraction ≤ recorded.length) (calls : List (OperationId × Bytes)) :
    let final := replay.exchangeAll calls
    final.1 = (Script.answerAll (remaining recorded replay) calls).1.map answered ∧
      (final.2.finish = .ok () ↔
        (Script.answerAll (remaining recorded replay) calls).2 = some []) := by
  induction calls generalizing replay with
  | nil =>
      refine ⟨rfl, ?_⟩
      show replay.finish = .ok () ↔ remaining recorded replay = some []
      rw [HttpTranscriptReplay.finish, rejectIf_eq_ok, not_or, not_not, List.Forall₂.length_eq records]
      cases live : replay.failed with
      | true =>
          have nothing : remaining recorded replay = none := if_pos live
          rw [nothing]
          exact ⟨fun done => absurd rfl done.1, nofun⟩
      | false =>
          rw [remaining_live live, Option.some.injEq, recordedScript, List.map_eq_nil_iff,
            List.drop_eq_nil_iff]
          exact ⟨fun done => done.2.ge, fun past => ⟨Bool.false_ne_true, le_antisymm within past⟩⟩
  | cons call calls ih =>
      obtain ⟨kept, stays⟩ := exchange_keeps records within call
      have left := remaining_exchange records call
      have verdict : Update.verdict (HttpTranscriptReplay.exchange call.1 call.2 replay) =
          answered (Script.answer (remaining recorded replay) call).1 := by
        rw [exchange_eq records call]
        cases (Script.answer (remaining recorded replay) call).1 <;> rfl
      obtain ⟨answers, finished⟩ := @ih
        (Update.state (HttpTranscriptReplay.exchange call.1 call.2 replay)) (kept.symm ▸ records)
        stays
      rw [left] at answers finished
      dsimp only [HttpTranscriptReplay.exchangeAll, Script.answerAll]
      refine ⟨?_, finished⟩
      rw [List.map_cons, verdict, answers]

/-- The answers of a replay of a valid transcript: the recorded responses for the calls
that were the next ones of the transcript, and failures from the first other call on.  It
finishes exactly when the recorded requests were made in order, each once, all for the
operation, and nothing else. -/
theorem transcript_replay_exact {transcript : ClosedDependencyTranscript}
    {operationId : OperationId} {replay : HttpTranscriptReplay}
    (opened : HttpTranscriptReplay.new operationId transcript = .ok replay)
    (calls : List (OperationId × Bytes)) :
    ∃ recorded served, Recorded transcript recorded ∧ served ≤ recorded.length ∧
      (replay.exchangeAll calls).1 =
        (recorded.take served).map (fun entry => .ok entry.2) ++
          List.replicate (calls.length - served) (.error dependencyMismatch) ∧
      calls.take served = (recorded.take served).map (fun entry => (operationId, entry.1)) ∧
      (∀ call, calls[served]? = some call →
        (recorded[served]?).map (fun entry => (operationId, entry.1)) ≠ some call) ∧
      ((replay.exchangeAll calls).2.finish = .ok () ↔
        calls = recorded.map fun entry => (operationId, entry.1)) := by
  obtain ⟨_, valid, opened⟩ := (bind_eq_ok _ _ _).mp opened
  obtain rfl := (pure_eq_ok _ _).mp opened
  obtain ⟨recorded, records⟩ := exists_recorded valid
  obtain ⟨answers, finished⟩ := @exchangeAll_follows _ recorded
    { failed := false, nextInteraction := 0, operationId, transcript } records (Nat.zero_le _) calls
  rw [remaining_live rfl, List.drop_zero] at answers finished
  have questions : (recordedScript operationId recorded).map Prod.fst =
      recorded.map fun entry => (operationId, entry.1) := by
    rw [recordedScript, List.map_map]
    rfl
  refine ⟨recorded, Script.served (recordedScript operationId recorded) calls, records, ?_, ?_, ?_,
    ?_, ?_⟩
  · have bound := (Script.served_le (recordedScript operationId recorded) calls).1
    rwa [recordedScript, List.length_map] at bound
  · rw [answers, Script.answerAll_fst, List.map_append, List.map_replicate, List.map_map,
      recordedScript, ← List.map_take, List.map_map]
    rfl
  · rw [Script.take_served, List.map_take, List.map_take, questions]
  · intro call next
    have missed := Script.served_maximal next
    rwa [← List.getElem?_map, questions, List.getElem?_map] at missed
  · rw [finished, Script.answerAll_snd_eq_nil, questions]

/-! ## A transcript of one interaction -/

namespace TranscriptSample

def interaction : TranscriptInteraction where
  causalParentId := none
  operationId := Sample.id 1
  requestDigest := Digest.of []
  requestObjectId := Sample.id 1
  responseDigest := Digest.of [1]
  responseObjectId := Sample.id 2
  sequence := 0
  sessionPosition := 0

omit [Primitives] in
def objects : OrderedMap ObjectId Bytes :=
  ((∅ : OrderedMap ObjectId Bytes).insert (Sample.id 1) []).insert (Sample.id 2) [1]

def once : ClosedDependencyTranscript where
  interactions := [interaction]
  objects := objects

omit [Primitives] in
theorem ids_apart : (Sample.id 1 : ObjectId) ≠ Sample.id 2 := by decide

omit [Primitives] in
theorem request_held : objects[(Sample.id 1 : ObjectId)]? = some [] := by
  rw [objects, OrderedMap.getElem?_insert, if_neg ids_apart.symm, OrderedMap.getElem?_insert,
    if_pos rfl]

omit [Primitives] in
theorem response_held : objects[(Sample.id 2 : ObjectId)]? = some [1] := by
  rw [objects, OrderedMap.getElem?_insert, if_pos rfl]

omit [Primitives] in
theorem objects_perm : objects.toList.Perm [(Sample.id 2, [1]), (Sample.id 1, [])] := by
  have first : ((∅ : OrderedMap ObjectId Bytes).insert (Sample.id 1) [])[(Sample.id 2 : ObjectId)]? =
      none := by
    rw [OrderedMap.getElem?_insert, if_neg ids_apart, Std.ExtTreeMap.getElem?_empty]
  have empty := @OrderedMap.toList_insert_perm ObjectId Bytes _ ∅ (Sample.id 1)
    Std.ExtTreeMap.getElem?_empty []
  rw [OrderedMap.toList_empty] at empty
  exact (OrderedMap.toList_insert_perm first [1]).trans (empty.cons _)

theorem verified : verifyDependencyTranscript (Sample.id 1) once.interactions
    once.objects = .ok () := by
  refine verifyDependencyTranscript_eq_ok.mpr ⟨List.cons_ne_nil _ _, Nat.le_of_ble_eq_true rfl, ?_⟩
  intro index found there
  cases index with
  | succ index => cases there
  | zero =>
      obtain rfl := Option.some.inj there
      exact ⟨rfl, rfl, .inl rfl, ([], [1]), request_held, response_held, rfl, rfl⟩

theorem valid : once.validate (Sample.id 1) = .ok () := by
  apply ClosedDependencyTranscript.validate_of_perm verified _
    (objects_perm.trans (List.Perm.swap _ _ _))
  · decide
  · decide
  · rfl

theorem opened : HttpTranscriptReplay.new (Sample.id 1) once =
    .ok { failed := false, nextInteraction := 0, operationId := Sample.id 1
          transcript := once } := by
  rw [HttpTranscriptReplay.new, valid]
  rfl

end TranscriptSample

omit [Primitives] in
/-- The one recorded request, made twice. -/
theorem transcript_replay_exact_sample :
    letI := Sample.marked
    ∃ replay, HttpTranscriptReplay.new (Sample.id 1) TranscriptSample.once = .ok replay ∧
      ∃ recorded served, Recorded TranscriptSample.once recorded ∧
        served ≤ recorded.length ∧
        (replay.exchangeAll [(Sample.id 1, []), (Sample.id 1, [])]).1 =
          (recorded.take served).map (fun entry => .ok entry.2) ++
            List.replicate (2 - served) (.error dependencyMismatch) := by
  let _ := Sample.marked
  obtain ⟨recorded, served, records, within, answers, -⟩ :=
    transcript_replay_exact TranscriptSample.opened [(Sample.id 1, []), (Sample.id 1, [])]
  exact ⟨_, TranscriptSample.opened, recorded, served, records, within, answers⟩

end Reproit
