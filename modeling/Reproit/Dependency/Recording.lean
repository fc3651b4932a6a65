/-
# A recorded transcript replays

Whatever a provider accepts, it has numbered in order, with bytes of its own under new
ids.  The transcript that it closes therefore passes every check, and a replay of it
answers the accepted requests with the accepted responses.
-/

import Reproit.Backend.Dependency
import Reproit.Data.Quota
import Reproit.Dependency.Replay

namespace Reproit

open Backend

variable [Primitives]

namespace Backend

omit [Primitives] in
/-- The objects of a recording. -/
def RecordRequest.objects (record : RecordRequest) : List (ObjectId × Bytes) :=
  [(record.interaction.requestObjectId, record.request),
    (record.interaction.responseObjectId, record.response)]

/-- The recording is the one of its number and names its bytes. -/
structure RecordRequest.Numbered (index : Nat) (record : RecordRequest) : Prop where
  sequence : record.interaction.sequence.toNat = index
  position : record.interaction.sessionPosition.toNat = index
  requestDigest : record.interaction.requestDigest = Digest.of record.request
  responseDigest : record.interaction.responseDigest = Digest.of record.response

end Backend

omit [Primitives] in
/-- The size of all objects. -/
def heldBytes (objects : OrderedMap ObjectId Bytes) : Nat := Quota.load List.length objects

/-- The transcript holds exactly what was accepted. -/
structure Holds (maximumInteractions maximumBytes : Nat) (accepted : List RecordRequest)
    (state : TranscriptState) : Prop where
  interactions : state.interactions = accepted.map RecordRequest.interaction
  objects : state.objects.toList.Perm (accepted.flatMap RecordRequest.objects)
  bytes : state.bytes = heldBytes state.objects
  numbered : ∀ (index : Nat) (record : RecordRequest), accepted[index]? = some record →
    record.Numbered index
  small : ∀ record ∈ accepted, requireObjectSizes record = .ok ()
  count : accepted.length ≤ maximumInteractions
  within : state.bytes ≤ maximumBytes

variable {maximumInteractions maximumBytes : Nat} {accepted : List RecordRequest}
  {state : TranscriptState}

theorem holds_empty : Holds maximumInteractions maximumBytes [] TranscriptState.empty where
  interactions := rfl
  objects := by
    rw [TranscriptState.empty, OrderedMap.toList_empty]
    exact List.Perm.nil
  bytes := (Quota.load_empty _).symm
  numbered := nofun
  small := nofun
  count := Nat.zero_le _
  within := Nat.zero_le _

/-! ## Recording -/

/-- What is recorded is new and fits. -/
theorem recordLocked_eq_ok {record : RecordRequest} {done : Unit} {after : TranscriptState} :
    recordLocked maximumInteractions maximumBytes record state = .ok done after ↔
      state.interactions.length < maximumInteractions ∧
        state.bytes + (record.request.length + record.response.length) ≤ maximumBytes ∧
        record.Numbered state.interactions.length ∧
        record.interaction.requestObjectId ≠ record.interaction.responseObjectId ∧
        record.interaction.requestObjectId ∉ state.objects ∧
        record.interaction.responseObjectId ∉ state.objects ∧
        after = {
          bytes := state.bytes + (record.request.length + record.response.length)
          interactions := state.interactions ++ [record.interaction]
          objects := (state.objects.insert record.interaction.requestObjectId record.request).insert
            record.interaction.responseObjectId record.response } := by
  rw [recordLocked, Update.get_bind]
  simp only [Update.bind_eq_ok, Update.attempt_eq_ok, okOr_eq_ok, uint16OfNat_eq_some,
    rejectIf_eq_ok, not_or, not_le, not_lt, not_not]
  constructor
  · rintro ⟨sequence, _, ⟨number, rfl⟩, _, _, ⟨⟨few, fits⟩, rfl⟩, _, _, ⟨checks, rfl⟩, written⟩
    obtain ⟨numbered, placed, requested, responded, different, freshRequest, freshResponse⟩ := checks
    cases written
    refine ⟨few, fits, ⟨numbered ▸ number, ?_, requested, responded⟩, different, freshRequest,
      freshResponse, rfl⟩
    rw [placed, UInt16.toNat_toUInt64, number]
  · rintro ⟨few, fits, ⟨number, placed, requested, responded⟩, different, freshRequest,
      freshResponse, rfl⟩
    refine ⟨record.interaction.sequence, _, ⟨number, rfl⟩, (), _, ⟨⟨few, fits⟩, rfl⟩, (), _,
      ⟨⟨rfl, ?_, requested, responded, different, freshRequest, freshResponse⟩, rfl⟩, rfl⟩
    rw [← UInt64.toNat_inj, placed, UInt16.toNat_toUInt64, number]

theorem recordLocked_atomic (record : RecordRequest) :
    Update.Atomic (recordLocked maximumInteractions maximumBytes record) := by
  apply Update.Atomic.get_bind
  intro state
  apply Update.Atomic.attempt_bind
  intro sequence
  apply Update.Atomic.attempt_bind
  intro _
  apply Update.Atomic.attempt_bind
  intro _ _ _ _ failed
  cases failed

/-- A recording is counted, within the bound. -/
theorem bytes_of_recorded {record : RecordRequest} {after : TranscriptState}
    (counted : state.bytes = heldBytes state.objects)
    (recorded : recordLocked maximumInteractions maximumBytes record state = .ok () after) :
    after.bytes = heldBytes after.objects ∧ after.bytes ≤ maximumBytes := by
  obtain ⟨few, fits, numbered, different, freshRequest, freshResponse, rfl⟩ :=
    recordLocked_eq_ok.mp recorded
  have missingRequest : state.objects[record.interaction.requestObjectId]? = none :=
    Std.ExtTreeMap.getElem?_eq_none freshRequest
  have missingResponse : (state.objects.insert record.interaction.requestObjectId
      record.request)[record.interaction.responseObjectId]? = none := by
    rw [OrderedMap.getElem?_insert, if_neg different]
    exact Std.ExtTreeMap.getElem?_eq_none freshResponse
  refine ⟨?_, fits⟩
  show state.bytes + (record.request.length + record.response.length) = heldBytes _
  rw [heldBytes, Quota.load_insert List.length missingResponse,
    Quota.load_insert List.length missingRequest, counted, heldBytes, Nat.add_assoc]

/-- One more recording. -/
theorem Holds.record (holds : Holds maximumInteractions maximumBytes accepted state)
    {record : RecordRequest} {after : TranscriptState} (sized : requireObjectSizes record = .ok ())
    (recorded : recordLocked maximumInteractions maximumBytes record state = .ok () after) :
    Holds maximumInteractions maximumBytes (accepted ++ [record]) after := by
  obtain ⟨few, fits, numbered, different, freshRequest, freshResponse, rfl⟩ :=
    recordLocked_eq_ok.mp recorded
  have length : state.interactions.length = accepted.length := by
    rw [holds.interactions, List.length_map]
  have missingRequest : state.objects[record.interaction.requestObjectId]? = none :=
    Std.ExtTreeMap.getElem?_eq_none freshRequest
  have missingResponse : (state.objects.insert record.interaction.requestObjectId
      record.request)[record.interaction.responseObjectId]? = none := by
    rw [OrderedMap.getElem?_insert, if_neg different]
    exact Std.ExtTreeMap.getElem?_eq_none freshResponse
  constructor
  case interactions => rw [holds.interactions, List.map_append, List.map_cons, List.map_nil]
  case objects =>
    have first := OrderedMap.toList_insert_perm missingRequest record.request
    have second := OrderedMap.toList_insert_perm missingResponse record.response
    rw [List.flatMap_append, List.flatMap_singleton]
    refine second.trans (((first.trans (holds.objects.cons _)).cons _).trans ?_)
    refine (List.Perm.swap _ _ _).trans ?_
    exact @List.perm_append_comm _ record.objects _
  case bytes => exact (bytes_of_recorded holds.bytes recorded).1
  case numbered =>
    intro index other there
    by_cases earlier : index < accepted.length
    · rw [List.getElem?_append_left earlier] at there
      exact holds.numbered index other there
    · rw [List.getElem?_append_right (not_lt.mp earlier)] at there
      have last : index - accepted.length = 0 := by
        by_contra later
        obtain ⟨before, same⟩ := Nat.exists_eq_succ_of_ne_zero later
        rw [same] at there
        cases there
      rw [last] at there
      obtain rfl := Option.some.inj there
      have same : index = state.interactions.length := by omega
      exact same ▸ numbered
  case small =>
    intro other member
    rcases List.mem_append.mp member with earlier | last
    · exact holds.small other earlier
    · rw [List.mem_singleton.mp last]
      exact sized
  case count =>
    rw [List.length_append, List.length_singleton]
    omega
  case within => exact fits

/-! ## Calls of a session -/

variable {session : Session}

/-- A call records, or it fails and at most gives the reservation back. -/
theorem record_cases (session : Session) (now : Nat) (request : RecordRequest) :
    (∃ state, requireObjectSizes request = .ok () ∧
      recordLocked session.provider.maximumInteractions session.provider.maximumBytes request
        session.provider.state = .ok () state ∧
      Session.record now request session =
        .ok () { session with provider := { session.provider with state } }) ∨
    ∃ error pool reservation, Session.record now request session =
      .error error { pool, provider := { session.provider with reservation } } := by
  cases inactive : session.provider.inactive now with
  | true =>
      right
      have refused := Session.requireActive_of_inactive inactive
      refine ⟨dependencyQuota, session.releaseOperation.pool, none, ?_⟩
      rw [Session.record, Update.bind_of_error refused, ← Session.releaseOperation_provider]
  | false =>
      rw [Session.record, Update.bind_of_ok (Session.requireActive_of_active inactive)]
      cases sized : requireObjectSizes request with
      | error error =>
          right
          exact ⟨error, session.pool, session.provider.reservation, rfl⟩
      | ok done =>
          rw [Update.attempt_bind_ok rfl, Update.get_bind, Session.onTranscript]
          cases recorded : recordLocked session.provider.maximumInteractions
              session.provider.maximumBytes request session.provider.state with
          | ok done state =>
              left
              exact ⟨state, rfl, rfl, rfl⟩
          | error error state =>
              right
              rw [recordLocked_atomic request _ _ _ recorded]
              exact ⟨error, session.pool, session.provider.reservation, rfl⟩

omit [Primitives] in
/-- A call to record, and what the pool counts when it starts. -/
structure RecordCall where
  now : Nat
  pool : DependencyPoolState
  record : RecordRequest

/-- The recordings that are accepted from calls in turn, and the session after them. -/
def recordAll (session : Session) : List RecordCall → List RecordRequest × Session
  | [] => ([], session)
  | call :: calls =>
      let after := Session.record call.now call.record { session with pool := call.pool }
      let (accepted, final) := recordAll (Update.state after) calls
      match Update.verdict after with
      | .ok () => (call.record :: accepted, final)
      | .error _ => (accepted, final)

/-- The session holds exactly what was accepted so far, and later what is accepted then. -/
theorem recordAll_holds {calls : List RecordCall}
    (holds : Holds session.provider.maximumInteractions session.provider.maximumBytes accepted
      session.provider.state) :
    let final := recordAll session calls
    final.2.provider.maximumInteractions = session.provider.maximumInteractions ∧
      final.2.provider.maximumBytes = session.provider.maximumBytes ∧
      Holds session.provider.maximumInteractions session.provider.maximumBytes
        (accepted ++ final.1) final.2.provider.state := by
  induction calls generalizing session accepted with
  | nil =>
      refine ⟨rfl, rfl, ?_⟩
      show Holds _ _ (accepted ++ []) session.provider.state
      rwa [List.append_nil]
  | cons call calls ih =>
      dsimp only [recordAll]
      rcases record_cases { session with pool := call.pool } call.now call.record with
        ⟨state, sized, recorded, ran⟩ | ⟨error, pool, reservation, ran⟩
      · rw [ran]
        obtain ⟨sameInteractions, sameBytes, later⟩ := @ih (accepted ++ [call.record])
          { pool := call.pool, provider := { session.provider with state } }
          (holds.record sized recorded)
        rw [List.append_assoc] at later
        exact ⟨sameInteractions, sameBytes, later⟩
      · rw [ran]
        exact @ih accepted { pool, provider := { session.provider with reservation } } holds

/-! ## Closing -/

/-- A closing takes the transcript, whether it verifies or not. -/
theorem closeLocked_eq (operationId : OperationId) (state : TranscriptState) :
    closeLocked operationId state =
      match verifyDependencyTranscript operationId state.interactions state.objects with
      | .ok () => .ok { interactions := state.interactions, objects := state.objects }
          TranscriptState.empty
      | .error error => .error error TranscriptState.empty := by
  rw [closeLocked, Update.get_bind]
  cases verifyDependencyTranscript operationId state.interactions state.objects <;> rfl

/-- A closing that has its reservation in time releases both reservations at its end. -/
theorem close_of_reserved {now : Nat} {operationId : OperationId} {pool : DependencyPoolState}
    (reserved : DependencyPoolState.reserveClose session.provider.limits session.pool =
      .ok () pool) (early : session.provider.expired now = false) :
    Session.close now operationId session =
      match verifyDependencyTranscript operationId session.provider.state.interactions
        session.provider.state.objects with
      | .ok () => .ok { interactions := session.provider.state.interactions
                        objects := session.provider.state.objects }
          (Session.releaseOperation { pool := pool.dropClose
                                      provider := { session.provider with
                                        state := TranscriptState.empty } })
      | .error error => .error error
          (Session.releaseOperation { pool := pool.dropClose
                                      provider := { session.provider with
                                        state := TranscriptState.empty } }) := by
  rw [Session.close, Update.get_bind, reserved]
  dsimp only
  rw [early, if_neg Bool.false_ne_true, Update.set_bind, Update.followedBy, Session.onTranscript,
    closeLocked_eq]
  cases verifyDependencyTranscript operationId session.provider.state.interactions
    session.provider.state.objects <;> rfl

/-- A closing that succeeds returns what the provider holds, and it verifies. -/
theorem close_eq_ok {now : Nat} {operationId : OperationId}
    {transcript : ClosedDependencyTranscript} {after : Session}
    (closed : Session.close now operationId session = .ok transcript after) :
    transcript = { interactions := session.provider.state.interactions
                   objects := session.provider.state.objects } ∧
      verifyDependencyTranscript operationId transcript.interactions transcript.objects =
        .ok () := by
  cases reserved : DependencyPoolState.reserveClose session.provider.limits session.pool with
  | error error pool =>
      rw [Session.close, Update.get_bind, reserved] at closed
      cases closed
  | ok done pool =>
      cases late : session.provider.expired now with
      | true =>
          rw [Session.close, Update.get_bind, reserved] at closed
          dsimp only at closed
          rw [late, if_pos rfl] at closed
          cases closed
      | false =>
          rw [close_of_reserved reserved late] at closed
          cases verified : verifyDependencyTranscript operationId
              session.provider.state.interactions session.provider.state.objects with
          | error error =>
              rw [verified] at closed
              cases closed
          | ok done =>
              rw [verified] at closed
              cases closed
              exact ⟨rfl, verified⟩

/-! ## The closed transcript -/

/-- What was accepted verifies for an operation, so it is a valid transcript of it. -/
theorem Holds.validate (holds : Holds maximumInteractions maximumBytes accepted state)
    {operationId : OperationId}
    (bounded : maximumBytes ≤ DependencyLimits.v1.candidateBytes.toNat)
    (verified : verifyDependencyTranscript operationId state.interactions state.objects =
      .ok ()) :
    ClosedDependencyTranscript.validate
      { interactions := state.interactions, objects := state.objects } operationId = .ok () := by
  apply ClosedDependencyTranscript.validate_of_perm verified _ holds.objects
  · intro entry member
    obtain ⟨record, there, held⟩ := List.mem_flatMap.mp member
    have sized := (rejectIf_eq_ok _ _ ()).mp (holds.small record there)
    rw [not_or, not_lt, not_lt] at sized
    rcases List.mem_cons.mp held with rfl | last
    · exact sized.1
    · rw [List.mem_singleton.mp last]
      exact sized.2
  · have total : (state.objects.toList.map fun entry => entry.2.length).sum = state.bytes :=
      holds.bytes.symm
    rw [← (holds.objects.map _).sum_eq, total]
    exact holds.within.trans bounded
  · show (state.interactions.flatMap TranscriptInteraction.objectIds) = _
    rw [holds.interactions, List.flatMap_map, List.map_flatMap]
    rfl

/-- The bytes of every accepted recording are found under its ids. -/
theorem Holds.recorded (holds : Holds maximumInteractions maximumBytes accepted state) :
    Recorded { interactions := state.interactions, objects := state.objects }
      (accepted.map fun record => (record.request, record.response)) := by
  have found : ∀ record ∈ accepted, ∀ entry ∈ record.objects,
      state.objects[entry.1]? = some entry.2 := by
    intro record member entry there
    apply OrderedMap.mem_toList.mp
    exact holds.objects.symm.subset (List.mem_flatMap.mpr ⟨record, member, there⟩)
  show List.Forall₂ (Records state.objects) state.interactions _
  rw [holds.interactions, List.forall₂_map_left_iff, List.forall₂_map_right_iff, List.forall₂_same]
  intro record member
  obtain ⟨index, there⟩ := List.mem_iff_getElem?.mp member
  have numbered := holds.numbered index record there
  exact ⟨found record member _ List.mem_cons_self,
    found record member _ (List.mem_cons_of_mem _ List.mem_cons_self),
    numbered.requestDigest, numbered.responseDigest⟩

/-- A replay of what was accepted answers the accepted requests and finishes. -/
theorem Holds.replays (holds : Holds maximumInteractions maximumBytes accepted state)
    (operationId : OperationId) {replay : HttpTranscriptReplay}
    (fresh : replay = { failed := false, nextInteraction := 0, operationId
                        transcript := { interactions := state.interactions
                                        objects := state.objects } }) :
    let final := replay.exchangeAll (accepted.map fun record => (operationId, record.request))
    final.1 = accepted.map (fun record => .ok record.response) ∧ final.2.finish = .ok () := by
  subst fresh
  obtain ⟨answers, finished⟩ := @exchangeAll_follows _
    (accepted.map fun record => (record.request, record.response))
    { failed := false, nextInteraction := 0, operationId
      transcript := { interactions := state.interactions, objects := state.objects } }
    holds.recorded (Nat.zero_le _) (accepted.map fun record => (operationId, record.request))
  have questions : (accepted.map fun record => (operationId, record.request)) =
      (recordedScript operationId
        (accepted.map fun record => (record.request, record.response))).map Prod.fst := by
    rw [recordedScript, List.map_map, List.map_map]
    rfl
  rw [remaining_live rfl, List.drop_zero] at answers finished
  refine ⟨?_, finished.mpr ?_⟩
  · rw [answers, questions, Script.answerAll_exact, recordedScript, List.map_map, List.map_map,
      List.map_map]
    rfl
  · rw [questions, Script.answerAll_exact]

/-! ## Capture, then replay -/

namespace TranscriptSample

/-- The one interaction with its bytes. -/
def request : RecordRequest where
  interaction := interaction
  request := []
  response := [1]

omit [Primitives] in
/-- A provider of an empty pool. -/
def provider : HttpTranscriptProvider where
  createdAt := 0
  limits := DependencyLimits.v1
  maximumBytes := 1024
  maximumInteractions := 2
  reservation := some 1024
  state := TranscriptState.empty

omit [Primitives] in
/-- The counters with the reservation of the provider. -/
def reserved : DependencyPoolState where
  activeCloseRequests := 0
  activeOperations := 1
  durableBytes := 1024
  memoryBytes := 1024
  sessions := 1

omit [Primitives] in
theorem openProvider_sample :
    openProvider DependencyLimits.v1 0 2 1024 DependencyPoolState.empty =
      .ok provider reserved := rfl

def recordedState : TranscriptState where
  bytes := 1
  interactions := [interaction]
  objects := objects

theorem recordLocked_sample : recordLocked 2 1024 request TranscriptState.empty =
    .ok () recordedState := by
  refine recordLocked_eq_ok.mpr ⟨Nat.zero_lt_two, Nat.le_of_ble_eq_true rfl, ⟨rfl, rfl, rfl, rfl⟩,
    ids_apart, ?_, ?_, rfl⟩
  · exact Std.ExtTreeMap.not_mem_empty
  · exact Std.ExtTreeMap.not_mem_empty

def recordedSession : Session where
  pool := reserved
  provider := { provider with state := recordedState }

theorem recordAll_sample : recordAll { pool := reserved, provider } [⟨0, reserved, request⟩] =
    ([request], recordedSession) := by
  have active : Session.record 0 request { pool := reserved, provider } =
      .ok () recordedSession := by
    show Session.onTranscript (recordLocked 2 1024 request) { pool := reserved, provider } = _
    have ran : recordLocked 2 1024 request provider.state = .ok () recordedState :=
      recordLocked_sample
    rw [Session.onTranscript]
    dsimp only
    rw [ran]
    rfl
  simp only [recordAll, active]
  rfl

theorem close_sample :
    ∃ later, Session.close 0 (Sample.id 1) recordedSession = .ok once later := by
  have reservedClose : DependencyPoolState.reserveClose recordedSession.provider.limits
      recordedSession.pool = .ok () { reserved with activeCloseRequests := 1 } := rfl
  have early : recordedSession.provider.expired 0 = false := rfl
  have closed := @close_of_reserved _ recordedSession 0 (Sample.id 1) _ reservedClose early
  have verifies : verifyDependencyTranscript (Sample.id 1)
      recordedSession.provider.state.interactions recordedSession.provider.state.objects =
        .ok () := verified
  rw [verifies] at closed
  exact ⟨_, closed⟩

end TranscriptSample

/-- A provider of any pool and any calls to record, whatever the rest of the pool does
meanwhile.  A call that fails leaves the transcript as it was; the byte counter is the
size of the objects and within the bound; and a closing that succeeds returns exactly
what was accepted, a valid transcript whose replay answers the accepted requests with
the accepted responses and finishes. -/
theorem capture_replays {limits : DependencyLimits} {now : Nat}
    {provider : HttpTranscriptProvider} {before after : DependencyPoolState}
    (opened : openProvider limits now maximumInteractions maximumBytes before =
      .ok provider after) (calls : List RecordCall) :
    (∀ session now record error later, Session.record now record session = .error error later →
      later.provider.state = session.provider.state) ∧
    let (accepted, session) := recordAll { pool := after, provider } calls
    session.provider.state.bytes = heldBytes session.provider.state.objects ∧
      session.provider.state.bytes ≤ maximumBytes ∧
      ∀ pool now operationId transcript later,
        Session.close now operationId { session with pool } = .ok transcript later →
          transcript.validate operationId = .ok () ∧
          transcript.interactions = accepted.map RecordRequest.interaction ∧
          transcript.objects.toList.Perm (accepted.flatMap RecordRequest.objects) ∧
          ∃ replay, HttpTranscriptReplay.new operationId transcript = .ok replay ∧
            (replay.exchangeAll (accepted.map fun record => (operationId, record.request))).1 =
              accepted.map (fun record => .ok record.response) ∧
            (replay.exchangeAll (accepted.map fun record =>
              (operationId, record.request))).2.finish = .ok () := by
  obtain ⟨bounds, bytes, -, -, rfl⟩ := openProvider_eq_ok opened
  have bounded : maximumBytes ≤ DependencyLimits.v1.candidateBytes.toNat := by
    have checked := (rejectIf_eq_ok _ _ ()).mp bounds
    rw [not_or, not_or, not_or, not_lt, not_lt] at checked
    exact checked.2.2.2
  constructor
  · intro session now record error later failed
    rcases record_cases session now record with ⟨state, -, -, ran⟩ | ⟨_, pool, reservation, ran⟩
    · rw [ran] at failed
      cases failed
    · rw [ran] at failed
      cases failed
      rfl
  · obtain ⟨-, -, holds⟩ := @recordAll_holds _ []
      { pool := after, provider := { createdAt := now, limits, maximumBytes, maximumInteractions
                                     reservation := some bytes, state := TranscriptState.empty } }
      calls holds_empty
    dsimp only at holds ⊢
    rw [List.nil_append] at holds
    refine ⟨holds.bytes, holds.within, ?_⟩
    intro pool now operationId transcript later closed
    obtain ⟨rfl, verified⟩ := close_eq_ok closed
    have valid := holds.validate bounded verified
    refine ⟨valid, holds.interactions, holds.objects, _, ?_, holds.replays operationId rfl⟩
    rw [HttpTranscriptReplay.new, valid]
    rfl

omit [Primitives] in
/-- One recording, closed and replayed. -/
theorem capture_replays_sample :
    letI := Sample.marked
    openProvider DependencyLimits.v1 0 2 1024 DependencyPoolState.empty =
        .ok TranscriptSample.provider TranscriptSample.reserved ∧
      ∃ replay, HttpTranscriptReplay.new (Sample.id 1) TranscriptSample.once = .ok replay ∧
        (replay.exchangeAll [(Sample.id 1, [])]).1 = [.ok [1]] ∧
        (replay.exchangeAll [(Sample.id 1, [])]).2.finish = .ok () := by
  let _ := Sample.marked
  obtain ⟨-, captured⟩ := capture_replays TranscriptSample.openProvider_sample
    [⟨0, TranscriptSample.reserved, TranscriptSample.request⟩]
  rw [TranscriptSample.recordAll_sample] at captured
  obtain ⟨-, -, closes⟩ := captured
  obtain ⟨later, closed⟩ := TranscriptSample.close_sample
  obtain ⟨-, -, -, replays⟩ := closes _ _ _ _ _ closed
  exact ⟨TranscriptSample.openProvider_sample, replays⟩

end Reproit
