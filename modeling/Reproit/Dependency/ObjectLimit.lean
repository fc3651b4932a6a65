/-
# The object limit of a dependency pool

A pool is built for limits of its own, and opens its providers within them.  A recording
is checked against the object limit of the first version instead of the pool's.  The
pool's object limit still holds for every recording exactly when some limit on the bytes
of a whole transcript is no larger.
-/

import Reproit.Dependency.Coverage

namespace Reproit

open Backend

namespace Backend

variable [Primitives]

namespace PoolSystem

/-- The next step of the call is the end of a recording that returns without an error. -/
def Records (system : PoolSystem) (number : Nat) (request : RecordRequest) : Prop :=
  ∃ owner provider after, system.calls[number]? = some (owner, .recordLocked request) ∧
    system.providers[owner]? = some provider ∧
    recordLocked provider.maximumInteractions provider.maximumBytes request provider.state =
      .ok () after

/-- No recording that returns without an error is larger than an object of the pool may be. -/
def EnforcesObjectLimit (system : PoolSystem) : Prop :=
  ∀ steps number request, (system.run steps).Records number request →
    request.request.length ≤ system.limits.objectBytes.toNat ∧
      request.response.length ≤ system.limits.objectBytes.toNat

omit [Primitives] in
/-- What the limits leave to one transcript. -/
def transcriptBytes (limits : DependencyLimits) : Nat :=
  min limits.candidateBytes.toNat (min limits.memoryBytes.toNat limits.durableBytes.toNat)

omit [Primitives] in
/-- No provider may record more than the limits leave to it. -/
def Capped (limits : DependencyLimits) (system : PoolSystem) : Prop :=
  system.limits = limits ∧ ∀ (number : Nat) (provider : HttpTranscriptProvider),
    system.providers[number]? = some provider → provider.maximumBytes ≤ transcriptBytes limits

variable {system : PoolSystem} {limits : DependencyLimits}

omit [Primitives] in
theorem maximumBytes_le_of_opened {now maximumInteractions maximumBytes : Nat}
    {provider : HttpTranscriptProvider} {before after : DependencyPoolState}
    (opened : openProvider limits now maximumInteractions maximumBytes before =
      .ok provider after) : provider.maximumBytes ≤ transcriptBytes limits := by
  simp only [openProvider, Update.bind_eq_ok, Update.attempt_eq_ok, okOr_eq_ok,
    uint64OfNat_eq_some, rejectIf_eq_ok, not_or, gt_iff_lt, UInt64.not_lt] at opened
  obtain ⟨_, _, ⟨-, rfl⟩, bytes, _, ⟨size, rfl⟩, _, _, ⟨-, rfl⟩, _, _, ⟨⟨-, candidate⟩, rfl⟩, _, _,
    reserved, returned⟩ := opened
  cases returned
  obtain ⟨-, ⟨memory, durable⟩, ⟨memoryRoom, durableRoom⟩, -⟩ :=
    DependencyPoolState.reserveOperation_eq_ok reserved
  have candidate := UInt64.le_iff_toNat_le.mp candidate
  have memoryRoom := UInt64.le_iff_toNat_le.mp memoryRoom
  have durableRoom := UInt64.le_iff_toNat_le.mp durableRoom
  show maximumBytes ≤ min _ (min _ _)
  omega

/-- No step of a call gives its provider more. -/
theorem maximumBytes_step (now : Nat) (session : Session) (phase : CallPhase) :
    (phase.step now session).2.provider.maximumBytes = session.provider.maximumBytes := by
  have writes := CallPhase.step_writes now session phase
  generalize (phase.step now session).2.provider = after at writes ⊢
  cases writes with
  | nothing free => rfl
  | released releases => rfl
  | cleared free => rfl
  | recorded recorded => rfl

theorem Capped.next (capped : Capped limits system) (step : PoolStep) :
    Capped limits (step.next system) := by
  obtain ⟨same, within⟩ := capped
  cases step with
  | openProvider now maximumInteractions maximumBytes =>
      rw [PoolStep.next]
      cases opened : openProvider system.limits now maximumInteractions maximumBytes
          system.counters with
      | error error counters => exact ⟨same, within⟩
      | ok provider counters =>
          rw [same] at opened
          exact ⟨same, (forall_insert within).mpr (maximumBytes_le_of_opened opened)⟩
  | startCall owner call =>
      rw [PoolStep.next]
      split_ifs with there <;> exact ⟨same, within⟩
  | advanceCall number now =>
      rw [PoolStep.next]
      rcases advance_eq system number now with
        ⟨idle, -⟩ | ⟨owner, phase, provider, called, there, after⟩
      · rw [idle]
        exact ⟨same, within⟩
      · rw [after]
        refine ⟨same, (forall_insert within).mpr ?_⟩
        rw [maximumBytes_step]
        exact within owner provider there
  | dropProvider number =>
      rw [PoolStep.next, PoolSystem.drop]
      cases there : system.providers[number]? with
      | none => exact ⟨same, within⟩
      | some provider =>
          dsimp only
          split_ifs with used
          · exact ⟨same, within⟩
          · exact ⟨same, fun wanted found present => within wanted found
              (OrderedMap.within_erase system.providers number wanted found present)⟩

theorem capped_run (limits : DependencyLimits) (steps : List PoolStep) :
    Capped limits ((initial limits).run steps) := by
  have start : Capped limits (initial limits) := by
    refine ⟨rfl, fun number provider present => ?_⟩
    cases Std.ExtTreeMap.getElem?_empty.symm.trans present
  rw [run]
  generalize initial limits = system at start
  induction steps generalizing system with
  | nil => exact start
  | cons step rest ih => exact ih _ (start.next step)

/-- What is recorded fits what the limits leave to one transcript. -/
theorem Capped.length_le (capped : Capped limits system) {number : Nat} {request : RecordRequest}
    (records : system.Records number request) :
    request.request.length ≤ transcriptBytes limits ∧
      request.response.length ≤ transcriptBytes limits := by
  obtain ⟨owner, provider, after, -, there, recorded⟩ := records
  obtain ⟨-, bytes, -⟩ := recordLocked_eq_ok.mp recorded
  have within := capped.2 owner provider there
  omega

end PoolSystem

namespace PoolSystem

variable {system : PoolSystem} {owner : Nat} {provider : HttpTranscriptProvider}

/-- A call that records alone and returns without an error is a recording of the pool. -/
theorem records_of_record (there : system.providers[owner]? = some provider) {now : Nat}
    {request : RecordRequest} {after : Session}
    (recorded : Session.record now request { pool := system.counters, provider } =
      .ok () after) :
    (system.run [.startCall owner (.record request), .advanceCall system.begun now]).Records
      system.begun request := by
  simp only [Session.record, Update.bind_eq_ok, Update.attempt_eq_ok] at recorded
  obtain ⟨_, between, active, _, _, ⟨sized, rfl⟩, _, _, read, recorded⟩ := recorded
  cases inactive : provider.inactive now with
  | true =>
      rw [Session.requireActive_of_inactive inactive] at active
      cases active
  | false =>
      rw [Session.requireActive_of_active inactive] at active
      cases active
      cases read
      have started := callAt_start there (.record request)
      obtain ⟨checked, -⟩ := @started.advance _ _ _ _ _ _ now (some (.recordLocked request))
        provider fun pool => by
          rw [CallPhase.step, if_neg (by rw [inactive]; exact Bool.false_ne_true), sized]
          exact ⟨rfl, rfl⟩
      rw [Session.onTranscript] at recorded
      dsimp only at recorded
      cases ended : recordLocked provider.maximumInteractions provider.maximumBytes request
          provider.state with
      | error error state =>
          rw [ended] at recorded
          cases recorded
      | ok done state => exact ⟨owner, provider, state, checked.call, checked.provider, ended⟩

end PoolSystem

/-! ## A recording above the object limit -/

/-- A recording of some bytes that were sent, and of none that came back. -/
def RecordRequest.ofLength (length : Nat) : RecordRequest where
  interaction := { TranscriptSample.interaction with
    requestDigest := Digest.of (List.replicate length 0)
    responseDigest := Digest.of [] }
  request := List.replicate length 0
  response := []

omit [Primitives] in
/-- A provider that is opened for one recording. -/
def HttpTranscriptProvider.forOne (limits : DependencyLimits) (length : Nat) (bytes : UInt64) :
    HttpTranscriptProvider where
  createdAt := 0
  limits := limits
  maximumBytes := length
  maximumInteractions := 1
  reservation := some bytes
  state := TranscriptState.empty

variable {limits : DependencyLimits} {length : Nat}

omit [Primitives] in
theorem room_of_validate (valid : limits.validate = .ok ()) :
    0 < limits.sessions ∧ 0 < limits.activeOperations ∧ 0 < limits.interactionsPerOperation ∧
      limits.candidateBytes.toNat ≤ 8388608 := by
  simp only [DependencyLimits.validate, validatePositive, bind_eq_ok, rejectIf_eq_ok, not_or,
    List.mem_cons, List.not_mem_nil, not_false_eq_true, and_true, gt_iff_lt, UInt64.not_lt] at valid
  obtain ⟨_, ⟨_, -, active, -, -, -, -, interactions, -, -, sessions⟩, -, candidate, -⟩ := valid
  exact ⟨UInt64.pos_iff_ne_zero.mpr fun zero => sessions zero.symm,
    UInt64.pos_iff_ne_zero.mpr fun zero => active zero.symm,
    UInt64.pos_iff_ne_zero.mpr fun zero => interactions zero.symm,
    UInt64.le_iff_toNat_le.mp candidate⟩

omit [Primitives] in
theorem openProvider_forOne (valid : limits.validate = .ok ()) (positive : 0 < length)
    (fits : length ≤ PoolSystem.transcriptBytes limits) :
    ∃ bytes counters, openProvider limits 0 1 length DependencyPoolState.empty =
      .ok (HttpTranscriptProvider.forOne limits length bytes) counters := by
  obtain ⟨sessions, active, interactions, candidate⟩ := room_of_validate valid
  have fits : length ≤ min _ (min _ _) := fits
  have small : length < 2 ^ 64 := by omega
  have size : (UInt64.ofNat length).toNat = length := UInt64.toNat_ofNat_of_lt' small
  have bounds : HttpTranscriptProvider.validateBounds 1 length = .ok () := by
    have most : DependencyLimits.v1.candidateBytes.toNat = 8388608 := rfl
    have count : DependencyLimits.v1.interactionsPerOperation.toNat = 1024 := rfl
    rw [HttpTranscriptProvider.validateBounds, most, count]
    exact rejectIf_of_not _ (by omega)
  have sum : checkedAdd 0 (UInt64.ofNat length) = some (UInt64.ofNat length) :=
    checkedAdd_eq_some.mpr (Nat.zero_add _)
  have few : ¬ (1 > limits.interactionsPerOperation ∨
      UInt64.ofNat length > limits.candidateBytes) := by
    rw [not_or, gt_iff_lt, gt_iff_lt, UInt64.not_lt, UInt64.not_lt, UInt64.le_iff_toNat_le,
      UInt64.le_iff_toNat_le, size]
    have one := UInt64.lt_iff_toNat_lt.mp interactions
    exact ⟨one, by omega⟩
  have room : ¬ (0 ≥ limits.sessions ∨ 0 ≥ limits.activeOperations ∨
      UInt64.ofNat length > limits.memoryBytes ∨ UInt64.ofNat length > limits.durableBytes) := by
    rw [not_or, not_or, not_or, ge_iff_le, ge_iff_le, UInt64.not_le, UInt64.not_le, gt_iff_lt,
      gt_iff_lt, UInt64.not_lt, UInt64.not_lt, UInt64.le_iff_toNat_le, UInt64.le_iff_toNat_le, size]
    exact ⟨sessions, active, by omega, by omega⟩
  have sized : okOr (uint64OfNat length) dependencyQuota = .ok (UInt64.ofNat length) :=
    (okOr_eq_ok _ _ _).mpr (uint64OfNat_eq_some.mpr size)
  have one : okOr (uint64OfNat 1) dependencyQuota = .ok 1 :=
    (okOr_eq_ok _ _ _).mpr (uint64OfNat_eq_some.mpr rfl)
  have reserved : DependencyPoolState.reserveOperation limits (UInt64.ofNat length)
      DependencyPoolState.empty =
        .ok () ⟨0, 0 + 1, UInt64.ofNat length, UInt64.ofNat length, 0 + 1⟩ := by
    have counted : okOr (checkedAdd 0 (UInt64.ofNat length)) dependencyQuota =
        .ok (UInt64.ofNat length) := (okOr_eq_ok _ _ _).mpr sum
    rw [DependencyPoolState.reserveOperation, Update.get_bind]
    apply (Update.attempt_bind_ok counted _ _).trans
    apply (Update.attempt_bind_ok counted _ _).trans
    exact Update.attempt_bind_ok (rejectIf_of_not _ room) _ _
  refine ⟨UInt64.ofNat length, ⟨0, 0 + 1, UInt64.ofNat length, UInt64.ofNat length, 0 + 1⟩, ?_⟩
  rw [openProvider, Update.attempt_bind_ok bounds, Update.attempt_bind_ok sized,
    Update.attempt_bind_ok one, Update.attempt_bind_ok (rejectIf_of_not _ few),
    Update.bind_of_ok reserved]
  rfl

theorem recordLocked_ofLength : recordLocked 1 length (RecordRequest.ofLength length)
    TranscriptState.empty = .ok () {
      bytes := 0 + (length + 0)
      interactions := [(RecordRequest.ofLength length).interaction]
      objects := ((∅ : OrderedMap ObjectId Bytes).insert (Sample.id 1)
        (List.replicate length 0)).insert (Sample.id 2) [] } := by
  have size : (RecordRequest.ofLength length).request.length = length := List.length_replicate
  refine recordLocked_eq_ok.mpr ⟨Nat.zero_lt_one, ?_, ⟨rfl, rfl, rfl, rfl⟩,
    TranscriptSample.ids_apart, Std.ExtTreeMap.not_mem_empty, Std.ExtTreeMap.not_mem_empty, ?_⟩
  · rw [size]
    exact (Nat.zero_add _).le
  · rw [size]
    rfl

namespace PoolSystem

/-- A provider, and a call that records. -/
def recordOne (length : Nat) : List PoolStep :=
  [.openProvider 0 1 length, .startCall 0 (.record (RecordRequest.ofLength length)),
    .advanceCall 0 0]

theorem records_recordOne (valid : limits.validate = .ok ()) (positive : 0 < length)
    (fits : length ≤ transcriptBytes limits) :
    ((initial limits).run (recordOne length)).Records 0 (RecordRequest.ofLength length) := by
  obtain ⟨bytes, counters, opened⟩ := openProvider_forOne valid positive fits
  have there : (PoolStep.next (initial limits) (.openProvider 0 1 length)).providers[0]? =
      some (HttpTranscriptProvider.forOne limits length bytes) := by
    rw [PoolStep.next]
    have ran : openProvider (initial limits).limits 0 1 length (initial limits).counters = _ :=
      opened
    rw [ran]
    exact (OrderedMap.getElem?_insert _ _ _ _).trans (if_pos rfl)
  have number : (PoolStep.next (initial limits) (.openProvider 0 1 length)).begun = 0 := by
    rw [PoolStep.next]
    cases openProvider (initial limits).limits 0 1 length (initial limits).counters <;> rfl
  have active : (HttpTranscriptProvider.forOne limits length bytes).inactive 0 = false := by
    rw [HttpTranscriptProvider.inactive, HttpTranscriptProvider.expired]
    show (false || decide (0 - 0 > limits.cursorLifetimeMs.toNat * 1000000)) = false
    rw [Bool.false_or]
    exact decide_eq_false (Nat.not_lt.mpr (Nat.zero_le _))
  have sized : requireObjectSizes (RecordRequest.ofLength length) = .ok () := by
    have size : (RecordRequest.ofLength length).request.length = length := List.length_replicate
    have most : DependencyLimits.v1.objectBytes.toNat = 8388608 := rfl
    rw [requireObjectSizes, size, most]
    have candidate := (room_of_validate valid).2.2.2
    have fits : length ≤ min _ (min _ _) := fits
    exact rejectIf_of_not _ (not_or.mpr ⟨by omega, Nat.not_lt.mpr (Nat.zero_le _)⟩)
  have started := callAt_start there (.record (RecordRequest.ofLength length))
  rw [number] at started
  obtain ⟨checked, -⟩ := @started.advance _ _ _ _ _ _ 0
    (some (.recordLocked (RecordRequest.ofLength length)))
    (HttpTranscriptProvider.forOne limits length bytes) fun pool => by
      rw [CallPhase.step, if_neg (by rw [active]; exact Bool.false_ne_true), sized]
      exact ⟨rfl, rfl⟩
  exact ⟨0, _, _, checked.call, checked.provider, recordLocked_ofLength⟩

end PoolSystem

end Backend

open PoolSystem

variable [Primitives]

/-- The object limit of a pool holds for every recording of every run exactly when the limits
leave no transcript more bytes than an object may have. -/
theorem pool_enforces_object_limit_iff {limits : DependencyLimits} {pool : PoolSystem}
    (built : PoolSystem.new limits = .ok pool) :
    pool.EnforcesObjectLimit ↔
      min limits.candidateBytes.toNat (min limits.memoryBytes.toNat limits.durableBytes.toNat) ≤
        limits.objectBytes.toNat := by
  simp only [PoolSystem.new, bind_eq_ok, pure_eq_ok] at built
  obtain ⟨_, valid, rfl⟩ := built
  constructor
  · intro enforces
    by_contra above
    have fits : limits.objectBytes.toNat + 1 ≤ transcriptBytes limits := not_le.mp above
    have records := records_recordOne valid (Nat.succ_pos _) fits
    obtain ⟨request, -⟩ := enforces _ _ _ records
    rw [RecordRequest.ofLength, List.length_replicate] at request
    exact Nat.not_succ_le_self _ request
  · intro below steps number request records
    obtain ⟨sent, received⟩ := (capped_run limits steps).length_le records
    exact ⟨sent.trans below, received.trans below⟩

omit [Primitives] in
theorem pool_enforces_object_limit_production :
    letI := Sample.marked
    (PoolSystem.initial DependencyLimits.v1).EnforcesObjectLimit := by
  let _ := Sample.marked
  have built : PoolSystem.new DependencyLimits.v1 =
      .ok (PoolSystem.initial DependencyLimits.v1) := by
    rw [PoolSystem.new, DependencyLimits.validate_v1]
    rfl
  exact (pool_enforces_object_limit_iff built).mpr (Nat.min_le_left _ _)

/-- Limits with objects of one byte. -/
def DependencyLimits.oneByte : DependencyLimits := { DependencyLimits.v1 with objectBytes := 1 }

omit [Primitives] in
/-- A pool for objects of one byte records two bytes as one object. -/
theorem not_enforcesObjectLimit_oneByte :
    letI := Sample.marked
    ¬ ∀ limits pool, PoolSystem.new limits = .ok pool → pool.EnforcesObjectLimit := by
  let _ := Sample.marked
  intro always
  have valid : DependencyLimits.oneByte.validate = .ok () := by decide
  have built : PoolSystem.new DependencyLimits.oneByte =
      .ok (PoolSystem.initial DependencyLimits.oneByte) := by
    rw [PoolSystem.new, valid]
    rfl
  have fits : 2 ≤ transcriptBytes DependencyLimits.oneByte := by decide
  have records := records_recordOne valid Nat.zero_lt_two fits
  obtain ⟨request, -⟩ := always _ _ built _ _ _ records
  exact absurd (show 2 ≤ 1 from request) (by decide)

end Reproit
