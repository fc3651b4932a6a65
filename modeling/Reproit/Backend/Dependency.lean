/-
# The recorder of dependency transcripts

A pool counts what its operations have reserved.  A provider records the transcript of
one operation: it holds a reservation of the pool until the transcript is closed or
discarded, or until a call finds that its time is over.  The transcript, the
reservation and the counters are under locks of their own, and a call takes one after
the other.
-/

import Reproit.Backend.DependencyTranscript

namespace Reproit.Backend

def dependencyQuota : Error :=
  .new .runtimeQuota "The dependency transcript capture bound is full."

/-! ## The counters of a pool -/

/-- A difference that stops at zero. -/
def saturatingSub (first second : UInt64) : UInt64 :=
  if second ≤ first then first - second else 0

structure DependencyPoolState where
  activeCloseRequests : UInt64
  activeOperations : UInt64
  durableBytes : UInt64
  memoryBytes : UInt64
  sessions : UInt64

namespace DependencyPoolState

/-- Nothing is reserved. -/
def empty : DependencyPoolState where
  activeCloseRequests := 0
  activeOperations := 0
  durableBytes := 0
  memoryBytes := 0
  sessions := 0

/-- Reserve an operation with its bytes. -/
def reserveOperation (limits : DependencyLimits) (bytes : UInt64) :
    Update Error DependencyPoolState Unit := do
  let state ← get
  let memoryBytes ← Update.attempt (okOr (checkedAdd state.memoryBytes bytes) dependencyQuota)
  let durableBytes ← Update.attempt (okOr (checkedAdd state.durableBytes bytes) dependencyQuota)
  Update.attempt (rejectIf (state.sessions ≥ limits.sessions ∨
    state.activeOperations ≥ limits.activeOperations ∨ memoryBytes > limits.memoryBytes ∨
    durableBytes > limits.durableBytes) dependencyQuota)
  set { state with
    activeOperations := state.activeOperations + 1
    durableBytes := durableBytes
    memoryBytes := memoryBytes
    sessions := state.sessions + 1 }

/-- The destructor of an operation's reservation. -/
def dropOperation (bytes : UInt64) (state : DependencyPoolState) : DependencyPoolState :=
  { state with
    activeOperations := saturatingSub state.activeOperations 1
    durableBytes := saturatingSub state.durableBytes bytes
    memoryBytes := saturatingSub state.memoryBytes bytes
    sessions := saturatingSub state.sessions 1 }

def reserveClose (limits : DependencyLimits) : Update Error DependencyPoolState Unit := do
  let state ← get
  Update.attempt (rejectIf (state.activeCloseRequests ≥ limits.concurrentCloseRequests)
    dependencyQuota)
  set { state with activeCloseRequests := state.activeCloseRequests + 1 }

/-- The destructor of a close reservation. -/
def dropClose (state : DependencyPoolState) : DependencyPoolState :=
  { state with activeCloseRequests := saturatingSub state.activeCloseRequests 1 }

end DependencyPoolState

/-! ## The transcript of a provider -/

structure TranscriptState where
  bytes : Nat
  interactions : List TranscriptInteraction
  objects : OrderedMap ObjectId Bytes

namespace TranscriptState

def empty : TranscriptState where
  bytes := 0
  interactions := []
  objects := ∅

end TranscriptState

/-- What a call asks to record. -/
structure RecordRequest where
  interaction : TranscriptInteraction
  request : Bytes
  response : Bytes

/-- A provider with the bounds it was opened with. Times are in nanoseconds. -/
structure HttpTranscriptProvider where
  createdAt : Nat
  limits : DependencyLimits
  maximumBytes : Nat
  maximumInteractions : Nat
  reservation : Option UInt64
  state : TranscriptState

namespace HttpTranscriptProvider

def validateBounds (maximumInteractions maximumBytes : Nat) : Result Unit :=
  rejectIf (maximumInteractions = 0 ∨
    maximumInteractions > DependencyLimits.v1.interactionsPerOperation.toNat ∨
    maximumBytes = 0 ∨ maximumBytes > DependencyLimits.v1.candidateBytes.toNat) .schemaInvalid

/-- The lifetime of the provider is over. A clock that went back counts as no time. -/
def expired (provider : HttpTranscriptProvider) (now : Nat) : Bool :=
  now - provider.createdAt > provider.limits.cursorLifetimeMs.toNat * 1000000

/-- The provider may not record any more. -/
def inactive (provider : HttpTranscriptProvider) (now : Nat) : Bool :=
  provider.reservation.isNone || provider.expired now

end HttpTranscriptProvider

/-- Check the sizes of what is to be recorded. -/
def requireObjectSizes (record : RecordRequest) : Result Unit :=
  rejectIf (record.request.length > DependencyLimits.v1.objectBytes.toNat ∨
    record.response.length > DependencyLimits.v1.objectBytes.toNat) dependencyQuota

variable [Primitives]

/-- What a recording does under the lock of the transcript. Its sizes were checked, so the
sums are in range. -/
def recordLocked (maximumInteractions maximumBytes : Nat) (record : RecordRequest) :
    Update Error TranscriptState Unit := do
  let state ← get
  let interaction := record.interaction
  let nextSequence ← Update.attempt (okOr (uint16OfNat state.interactions.length) .schemaInvalid)
  let addedBytes := record.request.length + record.response.length
  Update.attempt (rejectIf (state.interactions.length ≥ maximumInteractions ∨
    state.bytes + addedBytes > maximumBytes) dependencyQuota)
  Update.attempt (rejectIf (interaction.sequence ≠ nextSequence ∨
    interaction.sessionPosition ≠ nextSequence.toUInt64 ∨
    interaction.requestDigest ≠ Digest.of record.request ∨
    interaction.responseDigest ≠ Digest.of record.response ∨
    interaction.requestObjectId = interaction.responseObjectId ∨
    interaction.requestObjectId ∈ state.objects ∨ interaction.responseObjectId ∈ state.objects)
    dependencyMismatch)
  set { state with
    bytes := state.bytes + addedBytes
    interactions := state.interactions ++ [interaction]
    objects := (state.objects.insert interaction.requestObjectId record.request).insert
      interaction.responseObjectId record.response }

/-- What a closing does under the lock of the transcript: the transcript is taken, or lost
when it is not one of the operation. -/
def closeLocked (operationId : OperationId) :
    Update Error TranscriptState ClosedDependencyTranscript := do
  let state ← get
  match verifyDependencyTranscript operationId state.interactions state.objects with
  | .ok () =>
      set TranscriptState.empty
      return { interactions := state.interactions, objects := state.objects }
  | .error error =>
      set TranscriptState.empty
      throw error

/-! ## A provider and its pool -/

/-- A provider and the counters of its pool. -/
structure Session where
  pool : DependencyPoolState
  provider : HttpTranscriptProvider

omit [Primitives] in
/-- Open a provider of a pool. -/
def openProvider (limits : DependencyLimits) (now maximumInteractions maximumBytes : Nat) :
    Update Error DependencyPoolState HttpTranscriptProvider := do
  Update.attempt (HttpTranscriptProvider.validateBounds maximumInteractions maximumBytes)
  let bytes ← Update.attempt (okOr (uint64OfNat maximumBytes) dependencyQuota)
  let interactions ← Update.attempt (okOr (uint64OfNat maximumInteractions) dependencyQuota)
  Update.attempt (rejectIf (interactions > limits.interactionsPerOperation ∨
    bytes > limits.candidateBytes) dependencyQuota)
  DependencyPoolState.reserveOperation limits bytes
  return { createdAt := now, limits, maximumBytes, maximumInteractions, reservation := some bytes
           state := TranscriptState.empty }

namespace Session

omit [Primitives] in
/-- Run an update under the lock of the transcript. -/
def onTranscript {α : Type} (update : Update Error TranscriptState α) : Update Error Session α :=
  fun session =>
    match update session.provider.state with
    | .ok value state =>
        .ok value { session with provider := { session.provider with state } }
    | .error error state =>
        .error error { session with provider := { session.provider with state } }

omit [Primitives] in
/-- Give the reservation back, if the provider still has it. -/
def releaseOperation (session : Session) : Session :=
  match session.provider.reservation with
  | none => session
  | some bytes =>
      { pool := session.pool.dropOperation bytes
        provider := { session.provider with reservation := none } }

omit [Primitives] in
def discard (session : Session) : Session :=
  releaseOperation
    { session with provider := { session.provider with state := TranscriptState.empty } }

omit [Primitives] in
def requireActive (now : Nat) : Update Error Session Unit := do
  let session ← get
  if session.provider.inactive now then
    set session.releaseOperation
    throw dependencyQuota

def record (now : Nat) (request : RecordRequest) : Update Error Session Unit := do
  requireActive now
  Update.attempt (requireObjectSizes request)
  let session ← get
  onTranscript (recordLocked session.provider.maximumInteractions session.provider.maximumBytes
    request)

def close (now : Nat) (operationId : OperationId) :
    Update Error Session ClosedDependencyTranscript := do
  let session ← get
  match DependencyPoolState.reserveClose session.provider.limits session.pool with
  | .error error pool =>
      set (Session.discard { session with pool })
      throw error
  | .ok () pool =>
      if session.provider.expired now then
        set (Session.discard { session with pool := pool.dropClose })
        throw dependencyQuota
      set { session with pool }
      Update.followedBy (onTranscript (closeLocked operationId)) do
        let session ← get
        set (Session.releaseOperation { session with pool := session.pool.dropClose })

variable {session : Session} {now : Nat}

omit [Primitives] in
/-- An inactive provider is refused, and gives its reservation back. -/
theorem requireActive_of_inactive (inactive : session.provider.inactive now = true) :
    requireActive now session = .error dependencyQuota session.releaseOperation := by
  rw [requireActive, Update.get_bind, if_pos inactive]
  rfl

omit [Primitives] in
theorem requireActive_of_active (active : session.provider.inactive now = false) :
    requireActive now session = .ok () session := by
  rw [requireActive, Update.get_bind, active]
  rfl

omit [Primitives] in
/-- Giving the reservation back changes nothing else of the provider. -/
theorem releaseOperation_provider (session : Session) :
    session.releaseOperation.provider = { session.provider with reservation := none } := by
  obtain ⟨pool, ⟨createdAt, limits, maximumBytes, maximumInteractions, reservation, state⟩⟩ := session
  cases reservation with
  | none => rfl
  | some bytes => rfl

end Session

omit [Primitives] in
theorem openProvider_eq_ok {limits : DependencyLimits}
    {now maximumInteractions maximumBytes : Nat} {provider : HttpTranscriptProvider}
    {before after : DependencyPoolState}
    (opened : openProvider limits now maximumInteractions maximumBytes before =
      .ok provider after) :
    HttpTranscriptProvider.validateBounds maximumInteractions maximumBytes = .ok () ∧
      ∃ bytes, uint64OfNat maximumBytes = some bytes ∧
        DependencyPoolState.reserveOperation limits bytes before = .ok () after ∧
        provider = { createdAt := now, limits, maximumBytes, maximumInteractions
                     reservation := some bytes, state := TranscriptState.empty } := by
  simp only [openProvider, Update.bind_eq_ok, Update.attempt_eq_ok, okOr_eq_ok] at opened
  obtain ⟨_, _, ⟨bounds, rfl⟩, bytes, _, ⟨size, rfl⟩, _, _, ⟨_, rfl⟩, _, _, ⟨_, rfl⟩, _, _,
    reserved, returned⟩ := opened
  cases returned
  exact ⟨bounds, bytes, size, reserved, rfl⟩

end Reproit.Backend
