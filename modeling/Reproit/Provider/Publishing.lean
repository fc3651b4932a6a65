/-
# Published checkpoints stay recoverable

A checkpoint is stored under its digest in the history directory, which is written without
the lock of the provider: publishers can meet each other at every step, and one that fails
leaves what it has written.  Whatever the publishers, the clients of the provider and its
restarts do, a checkpoint whose point was returned stays in place with its whole content,
unless two published contents have one digest.
-/

import Reproit.Provider.CheckpointSample
import Reproit.Provider.ExecutedWorld

namespace Reproit

open Backend

namespace Backend

/-! ## Points -/

/-- What a point digest covers. -/
structure PointIdentity where
  artifactDigest : Digest
  configurationDigest : Digest
  generation : UInt64
  providerId : String
  publishedAt : Timestamp
  recoverableUntil : Timestamp

def PointIdentity.codec : Codec PointIdentity :=
  .record
    (.required "artifact_digest" Digest.codec <|
      .required "configuration_digest" Digest.codec <| .required "generation" .uint64 <|
      .required "provider_id" .string <| .required "published_at" Timestamp.codec <|
      .required "recoverable_until" Timestamp.codec .done)
    (fun r => (r.artifactDigest, r.configurationDigest, r.generation, r.providerId,
      r.publishedAt, r.recoverableUntil, ()))
    (fun (artifactDigest, configurationDigest, generation, providerId, publishedAt,
      recoverableUntil, ()) =>
      { artifactDigest, configurationDigest, generation, providerId, publishedAt,
        recoverableUntil })
    (fun _ => rfl) (by decide)

instance : Document PointIdentity := ⟨PointIdentity.codec, by decide⟩

theorem PointIdentity.exact {identity : PointIdentity}
    (small : identity.generation.toNat ≤ Json.maxExactInteger) : Document.Exact identity := by
  change PointIdentity.codec.exact identity = true
  simp [PointIdentity.codec, Digest.codec, Timestamp.codec, small]

/-- What a publisher asks for. -/
structure PublishRequest where
  generation : UInt64
  publishedAt : Timestamp
  recoverableUntil : Timestamp
  source : Path

variable [Primitives]

/-- The point of a checkpoint that is stored. -/
def publishedPoint (provider : FileCheckpointProvider) (request : PublishRequest)
    (bytes : Bytes) : Result RecoverablePoint := do
  let artifactDigest := Digest.of bytes
  let pointDigest ← Canonical.digest ({
    artifactDigest
    configurationDigest := provider.configurationDigest
    generation := request.generation
    providerId := provider.config.providerId
    publishedAt := request.publishedAt
    recoverableUntil := request.recoverableUntil } : PointIdentity)
  let size ← okOr (uint64OfNat bytes.length) .schemaInvalid
  return {
    artifacts := (∅ : OrderedMap _ _).insert artifactDigest size
    capabilities := ["checkpoint.file"]
    configurationDigest := provider.configurationDigest
    engineIdentity := provider.config.engineIdentity
    engineVersion := provider.config.engineVersion
    generation := request.generation
    pointDigest
    providerId := provider.config.providerId
    publishedAt := request.publishedAt
    recoverableUntil := request.recoverableUntil
    resourceClaim := {
      materializedBytes := size, objects := 1, pinnedBytes := size, temporaryBytes := size }
    scope := .full }

/-! ## Publishing -/

omit [Primitives] in
/-- Check the request and read its source. -/
def publishRead (faults : Faults) (request : PublishRequest) : CheckpointUpdate Bytes := do
  Update.attempt (rejectIf (request.generation = 0 ∨
    request.publishedAt > request.recoverableUntil) .schemaInvalid)
  let state ← get
  Update.attempt (readCheckpoint faults request.source
    state.provider.config.maximumCheckpointBytes state.disk)

/-- An artifact that is there must hold what is published. -/
def publishCompare (faults : Faults) (bytes : Bytes) : CheckpointUpdate Unit := do
  let state ← get
  let stored ← Update.attempt (readCheckpoint faults
    (artifactPath state.provider.config (Digest.of bytes))
    state.provider.config.maximumCheckpointBytes state.disk)
  Update.attempt (rejectIf (stored ≠ bytes) .objectDigestMismatch)

/-- Compare the artifact, or write it where nothing is. -/
def publishStore (faults : Faults) (bytes : Bytes) : CheckpointUpdate Unit := do
  let state ← get
  let artifact := artifactPath state.provider.config (Digest.of bytes)
  if (state.disk artifact).isSome then publishCompare faults bytes
  else do
    let (written, disk) := writeFile faults artifact bytes unavailable state.disk
    set { state with disk }
    Update.attempt written

/-- The point of what is stored. -/
def publishReturn (request : PublishRequest) (bytes : Bytes) :
    CheckpointUpdate RecoverablePoint := do
  let state ← get
  Update.attempt (publishedPoint state.provider request bytes)

def publish (faults : Faults) (request : PublishRequest) : CheckpointUpdate RecoverablePoint := do
  let bytes ← publishRead faults request
  publishStore faults bytes
  publishReturn request bytes

/-! ## Publishers beside the clients of the provider -/

/-- Where a publisher is. While it writes, the first bytes of its content are stored. -/
inductive PublishPhase
  | stopped
  | reading (request : PublishRequest)
  | probing (request : PublishRequest) (bytes : Bytes)
  | comparing (request : PublishRequest) (bytes : Bytes)
  | creating (request : PublishRequest) (bytes : Bytes)
  | writing (request : PublishRequest) (bytes : Bytes) (stored : Nat)

/-- The provider, its publishers, and the files that releases are about to remove. The contents
that were read and the points that were returned are kept beside them. -/
structure PublishState where
  checkpoint : CheckpointState
  phase : Nat → PublishPhase
  removing : List Path
  contents : List Bytes
  points : List (Bytes × RecoverablePoint)

namespace PublishState

omit [Primitives] in
/-- The publisher is in a new phase. -/
def advance (state : PublishState) (caller : Nat) (phase : PublishPhase) : PublishState :=
  { state with phase := Function.update state.phase caller phase }

omit [Primitives] in
@[simp]
theorem advance_checkpoint (state : PublishState) (caller : Nat) (phase : PublishPhase) :
    (state.advance caller phase).checkpoint = state.checkpoint := rfl

omit [Primitives] in
@[simp]
theorem advance_phase (state : PublishState) (caller : Nat) (phase : PublishPhase) :
    (state.advance caller phase).phase caller = phase :=
  Function.update_self _ _ _

omit [Primitives] in
theorem advance_phase_of_ne (state : PublishState) {caller other : Nat}
    (different : other ≠ caller) (phase : PublishPhase) : (state.advance caller phase).phase other = state.phase other :=
  Function.update_of_ne different _ _

omit [Primitives] in
@[simp]
theorem advance_contents (state : PublishState) (caller : Nat) (phase : PublishPhase) :
    (state.advance caller phase).contents = state.contents := rfl

omit [Primitives] in
@[simp]
theorem advance_points (state : PublishState) (caller : Nat) (phase : PublishPhase) :
    (state.advance caller phase).points = state.points := rfl

omit [Primitives] in
@[simp]
theorem advance_advance (state : PublishState) (caller : Nat) (first second : PublishPhase) :
    (state.advance caller first).advance caller second = state.advance caller second := by
  simp only [advance, Function.update_idem]

omit [Primitives] in
def setDisk (state : PublishState) (disk : Disk) : PublishState :=
  { state with checkpoint := { state.checkpoint with disk } }

omit [Primitives] in
/-- The publisher is done and returns the point of its content, or an error. -/
def answer (state : PublishState) (caller : Nat) (bytes : Bytes) :
    Result RecoverablePoint → PublishState
  | .ok point => { state.advance caller .stopped with points := (bytes, point) :: state.points }
  | .error _ => state.advance caller .stopped

/-- The artifact is stored: the publisher returns its point, when it has one. -/
def finish (state : PublishState) (caller : Nat) (request : PublishRequest) (bytes : Bytes) :
    PublishState :=
  state.answer caller bytes (publishedPoint state.checkpoint.provider request bytes)

/-- The stored file of a content. -/
def artifact (state : PublishState) (bytes : Bytes) : Path :=
  artifactPath state.checkpoint.provider.config (Digest.of bytes)

/-- A publisher that writes stores some more bytes, or fails and leaves what there is. -/
def write (faults : Faults) (count : Nat) (state : PublishState) (caller : Nat)
    (request : PublishRequest) (bytes : Bytes) (stored : Nat) : PublishState :=
  match faults.write (state.artifact bytes) with
  | some _ => state.advance caller .stopped
  | none =>
      let more := min bytes.length (stored + count)
      let written := state.setDisk
        (state.checkpoint.disk.set (state.artifact bytes) (some (.file (bytes.take more))))
      if more = bytes.length then written.finish caller request bytes
      else written.advance caller (.writing request bytes more)

/-- A publisher goes on by one step. -/
def publisherStep (faults : Faults) (count : Nat) (state : PublishState) (caller : Nat) :
    PublishState :=
  match state.phase caller with
  | .stopped => state
  | .reading request =>
      match publishRead faults request state.checkpoint with
      | .ok bytes _ =>
          { state.advance caller (.probing request bytes) with contents := bytes :: state.contents }
      | .error _ _ => state.advance caller .stopped
  | .probing request bytes =>
      if (state.checkpoint.disk (state.artifact bytes)).isSome then
        state.advance caller (.comparing request bytes)
      else state.advance caller (.creating request bytes)
  | .comparing request bytes =>
      match publishCompare faults bytes state.checkpoint with
      | .ok () _ => state.finish caller request bytes
      | .error _ _ => state.advance caller .stopped
  | .creating request bytes =>
      match writeFile faults (state.artifact bytes) [] unavailable state.checkpoint.disk with
      | (.ok (), disk) => (state.setDisk disk).advance caller (.writing request bytes 0)
      | (.error _, disk) => (state.setDisk disk).advance caller .stopped
  | .writing request bytes stored => state.write faults count caller request bytes stored

end PublishState

/-- What happens to the provider: a publisher is called or goes on, a client pins, verifies a
pin, materializes, verifies or releases, a released file is removed, something changes outside
the history, or the provider ends and is opened again. -/
inductive PublishStep
  | call (caller : Nat) (request : PublishRequest)
  | publisher (caller : Nat) (faults : Faults) (count : Nat)
  | pinLocked (point : RecoverablePoint) (captureId : CaptureId) (worldId : Digest)
  | pinVerify (faults : Faults) (progress : PinProgress)
  | materialize (faults : Faults) (lease : ProviderLease) (executionId : ExecutionId)
      (targetReference : String)
  | verify (faults : Faults) (lease : ProviderLease) (materialization : ProviderMaterialization)
  | release (lease : ProviderLease)
  | remove (faults : Faults) (path : Path)
  | outside (path : Path) (node : Option Node)
  | restart

namespace PublishState

omit [Primitives] in
def setCheckpoint (state : PublishState) (checkpoint : CheckpointState) : PublishState :=
  { state with checkpoint }

omit [Primitives] in
/-- The provider is opened again: the leases and the publishers are gone, and so is everything
below the workspace. -/
def restart (state : PublishState) : PublishState where
  checkpoint := {
    provider := { state.checkpoint.provider with leases := ∅ }
    disk := fun path =>
      if path.Beneath state.checkpoint.provider.config.workspaceRoot then none
      else state.checkpoint.disk path }
  phase _ := .stopped
  removing := []
  contents := state.contents
  points := state.points

def next (state : PublishState) : PublishStep → PublishState
  | .call caller request =>
      match state.phase caller with
      | .stopped => state.advance caller (.reading request)
      | _ => state
  | .publisher caller faults count => state.publisherStep faults count caller
  | .pinLocked point captureId worldId =>
      state.setCheckpoint (Update.state (Backend.pinLocked point captureId worldId
        state.checkpoint))
  | .pinVerify faults progress =>
      state.setCheckpoint (Update.state (Backend.pinVerify faults progress state.checkpoint))
  | .materialize faults lease executionId targetReference =>
      state.setCheckpoint (Update.state (Backend.materialize faults lease executionId
        targetReference state.checkpoint))
  | .verify faults lease materialization =>
      state.setCheckpoint (Update.state (Backend.verify faults lease materialization
        state.checkpoint))
  | .release lease =>
      match releaseLocked lease state.checkpoint with
      | .ok targets after =>
          { state.setCheckpoint after with removing := state.removing ++ targets }
      | .error _ after => state.setCheckpoint after
  | .remove faults path =>
      if path ∈ state.removing then
        { state.setDisk (removeFile faults path unavailable state.checkpoint.disk).2 with
          removing := state.removing.erase path }
      else state
  | .outside path node =>
      if path.parent = some state.checkpoint.provider.config.historyRoot then state
      else state.setDisk (state.checkpoint.disk.set path node)
  | .restart => state.restart

/-- Nothing was published yet. -/
def initial (provider : FileCheckpointProvider) (disk : Disk) : PublishState where
  checkpoint := ⟨provider, disk⟩
  phase _ := .stopped
  removing := []
  contents := []
  points := []

/-- The state after all steps, in order. -/
def run (state : PublishState) (steps : List PublishStep) : PublishState :=
  steps.foldl next state

end PublishState

end Backend

variable [Primitives]

/-! ## What the clients of the provider leave alone -/

omit [Primitives] in
/-- A write changes one path at most. -/
theorem writeFile_of_ne (faults : Faults) {path other : Path} (content : Bytes)
    (unavailable : Error) (disk : Disk) (different : other ≠ path) :
    (writeFile faults path content unavailable disk).2 other = disk other := by
  unfold writeFile
  split
  · rfl
  · rfl
  · exact disk.set_of_ne different _
  · exact disk.set_of_ne different _

omit [Primitives] in
/-- Every file that was materialized for the lease is in the workspace. -/
def InWorkspace (config : FileCheckpointConfig) (active : ActiveLease) : Prop :=
  ∀ (owner : ExecutionId) (path : Path), active.executionTargets[owner]? = some path →
    path.parent = some config.workspaceRoot

/-- The provider is the same but for its leases, whose files stay in the workspace, and the
history is as it was. -/
structure Keeps (before after : CheckpointState) : Prop where
  provider : ∃ leases, after.provider = { before.provider with leases }
  history : ∀ path, path.parent = some before.provider.config.historyRoot →
    after.disk path = before.disk path
  targets : (∀ (id : LeaseId) active, before.provider.leases[id]? = some active →
      InWorkspace before.provider.config active) →
    ∀ (id : LeaseId) active, after.provider.leases[id]? = some active →
      InWorkspace before.provider.config active

section Keeping

variable {before : CheckpointState}

omit [Primitives] in
theorem Keeps.refl (state : CheckpointState) : Keeps state state :=
  ⟨⟨_, rfl⟩, fun _ _ => rfl, fun inside => inside⟩

omit [Primitives] in
theorem keeps_insert {id : LeaseId} {active : ActiveLease}
    (inside : InWorkspace before.provider.config active) : Keeps before (before.insert id active) := by
  refine ⟨⟨_, rfl⟩, fun _ _ => rfl, fun known other found present => ?_⟩
  change (before.provider.leases.insert id active)[other]? = some found at present
  rw [OrderedMap.getElem?_insert] at present
  split_ifs at present with same
  · exact Option.some.inj present ▸ inside
  · exact known other found present

omit [Primitives] in
theorem keeps_erase (id : LeaseId) : Keeps before (before.erase id) := by
  refine ⟨⟨_, rfl⟩, fun _ _ => rfl, fun known other found present => ?_⟩
  change (before.provider.leases.erase id)[other]? = some found at present
  rw [OrderedMap.getElem?_erase] at present
  split_ifs at present with same
  exact known other found present

theorem keeps_pinLocked (point : Backend.RecoverablePoint) (captureId : CaptureId)
    (worldId : Digest) : Keeps before (Update.state (pinLocked point captureId worldId before)) := by
  cases ran : pinLocked point captureId worldId before with
  | error error after =>
      rw [Update.state, pinLocked_atomic _ _ _ ran]
      exact .refl before
  | ok progress after =>
      obtain ⟨digest, id, -, -, -, found | inserted⟩ := pinLocked_eq_ok.mp ran
      · obtain ⟨_, _, _, _, rfl⟩ := found
        exact .refl _
      · obtain ⟨_, _, _, rfl⟩ := inserted
        apply keeps_insert
        intro owner path present
        simp [newEntry] at present

theorem keeps_pinVerify (faults : Faults) (progress : PinProgress) :
    Keeps before (Update.state (pinVerify faults progress before)) := by
  cases progress with
  | found lease => exact .refl before
  | inserted lease artifact digest =>
      rcases pinVerify_cases faults lease artifact digest before with same | same
      · rw [same]
        exact .refl before
      · rw [same]
        exact keeps_erase _

theorem keeps_verify (faults : Faults) (lease : ProviderLease)
    (materialization : ProviderMaterialization) :
    Keeps before (Update.state (verify faults lease materialization before)) := by
  rw [verify_readsOnly]
  exact .refl before

omit [Primitives] in
theorem keeps_write (apart : before.provider.config.historyRoot ≠
      before.provider.config.workspaceRoot) (faults : Faults) {target : Path}
    (inside : target.parent = some before.provider.config.workspaceRoot) (content : Bytes)
    (unavailable : Error) :
    Keeps before { before with
      disk := (writeFile faults target content unavailable before.disk).2 } := by
  refine ⟨⟨_, rfl⟩, fun path stored => ?_, fun known => known⟩
  apply writeFile_of_ne
  intro same
  rw [same, inside, Option.some.injEq] at stored
  exact apart stored.symm

theorem keeps_materialize (apart : before.provider.config.historyRoot ≠
      before.provider.config.workspaceRoot) (faults : Faults) (lease : ProviderLease)
    (executionId : ExecutionId) (targetReference : String) :
    Keeps before (Update.state (materialize faults lease executionId targetReference before)) := by
  have fails : Update.FailsIn (Keeps before)
      (materialize faults lease executionId targetReference) before := by
    have here : Keeps before before := .refl before
    rw [materialize]
    apply Update.FailsIn.get_bind
    apply Update.FailsIn.attempt_bind here
    intro _ checked
    rw [rejectIf_eq_ok, not_or, not_not, not_not] at checked
    apply Update.FailsIn.attempt_bind here
    intro active _
    apply Update.FailsIn.attempt_bind here
    intro _ _
    apply Update.FailsIn.attempt_bind here
    intro bytes _
    apply Update.FailsIn.attempt_bind here
    intro _ _
    apply Update.FailsIn.attempt_bind here
    intro parent _
    apply Update.FailsIn.attempt_bind here
    intro _ _
    apply Update.FailsIn.set_bind
    apply Update.FailsIn.attempt_bind (keeps_write apart faults checked.2 bytes unavailable)
    intro _ _
    apply Update.FailsIn.set_bind
    exact Update.FailsIn.pure _ _
  cases ran : materialize faults lease executionId targetReference before with
  | error error after => exact fails error after ran
  | ok materialization after =>
      obtain ⟨active, content, disk, -, inside, present, -, -, -, -, -, -, wrote, rfl, -⟩ :=
        materialize_eq_ok.mp ran
      have written := keeps_write apart faults inside content unavailable
      rw [wrote] at written
      refine ⟨⟨_, rfl⟩, written.history, fun known => ?_⟩
      let entry : ActiveLease := { active with
        executionTargets := active.executionTargets.insert executionId
          (Path.ofText targetReference) }
      have entered : InWorkspace before.provider.config entry := by
        intro owner path held
        change (active.executionTargets.insert executionId _)[owner]? = some path at held
        rw [OrderedMap.getElem?_insert] at held
        split_ifs at held with mine
        · rw [← Option.some.inj held]
          exact inside
        · exact known _ active present owner path held
      exact (@keeps_insert { before with disk } lease.leaseId entry entered).targets known

omit [Primitives] in
/-- The lease of a release is taken out of the table, and its files are named. -/
theorem releaseLocked_ok {lease : ProviderLease} {targets : List Path} {after : CheckpointState}
    (ran : releaseLocked lease before = .ok targets after) :
    ∃ active, before.provider.leases[lease.leaseId]? = some active ∧
      targets = active.executionTargets.toList.map Prod.snd ∧
      after = before.erase lease.leaseId := by
  rw [releaseLocked, Update.get_bind, Update.bind_eq_ok] at ran
  obtain ⟨active, between, found, rest⟩ := ran
  obtain ⟨present, rfl⟩ := Update.attempt_eq_ok.mp found
  obtain ⟨_, erased, first, checked⟩ := Update.bind_eq_ok.mp rest
  cases first
  obtain ⟨_, last, second, returned⟩ := Update.bind_eq_ok.mp checked
  obtain ⟨-, rfl⟩ := Update.attempt_eq_ok.mp second
  cases returned
  rw [okOr_eq_ok] at present
  exact ⟨active, present, rfl, rfl⟩

omit [Primitives] in
theorem keeps_releaseLocked {lease : ProviderLease} {error : Error} {after : CheckpointState}
    (ran : releaseLocked lease before = .error error after) : Keeps before after := by
  have fails : Update.FailsIn (Keeps before) (releaseLocked lease) before := by
    have here : Keeps before before := .refl before
    rw [releaseLocked]
    apply Update.FailsIn.get_bind
    apply Update.FailsIn.attempt_bind here
    intro active _
    apply Update.FailsIn.set_bind
    apply Update.FailsIn.attempt_bind (keeps_erase lease.leaseId)
    intro _ _
    exact Update.FailsIn.pure _ _
  exact fails error after ran

end Keeping

/-! ## The file of a digest -/

omit [Primitives] in
/-- The stored file of a digest; nothing but its directory and its name matters. -/
@[irreducible]
def storedAt (config : FileCheckpointConfig) (digest : Digest) : Path := artifactPath config digest

omit [Primitives] in
theorem storedAt_eq (config : FileCheckpointConfig) (digest : Digest) :
    storedAt config digest = artifactPath config digest := by
  rw [storedAt]

omit [Primitives] in
theorem parent_storedAt (config : FileCheckpointConfig) (digest : Digest) :
    (storedAt config digest).parent = some config.historyRoot := by
  rw [storedAt]
  exact Path.parent_join _ _

omit [Primitives] in
/-- Different digests have different files. -/
theorem storedAt_injective {config : FileCheckpointConfig} {first second : Digest}
    (same : storedAt config first = storedAt config second) : first = second := by
  rw [storedAt_eq, storedAt_eq] at same
  have components := congrArg Path.components same
  have names := List.append_cancel_left components
  have texts := String.ofList_injective (List.cons.inj names).1
  have digits := List.append_cancel_right texts
  have small : ∀ digest : Digest, (digest.number : Nat) < 16 ^ 64 := fun digest =>
    digest.number.isLt.trans_eq (by norm_num)
  have numbers := Radix.hexText_injective (small first) (small second) digits
  cases first
  cases second
  exact congrArg Digest.mk (Fin.ext numbers)

omit [Primitives] in
/-- What a publisher reads is of bounded size. -/
theorem publishRead_short {faults : Faults} {request : PublishRequest} {bytes : Bytes}
    {before after : CheckpointState} (ran : publishRead faults request before = .ok bytes after) :
    bytes.length ≤ before.provider.config.maximumCheckpointBytes.toNat := by
  rw [publishRead, Update.bind_eq_ok] at ran
  obtain ⟨_, between, first, second⟩ := ran
  obtain ⟨-, rfl⟩ := Update.attempt_eq_ok.mp first
  rw [Update.get_bind] at second
  obtain ⟨read, -⟩ := Update.attempt_eq_ok.mp second
  unfold readCheckpoint at read
  split at read
  · split_ifs at read with long
    rw [← Except.ok.inj read]
    exact not_lt.mp long
  · cases read

/-! ## Restarts -/

omit [Primitives] in
/-- What is directly in a directory is below another one only when the directory is. -/
theorem not_beneath_of_parent {path directory other : Path} (apart : ¬ directory.Beneath other)
    (different : directory ≠ other) (parent : path.parent = some directory) :
    ¬ path.Beneath other := by
  intro beneath
  obtain ⟨absolute, above, distinct⟩ := beneath
  rw [Path.parent] at parent
  split_ifs at parent with empty
  have same := Option.some.inj parent
  obtain ⟨last, rest⟩ : ∃ last, path.components.dropLast ++ [last] = path.components :=
    ⟨_, List.dropLast_append_getLast empty⟩
  rw [← rest] at above
  rcases List.prefix_concat_iff.mp above with whole | inner
  · apply distinct
    rw [rest] at whole
    cases path
    cases other
    exact congr (congrArg Backend.Path.mk absolute) whole.symm
  · apply apart
    rw [← same]
    exact ⟨absolute, inner, fun equal => different (same.symm.trans equal)⟩

/-! ## The invariant -/

omit [Primitives] in
/-- The content that a publisher works on. -/
def Backend.PublishPhase.content : PublishPhase → Option Bytes
  | .probing _ bytes | .comparing _ bytes | .creating _ bytes | .writing _ bytes _ => some bytes
  | .stopped | .reading _ => none

omit [Primitives] in
/-- The content that a publisher is writing. -/
def Backend.PublishPhase.written : PublishPhase → Option Bytes
  | .writing _ bytes _ => some bytes
  | _ => none

/-- Two of the contents are different and have one digest. -/
def Collides (contents : List Bytes) : Prop :=
  ∃ first ∈ contents, ∃ second ∈ contents,
    first ≠ second ∧ Digest.of first = Digest.of second

/-- What is written has one writer and is stored as far as it was written, and what a point was
returned for is stored whole. -/
structure PublishedStored (provider : FileCheckpointProvider) (state : PublishState) : Prop where
  configured : ∃ leases, state.checkpoint.provider = { provider with leases }
  targets : ∀ (id : LeaseId) active, state.checkpoint.provider.leases[id]? = some active →
    InWorkspace provider.config active
  removing : ∀ path ∈ state.removing, path.parent = some provider.config.workspaceRoot
  reads : ∀ caller bytes, (state.phase caller).content = some bytes → bytes ∈ state.contents
  short : ∀ bytes ∈ state.contents,
    bytes.length ≤ provider.config.maximumCheckpointBytes.toNat
  writes : ∀ caller request bytes stored, state.phase caller = .writing request bytes stored →
    state.checkpoint.disk (storedAt provider.config (Digest.of bytes)) =
      some (.file (bytes.take stored))
  single : ∀ first second bytes other, (state.phase first).written = some bytes →
    (state.phase second).written = some other → Digest.of bytes = Digest.of other →
      first = second
  points : ∀ entry ∈ state.points, entry.1 ∈ state.contents ∧
    state.checkpoint.disk (storedAt provider.config (Digest.of entry.1)) =
      some (.file entry.1) ∧
    ∃ request, publishedPoint provider request entry.1 = .ok entry.2

namespace PublishedStored

variable {provider : FileCheckpointProvider} {state : PublishState}

theorem config_eq (held : PublishedStored provider state) :
    state.checkpoint.provider.config = provider.config := by
  obtain ⟨leases, same⟩ := held.configured
  rw [same]

theorem artifact_eq (held : PublishedStored provider state) (bytes : Bytes) :
    state.artifact bytes = storedAt provider.config (Digest.of bytes) := by
  rw [PublishState.artifact, held.config_eq, storedAt_eq]

/-- The provider and the files outside the history go on. -/
theorem frame (held : PublishedStored provider state) {checkpoint : CheckpointState}
    (keeps : Keeps state.checkpoint checkpoint) {removing : List Path}
    (inside : ∀ path ∈ removing, path.parent = some provider.config.workspaceRoot) :
    PublishedStored provider { state with checkpoint, removing } := by
  have kept : ∀ digest, checkpoint.disk (storedAt provider.config digest) =
      state.checkpoint.disk (storedAt provider.config digest) := by
    intro digest
    apply keeps.history
    rw [held.config_eq]
    exact parent_storedAt _ _
  constructor
  case configured =>
    obtain ⟨leases, same⟩ := held.configured
    obtain ⟨others, after⟩ := keeps.provider
    exact ⟨others, by rw [after, same]⟩
  case targets =>
    have after := keeps.targets
    rw [held.config_eq] at after
    exact after held.targets
  case removing => exact inside
  case reads => exact held.reads
  case short => exact held.short
  case writes =>
    intro caller request bytes stored writes
    exact (kept _).trans (held.writes caller request bytes stored writes)
  case single => exact held.single
  case points =>
    intro entry listed
    obtain ⟨read, stored, returned⟩ := held.points entry listed
    exact ⟨read, (kept _).trans stored, returned⟩

/-- A publisher goes on without writing. -/
theorem advance (held : PublishedStored provider state) (caller : Nat) {phase : PublishPhase}
    (read : ∀ bytes, phase.content = some bytes → bytes ∈ state.contents)
    (idle : phase.written = none) : PublishedStored provider (state.advance caller phase) := by
  have mine := state.advance_phase caller phase
  have theirs : ∀ other, other ≠ caller →
      (state.advance caller phase).phase other = state.phase other :=
    fun other different => state.advance_phase_of_ne different phase
  have notMine : ∀ other bytes, ((state.advance caller phase).phase other).written = some bytes →
      other ≠ caller := by
    intro other bytes writes same
    rw [same, mine, idle] at writes
    cases writes
  constructor
  case configured => exact held.configured
  case targets => exact held.targets
  case removing => exact held.removing
  case reads =>
    intro other bytes works
    by_cases same : other = caller
    · rw [same, mine] at works
      exact read bytes works
    · rw [theirs other same] at works
      exact held.reads other bytes works
  case short => exact held.short
  case writes =>
    intro other request bytes stored writes
    have different := notMine other bytes (by rw [writes]; rfl)
    rw [theirs other different] at writes
    exact held.writes other request bytes stored writes
  case single =>
    intro first second bytes other firstWrites secondWrites same
    rw [theirs first (notMine first bytes firstWrites)] at firstWrites
    rw [theirs second (notMine second other secondWrites)] at secondWrites
    exact held.single first second bytes other firstWrites secondWrites same
  case points => exact held.points

theorem stop (held : PublishedStored provider state) (caller : Nat) :
    PublishedStored provider (state.advance caller .stopped) :=
  held.advance caller nofun rfl

/-- A publisher whose content is stored returns. -/
theorem finish (held : PublishedStored provider state) (caller : Nat) {request : PublishRequest}
    {bytes : Bytes} (read : bytes ∈ state.contents)
    (stored : state.checkpoint.disk (storedAt provider.config (Digest.of bytes)) =
      some (.file bytes)) : PublishedStored provider (state.finish caller request bytes) := by
  have stopped := held.stop caller
  have same : publishedPoint state.checkpoint.provider request bytes =
      publishedPoint provider request bytes := by
    obtain ⟨leases, same⟩ := held.configured
    rw [same]
    simp only [publishedPoint]
  rw [PublishState.finish, same]
  cases returned : publishedPoint provider request bytes with
  | error error => exact stopped
  | ok point =>
      refine ⟨stopped.configured, stopped.targets, stopped.removing, stopped.reads, stopped.short,
        stopped.writes, stopped.single, fun entry listed => ?_⟩
      rcases List.mem_cons.mp listed with here | later
      · rw [here]
        exact ⟨read, stored, request, returned⟩
      · exact held.points entry later

/-- The file of a content is written where nobody else writes, and it agrees with the points. -/
theorem store (held : PublishedStored provider state) {bytes content : Bytes}
    (alone : ∀ caller other, (state.phase caller).written = some other →
      Digest.of other ≠ Digest.of bytes)
    (agrees : ∀ entry ∈ state.points, Digest.of entry.1 = Digest.of bytes → content = entry.1) :
    PublishedStored provider (state.setDisk (state.checkpoint.disk.set
      (storedAt provider.config (Digest.of bytes)) (some (.file content)))) := by
  constructor
  case configured => exact held.configured
  case targets => exact held.targets
  case removing => exact held.removing
  case reads => exact held.reads
  case short => exact held.short
  case writes =>
    intro caller request other stored writes
    have different := alone caller other (congrArg PublishPhase.written writes)
    exact (Disk.set_of_ne _ (fun same => different (storedAt_injective same)) _).trans
      (held.writes caller request other stored writes)
  case single => exact held.single
  case points =>
    intro entry listed
    obtain ⟨read, stored, returned⟩ := held.points entry listed
    refine ⟨read, ?_, returned⟩
    by_cases same : Digest.of entry.1 = Digest.of bytes
    · change Disk.set _ _ _ (storedAt provider.config (Digest.of entry.1)) = _
      rw [same, Disk.set_self, agrees entry listed same]
    · exact (Disk.set_of_ne _ (fun paths => same (storedAt_injective paths)) _).trans stored

/-- A publisher writes where nobody else does. -/
theorem advanceWriting (held : PublishedStored provider state) {caller : Nat}
    {request : PublishRequest} {bytes : Bytes} {count : Nat} (read : bytes ∈ state.contents)
    (stored : state.checkpoint.disk (storedAt provider.config (Digest.of bytes)) =
      some (.file (bytes.take count)))
    (alone : ∀ other content, (state.phase other).written = some content →
      Digest.of content ≠ Digest.of bytes) :
    PublishedStored provider (state.advance caller (.writing request bytes count)) := by
  have mine := state.advance_phase caller (.writing request bytes count)
  have theirs : ∀ other, other ≠ caller →
      (state.advance caller (.writing request bytes count)).phase other = state.phase other :=
    fun other different => state.advance_phase_of_ne different _
  constructor
  case configured => exact held.configured
  case targets => exact held.targets
  case removing => exact held.removing
  case reads =>
    intro other content works
    by_cases same : other = caller
    · rw [same, mine] at works
      exact Option.some.inj works ▸ read
    · rw [theirs other same] at works
      exact held.reads other content works
  case short => exact held.short
  case writes =>
    intro other asked content written writes
    by_cases same : other = caller
    · rw [same, mine] at writes
      injection writes with _ sameBytes sameCount
      rw [← sameBytes, ← sameCount]
      exact stored
    · rw [theirs other same] at writes
      exact held.writes other asked content written writes
  case single =>
    intro first second content other firstWrites secondWrites same
    by_cases firstMine : first = caller
    · by_cases secondMine : second = caller
      · rw [firstMine, secondMine]
      · rw [firstMine, mine] at firstWrites
        rw [theirs second secondMine] at secondWrites
        obtain rfl := Option.some.inj firstWrites
        exact absurd same.symm (alone second other secondWrites)
    · by_cases secondMine : second = caller
      · rw [secondMine, mine] at secondWrites
        rw [theirs first firstMine] at firstWrites
        obtain rfl := Option.some.inj secondWrites
        exact absurd same (alone first content firstWrites)
      · rw [theirs first firstMine] at firstWrites
        rw [theirs second secondMine] at secondWrites
        exact held.single first second content other firstWrites secondWrites same
  case points => exact held.points

/-- A publisher that stops leaves its file to nobody else. -/
theorem alone_of_stopped (held : PublishedStored provider state) {caller : Nat} {bytes : Bytes}
    (written : (state.phase caller).written = some bytes) (other : Nat) (content : Bytes)
    (writes : ((state.advance caller .stopped).phase other).written = some content) :
    Digest.of content ≠ Digest.of bytes := by
  intro same
  by_cases mine : other = caller
  · rw [mine, state.advance_phase] at writes
    cases writes
  · rw [state.advance_phase_of_ne mine] at writes
    exact mine (held.single other caller content bytes writes written same)

theorem finish_advance (state : PublishState) (caller : Nat) (phase : PublishPhase)
    (request : PublishRequest) (bytes : Bytes) :
    (state.advance caller phase).finish caller request bytes =
      state.finish caller request bytes := by
  rw [PublishState.finish, PublishState.finish, state.advance_checkpoint]
  generalize publishedPoint state.checkpoint.provider request bytes = result
  cases result with
  | ok point =>
      rw [PublishState.answer, PublishState.answer, state.advance_advance]
      rfl
  | error error => exact state.advance_advance caller phase .stopped

/-- Storing more bytes of a content, when no other content has its digest. -/
theorem write (held : PublishedStored provider state) (distinct : ¬ Collides state.contents)
    (faults : Faults) (count : Nat) {caller : Nat} {request : PublishRequest} {bytes : Bytes}
    {stored : Nat} (writes : state.phase caller = .writing request bytes stored) :
    PublishedStored provider (state.write faults count caller request bytes stored) := by
  have written : (state.phase caller).written = some bytes := congrArg PublishPhase.written writes
  have read := held.reads caller bytes (congrArg PublishPhase.content writes)
  have here := held.writes caller request bytes stored writes
  have alone := held.alone_of_stopped written
  let more := min bytes.length (stored + count)
  have stops := held.stop caller
  have agrees : ∀ entry ∈ state.points, Digest.of entry.1 = Digest.of bytes →
      bytes.take more = entry.1 := by
    intro entry listed same
    obtain ⟨readToo, whole, -⟩ := held.points entry listed
    have one : entry.1 = bytes := by
      by_contra different
      exact distinct ⟨entry.1, readToo, bytes, read, different, same⟩
    rw [one, here, Option.some.injEq, Node.file.injEq] at whole
    have all : bytes.length ≤ stored := by
      have sizes := congrArg List.length whole
      rw [List.length_take] at sizes
      omega
    rw [one, List.take_of_length_le (le_min le_rfl (all.trans (Nat.le_add_right _ _)))]
  have filled := stops.store alone agrees
  rw [PublishState.write, held.artifact_eq]
  cases faults.write (storedAt provider.config (Digest.of bytes)) with
  | some fault => exact stops
  | none =>
      let disk := state.checkpoint.disk.set (storedAt provider.config (Digest.of bytes))
        (some (.file (bytes.take more)))
      have stopped : (state.advance caller .stopped).setDisk disk =
          (state.setDisk disk).advance caller .stopped := rfl
      change PublishedStored provider (if more = bytes.length
        then (state.setDisk disk).finish caller request bytes
        else (state.setDisk disk).advance caller (.writing request bytes more))
      by_cases full : more = bytes.length
      · rw [if_pos full, ← finish_advance _ caller .stopped]
        apply filled.finish caller read
        rw [full, List.take_length]
        exact Disk.set_self _ _ _
      · rw [if_neg full, ← PublishState.advance_advance _ caller .stopped]
        exact filled.advanceWriting read (Disk.set_self _ _ _) alone

/-- A content gets its file where nothing is. -/
theorem create (held : PublishedStored provider state) {bytes : Bytes}
    (missing : state.checkpoint.disk (storedAt provider.config (Digest.of bytes)) = none) :
    PublishedStored provider (state.setDisk (state.checkpoint.disk.set
      (storedAt provider.config (Digest.of bytes)) (some (.file [])))) ∧
    ∀ caller other, (state.phase caller).written = some other →
      Digest.of other ≠ Digest.of bytes := by
  have alone : ∀ caller other, (state.phase caller).written = some other →
      Digest.of other ≠ Digest.of bytes := by
    intro caller other writes same
    cases phase : state.phase caller with
    | writing request content stored =>
        rw [phase] at writes
        obtain rfl := Option.some.inj writes
        have there := held.writes caller request content stored phase
        rw [same, missing] at there
        cases there
    | _ =>
        rw [phase] at writes
        cases writes
  refine ⟨held.store alone fun entry listed same => ?_, alone⟩
  obtain ⟨-, there, -⟩ := held.points entry listed
  rw [same, missing] at there
  cases there

/-- A publisher has read its content. -/
theorem read (held : PublishedStored provider state) (caller : Nat) (request : PublishRequest)
    {bytes : Bytes} (short : bytes.length ≤ provider.config.maximumCheckpointBytes.toNat) :
    PublishedStored provider { state.advance caller (.probing request bytes) with
      contents := bytes :: state.contents } := by
  have grown : PublishedStored provider { state with contents := bytes :: state.contents } := by
    constructor
    case configured => exact held.configured
    case targets => exact held.targets
    case removing => exact held.removing
    case reads =>
      intro other content works
      exact List.mem_cons_of_mem _ (held.reads other content works)
    case short =>
      intro content listed
      rcases List.mem_cons.mp listed with here | later
      · rw [here]
        exact short
      · exact held.short content later
    case writes => exact held.writes
    case single => exact held.single
    case points =>
      intro entry listed
      obtain ⟨known, there⟩ := held.points entry listed
      exact ⟨List.mem_cons_of_mem _ known, there⟩
  apply grown.advance caller
  · intro content same
    rw [← Option.some.inj same]
    exact List.mem_cons_self
  · rfl

/-- What a publisher has compared is stored. -/
theorem compared (held : PublishedStored provider state) {faults : Faults} {bytes : Bytes}
    {done : Unit} {after : CheckpointState}
    (ran : publishCompare faults bytes state.checkpoint = .ok done after) :
    state.checkpoint.disk (storedAt provider.config (Digest.of bytes)) = some (.file bytes) := by
  rw [publishCompare, Update.get_bind, Update.bind_eq_ok] at ran
  obtain ⟨stored, between, first, second⟩ := ran
  obtain ⟨read, rfl⟩ := Update.attempt_eq_ok.mp first
  obtain ⟨same, -⟩ := Update.attempt_eq_ok.mp second
  rw [rejectIf_eq_ok, not_not] at same
  have there := readCheckpoint_eq_ok read
  rw [same, held.config_eq, ← storedAt_eq] at there
  exact there

/-- A publisher gets its file, or finds that it is there or cannot be written. -/
theorem creating (held : PublishedStored provider state) (faults : Faults) (caller : Nat)
    (request : PublishRequest) {bytes : Bytes} (known : bytes ∈ state.contents) :
    PublishedStored provider
      (match writeFile faults (state.artifact bytes) [] unavailable state.checkpoint.disk with
        | (.ok (), disk) => (state.setDisk disk).advance caller (.writing request bytes 0)
        | (.error _, disk) => (state.setDisk disk).advance caller .stopped) := by
  rw [held.artifact_eq, writeFile]
  cases faults.write (storedAt provider.config (Digest.of bytes)) with
  | some fault =>
      cases present : state.checkpoint.disk (storedAt provider.config (Digest.of bytes)) with
      | some node => cases fault <;> exact held.stop caller
      | none =>
          cases fault with
          | open' => exact held.stop caller
          | later => exact (held.create present).1.stop caller
  | none =>
      cases present : state.checkpoint.disk (storedAt provider.config (Digest.of bytes)) with
      | some node => exact held.stop caller
      | none =>
          obtain ⟨created, alone⟩ := held.create present
          exact created.advanceWriting known (Disk.set_self _ _ _) alone

/-- A publisher goes on. -/
theorem publisherStep (held : PublishedStored provider state)
    (distinct : ¬ Collides state.contents) (faults : Faults) (count : Nat) (caller : Nat) :
    PublishedStored provider (state.publisherStep faults count caller) := by
  rw [PublishState.publisherStep]
  cases phase : state.phase caller with
  | stopped => exact held
  | reading request =>
      dsimp only
      cases ran : publishRead faults request state.checkpoint with
      | error error after => exact held.stop caller
      | ok bytes after => exact held.read caller request (held.config_eq ▸ publishRead_short ran)
  | probing request bytes =>
      have read := held.reads caller bytes (congrArg PublishPhase.content phase)
      dsimp only
      split_ifs
      · exact held.advance caller (fun _ same => Option.some.inj same ▸ read) rfl
      · exact held.advance caller (fun _ same => Option.some.inj same ▸ read) rfl
  | comparing request bytes =>
      have read := held.reads caller bytes (congrArg PublishPhase.content phase)
      dsimp only
      cases ran : publishCompare faults bytes state.checkpoint with
      | error error after => exact held.stop caller
      | ok done after => exact held.finish caller read (held.compared ran)
  | creating request bytes =>
      exact held.creating faults caller request
        (held.reads caller bytes (congrArg PublishPhase.content phase))
  | writing request bytes stored => exact held.write distinct faults count phase

/-- The provider starts or ends with every published file in place: its workspace is not above
its history. -/
theorem restart (held : PublishedStored provider state)
    (apart : ¬ provider.config.historyRoot.Beneath provider.config.workspaceRoot)
    (different : provider.config.historyRoot ≠ provider.config.workspaceRoot) :
    PublishedStored provider state.restart := by
  have kept : ∀ digest, state.restart.checkpoint.disk (storedAt provider.config digest) =
      state.checkpoint.disk (storedAt provider.config digest) := by
    intro digest
    rw [PublishState.restart]
    dsimp only
    rw [held.config_eq, if_neg]
    exact not_beneath_of_parent apart different (parent_storedAt _ _)
  constructor
  case configured =>
    obtain ⟨leases, same⟩ := held.configured
    exact ⟨∅, by rw [PublishState.restart, same]⟩
  case targets =>
    intro id active present
    change (∅ : OrderedMap LeaseId ActiveLease)[id]? = some active at present
    simp at present
  case removing =>
    intro path listed
    cases listed
  case reads =>
    intro caller bytes works
    cases works
  case short => exact held.short
  case writes =>
    intro caller request bytes stored writes
    cases writes
  case single =>
    intro first second bytes other writes
    cases writes
  case points =>
    intro entry listed
    obtain ⟨read, stored, returned⟩ := held.points entry listed
    exact ⟨read, (kept _).trans stored, returned⟩

/-- A released file that is removed was in the workspace. -/
theorem remove (held : PublishedStored provider state)
    (different : provider.config.historyRoot ≠ provider.config.workspaceRoot) (faults : Faults)
    {path : Path} (listed : path ∈ state.removing) :
    PublishedStored provider { state.setDisk (removeFile faults path unavailable
      state.checkpoint.disk).2 with removing := state.removing.erase path } := by
  apply held.frame
  · refine ⟨⟨_, rfl⟩, fun other stored => ?_, fun known => known⟩
    apply removeFile_of_ne
    intro same
    rw [same, held.removing path listed, held.config_eq, Option.some.injEq] at stored
    exact different stored.symm
  · intro other still
    exact held.removing other (List.mem_of_mem_erase still)

/-- A released lease leaves files of the workspace to remove. -/
theorem release (held : PublishedStored provider state) (lease : ProviderLease) :
    PublishedStored provider (state.next (.release lease)) := by
  rw [PublishState.next]
  cases ran : releaseLocked lease state.checkpoint with
  | ok targets after =>
      obtain ⟨active, present, named, rfl⟩ := releaseLocked_ok ran
      apply held.frame (keeps_erase _)
      intro path listed
      rcases List.mem_append.mp listed with before | now
      · exact held.removing path before
      · rw [named, List.mem_map] at now
        obtain ⟨⟨owner, target⟩, entry, rfl⟩ := now
        exact held.targets _ active present owner target (OrderedMap.mem_toList.mp entry)
  | error error after => exact held.frame (keeps_releaseLocked ran) held.removing

/-- Every step keeps what was published, unless two contents have one digest. -/
theorem next (held : PublishedStored provider state)
    (apart : ¬ provider.config.historyRoot.Beneath provider.config.workspaceRoot)
    (different : provider.config.historyRoot ≠ provider.config.workspaceRoot)
    (distinct : ¬ Collides state.contents) (step : PublishStep) :
    PublishedStored provider (state.next step) := by
  have roots : state.checkpoint.provider.config.historyRoot ≠
      state.checkpoint.provider.config.workspaceRoot := by
    rw [held.config_eq]
    exact different
  cases step with
  | call caller request =>
      rw [PublishState.next]
      cases phase : state.phase caller with
      | stopped => exact held.advance caller nofun rfl
      | _ => exact held
  | publisher caller faults count => exact held.publisherStep distinct faults count caller
  | pinLocked point captureId worldId =>
      exact held.frame (keeps_pinLocked point captureId worldId) held.removing
  | pinVerify faults progress => exact held.frame (keeps_pinVerify faults progress) held.removing
  | materialize faults lease executionId targetReference =>
      exact held.frame (keeps_materialize roots faults lease executionId targetReference)
        held.removing
  | verify faults lease materialization =>
      exact held.frame (keeps_verify faults lease materialization) held.removing
  | release lease => exact held.release lease
  | remove faults path =>
      rw [PublishState.next]
      by_cases listed : path ∈ state.removing
      · rw [if_pos listed]
        exact held.remove different faults listed
      · rw [if_neg listed]
        exact held
  | outside path node =>
      rw [PublishState.next]
      by_cases history : path.parent = some state.checkpoint.provider.config.historyRoot
      · rw [if_pos history]
        exact held
      · rw [if_neg history]
        apply held.frame _ held.removing
        refine ⟨⟨_, rfl⟩, fun other stored => ?_, fun known => known⟩
        apply Disk.set_of_ne
        intro same
        exact history (same ▸ stored)
  | restart => exact held.restart apart different

theorem initial {config : FileCheckpointConfig}
    (opened : FileCheckpointProvider.open' config = .ok provider) (disk : Disk) :
    PublishedStored provider (.initial provider disk) := by
  constructor
  case configured => exact ⟨_, rfl⟩
  case targets =>
    intro id active present
    simp only [FileCheckpointProvider.open', bind_eq_ok, pure_eq_ok] at opened
    obtain ⟨_, _, _, _, rfl⟩ := opened
    change (∅ : OrderedMap LeaseId ActiveLease)[id]? = some active at present
    simp at present
  case removing =>
    intro path listed
    cases listed
  case reads =>
    intro caller bytes works
    cases works
  case short =>
    intro bytes listed
    cases listed
  case writes =>
    intro caller request bytes stored writes
    cases writes
  case single =>
    intro first second bytes other writes
    cases writes
  case points =>
    intro entry listed
    cases listed

end PublishedStored

/-! ## Runs -/

/-- What was read and what was returned is remembered. -/
structure Grows (before after : PublishState) : Prop where
  contents : before.contents ⊆ after.contents
  points : before.points ⊆ after.points

omit [Primitives] in
theorem Grows.refl (state : PublishState) : Grows state state :=
  ⟨List.Subset.refl _, List.Subset.refl _⟩

omit [Primitives] in
theorem Grows.trans {first second third : PublishState} (before : Grows first second)
    (after : Grows second third) : Grows first third :=
  ⟨List.Subset.trans before.contents after.contents,
    List.Subset.trans before.points after.points⟩

theorem grows_finish (state : PublishState) (caller : Nat) (request : PublishRequest)
    (bytes : Bytes) : Grows state (state.finish caller request bytes) := by
  rw [PublishState.finish]
  generalize publishedPoint state.checkpoint.provider request bytes = result
  cases result with
  | ok point => exact ⟨List.Subset.refl _, List.subset_cons_self _ _⟩
  | error error => exact ⟨List.Subset.refl _, List.Subset.refl _⟩

theorem grows_write (faults : Faults) (count : Nat) (state : PublishState) (caller : Nat)
    (request : PublishRequest) (bytes : Bytes) (stored : Nat) :
    Grows state (state.write faults count caller request bytes stored) := by
  rw [PublishState.write]
  cases faults.write (state.artifact bytes) with
  | some fault => exact ⟨List.Subset.refl _, List.Subset.refl _⟩
  | none =>
      dsimp only
      split_ifs
      · obtain ⟨contents, points⟩ := grows_finish (state.setDisk (state.checkpoint.disk.set
          (state.artifact bytes) (some (.file (bytes.take (min bytes.length (stored + count)))))))
          caller request bytes
        exact ⟨contents, points⟩
      · exact ⟨List.Subset.refl _, List.Subset.refl _⟩

theorem grows_publisherStep (faults : Faults) (count : Nat) (state : PublishState)
    (caller : Nat) : Grows state (state.publisherStep faults count caller) := by
  rw [PublishState.publisherStep]
  cases state.phase caller with
  | stopped => exact .refl state
  | reading request =>
      dsimp only
      cases publishRead faults request state.checkpoint with
      | ok bytes after => exact ⟨List.subset_cons_self _ _, List.Subset.refl _⟩
      | error error after => exact ⟨List.Subset.refl _, List.Subset.refl _⟩
  | probing request bytes =>
      dsimp only
      split_ifs
      · exact ⟨List.Subset.refl _, List.Subset.refl _⟩
      · exact ⟨List.Subset.refl _, List.Subset.refl _⟩
  | comparing request bytes =>
      dsimp only
      cases publishCompare faults bytes state.checkpoint with
      | ok done after => exact grows_finish state caller request bytes
      | error error after => exact ⟨List.Subset.refl _, List.Subset.refl _⟩
  | creating request bytes =>
      dsimp only
      generalize writeFile faults (state.artifact bytes) [] unavailable state.checkpoint.disk = wrote
      obtain ⟨result, disk⟩ := wrote
      cases result with
      | ok done => exact ⟨List.Subset.refl _, List.Subset.refl _⟩
      | error error => exact ⟨List.Subset.refl _, List.Subset.refl _⟩
  | writing request bytes stored => exact grows_write faults count state caller request bytes stored

theorem grows_next (state : PublishState) (step : PublishStep) :
    Grows state (state.next step) := by
  cases step with
  | publisher caller faults count => exact grows_publisherStep faults count state caller
  | call caller request =>
      rw [PublishState.next]
      cases state.phase caller <;> exact ⟨List.Subset.refl _, List.Subset.refl _⟩
  | release lease =>
      rw [PublishState.next]
      cases releaseLocked lease state.checkpoint <;>
        exact ⟨List.Subset.refl _, List.Subset.refl _⟩
  | remove faults path =>
      rw [PublishState.next]
      split_ifs <;> exact ⟨List.Subset.refl _, List.Subset.refl _⟩
  | outside path node =>
      rw [PublishState.next]
      split_ifs <;> exact ⟨List.Subset.refl _, List.Subset.refl _⟩
  | _ => exact ⟨List.Subset.refl _, List.Subset.refl _⟩

theorem grows_run (state : PublishState) (steps : List PublishStep) :
    Grows state (state.run steps) := by
  induction steps generalizing state with
  | nil => exact .refl state
  | cons step rest ih => exact (grows_next state step).trans (ih (state.next step))

theorem PublishState.run_append (state : PublishState) (first second : List PublishStep) :
    state.run (first ++ second) = (state.run first).run second :=
  List.foldl_append

theorem Collides.mono {contents more : List Bytes} (collides : Collides contents)
    (included : contents ⊆ more) : Collides more := by
  obtain ⟨first, firstKnown, second, secondKnown, apart⟩ := collides
  exact ⟨first, included firstKnown, second, included secondKnown, apart⟩

/-- Every run keeps what was published, unless two contents have one digest. -/
theorem PublishedStored.run {provider : FileCheckpointProvider} {state : PublishState}
    (held : PublishedStored provider state)
    (apart : ¬ provider.config.historyRoot.Beneath provider.config.workspaceRoot)
    (different : provider.config.historyRoot ≠ provider.config.workspaceRoot)
    (steps : List PublishStep) :
    Collides (state.run steps).contents ∨ PublishedStored provider (state.run steps) := by
  induction steps generalizing state with
  | nil => exact .inr held
  | cons step rest ih =>
      by_cases collides : Collides state.contents
      · exact .inl (collides.mono (grows_run state (step :: rest)).contents)
      · exact ih (held.next apart different collides step)

/-! ## A publisher that nobody meets -/

section Alone

variable {faults : Faults} {request : PublishRequest} {bytes : Bytes} {state : PublishState}
  {caller count : Nat}

omit [Primitives] in
theorem set_set (disk : Disk) (path : Path) (first second : Option Node) :
    (disk.set path first).set path second = disk.set path second := by
  simp only [Disk.set, Function.update_idem]

omit [Primitives] in
theorem readsOnly_publishRead (faults : Faults) (request : PublishRequest) :
    Update.ReadsOnly (publishRead faults request) := by
  apply Update.ReadsOnly.attempt_bind
  intro _
  apply Update.ReadsOnly.get_bind
  intro checkpoint before
  cases readCheckpoint faults request.source checkpoint.provider.config.maximumCheckpointBytes
    checkpoint.disk <;> rfl

theorem readsOnly_publishCompare (faults : Faults) (bytes : Bytes) :
    Update.ReadsOnly (publishCompare faults bytes) := by
  apply Update.ReadsOnly.get_bind
  intro checkpoint
  apply Update.ReadsOnly.attempt_bind
  intro stored before
  cases rejectIf (stored ≠ bytes) Error.objectDigestMismatch <;> rfl

/-- The publisher has done what a call of the function does. -/
def PublishAnswers (result : EStateM.Result Error CheckpointState Backend.RecoverablePoint)
    (contents : List Bytes) (points : List (Bytes × Backend.RecoverablePoint))
    (after : PublishState) : Prop :=
  after.checkpoint = Update.state result ∧ after.contents = contents ∧
    match result with
    | .ok point _ => ∃ bytes, after.points = (bytes, point) :: points
    | .error _ _ => after.points = points

/-- The publisher goes on and on. -/
def alone (faults : Faults) (count caller steps : Nat) (state : PublishState) : PublishState :=
  (fun state => state.publisherStep faults count caller)^[steps] state

theorem alone_stopped (stopped : state.phase caller = .stopped) (steps : Nat) :
    alone faults count caller steps state = state := by
  apply Function.iterate_fixed
  rw [PublishState.publisherStep, stopped]

theorem alone_succ (steps : Nat) : alone faults count caller (steps + 1) state =
    alone faults count caller steps (state.publisherStep faults count caller) := rfl

theorem finish_stopped (state : PublishState) (caller : Nat) (request : PublishRequest)
    (bytes : Bytes) : (state.finish caller request bytes).phase caller = .stopped := by
  rw [PublishState.finish]
  generalize publishedPoint state.checkpoint.provider request bytes = result
  cases result with
  | ok point => exact state.advance_phase caller .stopped
  | error error => exact state.advance_phase caller .stopped

/-- The end of a call whose artifact is stored. -/
theorem answers_finish (state : PublishState) (caller : Nat) (request : PublishRequest)
    (bytes : Bytes) :
    PublishAnswers (publishReturn request bytes state.checkpoint) state.contents state.points
      (state.finish caller request bytes) := by
  rw [PublishState.finish, publishReturn, Update.get_bind]
  generalize publishedPoint state.checkpoint.provider request bytes = result
  cases result with
  | ok point => exact ⟨rfl, rfl, bytes, rfl⟩
  | error error => exact ⟨rfl, rfl, rfl⟩

theorem answers_comparing (phase : state.phase caller = .comparing request bytes) (steps : Nat) :
    PublishAnswers ((publishCompare faults bytes >>= fun _ => publishReturn request bytes)
      state.checkpoint) state.contents state.points
      (alone faults count caller (steps + 1) state) := by
  rw [alone_succ, PublishState.publisherStep, phase]
  dsimp only
  have kept := readsOnly_publishCompare faults bytes state.checkpoint
  cases ran : publishCompare faults bytes state.checkpoint with
  | ok done after =>
      obtain rfl : after = state.checkpoint := by rw [← kept, ran]; rfl
      rw [Update.bind_of_ok ran, alone_stopped (finish_stopped _ _ _ _)]
      exact answers_finish state caller request bytes
  | error error after =>
      obtain rfl : after = state.checkpoint := by rw [← kept, ran]; rfl
      rw [Update.bind_of_error ran, alone_stopped (state.advance_phase _ _)]
      exact ⟨rfl, rfl, rfl⟩

omit [Primitives] in
theorem bind_of_eq {α β : Type} {first second : CheckpointUpdate α} {before : CheckpointState}
    (same : first before = second before) (next : α → CheckpointUpdate β) :
    (first >>= next) before = (second >>= next) before := by
  change EStateM.bind first next before = EStateM.bind second next before
  rw [EStateM.bind, EStateM.bind, same]

theorem publishStore_present {checkpoint : CheckpointState} (present : (checkpoint.disk
      (artifactPath checkpoint.provider.config (Digest.of bytes))).isSome) :
    publishStore faults bytes checkpoint = publishCompare faults bytes checkpoint := by
  rw [publishStore, Update.get_bind]
  dsimp only
  rw [if_pos present]

theorem publishStore_missing (checkpoint : CheckpointState) (missing : checkpoint.disk
      (artifactPath checkpoint.provider.config (Digest.of bytes)) = none) :
    publishStore faults bytes checkpoint =
      let artifact := artifactPath checkpoint.provider.config (Digest.of bytes)
      match faults.write artifact with
      | none => .ok () { checkpoint with disk := checkpoint.disk.set artifact (some (.file bytes)) }
      | some .later => .error unavailable
          { checkpoint with disk := checkpoint.disk.set artifact (some (.file [])) }
      | some .open' => .error unavailable checkpoint := by
  rw [publishStore, Update.get_bind, missing]
  dsimp only
  rw [writeFile, missing]
  cases faults.write (artifactPath checkpoint.provider.config (Digest.of bytes)) with
  | none => rfl
  | some fault => cases fault <;> rfl

/-- A publisher that stores all it has at once. -/
theorem answers_creating (phase : state.phase caller = .creating request bytes)
    (missing : state.checkpoint.disk (state.artifact bytes) = none)
    (enough : bytes.length ≤ count) (steps : Nat) :
    PublishAnswers ((publishStore faults bytes >>= fun _ => publishReturn request bytes)
      state.checkpoint) state.contents state.points
      (alone faults count caller (steps + 2) state) := by
  have stores := @publishStore_missing _ faults bytes state.checkpoint missing
  have creates : state.publisherStep faults count caller =
      match writeFile faults (state.artifact bytes) [] unavailable state.checkpoint.disk with
        | (.ok (), disk) => (state.setDisk disk).advance caller (.writing request bytes 0)
        | (.error _, disk) => (state.setDisk disk).advance caller .stopped := by
    rw [PublishState.publisherStep, phase]
  rw [writeFile, missing] at creates
  rw [alone_succ, creates]
  change publishStore faults bytes state.checkpoint =
    match faults.write (state.artifact bytes) with
      | none => _
      | some .later => _
      | some .open' => _ at stores
  cases meets : faults.write (state.artifact bytes) with
  | some fault =>
      rw [meets] at stores
      cases fault with
      | open' =>
          rw [Update.bind_of_error stores]
          dsimp only
          rw [alone_stopped (PublishState.advance_phase _ _ _)]
          exact ⟨rfl, rfl, rfl⟩
      | later =>
          rw [Update.bind_of_error stores]
          dsimp only
          rw [alone_stopped (PublishState.advance_phase _ _ _)]
          exact ⟨rfl, rfl, rfl⟩
  | none =>
      rw [meets] at stores
      rw [Update.bind_of_ok stores]
      dsimp only
      let created := (state.setDisk (state.checkpoint.disk.set (state.artifact bytes)
        (some (.file [])))).advance caller (.writing request bytes 0)
      have writes : created.publisherStep faults count caller =
          created.write faults count caller request bytes 0 := by
        rw [PublishState.publisherStep, PublishState.advance_phase]
      have whole : min bytes.length (0 + count) = bytes.length := by
        rw [Nat.zero_add]
        exact min_eq_left enough
      let stored := created.setDisk (created.checkpoint.disk.set (created.artifact bytes)
        (some (.file bytes)))
      have finishes : created.write faults count caller request bytes 0 =
          stored.finish caller request bytes := by
        rw [PublishState.write]
        change (match faults.write (state.artifact bytes) with | some _ => _ | none => _) = _
        rw [meets]
        dsimp only
        rw [if_pos whole, whole, List.take_length]
      rw [alone_succ, writes, finishes, alone_stopped (finish_stopped _ _ _ _)]
      have answers := answers_finish stored caller request bytes
      have same : stored.checkpoint = { state.checkpoint with
          disk := state.checkpoint.disk.set (state.artifact bytes) (some (.file bytes)) } :=
        congrArg (CheckpointState.mk state.checkpoint.provider) (set_set _ _ _ _)
      rw [same] at answers
      exact answers

/-- A publisher that nobody meets does what a call of the function does. -/
theorem answers_publish (idle : state.phase caller = .stopped)
    (enough : state.checkpoint.provider.config.maximumCheckpointBytes.toNat ≤ count) :
    PublishAnswers (publish faults request state.checkpoint)
      (match publishRead faults request state.checkpoint with
        | .ok bytes _ => bytes :: state.contents
        | .error _ _ => state.contents)
      state.points
      (state.run (.call caller request :: List.replicate 4 (.publisher caller faults count))) := by
  let called := state.advance caller (.reading request)
  have calls : state.next (.call caller request) = called := by
    rw [PublishState.next, idle]
  have runs : state.run
      (.call caller request :: List.replicate 4 (.publisher caller faults count)) =
        alone faults count caller 4 called := by
    rw [← calls]
    rfl
  rw [runs, alone_succ, PublishState.publisherStep, state.advance_phase]
  dsimp only
  rw [state.advance_checkpoint, publish]
  have kept := readsOnly_publishRead faults request state.checkpoint
  cases ran : publishRead faults request state.checkpoint with
  | error error after =>
      obtain rfl : after = state.checkpoint := by rw [← kept, ran]; rfl
      rw [Update.bind_of_error ran, alone_stopped (PublishState.advance_phase _ _ _)]
      exact ⟨rfl, rfl, rfl⟩
  | ok bytes after =>
      obtain rfl : after = state.checkpoint := by rw [← kept, ran]; rfl
      have short := (publishRead_short ran).trans enough
      let probing : PublishState := { called.advance caller (.probing request bytes) with
        contents := bytes :: called.contents }
      have probes : probing.publisherStep faults count caller =
          if (state.checkpoint.disk (state.artifact bytes)).isSome then
            probing.advance caller (.comparing request bytes)
          else probing.advance caller (.creating request bytes) := by
        rw [PublishState.publisherStep]
        change (match (called.advance caller (.probing request bytes)).phase caller with
          | _ => _) = _
        rw [PublishState.advance_phase]
        rfl
      rw [Update.bind_of_ok ran]
      change PublishAnswers _ _ _ (alone faults count caller 3 probing)
      rw [alone_succ, probes]
      by_cases present : (state.checkpoint.disk (state.artifact bytes)).isSome
      · rw [if_pos present, bind_of_eq (publishStore_present present)]
        exact answers_comparing (probing.advance_phase caller _) 1
      · rw [if_neg present]
        exact answers_creating (probing.advance_phase caller _)
          (Option.not_isSome_iff_eq_none.mp present) short 0

end Alone

/-! ## What a published checkpoint can be used for -/

/-- The point leads back to the content: its file is in place, the provider finds it, a pin that
gets its lease keeps it, and whoever materializes a lease of the file gets the content. -/
structure Backend.CheckpointState.Recovers (state : CheckpointState) (bytes : Bytes)
    (point : Backend.RecoverablePoint) : Prop where
  stored : state.disk (artifactPath state.provider.config (Digest.of bytes)) =
    some (.file bytes)
  selects : bytes.length ≤ Json.maxExactInteger →
    selectArtifact state.provider point = .ok (Digest.of bytes)
  pins : ∀ captureId worldId progress after,
    pinLocked point captureId worldId state = .ok progress after →
      ∃ lease, pinVerify noFaults progress after = .ok lease after
  materializes : ∀ faults lease executionId targetReference active materialization after,
    state.provider.leases[lease.leaseId]? = some active →
    active.artifact = artifactPath state.provider.config (Digest.of bytes) →
    materialize faults lease executionId targetReference state = .ok materialization after →
      after.disk (Path.ofText targetReference) = some (.file bytes) ∧
        materialization.evidenceDigest = Digest.of bytes

omit [Primitives] in
theorem toList_artifact (digest : Digest) (size : UInt64) :
    ((∅ : OrderedMap Digest UInt64).insert digest size).toList = [(digest, size)] := rfl

/-- The provider selects the content of a point that it published. -/
theorem selectArtifact_published {provider : FileCheckpointProvider} {request : PublishRequest}
    {bytes : Bytes} {point : Backend.RecoverablePoint}
    (published : publishedPoint provider request bytes = .ok point)
    (short : bytes.length ≤ provider.config.maximumCheckpointBytes.toNat) :
    (bytes.length ≤ Json.maxExactInteger →
      selectArtifact provider point = .ok (Digest.of bytes)) ∧
    ∀ digest, selectArtifact provider point = .ok digest → digest = Digest.of bytes := by
  simp only [publishedPoint, bind_eq_ok, okOr_eq_ok, pure_eq_ok, uint64OfNat_eq_some] at published
  obtain ⟨pointDigest, -, size, counted, rfl⟩ := published
  have fits : ¬ size > provider.config.maximumCheckpointBytes := by
    rw [gt_iff_lt, UInt64.lt_iff_toNat_lt, counted]
    exact not_lt.mpr short
  constructor
  · intro canonical
    simp only [selectArtifact, bind_eq_ok, rejectIf_eq_ok, okOr_eq_ok, pure_eq_ok, toList_artifact,
      not_or, not_not]
    refine ⟨(), ⟨trivial, trivial, trivial, rfl⟩, (), ?_, (Digest.of bytes, size), rfl, (), fits,
      (), ?_, rfl⟩
    · have canonicalSize : ¬ size.toNat > Json.maxExactInteger := by
        rw [counted]
        exact not_lt.mpr canonical
      rw [ProviderResourceClaim.validate, validateExact, rejectIf_eq_ok]
      rintro ⟨value, listed, large⟩
      rcases List.mem_cons.mp listed with rfl | listed
      · exact canonicalSize large
      rcases List.mem_cons.mp listed with rfl | listed
      · exact absurd large (by decide : ¬ (1 : UInt64).toNat > Json.maxExactInteger)
      rcases List.mem_cons.mp listed with rfl | listed
      · exact canonicalSize large
      · obtain rfl := List.mem_singleton.mp listed
        exact canonicalSize large
    · exact ⟨UInt64.lt_irrefl size, (by decide : ¬ (1 : UInt64) < 1)⟩
  · intro digest selected
    simp only [selectArtifact, bind_eq_ok, rejectIf_eq_ok, okOr_eq_ok, pure_eq_ok,
      toList_artifact] at selected
    obtain ⟨_, _, _, _, artifact, found, _, _, _, _, same⟩ := selected
    rw [← same, ← Option.some.inj found]


/-- A pin whose checkpoint is in place keeps its lease. -/
theorem pinVerify_of_read {faults : Faults} {lease : ProviderLease} {artifact : Path}
    {digest : Digest} {bytes : Bytes} {state : CheckpointState}
    (read : readCheckpoint faults artifact state.provider.config.maximumCheckpointBytes
      state.disk = .ok bytes) (same : Digest.of bytes = digest) :
    pinVerify faults (.inserted lease artifact digest) state = .ok lease state := by
  rw [pinVerify, Update.get_bind, read]
  change (if Digest.of bytes = digest then (pure lease : CheckpointUpdate _) else _) state = _
  rw [if_pos same]
  rfl

/-- Whatever a point was returned for can be recovered. -/
theorem PublishedStored.recovers {provider : FileCheckpointProvider} {state : PublishState}
    (held : PublishedStored provider state) {entry : Bytes × Backend.RecoverablePoint}
    (listed : entry ∈ state.points) : state.checkpoint.Recovers entry.1 entry.2 := by
  obtain ⟨known, stored, request, published⟩ := held.points entry listed
  obtain ⟨bytes, point⟩ := entry
  obtain ⟨leases, same⟩ := held.configured
  have here : publishedPoint state.checkpoint.provider request bytes = .ok point := by
    rw [same]
    rw [← published]
    simp only [publishedPoint]
  have short : bytes.length ≤
      state.checkpoint.provider.config.maximumCheckpointBytes.toNat := by
    rw [held.config_eq]
    exact held.short bytes known
  obtain ⟨selects, only⟩ := selectArtifact_published here short
  have there : state.checkpoint.disk
      (artifactPath state.checkpoint.provider.config (Digest.of bytes)) = some (.file bytes) := by
    rw [held.config_eq, ← storedAt_eq]
    exact stored
  have reads : readCheckpoint noFaults
      (artifactPath state.checkpoint.provider.config (Digest.of bytes))
      state.checkpoint.provider.config.maximumCheckpointBytes state.checkpoint.disk =
        .ok bytes := by
    rw [readCheckpoint, there]
    exact if_neg (not_lt.mpr short)
  constructor
  case stored => exact there
  case selects => exact selects
  case pins =>
    intro captureId worldId progress after ran
    obtain ⟨digest, id, selected, -, -, found | inserted⟩ := pinLocked_eq_ok.mp ran
    · obtain ⟨active, -, -, rfl, -⟩ := found
      exact ⟨active.lease, rfl⟩
    · obtain ⟨-, -, rfl, rfl⟩ := inserted
      obtain rfl := only digest selected
      exact ⟨_, pinVerify_of_read reads rfl⟩
  case materializes =>
    intro faults lease executionId targetReference active materialization after present mine ran
    obtain ⟨found, content, disk, -, -, presentToo, -, -, read, -, -, -, wrote, rfl, rfl⟩ :=
      materialize_eq_ok.mp ran
    obtain rfl := Option.some.inj (present.symm.trans presentToo)
    have content_eq := readCheckpoint_eq_ok read
    rw [mine, there, Option.some.injEq, Node.file.injEq] at content_eq
    rw [← content_eq] at wrote ⊢
    obtain ⟨-, rfl⟩ := writeFile_eq_ok wrote
    exact ⟨Disk.set_self _ _ _, rfl⟩

namespace CheckpointSample

def source : Path := ⟨true, ["source"]⟩

def publishRequest : PublishRequest where
  generation := 1
  publishedAt := Sample.time
  recoverableUntil := Sample.time
  source := source

/-- The checkpoint is published. -/
def publishSteps : List PublishStep :=
  .call 0 publishRequest :: List.replicate 4 (.publisher 0 noFaults 8)

/-- The checkpoint that is to be published is in place. -/
def placed : Disk := Disk.set (fun _ => none) source (some (.file []))

theorem publishRead_placed :
    publishRead noFaults publishRequest ⟨provider, placed⟩ = .ok [] ⟨provider, placed⟩ := by
  have checked : rejectIf (publishRequest.generation = 0 ∨
      publishRequest.publishedAt > publishRequest.recoverableUntil) Error.schemaInvalid =
        .ok () := by
    rw [rejectIf_eq_ok, not_or]
    exact ⟨(by decide : ¬ (1 : UInt64) = 0), lt_irrefl Sample.time⟩
  have read : readCheckpoint noFaults source config.maximumCheckpointBytes placed = .ok [] := by
    rw [readCheckpoint, placed, Disk.set_self]
    exact if_neg (Nat.not_lt_zero _)
  rw [publishRead, Update.attempt_bind_ok checked, Update.get_bind]
  exact Update.attempt_eq_ok.mpr ⟨read, rfl⟩

theorem artifact_missing :
    placed (artifactPath provider.config (Digest.of [])) = none := by
  rw [placed, Disk.set_of_ne]
  intro same
  have parents := congrArg Path.parent same
  rw [← storedAt_eq, parent_storedAt] at parents
  exact absurd parents (by decide : ¬ some config.historyRoot = source.parent)

theorem publishedPoint_empty : ∃ point, publishedPoint provider publishRequest [] = .ok point := by
  let identity : PointIdentity := {
    artifactDigest := Digest.of []
    configurationDigest := provider.configurationDigest
    generation := 1
    providerId := "state"
    publishedAt := Sample.time
    recoverableUntil := Sample.time }
  have digest : Canonical.digest identity = .ok _ :=
    Canonical.digest_of_exact (PointIdentity.exact (by decide : (1 : UInt64).toNat ≤ _))
  simp only [publishedPoint, bind_eq_ok, okOr_eq_ok, pure_eq_ok]
  exact ⟨_, _, digest, 0, rfl, rfl⟩

theorem publish_placed :
    ∃ point after, publish noFaults publishRequest ⟨provider, placed⟩ = .ok point after := by
  obtain ⟨point, returned⟩ := publishedPoint_empty
  let after : CheckpointState := ⟨provider,
    placed.set (artifactPath provider.config (Digest.of [])) (some (.file []))⟩
  have stores : publishStore noFaults [] ⟨provider, placed⟩ = .ok () after :=
    publishStore_missing _ artifact_missing
  refine ⟨point, after, ?_⟩
  rw [publish, Update.bind_of_ok publishRead_placed, Update.bind_of_ok stores, publishReturn,
    Update.get_bind]
  exact Update.attempt_eq_ok.mpr ⟨returned, rfl⟩

/-- The checkpoint is read and its point is returned. -/
theorem run_publishSteps {state : PublishState} (here : state.checkpoint = ⟨provider, placed⟩)
    (unread : state.contents = []) (unpublished : state.points = [])
    (idle : state.phase 0 = .stopped) :
    (state.run publishSteps).contents = [[]] ∧
      ∃ entry, (state.run publishSteps).points = [entry] := by
  have enough : state.checkpoint.provider.config.maximumCheckpointBytes.toNat ≤ 8 := by
    rw [here]
    exact le_rfl
  have answers := @answers_publish _ noFaults publishRequest state 0 8 idle enough
  obtain ⟨point, after, published⟩ := publish_placed
  rw [here, published, publishRead_placed, unread, unpublished] at answers
  obtain ⟨-, contents, bytes, points⟩ := answers
  exact ⟨contents, (bytes, point), points⟩

end CheckpointSample

end Reproit
