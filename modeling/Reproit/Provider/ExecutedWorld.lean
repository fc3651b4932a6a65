/-
# The executed World and the pinned point

The content of a point is read three times: the pin compares it with the digest of the
artifact, the materialization copies whatever is there by then, and the verification
compares the copy with what was copied.  The execution therefore sees the pinned point
exactly when the history still holds it at the materialization.
-/

import Reproit.Backend.VerifiedWorld
import Reproit.Provider.WrongLease

namespace Reproit

open Backend

variable [Primitives]

/-! ## The pinned content -/

/-- The content has the digest and the size of the one artifact of the point. -/
def IsArtifact (point : Backend.RecoverablePoint) (content : Bytes) : Prop :=
  ∃ size : UInt64, point.artifacts.toList = [(Digest.of content, size)] ∧
    content.length = size.toNat

/-- The materialized file holds the pinned content, and the evidence is its digest. -/
def ExecutesPinned (request : MaterializeRequest) (verification : ProviderVerification)
    (state : CheckpointState) : Prop :=
  ∃ content, state.disk (Path.ofText request.targetReference) = some (.file content) ∧
    IsArtifact request.point content ∧ verification.evidenceDigest = Digest.of content

/-- When the materialization starts, the file of the lease holds the pinned content. -/
def HoldsPinned (course : Course) (request : MaterializeRequest) (before : CheckpointState) :
    Prop :=
  ∃ lease pinned active content,
    pinAmid course request.point request.captureId request.worldId before = .ok lease pinned ∧
      pinned.provider.leases[lease.leaseId]? = some active ∧
      (pinned.meet course.materializing).disk active.artifact = some (.file content) ∧
      IsArtifact request.point content

/-! ## What the steps keep -/

section Steps

variable {course : Course} {request : MaterializeRequest} {before after : CheckpointState}
  {lease : ProviderLease} {surroundings : Surroundings} {path : Path}

omit [Primitives] in
theorem meet_of_ne (outside : path.parent ≠ some before.provider.config.historyRoot) :
    (before.meet surroundings).disk path = before.disk path := if_neg outside

omit [Primitives] in
theorem meet_of_eq (inside : path.parent = some before.provider.config.historyRoot) :
    (before.meet surroundings).disk path = surroundings.history path := if_pos inside

omit [Primitives] in
/-- What is read is the content of a file. -/
theorem readCheckpoint_eq_ok {faults : Faults} {maximumBytes : UInt64} {disk : Disk}
    {content : Bytes} (read : readCheckpoint faults path maximumBytes disk = .ok content) :
    disk path = some (.file content) := by
  unfold readCheckpoint at read
  split at read
  · rename_i held _ there
    split at read
    · cases read
    · cases read
      exact there
  · cases read

/-- The pin keeps the configuration. -/
theorem config_of_pinAmid
    (pins : pinAmid course request.point request.captureId request.worldId before =
      .ok lease after) : after.provider.config = before.provider.config := by
  obtain ⟨progress, locked, located, second⟩ := Update.bind_eq_ok.mp pins
  obtain ⟨_, entered, first, verified⟩ := Update.bind_eq_ok.mp second
  cases first
  have keptLocked : locked.provider.config = before.provider.config := by
    obtain ⟨_, _, -, -, -, found | inserted⟩ := pinLocked_eq_ok.mp located
    · obtain ⟨_, _, _, _, rfl⟩ := found
      rfl
    · obtain ⟨_, _, _, rfl⟩ := inserted
      rfl
  cases progress with
  | found held =>
      cases verified
      exact keptLocked
  | inserted held artifact digest =>
      rcases pinVerify_cases course.reading.faults held artifact digest
        (locked.meet course.reading) with same | same
      · rw [same] at verified
        cases verified
        exact keptLocked
      · rw [same] at verified
        cases verified

end Steps

/-- The execution finds in the target what the materialization read. -/
theorem executed_content {course : Course} {request : MaterializeRequest}
    {pinned state : CheckpointState} {lease : ProviderLease} {verification : ProviderVerification}
    (configured : pinned.provider.config.validate = .ok ())
    (verifies : verifyMaterialized course request lease pinned = .ok verification state) :
    ∃ active content, pinned.provider.leases[lease.leaseId]? = some active ∧
      (pinned.meet course.materializing).disk active.artifact = some (.file content) ∧
      state.disk (Path.ofText request.targetReference) = some (.file content) ∧
      verification.evidenceDigest = Digest.of content := by
  obtain ⟨materialization, written, verified, -, materialized, -, ran, -, rfl⟩ :=
    verifyMaterialized_eq_ok.mp verifies
  obtain ⟨active, content, disk, -, inside, present, -, -, read, -, -, -, wrote, rfl, rfl⟩ :=
    materialize_eq_ok.mp materialized
  obtain ⟨-, rfl⟩ := writeFile_eq_ok wrote
  obtain ⟨-, -, again, -, -, -, same, rfl, rfl⟩ := verify_eq_ok.mp ran
  -- the target is in the workspace, which the history directory is not
  have apart : (Path.ofText request.targetReference).parent ≠
      some pinned.provider.config.historyRoot := by
    change (Path.ofText request.targetReference).parent = some pinned.provider.config.workspaceRoot
      at inside
    rw [inside]
    intro roots
    simp only [FileCheckpointConfig.validate, bind_eq_ok, rejectIf_eq_ok] at configured
    obtain ⟨_, checked, _⟩ := configured
    exact checked (.inr (.inr (.inl (Option.some.inj roots).symm)))
  refine ⟨active, content, present, readCheckpoint_eq_ok read, ?_, same⟩
  have kept : ∀ (held : CheckpointState) (surroundings : Surroundings),
      held.provider.config = pinned.provider.config →
        (held.meet surroundings).disk (Path.ofText request.targetReference) =
          held.disk (Path.ofText request.targetReference) :=
    fun held surroundings sameConfig => meet_of_ne (sameConfig ▸ apart)
  refine (kept _ course.executing ?_).trans ((kept _ course.verifying ?_).trans ?_)
  · rfl
  · rfl
  · exact Disk.set_self _ _ _

/-! ## The executions of the sample -/

namespace CheckpointSample

/-- The history directory as it was at first. -/
def quiet : Surroundings := ⟨disk, noFaults⟩

/-- Every file of the history directory is replaced before the materialization. -/
def courseOf (content : Bytes) : Course where
  reading := quiet
  materializing := ⟨fun _ => some (.file content), noFaults⟩
  verifying := quiet
  executing := quiet
  releasing := quiet

def request : MaterializeRequest := world.request (Sample.id 1) (clients (Sample.id 1))

theorem parent_artifact : (artifactPath config (Digest.of [])).parent = some config.historyRoot :=
  rfl

theorem pinAmid_sample {id : LeaseId} (content : Bytes)
    (identified : leaseId (Sample.id 1) point.pointDigest ⟨1⟩ = .ok id) :
    pinAmid (courseOf content) point (Sample.id 1) ⟨1⟩ ⟨provider, disk⟩ =
      .ok (leaseOf id) ((pinnedState id).meet quiet) := by
  have stored : ((pinnedState id).meet quiet).disk (artifactPath config (Digest.of [])) =
      some (.file []) := by
    have inside : (artifactPath config (Digest.of [])).parent =
        some (pinnedState id).provider.config.historyRoot := parent_artifact
    have met := @meet_of_eq (pinnedState id) quiet (artifactPath config (Digest.of [])) inside
    rw [met]
    dsimp only [quiet]
    exact disk_artifact
  have read : readCheckpoint noFaults (artifactPath config (Digest.of []))
      ((pinnedState id).meet quiet).provider.config.maximumCheckpointBytes
      ((pinnedState id).meet quiet).disk = .ok [] := by
    have limit : ((pinnedState id).meet quiet).provider.config.maximumCheckpointBytes = 8 := rfl
    rw [limit]
    exact readCheckpoint_empty stored
  have entered : enter quiet (pinnedState id) = .ok () ((pinnedState id).meet quiet) :=
    enter_eq quiet (pinnedState id)
  have verified : pinVerify noFaults
      (.inserted (leaseOf id) (artifactPath config (Digest.of [])) (Digest.of []))
      ((pinnedState id).meet quiet) = .ok (leaseOf id) ((pinnedState id).meet quiet) := by
    rw [pinVerify, Update.get_bind, read]
    exact congrFun (if_pos rfl) _
  rw [pinAmid, Update.bind_of_ok (pinLocked_first identified)]
  exact (Update.bind_of_ok entered _).trans verified

omit [Primitives] in
/-- A short file is read. -/
theorem readCheckpoint_short {path : Path} {held : Disk} {content : Bytes}
    (short : content.length ≤ 8) (stored : held path = some (.file content)) :
    readCheckpoint noFaults path 8 held = .ok content := by
  rw [readCheckpoint, stored]
  exact if_neg (not_lt.mpr short)

/-- The provider at the materialization. -/
def replacedState (content : Bytes) (id : LeaseId) : CheckpointState :=
  ((pinnedState id).meet quiet).meet (courseOf content).materializing

/-- The provider after the replaced content was written. -/
def writtenState (content : Bytes) (id : LeaseId) : CheckpointState :=
  CheckpointState.insert
    ⟨(replacedState content id).provider,
      (replacedState content id).disk.set target (some (.file content))⟩ id
    { entry id with
      executionTargets := (entry id).executionTargets.insert (Sample.id 1) target }

def copied (content : Bytes) (id : LeaseId) : ProviderMaterialization where
  evidenceDigest := Digest.of content
  executionId := Sample.id 1
  leaseId := id
  providerId := "state"

omit [Primitives] in
theorem parent_target : target.parent = some config.workspaceRoot := by decide

theorem materialize_replaced {content : Bytes} (short : content.length ≤ 8) (id : LeaseId) :
    materialize noFaults (leaseOf id) (Sample.id 1) "/work/first" (replacedState content id) =
      .ok (copied content id) (writtenState content id) := by
  have apart : target.parent ≠ some config.historyRoot := by decide
  have stored : (replacedState content id).disk (entry id).artifact = some (.file content) :=
    @meet_of_eq ((pinnedState id).meet quiet) (courseOf content).materializing
      (artifactPath config (Digest.of [])) parent_artifact
  have free : (replacedState content id).disk target = none :=
    (@meet_of_ne ((pinnedState id).meet quiet) _ target apart).trans
      ((@meet_of_ne (pinnedState id) _ target apart).trans disk_target)
  refine materialize_eq_ok.mpr ⟨entry id, content,
    (replacedState content id).disk.set target (some (.file content)), ?_⟩
  refine ⟨by decide, parent_target, pinned_entry id, rfl, ?_, readCheckpoint_short short stored,
    short, short, rfl, ?_, rfl, rfl⟩
  · exact (by decide : (Sample.id 1 : ExecutionId) ∉ (∅ : OrderedMap ExecutionId Path))
  · change writeFile noFaults target content unavailable (replacedState content id).disk = _
    rw [writeFile, free]
    rfl

def checked (content : Bytes) (id : LeaseId) : ProviderVerification where
  evidenceDigest := Digest.of content
  executionId := Sample.id 1
  leaseId := id
  providerId := "state"

theorem writtenState_target {content : Bytes} {id : LeaseId} (surroundings : Surroundings) :
    ((writtenState content id).meet surroundings).disk target = some (.file content) := by
  have apart : target.parent ≠ some config.historyRoot := by decide
  have kept := @meet_of_ne (writtenState content id) surroundings target apart
  rw [kept]
  exact Disk.set_self (replacedState content id).disk target _

theorem verify_replaced {content : Bytes} (short : content.length ≤ 8) (id : LeaseId) :
    verify noFaults (leaseOf id) (copied content id) ((writtenState content id).meet quiet) =
      .ok (checked content id) ((writtenState content id).meet quiet) := by
  have entered : (writtenState content id).provider.leases[id]? = some { entry id with
      executionTargets := (entry id).executionTargets.insert (Sample.id 1) target } :=
    (OrderedMap.getElem?_insert _ id id _).trans (if_pos rfl)
  refine verify_eq_ok.mpr ⟨_, target, content, entered, ?_, ?_, rfl, rfl, rfl⟩
  · exact (OrderedMap.getElem?_insert _ _ _ _).trans (if_pos rfl)
  · exact readCheckpoint_short short (writtenState_target quiet)

/-- Any short content takes the place of the pinned one. -/
theorem reaches_sample {content : Bytes} (short : content.length ≤ 8) :
    ∃ verification state, ReachesExecute (courseOf content) request ⟨provider, disk⟩
      verification state ∧ state.disk target = some (.file content) := by
  obtain ⟨id, identified⟩ := leaseId_total (Sample.id 1) point.pointDigest ⟨1⟩
  have materialized := materialize_replaced short id
  have verified := verify_replaced short id
  have boundMaterialization : validateMaterialization (leaseOf id) (Sample.id 1)
      (copied content id) = .ok () :=
    rejectIf_of_not _ (by simp [copied, leaseOf, requestedLease, point])
  have boundVerification : validateVerification (leaseOf id) (Sample.id 1) (copied content id)
      (checked content id) = .ok () :=
    rejectIf_of_not _ (by simp [copied, checked, leaseOf, requestedLease, point])
  refine ⟨checked content id, ((writtenState content id).meet quiet).meet quiet, ?_, ?_⟩
  · refine ⟨validateRequest_client _, leaseOf id, (pinnedState id).meet quiet,
      pinAmid_sample content identified, verifyMaterialized_eq_ok.mpr ?_⟩
    refine ⟨copied content id, writtenState content id, (writtenState content id).meet quiet,
      validateLease_client _ _, ?_, boundMaterialization, verified, boundVerification, rfl⟩
    rw [request, request_first]
    exact materialized
  · have apart : target.parent ≠ some config.historyRoot := by decide
    have kept := @meet_of_ne ((writtenState content id).meet quiet) quiet target apart
    rw [kept]
    exact writtenState_target quiet

end CheckpointSample

/-! ## Every execution -/

/-- Whatever the history directory holds at each step, an execution that is reached sees
the pinned point exactly when the file of its lease holds the point's artifact at the
materialization. -/
theorem executes_pinned_iff {course : Course} {request : MaterializeRequest}
    {before state : CheckpointState} {verification : ProviderVerification}
    (configured : before.provider.config.validate = .ok ())
    (reaches : ReachesExecute course request before verification state) :
    ExecutesPinned request verification state ↔ HoldsPinned course request before := by
  obtain ⟨-, lease, pinned, pins, verifies⟩ := reaches
  have sameConfig := config_of_pinAmid pins
  obtain ⟨active, content, present, stored, target, evidence⟩ :=
    executed_content (sameConfig ▸ configured) verifies
  constructor
  · rintro ⟨seen, held, artifact, _⟩
    obtain rfl : content = seen := by
      rw [target] at held
      cases held
      rfl
    exact ⟨lease, pinned, active, content, pins, present, stored, artifact⟩
  · rintro ⟨other, otherPinned, holder, held, otherPins, found, there, artifact⟩
    rw [pins] at otherPins
    cases otherPins
    obtain rfl := Option.some.inj (present.symm.trans found)
    rw [stored] at there
    cases there
    exact ⟨content, target, artifact, evidence⟩

omit [Primitives] in
/-- An execution for which the history directory holds what was pinned. -/
theorem executes_pinned_iff_sample :
    letI := Sample.marked
    ∃ verification state,
      (⟨CheckpointSample.provider, CheckpointSample.disk⟩ :
        CheckpointState).provider.config.validate = .ok () ∧
      ReachesExecute (CheckpointSample.courseOf []) CheckpointSample.request
        ⟨CheckpointSample.provider, CheckpointSample.disk⟩ verification state ∧
      (ExecutesPinned CheckpointSample.request verification state ↔
        HoldsPinned (CheckpointSample.courseOf []) CheckpointSample.request
          ⟨CheckpointSample.provider, CheckpointSample.disk⟩) := by
  let _ := Sample.marked
  obtain ⟨verification, state, reaches, -⟩ :=
    @CheckpointSample.reaches_sample _ [] (Nat.zero_le _)
  have configured := CheckpointSample.validate_config
  exact ⟨verification, state, configured, reaches, executes_pinned_iff configured reaches⟩

omit [Primitives] in
/-- Not every execution sees the pinned point: the file of the history directory can be
replaced between the pin and the materialization. -/
theorem not_executes_pinned :
    letI := Sample.marked
    ¬ ∀ (config : FileCheckpointConfig) (provider : FileCheckpointProvider) (disk : Disk)
        (course : Course) (request : MaterializeRequest) (verification : ProviderVerification)
        (state : CheckpointState),
      FileCheckpointProvider.open' config = .ok provider →
        ReachesExecute course request ⟨provider, disk⟩ verification state →
          ExecutesPinned request verification state := by
  let _ := Sample.marked
  intro always
  obtain ⟨verification, state, reaches, replaced⟩ :=
    @CheckpointSample.reaches_sample _ [1] (by decide)
  obtain ⟨content, held, ⟨size, artifacts, length⟩, -⟩ :=
    always _ _ _ _ _ _ _ CheckpointSample.opened reaches
  rw [CheckpointSample.request, CheckpointSample.request_first] at held
  obtain rfl : [1] = content := by
    have same := replaced.symm.trans held
    cases same
    rfl
  have listed : [(Digest.of [], (0 : UInt64))] = [(Digest.of [1], size)] := artifacts
  obtain rfl : 0 = size := by
    injection listed with first
    exact congrArg Prod.snd first
  cases length

end Reproit
