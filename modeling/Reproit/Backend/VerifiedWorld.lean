/-
# Executions with a verified World

An execution runs with a World that was pinned, materialized and verified for it, and
the World is released afterwards whatever came of it.  The history directory belongs to
nobody: what it holds may change between any two steps of the provider.
-/

import Reproit.Backend.Checkpoint

namespace Reproit.Backend

/-- What a step meets: the content of the history directory, and the faults of its
operations. -/
structure Surroundings where
  history : Disk
  faults : Faults

/-- What each step after the first one meets. -/
structure Course where
  reading : Surroundings
  materializing : Surroundings
  verifying : Surroundings
  executing : Surroundings
  releasing : Surroundings

/-- The history directory holds what the step meets; the rest of the disk is as it was. -/
def CheckpointState.meet (state : CheckpointState) (surroundings : Surroundings) :
    CheckpointState :=
  { state with disk := fun path =>
      if path.parent = some state.provider.config.historyRoot then surroundings.history path
      else state.disk path }

def enter (surroundings : Surroundings) : CheckpointUpdate Unit :=
  modify fun state => state.meet surroundings

theorem enter_eq (surroundings : Surroundings) (state : CheckpointState) :
    enter surroundings state = .ok () (state.meet surroundings) := rfl

variable [Primitives] {α : Type} (course : Course) (request : MaterializeRequest)

/-- A pin whose two halves meet different content. -/
def pinAmid (point : RecoverablePoint) (captureId : CaptureId) (worldId : Digest) :
    CheckpointUpdate ProviderLease := do
  let progress ← pinLocked point captureId worldId
  enter course.reading
  pinVerify course.reading.faults progress

def materializeAndExecute (lease : ProviderLease)
    (execute : ProviderVerification → CheckpointUpdate α) : CheckpointUpdate α := do
  Update.attempt (validateLease request lease)
  enter course.materializing
  let materialization ← materialize course.materializing.faults lease request.executionId
    request.targetReference
  Update.attempt (validateMaterialization lease request.executionId materialization)
  enter course.verifying
  let verification ← verify course.verifying.faults lease materialization
  Update.attempt (validateVerification lease request.executionId materialization verification)
  enter course.executing
  execute verification

/-- Execute with a verified World. The execution may change what the provider works on. -/
def withVerifiedWorld (execute : ProviderVerification → CheckpointUpdate α) :
    CheckpointUpdate α := do
  Update.attempt (validateRequest request)
  let lease ← pinAmid course request.point request.captureId request.worldId
  Update.followedBy (materializeAndExecute course request lease execute) do
    enter course.releasing
    release course.releasing.faults lease

/-! ## Reaching the execution -/

/-- What comes before the execution. -/
def verifyMaterialized (lease : ProviderLease) : CheckpointUpdate ProviderVerification := do
  Update.attempt (validateLease request lease)
  enter course.materializing
  let materialization ← materialize course.materializing.faults lease request.executionId
    request.targetReference
  Update.attempt (validateMaterialization lease request.executionId materialization)
  enter course.verifying
  let verification ← verify course.verifying.faults lease materialization
  Update.attempt (validateVerification lease request.executionId materialization verification)
  enter course.executing
  return verification

/-- The execution starts with a verification and in a state. -/
def ReachesExecute (before : CheckpointState) (verification : ProviderVerification)
    (state : CheckpointState) : Prop :=
  validateRequest request = .ok () ∧
    ∃ lease pinned, pinAmid course request.point request.captureId request.worldId before =
        .ok lease pinned ∧ verifyMaterialized course request lease pinned = .ok verification state

variable {course request} {before state pinned : CheckpointState} {lease : ProviderLease}
  {verification : ProviderVerification}

theorem materializeAndExecute_eq (execute : ProviderVerification → CheckpointUpdate α) :
    materializeAndExecute course request lease execute =
      verifyMaterialized course request lease >>= execute := by
  simp only [materializeAndExecute, verifyMaterialized, bind_assoc, pure_bind]

/-- The materialization, its verification and the checks of both go before the execution. -/
theorem verifyMaterialized_eq_ok :
    verifyMaterialized course request lease pinned = .ok verification state ↔
      ∃ materialization written verified, validateLease request lease = .ok () ∧
        materialize course.materializing.faults lease request.executionId request.targetReference
          (pinned.meet course.materializing) = .ok materialization written ∧
        validateMaterialization lease request.executionId materialization = .ok () ∧
        verify course.verifying.faults lease materialization (written.meet course.verifying) =
          .ok verification verified ∧
        validateVerification lease request.executionId materialization verification = .ok () ∧
        state = verified.meet course.executing := by
  simp only [verifyMaterialized, Update.bind_eq_ok, Update.attempt_eq_ok]
  constructor
  · rintro ⟨_, _, ⟨validLease, rfl⟩, _, _, entered, materialization, written, materialized, _, _,
      ⟨validMaterialization, rfl⟩, _, _, reentered, _, verified, ran, _, _,
      ⟨validVerification, rfl⟩, _, _, started, returned⟩
    cases entered
    cases reentered
    cases started
    cases returned
    exact ⟨materialization, written, verified, validLease, materialized, validMaterialization, ran,
      validVerification, rfl⟩
  · rintro ⟨materialization, written, verified, validLease, materialized, validMaterialization, ran,
      validVerification, rfl⟩
    exact ⟨_, _, ⟨validLease, rfl⟩, _, _, rfl, materialization, written, materialized, _, _,
      ⟨validMaterialization, rfl⟩, _, _, rfl, _, verified, ran, _, _, ⟨validVerification, rfl⟩,
      _, _, rfl, rfl⟩

/-- The execution runs with the verification and in the state that it is reached with. -/
theorem withVerifiedWorld_of_reaches (reaches : ReachesExecute course request before verification
    state) (execute : ProviderVerification → CheckpointUpdate α) :
    ∃ lease, withVerifiedWorld course request execute before =
      Update.followedBy (execute verification) (do
        enter course.releasing
        release course.releasing.faults lease) state := by
  obtain ⟨valid, lease, pinned, pins, verifies⟩ := reaches
  refine ⟨lease, ?_⟩
  rw [withVerifiedWorld, Update.attempt_bind_ok valid, Update.bind_of_ok pins,
    materializeAndExecute_eq, Update.followedBy, Update.bind_of_ok verifies]
  rfl

/-- Without reaching the execution it does not count which one it is. -/
theorem withVerifiedWorld_congr
    (missed : ∀ verification state, ¬ ReachesExecute course request before verification state)
    (first second : ProviderVerification → CheckpointUpdate α) :
    withVerifiedWorld course request first before =
      withVerifiedWorld course request second before := by
  rw [withVerifiedWorld, withVerifiedWorld]
  cases valid : validateRequest request with
  | error error => rfl
  | ok done =>
      rw [Update.attempt_bind_ok rfl, Update.attempt_bind_ok rfl]
      cases pins : pinAmid course request.point request.captureId request.worldId before with
      | error error after => rw [Update.bind_of_error pins, Update.bind_of_error pins]
      | ok lease pinned =>
          rw [Update.bind_of_ok pins, Update.bind_of_ok pins, materializeAndExecute_eq,
            materializeAndExecute_eq, Update.followedBy, Update.followedBy]
          cases verifies : verifyMaterialized course request lease pinned with
          | error error after =>
              rw [Update.bind_of_error verifies, Update.bind_of_error verifies]
          | ok verification state =>
              exact absurd ⟨valid, lease, pinned, pins, verifies⟩ (missed verification state)

end Reproit.Backend
