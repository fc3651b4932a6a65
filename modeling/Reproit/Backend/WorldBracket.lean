/-
# The bracket around a verified World

A provider may answer anything, and change its own state as it likes.  Whatever it does,
the calls that are made on it form a bracket: a World is pinned once at most, after the
request was checked, what was pinned is released once and last, and between the two the
execution runs only with a verification that binds the request.
-/

import Reproit.Backend.VerifiedWorld
import Reproit.Data.Trace

namespace Reproit.Backend

variable {σ κ α : Type}

/-- A provider of Worlds with a state of its own. -/
structure StateProvider (σ : Type) where
  pin : RecoverablePoint → CaptureId → Digest → Update Error σ ProviderLease
  materialize : ProviderLease → ExecutionId → String → Update Error σ ProviderMaterialization
  verify : ProviderLease → ProviderMaterialization → Update Error σ ProviderVerification
  release : ProviderLease → Update Error σ Unit

namespace StateProvider

def materializeAndExecute (provider : StateProvider σ) (request : MaterializeRequest)
    (lease : ProviderLease) (execute : ProviderVerification → Update Error σ α) :
    Update Error σ α := do
  Update.attempt (validateLease request lease)
  let materialization ← provider.materialize lease request.executionId request.targetReference
  Update.attempt (validateMaterialization lease request.executionId materialization)
  let verification ← provider.verify lease materialization
  Update.attempt (validateVerification lease request.executionId materialization verification)
  execute verification

/-- Execute with a verified World, and release it whatever came of the execution. -/
def withVerifiedWorld (provider : StateProvider σ) (request : MaterializeRequest)
    (execute : ProviderVerification → Update Error σ α) : Update Error σ α := do
  Update.attempt (validateRequest request)
  let lease ← provider.pin request.point request.captureId request.worldId
  Update.followedBy (provider.materializeAndExecute request lease execute)
    (provider.release lease)

end StateProvider

/-! ## The provider of file checkpoints -/

/-- The provider of file checkpoints along a course. -/
def checkpointProvider [Primitives] (course : Course) : StateProvider CheckpointState where
  pin := pinAmid course
  materialize lease executionId targetReference := do
    enter course.materializing
    materialize course.materializing.faults lease executionId targetReference
  verify lease materialization := do
    enter course.verifying
    verify course.verifying.faults lease materialization
  release lease := do
    enter course.releasing
    release course.releasing.faults lease

/-- Executing with a World of file checkpoints is executing with this provider. -/
theorem withVerifiedWorld_eq_provider [Primitives] (course : Course)
    (request : MaterializeRequest) (execute : ProviderVerification → CheckpointUpdate α) :
    withVerifiedWorld course request execute =
      (checkpointProvider course).withVerifiedWorld request
        (fun verification => enter course.executing >>= fun _ => execute verification) := by
  simp only [withVerifiedWorld, StateProvider.withVerifiedWorld, materializeAndExecute,
    StateProvider.materializeAndExecute, checkpointProvider, bind_assoc]

/-! ## Calls -/

/-- A call and its answer. -/
inductive WorldCall (α : Type)
  | pin (point : RecoverablePoint) (captureId : CaptureId) (worldId : Digest)
      (answer : Result ProviderLease)
  | materialize (lease : ProviderLease) (executionId : ExecutionId) (targetReference : String)
      (answer : Result ProviderMaterialization)
  | verify (lease : ProviderLease) (materialization : ProviderMaterialization)
      (answer : Result ProviderVerification)
  | execute (verification : ProviderVerification) (answer : Result α)
  | release (lease : ProviderLease) (answer : Result Unit)

namespace WorldCall

def isPin : WorldCall α → Bool
  | .pin .. => true
  | _ => false

def isExecute : WorldCall α → Bool
  | .execute .. => true
  | _ => false

def isRelease : WorldCall α → Bool
  | .release .. => true
  | _ => false

end WorldCall

/-- The provider with its calls noted. -/
def StateProvider.noting (provider : StateProvider σ) :
    StateProvider (σ × List (WorldCall α)) where
  pin point captureId worldId :=
    Update.noted (.pin point captureId worldId) (provider.pin point captureId worldId)
  materialize lease executionId targetReference :=
    Update.noted (.materialize lease executionId targetReference)
      (provider.materialize lease executionId targetReference)
  verify lease materialization :=
    Update.noted (.verify lease materialization) (provider.verify lease materialization)
  release lease := Update.noted (.release lease) (provider.release lease)

/-- The bracket with its calls noted. -/
def StateProvider.notedWorld (provider : StateProvider σ) (request : MaterializeRequest)
    (execute : ProviderVerification → Update Error σ α) :
    Update Error (σ × List (WorldCall α)) α :=
  provider.noting.withVerifiedWorld request fun verification =>
    Update.noted (.execute verification) (execute verification)

/-- Noting the calls changes neither the answer nor the state. -/
theorem StateProvider.notes_notedWorld (provider : StateProvider σ)
    (request : MaterializeRequest) (execute : ProviderVerification → Update Error σ α) :
    Update.Notes (provider.notedWorld request execute)
      (provider.withVerifiedWorld request execute) := by
  apply Update.Notes.bind (Update.notes_attempt _)
  intro _
  apply Update.Notes.bind (Update.notes_noted _ _)
  intro lease
  apply Update.Notes.followedBy
  · apply Update.Notes.bind (Update.notes_attempt _)
    intro _
    apply Update.Notes.bind (Update.notes_noted _ _)
    intro materialization
    apply Update.Notes.bind (Update.notes_attempt _)
    intro _
    apply Update.Notes.bind (Update.notes_noted _ _)
    intro verification
    apply Update.Notes.bind (Update.notes_attempt _)
    intro _
    exact Update.notes_noted _ _
  · exact Update.notes_noted _ _

end Reproit.Backend
