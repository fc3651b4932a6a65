/-
# Clients of one provider

Clients that run an execution with a verified World on one provider, for one capture,
one point and one World.  Each client has an execution of its own.  A client advances
in the steps between which the provider's lock is free: the two halves of its pin, the
materialization, the verification, the execution, and a release that takes the lease
out of the table and then removes one file after the other.
-/

import Reproit.Backend.Checkpoint

namespace Reproit.Backend

/-- What the clients have in common. -/
structure SharedWorld where
  captureId : CaptureId
  point : RecoverablePoint
  worldId : Digest

/-- What a client brings. -/
structure ClientRequest where
  executionCapabilities : List String
  now : Timestamp
  targetReference : String

/-- The request of the client with an execution. -/
def SharedWorld.request (world : SharedWorld) (executionId : ExecutionId)
    (client : ClientRequest) : MaterializeRequest where
  captureId := world.captureId
  executionCapabilities := client.executionCapabilities
  executionId := executionId
  now := client.now
  point := world.point
  targetReference := client.targetReference
  worldId := world.worldId

/-- What a client does after it materialized, or tried to. -/
inductive HolderStep
  | verify (materialization : ProviderMaterialization)
  | execute (verification : ProviderVerification)
  | release

/-- Where a client is. A client whose pin returned holds the lease until it releases; it
knows the file that was materialized for it. -/
inductive Phase
  | start
  | verifying (lease : ProviderLease) (artifact : Path) (digest : Digest)
  | pinned (lease : ProviderLease)
  | holding (lease : ProviderLease) (target : Option Path) (next : HolderStep)
  | removing (targets : List Path)
  | finished

/-- The lease that a client answers for. -/
def Phase.lease : Phase → Option ProviderLease
  | .verifying lease _ _ => some lease
  | .pinned lease => some lease
  | .holding lease _ _ => some lease
  | _ => none

/-- The lease that a client holds, with its file. -/
def Phase.held : Phase → Option (ProviderLease × Option Path)
  | .pinned lease => some (lease, none)
  | .holding lease target _ => some (lease, target)
  | _ => none

/-- The files that a client answers for. -/
def Phase.files : Phase → List Path
  | .holding _ target _ => target.toList
  | .removing targets => targets
  | _ => []

/-- The provider, its disk and every client. -/
structure WorldState where
  checkpoint : CheckpointState
  phase : ExecutionId → Phase

variable [Primitives] (world : SharedWorld) (clients : ExecutionId → ClientRequest)

/-- The client is in a new phase, and the provider in a new state. -/
def WorldState.advance (state : WorldState) (executionId : ExecutionId)
    (checkpoint : CheckpointState) (phase : Phase) : WorldState where
  checkpoint := checkpoint
  phase := Function.update state.phase executionId phase

omit [Primitives] in
@[simp]
theorem WorldState.advance_checkpoint (state : WorldState) (executionId : ExecutionId)
    (checkpoint : CheckpointState) (phase : Phase) :
    (state.advance executionId checkpoint phase).checkpoint = checkpoint := rfl

omit [Primitives] in
@[simp]
theorem WorldState.advance_phase (state : WorldState) (executionId : ExecutionId)
    (checkpoint : CheckpointState) (phase : Phase) :
    (state.advance executionId checkpoint phase).phase executionId = phase :=
  Function.update_self _ _ _

omit [Primitives] in
theorem WorldState.advance_phase_of_ne (state : WorldState) {executionId other : ExecutionId}
    (different : other ≠ executionId) (checkpoint : CheckpointState) (phase : Phase) :
    (state.advance executionId checkpoint phase).phase other = state.phase other :=
  Function.update_of_ne different _ _

/-- The locked half of the pin. A client whose request is refused is finished. -/
def startStep (state : WorldState) (executionId : ExecutionId) : WorldState :=
  match validateRequest (world.request executionId (clients executionId)) with
  | .error _ => state.advance executionId state.checkpoint .finished
  | .ok () =>
      match pinLocked world.point world.captureId world.worldId state.checkpoint with
      | .ok (.found lease) after => state.advance executionId after (.pinned lease)
      | .ok (.inserted lease artifact digest) after =>
          state.advance executionId after (.verifying lease artifact digest)
      | .error _ after => state.advance executionId after .finished

def verifyingStep (faults : Faults) (state : WorldState) (executionId : ExecutionId)
    (lease : ProviderLease) (artifact : Path) (digest : Digest) : WorldState :=
  match pinVerify faults (.inserted lease artifact digest) state.checkpoint with
  | .ok lease after => state.advance executionId after (.pinned lease)
  | .error _ after => state.advance executionId after .finished

/-- After a failure the client still releases its lease. -/
def materializeStep (faults : Faults) (state : WorldState) (executionId : ExecutionId)
    (lease : ProviderLease) : WorldState :=
  let request := world.request executionId (clients executionId)
  match validateLease request lease with
  | .error _ => state.advance executionId state.checkpoint (.holding lease none .release)
  | .ok () =>
      match materialize faults lease executionId request.targetReference state.checkpoint with
      | .error _ after => state.advance executionId after (.holding lease none .release)
      | .ok materialization after =>
          let next := match validateMaterialization lease executionId materialization with
            | .ok () => .verify materialization
            | .error _ => .release
          state.advance executionId after
            (.holding lease (some (Path.ofText request.targetReference)) next)

def verifyStep (faults : Faults) (state : WorldState) (executionId : ExecutionId)
    (lease : ProviderLease) (target : Option Path)
    (materialization : ProviderMaterialization) : WorldState :=
  match verify faults lease materialization state.checkpoint with
  | .error _ after => state.advance executionId after (.holding lease target .release)
  | .ok verification after =>
      let next := match validateVerification lease executionId materialization verification with
        | .ok () => .execute verification
        | .error _ => .release
      state.advance executionId after (.holding lease target next)

def releaseStep (state : WorldState) (executionId : ExecutionId) (lease : ProviderLease) :
    WorldState :=
  match releaseLocked lease state.checkpoint with
  | .ok targets after => state.advance executionId after (.removing targets)
  | .error _ after => state.advance executionId after .finished

/-- Remove one file; the first failure ends the release. -/
def removingStep (faults : Faults) (state : WorldState) (executionId : ExecutionId) :
    List Path → WorldState
  | [] => state.advance executionId state.checkpoint .finished
  | target :: rest =>
      let (removed, disk) := removeFile faults target unavailable state.checkpoint.disk
      match removed with
      | .ok () => state.advance executionId { state.checkpoint with disk } (.removing rest)
      | .error _ => state.advance executionId { state.checkpoint with disk } .finished

/-- A step: a client advances, or something outside changes the disk outside the
workspace. -/
inductive WorldStep
  | client (executionId : ExecutionId) (faults : Faults)
  | outside (path : Path) (node : Option Node)

def WorldStep.next (state : WorldState) : WorldStep → WorldState
  | .outside path node =>
      if path.parent = some state.checkpoint.provider.config.workspaceRoot then state
      else { state with checkpoint :=
        { state.checkpoint with disk := state.checkpoint.disk.set path node } }
  | .client executionId faults =>
      match state.phase executionId with
      | .start => startStep world clients state executionId
      | .verifying lease artifact digest =>
          verifyingStep faults state executionId lease artifact digest
      | .pinned lease =>
          materializeStep world clients faults state executionId lease
      | .holding lease target (.verify materialization) =>
          verifyStep faults state executionId lease target materialization
      | .holding lease target (.execute _) =>
          state.advance executionId state.checkpoint (.holding lease target .release)
      | .holding lease _ .release => releaseStep state executionId lease
      | .removing targets => removingStep faults state executionId targets
      | .finished => state

/-- No client has started yet. -/
def WorldState.initial (provider : FileCheckpointProvider) (disk : Disk) : WorldState where
  checkpoint := ⟨provider, disk⟩
  phase _ := .start

/-- The state after all steps, in order. -/
def WorldState.run (state : WorldState) (steps : List WorldStep) : WorldState :=
  steps.foldl (WorldStep.next world clients) state

end Reproit.Backend
