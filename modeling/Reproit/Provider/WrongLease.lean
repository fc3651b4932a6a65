/-
# Leases with a pinned id and wrong fields

A lease is found in the table by its id.  One that carries the id of a pinned lease and
differs from it in another field should change nothing: each operation should refuse it
and leave the table, the targets and the files alone.  Only the materialization does.
The verification never looks at the other fields, and the release takes the pinned
lease out of the table before it compares the two.
-/

import Reproit.Provider.PinnedWorld

namespace Reproit

open Backend

variable [Primitives]

/-- The update fails and leaves the provider and the disk as they were. -/
def RefusesIn {α : Type} (update : CheckpointUpdate α) (state : CheckpointState) : Prop :=
  ∃ error, update state = .error error state

/-- Every operation with the lease is refused. -/
structure WrongLeaseRefused (state : CheckpointState) (lease : ProviderLease) : Prop where
  materialize : ∀ faults executionId targetReference,
    RefusesIn (materialize faults lease executionId targetReference) state
  verify : ∀ faults materialization, RefusesIn (verify faults lease materialization) state
  release : ∀ faults, RefusesIn (release faults lease) state

section Operations

variable {state : CheckpointState} {lease : ProviderLease} {active : ActiveLease}

/-- The materialization compares the leases before it writes. -/
theorem materialize_refuses_wrong
    (present : state.provider.leases[lease.leaseId]? = some active) (wrong : active.lease ≠ lease)
    (faults : Faults) (executionId : ExecutionId) (targetReference : String) :
    RefusesIn (materialize faults lease executionId targetReference) state := by
  unfold RefusesIn
  rw [materialize, Update.get_bind]
  by_cases outside : ¬ (Path.ofText targetReference).absolute ∨
      (Path.ofText targetReference).parent ≠ some state.provider.config.workspaceRoot
  · exact ⟨scopeViolation, Update.attempt_bind_error (rejectIf_of _ outside) _ _⟩
  · rw [Update.attempt_bind_ok (rejectIf_of_not _ outside), present]
    have differs : active.lease ≠ lease ∨ executionId ∈ active.executionTargets := .inl wrong
    exact ⟨.schemaInvalid, Update.attempt_bind_error (rejectIf_of _ differs) _ _⟩

/-- The verification looks the lease up by its id and compares no other field. -/
theorem verify_ok_iff (present : state.provider.leases[lease.leaseId]? = some active)
    (faults : Faults) (materialization : ProviderMaterialization) :
    (∃ verification, Update.verdict (verify faults lease materialization state) =
        .ok verification) ↔
      ∃ target content, active.executionTargets[materialization.executionId]? = some target ∧
        readCheckpoint faults target state.provider.config.maximumCheckpointBytes state.disk =
          .ok content ∧ Digest.of content = materialization.evidenceDigest := by
  constructor
  · intro ⟨verification, answered⟩
    cases ran : verify faults lease materialization state with
    | error error after =>
        rw [ran] at answered
        cases answered
    | ok value after =>
        obtain ⟨held, target, content, found, listed, read, same, -⟩ := verify_eq_ok.mp ran
        obtain rfl := Option.some.inj (present.symm.trans found)
        exact ⟨target, content, listed, read, same⟩
  · intro ⟨target, content, listed, read, same⟩
    have ran := verify_eq_ok.mpr ⟨active, target, content, present, listed, read, same, rfl, rfl⟩
    exact ⟨_, congrArg Update.verdict ran⟩

omit [Primitives] in
/-- The release takes the pinned lease out of the table and then fails. -/
theorem release_wrong (present : state.provider.leases[lease.leaseId]? = some active)
    (wrong : active.lease ≠ lease) (faults : Faults) :
    release faults lease state = .error .schemaInvalid (state.erase lease.leaseId) := by
  have locked : releaseLocked lease state = .error .schemaInvalid (state.erase lease.leaseId) := by
    rw [releaseLocked, Update.get_bind, present]
    exact Update.attempt_bind_error (rejectIf_of _ wrong) _ _
  change EStateM.bind (releaseLocked lease) _ state = _
  rw [EStateM.bind, locked]

omit [Primitives] in
/-- A table without the lease is not the table. -/
theorem erase_ne_of_present (present : state.provider.leases[lease.leaseId]? = some active) :
    state.erase lease.leaseId ≠ state := by
  intro same
  have gone : (state.erase lease.leaseId).provider.leases[lease.leaseId]? = none :=
    (OrderedMap.getElem?_erase _ _ _).trans (if_pos rfl)
  rw [same, present] at gone
  cases gone

end Operations

/-! ## The lease of the sample -/

namespace CheckpointSample

/-- The pinned lease with another World. -/
def forged (id : LeaseId) : ProviderLease := { leaseOf id with worldId := ⟨2⟩ }

theorem leaseOf_ne_forged (id : LeaseId) : leaseOf id ≠ forged id := by
  intro same
  have worlds : (⟨1⟩ : Digest) = ⟨2⟩ := congrArg ProviderLease.worldId same
  revert worlds
  decide

/-- The sample's pin puts the lease into the table. -/
theorem pin_first {id : LeaseId}
    (identified : leaseId (Sample.id 1) point.pointDigest ⟨1⟩ = .ok id) :
    pin noFaults point (Sample.id 1) ⟨1⟩ ⟨provider, disk⟩ = .ok (leaseOf id) (pinnedState id) := by
  change EStateM.bind (pinLocked point (Sample.id 1) ⟨1⟩) (pinVerify noFaults) _ = _
  rw [EStateM.bind, pinLocked_first identified]
  exact pinVerify_first id

end CheckpointSample

/-! ## Every wrong lease -/

/-- A lease with the id of a pinned one and other fields.  The materialization refuses it.
The verification answers as for the pinned lease, and changes nothing.  The release
fails after it took the pinned lease out of the table, so a wrong lease is never refused
by every operation. -/
theorem wrong_lease {state : CheckpointState} {lease : ProviderLease} {active : ActiveLease}
    (present : state.provider.leases[lease.leaseId]? = some active)
    (wrong : active.lease ≠ lease) :
    (∀ faults executionId targetReference,
      RefusesIn (materialize faults lease executionId targetReference) state) ∧
    (∀ faults materialization, Update.state (verify faults lease materialization state) = state ∧
      ((∃ verification, Update.verdict (verify faults lease materialization state) =
          .ok verification) ↔
        ∃ target content, active.executionTargets[materialization.executionId]? = some target ∧
          readCheckpoint faults target state.provider.config.maximumCheckpointBytes state.disk =
            .ok content ∧ Digest.of content = materialization.evidenceDigest)) ∧
    (∀ faults, release faults lease state = .error .schemaInvalid (state.erase lease.leaseId) ∧
      state.erase lease.leaseId ≠ state) ∧
    ¬ WrongLeaseRefused state lease := by
  have removed := erase_ne_of_present present
  refine ⟨materialize_refuses_wrong present wrong, ?_, ?_, ?_⟩
  · intro faults materialization
    refine ⟨verify_readsOnly faults lease materialization state, ?_⟩
    exact verify_ok_iff present faults materialization
  · intro faults
    exact ⟨release_wrong present wrong faults, removed⟩
  · intro refused
    obtain ⟨error, same⟩ := refused.release noFaults
    rw [release_wrong present wrong noFaults] at same
    injection same with _ states
    exact removed states

omit [Primitives] in
/-- A lease of another World on the sample's pinned lease. -/
theorem wrong_lease_forged :
    letI := Sample.marked
    (CheckpointSample.pinnedState (Sample.id 1)).provider.leases[
        (CheckpointSample.forged (Sample.id 1)).leaseId]? =
        some (CheckpointSample.entry (Sample.id 1)) ∧
      (CheckpointSample.entry (Sample.id 1)).lease ≠ CheckpointSample.forged (Sample.id 1) ∧
      ¬ WrongLeaseRefused (CheckpointSample.pinnedState (Sample.id 1))
        (CheckpointSample.forged (Sample.id 1)) :=
  have present := @CheckpointSample.pinned_entry Sample.marked (Sample.id 1)
  have wrong := @CheckpointSample.leaseOf_ne_forged Sample.marked (Sample.id 1)
  have refused := @wrong_lease Sample.marked _ _ _ present wrong
  ⟨present, wrong, refused.2.2.2⟩

omit [Primitives] in
/-- Not every wrong lease is refused, even right after the provider opened and pinned. -/
theorem not_wrong_lease_refused :
    letI := Sample.marked
    ¬ ∀ (config : FileCheckpointConfig) (provider : FileCheckpointProvider) (disk : Disk)
        (point : Backend.RecoverablePoint) (captureId : CaptureId) (worldId : Digest)
        (pinned : ProviderLease) (state : CheckpointState),
      FileCheckpointProvider.open' config = .ok provider →
      pin noFaults point captureId worldId ⟨provider, disk⟩ = .ok pinned state →
      ∀ lease : ProviderLease, lease.leaseId = pinned.leaseId → lease ≠ pinned →
        WrongLeaseRefused state lease := by
  let _ := Sample.marked
  intro always
  obtain ⟨id, identified⟩ := leaseId_total (Sample.id 1) CheckpointSample.point.pointDigest ⟨1⟩
  have refused := always _ _ _ _ _ _ _ _ CheckpointSample.opened
    (CheckpointSample.pin_first identified) (CheckpointSample.forged id) rfl
    (CheckpointSample.leaseOf_ne_forged id).symm
  obtain ⟨error, same⟩ := refused.release noFaults
  have removed := @release_wrong _ (CheckpointSample.forged id) _
    (CheckpointSample.pinned_entry id) (CheckpointSample.leaseOf_ne_forged id) noFaults
  rw [removed] at same
  injection same with _ states
  exact erase_ne_of_present (CheckpointSample.pinned_entry id) states

end Reproit
