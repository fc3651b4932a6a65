/-
# A pinned World stays pinned

A client that holds the lease of a World relies on the lease table and on the file that
was materialized for it.  Both stay in place as long as no client pins the World while
it is pinned already: the lease is shared by all who pin it, and whoever releases it
first takes it from the others.
-/

import Reproit.Backend.WorldClient
import Reproit.Data.Run
import Reproit.Provider.CheckpointQuota
import Reproit.Provider.CheckpointSample

namespace Reproit

open Backend

variable [Primitives]

/-! ## What holds of a pinned World -/

/-- The lease is in the table. -/
def InTable (state : WorldState) (lease : ProviderLease) : Prop :=
  ∃ active, state.checkpoint.provider.leases[lease.leaseId]? = some active ∧ active.lease = lease

/-- Every holder has its lease in the table and its file on the disk. -/
def StaysPinned (state : WorldState) : Prop :=
  ∀ executionId lease target, (state.phase executionId).held = some (lease, target) →
    InTable state lease ∧
      ∀ path, target = some path → ∃ content, state.checkpoint.disk path = some (.file content)

/-- No client pins while the lease is in the table. -/
def PinsAlone (world : SharedWorld) (state : WorldState) : WorldStep → Prop
  | .client executionId _ => state.phase executionId = .start →
      ∀ id, leaseId world.captureId world.point.pointDigest world.worldId = .ok id →
        state.checkpoint.provider.leases[id]? = none
  | .outside _ _ => True

/-! ## The invariant -/

/-- One client answers for the lease, and every file has one client that answers for it. -/
structure Owned (world : SharedWorld) (config : FileCheckpointConfig) (state : WorldState) :
    Prop where
  configured : state.checkpoint.provider.config = config
  table : ∀ executionId lease, (state.phase executionId).lease = some lease →
    leaseId world.captureId world.point.pointDigest world.worldId = .ok lease.leaseId ∧
      ∃ active, state.checkpoint.provider.leases[lease.leaseId]? = some active ∧
        active.lease = lease ∧
        ∀ (owner : ExecutionId) path, active.executionTargets[owner]? = some path →
          owner = executionId ∧ path ∈ (state.phase executionId).files
  single : ∀ first second firstLease secondLease,
    (state.phase first).lease = some firstLease → (state.phase second).lease = some secondLease →
      first = second
  files : ∀ executionId path, path ∈ (state.phase executionId).files →
    path.parent = some config.workspaceRoot ∧
      ∃ content, state.checkpoint.disk path = some (.file content)
  disjoint : ∀ first second path, path ∈ (state.phase first).files →
    path ∈ (state.phase second).files → first = second
  nodup : ∀ executionId, (state.phase executionId).files.Nodup

section Invariant

variable {world : SharedWorld} {config : FileCheckpointConfig} {state : WorldState}
  {executionId : ExecutionId}

omit [Primitives] in
/-- A holder answers for its lease and its file. -/
theorem Phase.answers_of_held {phase : Phase} {lease : ProviderLease} {target : Option Path}
    (held : phase.held = some (lease, target)) :
    phase.lease = some lease ∧ ∀ path, target = some path → path ∈ phase.files := by
  cases phase with
  | pinned other =>
      cases held
      exact ⟨rfl, nofun⟩
  | holding other found next =>
      cases held
      refine ⟨rfl, ?_⟩
      rintro path rfl
      exact List.mem_singleton_self path
  | _ => cases held

theorem Owned.staysPinned (owned : Owned world config state) : StaysPinned state := by
  intro executionId lease target held
  obtain ⟨answers, listed⟩ := Phase.answers_of_held held
  obtain ⟨-, active, present, same, -⟩ := owned.table executionId lease answers
  refine ⟨⟨active, present, same⟩, ?_⟩
  rintro path rfl
  exact (owned.files executionId path (listed path rfl)).2

/-- A client advances: it answers for what it has now, and what the others answer for is
as it was. -/
theorem Owned.advance (owned : Owned world config state) {checkpoint : CheckpointState}
    {phase : Phase} (configured : checkpoint.provider.config = config)
    (table : ∀ lease, phase.lease = some lease →
      leaseId world.captureId world.point.pointDigest world.worldId = .ok lease.leaseId ∧
        ∃ active, checkpoint.provider.leases[lease.leaseId]? = some active ∧
          active.lease = lease ∧
          ∀ (owner : ExecutionId) path, active.executionTargets[owner]? = some path →
            owner = executionId ∧ path ∈ phase.files)
    (single : phase.lease ≠ none → ∀ other, other ≠ executionId → (state.phase other).lease = none)
    (files : ∀ path ∈ phase.files, path.parent = some config.workspaceRoot ∧
      ∃ content, checkpoint.disk path = some (.file content))
    (nodup : phase.files.Nodup)
    (otherTable : ∀ other, other ≠ executionId → ∀ lease, (state.phase other).lease = some lease →
      checkpoint.provider.leases[lease.leaseId]? =
        state.checkpoint.provider.leases[lease.leaseId]?)
    (otherFiles : ∀ other, other ≠ executionId → ∀ path ∈ (state.phase other).files,
      path ∉ phase.files ∧ checkpoint.disk path = state.checkpoint.disk path) :
    Owned world config (state.advance executionId checkpoint phase) := by
  have mine : (state.advance executionId checkpoint phase).phase executionId = phase :=
    Function.update_self _ _ _
  have theirs : ∀ other, other ≠ executionId →
      (state.advance executionId checkpoint phase).phase other = state.phase other :=
    fun other different => Function.update_of_ne different _ _
  constructor
  case configured => exact configured
  case table =>
    intro client lease answers
    by_cases same : client = executionId
    · subst same
      rw [mine] at answers ⊢
      exact table lease answers
    · rw [theirs client same] at answers ⊢
      obtain ⟨shared, active, present, rest⟩ := owned.table client lease answers
      exact ⟨shared, active, (otherTable client same lease answers).trans present, rest⟩
  case single =>
    intro first second firstLease secondLease firstAnswers secondAnswers
    by_cases firstSame : first = executionId
    · by_cases secondSame : second = executionId
      · rw [firstSame, secondSame]
      · subst firstSame
        rw [mine] at firstAnswers
        rw [theirs second secondSame, single (by rw [firstAnswers]; simp) second secondSame]
          at secondAnswers
        cases secondAnswers
    · by_cases secondSame : second = executionId
      · subst secondSame
        rw [mine] at secondAnswers
        rw [theirs first firstSame, single (by rw [secondAnswers]; simp) first firstSame]
          at firstAnswers
        cases firstAnswers
      · rw [theirs first firstSame] at firstAnswers
        rw [theirs second secondSame] at secondAnswers
        exact owned.single first second firstLease secondLease firstAnswers secondAnswers
  case files =>
    intro client path member
    by_cases same : client = executionId
    · subst same
      rw [mine] at member
      exact files path member
    · rw [theirs client same] at member
      obtain ⟨inside, content, present⟩ := owned.files client path member
      exact ⟨inside, content, (otherFiles client same path member).2.trans present⟩
  case disjoint =>
    intro first second path firstMember secondMember
    by_cases firstSame : first = executionId
    · by_cases secondSame : second = executionId
      · rw [firstSame, secondSame]
      · subst firstSame
        rw [mine] at firstMember
        rw [theirs second secondSame] at secondMember
        exact absurd firstMember (otherFiles second secondSame path secondMember).1
    · by_cases secondSame : second = executionId
      · subst secondSame
        rw [mine] at secondMember
        rw [theirs first firstSame] at firstMember
        exact absurd secondMember (otherFiles first firstSame path firstMember).1
      · rw [theirs first firstSame] at firstMember
        rw [theirs second secondSame] at secondMember
        exact owned.disjoint first second path firstMember secondMember
  case nodup =>
    intro client
    by_cases same : client = executionId
    · subst same
      rw [mine]
      exact nodup
    · rw [theirs client same]
      exact owned.nodup client

/-- A client that goes on with the same lease and files, while the provider and the disk
stay as they are. -/
theorem Owned.advance_same (owned : Owned world config state) {phase : Phase}
    (sameLease : phase.lease = (state.phase executionId).lease)
    (sameFiles : phase.files = (state.phase executionId).files) :
    Owned world config (state.advance executionId state.checkpoint phase) := by
  apply owned.advance owned.configured
  · intro lease answers
    rw [sameFiles]
    exact owned.table executionId lease (sameLease ▸ answers)
  · intro answers other different
    obtain ⟨mine, holds⟩ := Option.ne_none_iff_exists'.mp answers
    cases theirs : (state.phase other).lease with
    | none => rfl
    | some lease => exact absurd (owned.single _ _ _ _ theirs (sameLease ▸ holds)) different
  · rw [sameFiles]
    exact owned.files executionId
  · rw [sameFiles]
    exact owned.nodup executionId
  · exact fun _ _ _ _ => rfl
  · intro other different path member
    rw [sameFiles]
    exact ⟨fun mine => different (owned.disjoint _ _ path member mine), rfl⟩

/-- A client that gives up what it answers for. -/
theorem Owned.advance_finished (owned : Owned world config state) :
    Owned world config (state.advance executionId state.checkpoint .finished) := by
  apply owned.advance owned.configured
  · exact nofun
  · exact fun answers => absurd rfl answers
  · exact nofun
  · exact List.nodup_nil
  · exact fun _ _ _ _ => rfl
  · exact fun _ _ _ _ => ⟨List.not_mem_nil, rfl⟩

/-! ## Steps -/

variable {clients : ExecutionId → ClientRequest} {faults : Faults} {lease : ProviderLease}

/-- A pin of a World that is not pinned. -/
theorem Owned.startStep (owned : Owned world config state)
    (alone : ∀ id, leaseId world.captureId world.point.pointDigest world.worldId = .ok id →
      state.checkpoint.provider.leases[id]? = none) :
    Owned world config (startStep world clients state executionId) := by
  unfold Backend.startStep
  cases validateRequest (world.request executionId (clients executionId)) with
  | error error => exact owned.advance_finished
  | ok done =>
      cases located : pinLocked world.point world.captureId world.worldId state.checkpoint with
      | error error after =>
          rw [pinLocked_atomic _ _ _ located]
          exact owned.advance_finished
      | ok progress after =>
          obtain ⟨digest, id, -, shared, -, found | inserted⟩ := pinLocked_eq_ok.mp located
          · obtain ⟨active, present, -⟩ := found
            rw [alone id shared] at present
            cases present
          · obtain ⟨missing, -, rfl, rfl⟩ := inserted
            -- nobody answers for the lease, since it is not in the table
            have nobody : ∀ other lease, (state.phase other).lease ≠ some lease := by
              intro other lease answers
              obtain ⟨sameId, active, present, -⟩ := owned.table other lease answers
              rw [alone _ sameId] at present
              cases present
            change Owned world config (state.advance executionId (state.checkpoint.insert id
              (newEntry state.checkpoint.provider.config world.point
                (requestedLease world.point world.captureId world.worldId id) digest))
              (.verifying (requestedLease world.point world.captureId world.worldId id)
                (artifactPath state.checkpoint.provider.config digest) digest))
            apply owned.advance
            · exact owned.configured
            · rintro lease ⟨⟩
              refine ⟨shared, newEntry state.checkpoint.provider.config world.point
                (requestedLease world.point world.captureId world.worldId id) digest, ?_, rfl, ?_⟩
              · change (state.checkpoint.provider.leases.insert id _)[id]? = some _
                rw [OrderedMap.getElem?_insert, if_pos rfl]
              · intro owner path present
                simp [newEntry] at present
            · exact fun _ other _ => Option.eq_none_iff_forall_ne_some.mpr (nobody other)
            · exact nofun
            · exact List.nodup_nil
            · exact fun other _ lease answers => absurd answers (nobody other lease)
            · exact fun _ _ _ _ => ⟨List.not_mem_nil, rfl⟩

/-- Reading the checkpoint of a new lease. -/
theorem Owned.verifyingStep (owned : Owned world config state) {artifact : Path}
    {digest : Digest} (verifies : state.phase executionId = .verifying lease artifact digest) :
    Owned world config (verifyingStep faults state executionId lease artifact digest) := by
  unfold Backend.verifyingStep
  rcases pinVerify_cases faults lease artifact digest state.checkpoint with same | same
  · rw [same]
    change Owned world config (state.advance executionId state.checkpoint (.pinned lease))
    apply owned.advance_same
    · rw [verifies]
      rfl
    · rw [verifies]
      rfl
  · rw [same]
    have nobody : ∀ other, other ≠ executionId → ∀ held, (state.phase other).lease ≠ some held :=
      fun other different held answers => different
        (owned.single _ _ _ lease answers (by rw [verifies]; rfl))
    change Owned world config
      (state.advance executionId (state.checkpoint.erase lease.leaseId) .finished)
    apply owned.advance
    · exact owned.configured
    · exact nofun
    · exact fun answers => absurd rfl answers
    · exact nofun
    · exact List.nodup_nil
    · exact fun other different lease answers => absurd answers (nobody other different lease)
    · exact fun _ _ _ _ => ⟨List.not_mem_nil, rfl⟩

/-- A client that holds a lease is the only one that does. -/
theorem Owned.alone (owned : Owned world config state)
    (answers : (state.phase executionId).lease = some lease) (other : ExecutionId)
    (different : other ≠ executionId) : (state.phase other).lease = none := by
  cases theirs : (state.phase other).lease with
  | none => rfl
  | some held => exact absurd (owned.single _ _ _ _ theirs answers) different

/-- What was materialized is a new file of the workspace, and the table knows it. -/
theorem materialize_eq_ok {targetReference : String} {materialization : ProviderMaterialization}
    {before after : CheckpointState} :
    materialize faults lease executionId targetReference before = .ok materialization after ↔
      ∃ active content disk, (Path.ofText targetReference).absolute = true ∧
        (Path.ofText targetReference).parent = some before.provider.config.workspaceRoot ∧
        before.provider.leases[lease.leaseId]? = some active ∧ active.lease = lease ∧
        executionId ∉ active.executionTargets ∧
        readCheckpoint faults active.artifact before.provider.config.maximumCheckpointBytes
          before.disk = .ok content ∧
        content.length ≤ active.resourceClaim.materializedBytes.toNat ∧
        content.length ≤ active.resourceClaim.temporaryBytes.toNat ∧
        faults.directory before.provider.config.workspaceRoot = false ∧
        writeFile faults (Path.ofText targetReference) content unavailable before.disk =
          (.ok (), disk) ∧
        after = { before with disk }.insert lease.leaseId
          { active with executionTargets :=
            active.executionTargets.insert executionId (Path.ofText targetReference) } ∧
        materialization =
          { evidenceDigest := Digest.of content, executionId, leaseId := lease.leaseId,
            providerId := lease.providerId } := by
  rw [materialize, Update.get_bind]
  simp only [Update.bind_eq_ok, Update.attempt_eq_ok, rejectIf_eq_ok, okOr_eq_ok, not_or, not_not,
    not_lt]
  constructor
  · rintro ⟨_, _, ⟨⟨rooted, inside⟩, rfl⟩, active, _, ⟨present, rfl⟩, _, _, ⟨⟨mine, absent⟩, rfl⟩,
      content, _, ⟨read, rfl⟩, _, _, ⟨⟨fits, fitsTemporary⟩, rfl⟩, parent, _, ⟨same, rfl⟩,
      _, _, ⟨directory, rfl⟩, _, _, wrote, _, _, ⟨written, rfl⟩, _, _, entered, returned⟩
    obtain rfl := Option.some.inj (inside.symm.trans same)
    cases wrote
    cases entered
    cases returned
    exact ⟨active, content, _, rooted, inside, present, mine, absent, read, fits, fitsTemporary,
      by simpa using directory, Prod.ext written rfl, rfl, rfl⟩
  · rintro ⟨active, content, disk, rooted, inside, present, mine, absent, read, fits,
      fitsTemporary, directory, written, rfl, rfl⟩
    refine ⟨(), _, ⟨⟨rooted, inside⟩, rfl⟩, active, _, ⟨present, rfl⟩, (), _, ⟨⟨mine, absent⟩, rfl⟩,
      content, _, ⟨read, rfl⟩, (), _, ⟨⟨fits, fitsTemporary⟩, rfl⟩, _, _, ⟨inside, rfl⟩,
      (), _, ⟨by simp [directory], rfl⟩, ?_⟩
    rw [written]
    exact ⟨_, _, rfl, (), _, ⟨rfl, rfl⟩, _, _, rfl, rfl⟩

/-- The table is as it was, and so is what was on the disk. -/
def Spares (before after : CheckpointState) : Prop :=
  after.provider = before.provider ∧
    ∀ path node, before.disk path = some node → after.disk path = some node

/-- A failed materialization leaves at most a file where nothing was. -/
theorem materialize_failsIn (faults : Faults) (lease : ProviderLease) (executionId : ExecutionId)
    (targetReference : String) (before : CheckpointState) :
    Update.FailsIn (Spares before) (materialize faults lease executionId targetReference)
      before := by
  have here : Spares before before := ⟨rfl, fun _ _ present => present⟩
  rw [materialize]
  apply Update.FailsIn.get_bind
  apply Update.FailsIn.attempt_bind here
  intro _ _
  apply Update.FailsIn.attempt_bind here
  intro active _
  apply Update.FailsIn.attempt_bind here
  intro _ _
  apply Update.FailsIn.attempt_bind here
  intro bytes _
  apply Update.FailsIn.attempt_bind here
  intro _ _
  apply Update.FailsIn.attempt_bind here
  intro parent _
  apply Update.FailsIn.attempt_bind here
  intro _ _
  apply Update.FailsIn.set_bind
  apply Update.FailsIn.attempt_bind
  · refine ⟨rfl, fun path node present => ?_⟩
    exact writeFile_present faults _ bytes unavailable present
  · intro _ _
    apply Update.FailsIn.set_bind
    exact Update.FailsIn.pure _ _

/-- Writing the file of a client. -/
theorem Owned.materializeStep (owned : Owned world config state)
    (pinned : state.phase executionId = .pinned lease) :
    Owned world config (materializeStep world clients faults state executionId lease) := by
  have answers : (state.phase executionId).lease = some lease := by rw [pinned]; rfl
  have noFiles : (state.phase executionId).files = [] := by rw [pinned]; rfl
  unfold Backend.materializeStep
  dsimp only
  cases validateLease (world.request executionId (clients executionId)) lease with
  | error error =>
      dsimp only
      apply owned.advance_same
      · exact answers.symm
      · exact noFiles.symm
  | ok done =>
      dsimp only
      obtain ⟨shared, active, present, mine, targets⟩ := owned.table executionId lease answers
      cases ran : materialize faults lease executionId
          (world.request executionId (clients executionId)).targetReference state.checkpoint with
      | error error after =>
          obtain ⟨sameProvider, kept⟩ := materialize_failsIn _ _ _ _ _ _ _ ran
          dsimp only
          apply owned.advance
          · rw [sameProvider]
            exact owned.configured
          · rintro lease ⟨⟩
            rw [sameProvider]
            rw [noFiles] at targets
            exact ⟨shared, active, present, mine, targets⟩
          · exact fun _ => owned.alone answers
          · exact nofun
          · exact List.nodup_nil
          · exact fun _ _ _ _ => by rw [sameProvider]
          · intro other different path member
            obtain ⟨-, content, there⟩ := owned.files other path member
            exact ⟨List.not_mem_nil, (kept path _ there).trans there.symm⟩
      | ok materialization after =>
          obtain ⟨_, content, disk, -, inside, found, -, -, -, -, -, -, written, rfl, -⟩ :=
            materialize_eq_ok.mp ran
          obtain rfl := Option.some.inj (present.symm.trans found)
          obtain ⟨missing, rfl⟩ := writeFile_eq_ok written
          dsimp only
          apply owned.advance
          · exact owned.configured
          · rintro lease ⟨⟩
            refine ⟨shared, { active with
              executionTargets := active.executionTargets.insert executionId
                (Path.ofText (clients executionId).targetReference) }, ?_, mine, ?_⟩
            · change (state.checkpoint.provider.leases.insert lease.leaseId _)[lease.leaseId]? =
                some _
              rw [OrderedMap.getElem?_insert, if_pos rfl]
              rfl
            · intro owner path entered
              rw [OrderedMap.getElem?_insert] at entered
              by_cases same : executionId = owner
              · rw [if_pos same] at entered
                cases entered
                exact ⟨same.symm, List.mem_singleton_self _⟩
              · rw [if_neg same] at entered
                exact absurd (targets owner path entered).1.symm same
          · exact fun _ => owned.alone answers
          · intro path member
            obtain rfl := List.mem_singleton.mp member
            rw [owned.configured] at inside
            refine ⟨inside, content, ?_⟩
            exact Disk.set_self _ _ _
          · exact List.nodup_singleton _
          · intro other different lease theirs
            rw [owned.alone answers other different] at theirs
            cases theirs
          · intro other different path member
            obtain ⟨-, content, there⟩ := owned.files other path member
            have apart : path ≠ Path.ofText (clients executionId).targetReference := by
              rintro rfl
              cases missing.symm.trans there
            exact ⟨fun mine => apart (List.mem_singleton.mp mine), Disk.set_of_ne _ apart _⟩

/-- What was verified has the content that the materialization names. -/
theorem verify_eq_ok {materialization : ProviderMaterialization}
    {verification : ProviderVerification} {before after : CheckpointState} :
    verify faults lease materialization before = .ok verification after ↔
      ∃ active target content, before.provider.leases[lease.leaseId]? = some active ∧
        active.executionTargets[materialization.executionId]? = some target ∧
        readCheckpoint faults target before.provider.config.maximumCheckpointBytes before.disk =
          .ok content ∧
        Digest.of content = materialization.evidenceDigest ∧ after = before ∧
        verification = { evidenceDigest := Digest.of content,
                         executionId := materialization.executionId, leaseId := lease.leaseId,
                         providerId := lease.providerId } := by
  rw [verify, Update.get_bind]
  simp only [Update.bind_eq_ok, Update.attempt_eq_ok, rejectIf_eq_ok, okOr_eq_ok, not_not]
  constructor
  · rintro ⟨active, _, ⟨present, rfl⟩, target, _, ⟨listed, rfl⟩, content, _, ⟨read, rfl⟩,
      _, _, ⟨same, rfl⟩, returned⟩
    cases returned
    exact ⟨active, target, content, present, listed, read, same, rfl, rfl⟩
  · rintro ⟨active, target, content, present, listed, read, same, rfl, rfl⟩
    exact ⟨active, _, ⟨present, rfl⟩, target, _, ⟨listed, rfl⟩, content, _, ⟨read, rfl⟩,
      (), _, ⟨same, rfl⟩, rfl⟩

theorem verify_readsOnly (faults : Faults) (lease : ProviderLease)
    (materialization : ProviderMaterialization) :
    Update.ReadsOnly (verify faults lease materialization) := by
  apply Update.ReadsOnly.get_bind
  intro before
  apply Update.ReadsOnly.attempt_bind
  intro active
  apply Update.ReadsOnly.attempt_bind
  intro target
  apply Update.ReadsOnly.attempt_bind
  intro bytes
  apply Update.ReadsOnly.attempt_bind
  intro _
  exact Update.readsOnly_pure _

/-- Reading the file of a client again. -/
theorem Owned.verifyStep (owned : Owned world config state) {target : Option Path}
    {materialization : ProviderMaterialization} {next : HolderStep}
    (holds : state.phase executionId = .holding lease target next) :
    Owned world config (verifyStep faults state executionId lease target materialization) := by
  have same := verify_readsOnly faults lease materialization state.checkpoint
  unfold Backend.verifyStep
  cases ran : verify faults lease materialization state.checkpoint with
  | error error after =>
      rw [ran] at same
      obtain rfl : after = state.checkpoint := same
      apply owned.advance_same
      · rw [holds]
        rfl
      · rw [holds]
        rfl
  | ok verification after =>
      rw [ran] at same
      obtain rfl : after = state.checkpoint := same
      apply owned.advance_same
      · rw [holds]
        rfl
      · rw [holds]
        rfl

omit [Primitives] in
/-- Releasing a lease of the table hands over the files of every execution. -/
theorem releaseLocked_of_present {checkpoint : CheckpointState} {active : ActiveLease}
    (present : checkpoint.provider.leases[lease.leaseId]? = some active)
    (mine : active.lease = lease) :
    releaseLocked lease checkpoint =
      .ok (active.executionTargets.toList.map Prod.snd) (checkpoint.erase lease.leaseId) := by
  rw [releaseLocked, Update.get_bind, present]
  change (Update.attempt (rejectIf (active.lease ≠ lease) Error.schemaInvalid) >>= _) _ = _
  rw [Update.attempt_bind_ok (rejectIf_of_not _ (not_not.mpr mine))]
  rfl

/-- Taking the lease out of the table. -/
theorem Owned.releaseStep (owned : Owned world config state)
    (answers : (state.phase executionId).lease = some lease) :
    Owned world config (releaseStep state executionId lease) := by
  obtain ⟨-, active, present, mine, targets⟩ := owned.table executionId lease answers
  have listed : ∀ entry ∈ active.executionTargets.toList,
      entry.1 = executionId ∧ entry.2 ∈ (state.phase executionId).files :=
    fun entry member => targets _ _ (OrderedMap.mem_toList.mp member)
  have listedFiles : ∀ path ∈ active.executionTargets.toList.map Prod.snd,
      path ∈ (state.phase executionId).files := by
    intro path member
    obtain ⟨entry, there, rfl⟩ := List.mem_map.mp member
    exact (listed entry there).2
  rw [Backend.releaseStep, releaseLocked_of_present present mine]
  apply owned.advance
  · exact owned.configured
  · exact nofun
  · exact fun answered => absurd rfl answered
  · exact fun path member => owned.files executionId path (listedFiles path member)
  · apply List.Nodup.map_on
    · intro first firstMember second secondMember same
      exact Prod.ext ((listed first firstMember).1.trans (listed second secondMember).1.symm) same
    · exact (OrderedMap.nodup_toList _)
  · intro other different lease theirs
    rw [owned.alone answers other different] at theirs
    cases theirs
  · intro other different path member
    exact ⟨fun mine => different (owned.disjoint _ _ path member (listedFiles path mine)), rfl⟩

/-- Removing one file of a client. -/
theorem Owned.removingStep (owned : Owned world config state) {targets : List Path}
    (removes : state.phase executionId = .removing targets) :
    Owned world config (removingStep faults state executionId targets) := by
  cases targets with
  | nil => exact owned.advance_finished
  | cons target rest =>
      have files : (state.phase executionId).files = target :: rest := by rw [removes]; rfl
      have nodup := owned.nodup executionId
      rw [files, List.nodup_cons] at nodup
      rcases ran : removeFile faults target unavailable state.checkpoint.disk with ⟨removed, disk⟩
      have others : ∀ path, path ≠ target → disk path = state.checkpoint.disk path := by
        intro path different
        have same := removeFile_of_ne faults unavailable state.checkpoint.disk different
        rwa [ran] at same
      have otherFiles : ∀ other, other ≠ executionId → ∀ path ∈ (state.phase other).files,
          path ∉ target :: rest := by
        intro other different path member mine
        exact different (owned.disjoint _ _ path member (files ▸ mine))
      rw [Backend.removingStep, ran]
      cases removed with
      | error error =>
          dsimp only
          apply owned.advance
          · exact owned.configured
          · exact nofun
          · exact fun answers => absurd rfl answers
          · exact nofun
          · exact List.nodup_nil
          · exact fun _ _ _ _ => rfl
          · intro other different path member
            refine ⟨List.not_mem_nil, others path ?_⟩
            rintro rfl
            exact otherFiles other different path member List.mem_cons_self
      | ok done =>
          dsimp only
          apply owned.advance
          · exact owned.configured
          · exact nofun
          · exact fun answers => absurd rfl answers
          · intro path member
            have different : path ≠ target := by
              rintro rfl
              exact nodup.1 member
            obtain ⟨inside, content, there⟩ :=
              owned.files executionId path (files ▸ List.mem_cons_of_mem _ member)
            exact ⟨inside, content, (others path different).trans there⟩
          · exact nodup.2
          · exact fun _ _ _ _ => rfl
          · intro other different path member
            have apart := otherFiles other different path member
            rw [List.mem_cons, not_or] at apart
            exact ⟨apart.2, others path apart.1⟩

/-- Nothing outside the workspace matters. -/
theorem Owned.outside (owned : Owned world config state) (path : Path) (node : Option Node) :
    Owned world config (WorldStep.next world clients state (.outside path node)) := by
  rw [WorldStep.next]
  split
  · exact owned
  · rename_i elsewhere
    constructor
    case configured => exact owned.configured
    case table => exact owned.table
    case single => exact owned.single
    case files =>
      intro client file member
      obtain ⟨inside, content, there⟩ := owned.files client file member
      have apart : file ≠ path := by
        rintro rfl
        exact elsewhere (owned.configured ▸ inside)
      exact ⟨inside, content, (Disk.set_of_ne _ apart _).trans there⟩
    case disjoint => exact owned.disjoint
    case nodup => exact owned.nodup

theorem Owned.next (owned : Owned world config state) {step : WorldStep}
    (alone : PinsAlone world state step) :
    Owned world config (WorldStep.next world clients state step) := by
  cases step with
  | outside path node => exact owned.outside path node
  | client executionId faults =>
      rw [WorldStep.next]
      cases located : state.phase executionId with
      | start => exact owned.startStep (alone located)
      | verifying lease artifact digest => exact owned.verifyingStep located
      | pinned lease => exact owned.materializeStep located
      | holding lease target next =>
          cases next with
          | verify materialization => exact owned.verifyStep located
          | execute verification =>
              apply owned.advance_same
              · rw [located]
                rfl
              · rw [located]
                rfl
          | release => exact owned.releaseStep (by rw [located]; rfl)
      | removing targets => exact owned.removingStep located
      | finished => exact owned

/-- Nobody answers for anything at first. -/
theorem owned_initial {provider : FileCheckpointProvider} (disk : Disk)
    (configured : provider.config = config) :
    Owned world config (WorldState.initial provider disk) := by
  constructor
  case configured => exact configured
  case table => exact nofun
  case single => exact nofun
  case files => exact nofun
  case disjoint => exact nofun
  case nodup => exact fun _ => List.nodup_nil

/-! ## Two clients of one lease -/

/-- A client starts once. -/
theorem next_ne_start (state : WorldState) (executionId : ExecutionId) (faults : Faults) :
    (WorldStep.next world clients state (.client executionId faults)).phase executionId ≠
      .start := by
  have advanced : ∀ checkpoint phase, phase ≠ .start →
      (state.advance executionId checkpoint phase).phase executionId ≠ .start := by
    intro checkpoint phase different
    rwa [WorldState.advance_phase]
  rw [WorldStep.next]
  cases located : state.phase executionId with
  | start =>
      dsimp only
      rw [Backend.startStep]
      split
      · exact advanced _ _ nofun
      · split
        · exact advanced _ _ nofun
        · exact advanced _ _ nofun
        · exact advanced _ _ nofun
  | verifying lease artifact digest =>
      dsimp only
      rw [Backend.verifyingStep]
      split
      · exact advanced _ _ nofun
      · exact advanced _ _ nofun
  | pinned lease =>
      dsimp only
      rw [Backend.materializeStep]
      split
      · exact advanced _ _ nofun
      · split
        · exact advanced _ _ nofun
        · exact advanced _ _ nofun
  | holding lease target next =>
      cases next with
      | verify materialization =>
          dsimp only
          rw [Backend.verifyStep]
          split
          · exact advanced _ _ nofun
          · exact advanced _ _ nofun
      | execute verification => exact advanced _ _ nofun
      | release =>
          dsimp only
          rw [Backend.releaseStep]
          split
          · exact advanced _ _ nofun
          · exact advanced _ _ nofun
  | removing targets =>
      cases targets with
      | nil => exact advanced _ _ nofun
      | cons target rest =>
          dsimp only
          rw [Backend.removingStep]
          rcases removeFile faults target unavailable state.checkpoint.disk with ⟨_ | _, disk⟩
          · exact advanced _ _ nofun
          · exact advanced _ _ nofun
  | finished =>
      rw [located]
      nofun

theorem startStep_inserted {artifact : Path} {digest : Digest} {after : CheckpointState}
    (accepted : validateRequest (world.request executionId (clients executionId)) = .ok ())
    (located : pinLocked world.point world.captureId world.worldId state.checkpoint =
      .ok (.inserted lease artifact digest) after) :
    startStep world clients state executionId =
      state.advance executionId after (.verifying lease artifact digest) := by
  simp only [Backend.startStep, accepted, located]

theorem startStep_found {after : CheckpointState}
    (accepted : validateRequest (world.request executionId (clients executionId)) = .ok ())
    (located : pinLocked world.point world.captureId world.worldId state.checkpoint =
      .ok (.found lease) after) :
    startStep world clients state executionId =
      state.advance executionId after (.pinned lease) := by
  simp only [Backend.startStep, accepted, located]

end Invariant

namespace CheckpointSample

/-- Both clients pin the World, and the first one is done with it. -/
def shared : List WorldStep :=
  let first := .client (Sample.id 1) noFaults
  [first, first, .client (Sample.id 2) noFaults, first, first, first, first]

/-- The World is used by the one client that pins it. -/
def unshared : List WorldStep := List.replicate 9 (.client (Sample.id 1) noFaults)

def leaseOf (id : LeaseId) : ProviderLease := requestedLease point (Sample.id 1) ⟨1⟩ id

def entry (id : LeaseId) : ActiveLease := newEntry config point (leaseOf id) (Digest.of [])

variable {id : LeaseId}

/-- The provider while the lease is pinned. -/
def pinnedState (id : LeaseId) : CheckpointState :=
  CheckpointState.insert ⟨provider, disk⟩ id (entry id)

def target : Path := Path.ofText "/work/first"

/-- The provider after the first client wrote its file. -/
def materializedState (id : LeaseId) : CheckpointState :=
  CheckpointState.insert ⟨(pinnedState id).provider, disk.set target (some (.file []))⟩ id
    { entry id with
      executionTargets := (entry id).executionTargets.insert (Sample.id 1) target }

def materialization (id : LeaseId) : ProviderMaterialization where
  evidenceDigest := Digest.of []
  executionId := Sample.id 1
  leaseId := id
  providerId := "state"

def verification (id : LeaseId) : ProviderVerification where
  evidenceDigest := Digest.of []
  executionId := Sample.id 1
  leaseId := id
  providerId := "state"

theorem pinned_entry (id : LeaseId) :
    (pinnedState id).provider.leases[id]? = some (entry id) := by
  rw [pinnedState]
  exact (OrderedMap.getElem?_insert _ id id _).trans (if_pos rfl)

theorem materialized_entry (id : LeaseId) :
    (materializedState id).provider.leases[id]? = some { entry id with
      executionTargets := (entry id).executionTargets.insert (Sample.id 1) target } := by
  rw [materializedState]
  exact (OrderedMap.getElem?_insert _ id id _).trans (if_pos rfl)

theorem pinLocked_first (identified : leaseId (Sample.id 1) point.pointDigest ⟨1⟩ = .ok id) :
    pinLocked point (Sample.id 1) ⟨1⟩ ⟨provider, disk⟩ =
      .ok (.inserted (leaseOf id) (artifactPath config (Digest.of [])) (Digest.of []))
        (pinnedState id) := by
  refine pinLocked_eq_ok.mpr ⟨_, id, selectArtifact_point, identified, ?_, .inr ?_⟩
  · exact fun full => absurd full.1 (by decide : ¬ 0 ≥ (2 : UInt64).toNat)
  · exact ⟨rfl, rfl, rfl, rfl⟩

theorem pinLocked_second (identified : leaseId (Sample.id 1) point.pointDigest ⟨1⟩ = .ok id) :
    pinLocked point (Sample.id 1) ⟨1⟩ (pinnedState id) =
      .ok (.found (leaseOf id)) (pinnedState id) := by
  refine pinLocked_eq_ok.mpr ⟨_, id, selectArtifact_point, identified, ?_, .inl ?_⟩
  · exact fun full => full.2 (Std.ExtTreeMap.mem_insert_self)
  · exact ⟨entry id, pinned_entry id, rfl, rfl, rfl⟩

omit [Primitives] in
/-- An empty file is read. -/
theorem readCheckpoint_empty {path : Path} {disk : Disk} (stored : disk path = some (.file [])) :
    readCheckpoint noFaults path 8 disk = .ok [] := by
  rw [readCheckpoint, stored]
  rfl

theorem disk_artifact : disk (artifactPath config (Digest.of [])) = some (.file []) := by
  rw [disk, Disk.set_self]

theorem disk_target : disk target = none := by
  rw [disk, Disk.set_of_ne]
  intro same
  have directories := congrArg (fun path => path.components.head?) same
  exact absurd directories (by decide +kernel : some "work" ≠ some "history")

theorem materialize_first (id : LeaseId) :
    materialize noFaults (leaseOf id) (Sample.id 1) "/work/first" (pinnedState id) =
      .ok (materialization id) (materializedState id) := by
  refine materialize_eq_ok.mpr ⟨entry id, [], disk.set target (some (.file [])), ?_⟩
  refine ⟨by decide +kernel, ?_, pinned_entry id, rfl, ?_, ?_, Nat.zero_le _, Nat.zero_le _, rfl,
    ?_, rfl, rfl⟩
  · exact (by decide +kernel : target.parent = some ⟨true, ["work"]⟩)
  · exact (by decide : (Sample.id 1 : ExecutionId) ∉ (∅ : OrderedMap ExecutionId Path))
  · change readCheckpoint noFaults (artifactPath config (Digest.of [])) 8 disk = _
    exact readCheckpoint_empty disk_artifact
  · change writeFile noFaults target [] unavailable disk = _
    rw [writeFile, disk_target]
    rfl

theorem verify_first (id : LeaseId) :
    verify noFaults (leaseOf id) (materialization id) (materializedState id) =
      .ok (verification id) (materializedState id) := by
  refine verify_eq_ok.mpr ⟨_, target, [], materialized_entry id, ?_, ?_, rfl, rfl, rfl⟩
  · exact (OrderedMap.getElem?_insert _ _ _ _).trans (if_pos rfl)
  · apply readCheckpoint_empty
    exact Disk.set_self disk target (some (.file []))

theorem pinVerify_first (id : LeaseId) :
    pinVerify noFaults (.inserted (leaseOf id) (artifactPath config (Digest.of [])) (Digest.of []))
      (pinnedState id) = .ok (leaseOf id) (pinnedState id) := by
  have read : readCheckpoint noFaults (artifactPath config (Digest.of []))
      (pinnedState id).provider.config.maximumCheckpointBytes (pinnedState id).disk = .ok [] := by
    change readCheckpoint noFaults (artifactPath config (Digest.of [])) 8 disk = _
    exact readCheckpoint_empty disk_artifact
  rw [pinVerify, Update.get_bind, read]
  exact congrFun (if_pos rfl) _

theorem validateLease_client (executionId : ExecutionId) (id : LeaseId) :
    validateLease (world.request executionId (clients executionId)) (leaseOf id) = .ok () := by
  apply rejectIf_of_not
  simp only [not_or, not_not]
  exact ⟨rfl, rfl, rfl, rfl, lt_irrefl _⟩

theorem validateMaterialization_first (id : LeaseId) :
    validateMaterialization (leaseOf id) (Sample.id 1) (materialization id) = .ok () := by
  apply rejectIf_of_not
  simp only [not_or, not_not]
  exact ⟨rfl, rfl, rfl⟩

theorem validateVerification_first (id : LeaseId) :
    validateVerification (leaseOf id) (Sample.id 1) (materialization id) (verification id) =
      .ok () := by
  apply rejectIf_of_not
  simp only [not_or, not_not]
  exact ⟨rfl, rfl, rfl, rfl⟩

theorem releaseLocked_first (id : LeaseId) :
    releaseLocked (leaseOf id) (materializedState id) =
      .ok [target] ((materializedState id).erase id) :=
  @releaseLocked_of_present (leaseOf id) (materializedState id) _ (materialized_entry id) rfl

theorem request_first :
    (world.request (Sample.id 1) (clients (Sample.id 1))).targetReference = "/work/first" := by
  simp only [SharedWorld.request, clients, if_true]

/-- The second client holds a lease that is in the table no more. -/
theorem shared_unpinned (identified : leaseId (Sample.id 1) point.pointDigest ⟨1⟩ = .ok id) :
    let state := (WorldState.initial provider disk).run world clients shared
    (state.phase (Sample.id 2)).held = some (leaseOf id, none) ∧
      state.checkpoint.provider.leases[id]? = none := by
  let first : WorldStep := .client (Sample.id 1) noFaults
  have apart : (Sample.id 2 : ExecutionId) ≠ Sample.id 1 := by decide
  let pinning := (WorldState.initial provider disk).advance (Sample.id 1) (pinnedState id)
    (.verifying (leaseOf id) (artifactPath config (Digest.of [])) (Digest.of []))
  let pinned := pinning.advance (Sample.id 1) (pinnedState id) (.pinned (leaseOf id))
  let both := pinned.advance (Sample.id 2) (pinnedState id) (.pinned (leaseOf id))
  let written := both.advance (Sample.id 1) (materializedState id)
    (.holding (leaseOf id) (some target) (.verify (materialization id)))
  let verified := written.advance (Sample.id 1) (materializedState id)
    (.holding (leaseOf id) (some target) (.execute (verification id)))
  let executed := verified.advance (Sample.id 1) (materializedState id)
    (.holding (leaseOf id) (some target) .release)
  let released := executed.advance (Sample.id 1) ((materializedState id).erase id)
    (.removing [target])
  have step1 : WorldStep.next world clients (WorldState.initial provider disk) first = pinning :=
    startStep_inserted (validateRequest_client _) (pinLocked_first identified)
  have step2 : WorldStep.next world clients pinning first = pinned := by
    simp only [WorldStep.next, pinning, first, WorldState.advance_phase, Backend.verifyingStep,
      WorldState.advance_checkpoint, pinVerify_first, pinned]
  have step3 : WorldStep.next world clients pinned (.client (Sample.id 2) noFaults) = both := by
    have start : pinned.phase (Sample.id 2) = .start := by
      rw [WorldState.advance_phase_of_ne _ apart, WorldState.advance_phase_of_ne _ apart]
      rfl
    rw [WorldStep.next, start]
    exact startStep_found (validateRequest_client _) (pinLocked_second identified)
  have step4 : WorldStep.next world clients both first = written := by
    have phase : both.phase (Sample.id 1) = .pinned (leaseOf id) := by
      rw [WorldState.advance_phase_of_ne _ apart.symm, WorldState.advance_phase]
    simp only [WorldStep.next, first, phase, Backend.materializeStep, validateLease_client,
      request_first, both, WorldState.advance_checkpoint, materialize_first,
      validateMaterialization_first]
    rfl
  have step5 : WorldStep.next world clients written first = verified := by
    simp only [WorldStep.next, written, first, WorldState.advance_phase, Backend.verifyStep,
      WorldState.advance_checkpoint, verify_first, validateVerification_first, verified]
  have step6 : WorldStep.next world clients verified first = executed := by
    simp only [WorldStep.next, verified, first, WorldState.advance_phase,
      WorldState.advance_checkpoint, executed]
  have step7 : WorldStep.next world clients executed first = released := by
    simp only [WorldStep.next, executed, first, WorldState.advance_phase, Backend.releaseStep,
      WorldState.advance_checkpoint, releaseLocked_first, released]
  have reached : (WorldState.initial provider disk).run world clients shared = released := by
    change WorldStep.next world clients (WorldStep.next world clients (WorldStep.next world clients
      (WorldStep.next world clients (WorldStep.next world clients (WorldStep.next world clients
        (WorldStep.next world clients (WorldState.initial provider disk) first) first)
          (.client (Sample.id 2) noFaults)) first) first) first) first = released
    rw [step1, step2, step3, step4, step5, step6, step7]
  rw [reached]
  refine ⟨?_, ?_⟩
  · have phase : released.phase (Sample.id 2) = .pinned (leaseOf id) := by
      simp only [released, executed, verified, written, both,
        WorldState.advance_phase_of_ne _ apart, WorldState.advance_phase]
    rw [phase]
    rfl
  · change ((materializedState id).provider.leases.erase id)[id]? = none
    rw [OrderedMap.getElem?_erase, if_pos rfl]

theorem shared_not_staysPinned :
    ¬ StaysPinned ((WorldState.initial provider disk).run world clients shared) := by
  obtain ⟨id, identified⟩ := leaseId_total (Sample.id 1) point.pointDigest ⟨1⟩
  obtain ⟨held, missing⟩ := shared_unpinned identified
  intro stays
  obtain ⟨⟨active, present, -⟩, -⟩ := stays _ _ _ held
  cases missing.symm.trans present

/-- A client that uses the World alone never finds it pinned. -/
theorem unshared_pinsAlone : EveryStep (WorldStep.next world clients) (PinsAlone world)
    (WorldState.initial provider disk) unshared := by
  have started : ∀ (count : Nat) (state : WorldState), state.phase (Sample.id 1) ≠ .start →
      EveryStep (WorldStep.next world clients) (PinsAlone world) state
        (List.replicate count (.client (Sample.id 1) noFaults)) := by
    intro count
    induction count with
    | zero => exact fun _ _ => trivial
    | succ count ih =>
        intro state later
        exact ⟨fun start => absurd start later, ih _ (next_ne_start _ _ _)⟩
  refine ⟨fun _ id _ => ?_, started 8 _ (next_ne_start _ _ _)⟩
  exact Std.ExtTreeMap.getElem?_empty

end CheckpointSample

/-! ## Runs -/

end Reproit
