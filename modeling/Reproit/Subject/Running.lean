/-
# Packaging a running subject

A running program is packaged into a new staging directory.  When the packaging fails, the
directory is removed; when it succeeds, the directory holds the frozen objects and nothing else,
until the package is dropped.  Nothing outside the directory is ever touched.
-/

import Reproit.Subject.Discovery
import Reproit.Subject.Image

namespace Reproit.Backend

/-! ## Packaging -/

/-- Remove a directory and what is below it, except for what cannot be removed. -/
def removeDirAll (stuck : Path → Bool) (root : Path) (disk : Disk) : Disk := fun path =>
  if (path = root ∨ path.Beneath root) ∧ stuck path = false then none else disk path

/-- The staging directory must be new, in a directory that is there. -/
def validateNewStagingRoot (faults : Faults) (disk : Disk) (path : Path) : Result Unit := do
  rejectIf (path = ⟨false, []⟩ ∨ (disk path).isSome) .schemaInvalid
  let parent ← okOr path.parent .schemaInvalid
  rejectIf (faults.directory parent = true) subjectUnavailable

/-- While the guard is armed, a failure removes the directory. -/
def guarded {α : Type} (stuck : Path → Bool) (root : Path) (step : Update Error Disk α) :
    Update Error Disk α := fun disk =>
  match step disk with
  | .ok value after => .ok value after
  | .error error after => .error error (removeDirAll stuck root after)

variable [Primitives] (faults : Faults) (reads : ShortReads)

/-- Discover the files of a subject and freeze them. -/
def freezeRunningSubject (running : RunningProgram) (tree : List TreeEntry)
    (stuck : Path → Bool) (request : SubjectPackagingRequest) (stagingRoot : Path) :
    Update Error Disk FrozenSubjectClosure := do
  Update.attempt request.limits.validate
  let disk ← get
  Update.attempt (validateNewStagingRoot faults disk stagingRoot)
  Update.attempt (rejectIf ((faults.write stagingRoot).isSome = true) subjectUnavailable)
  set (disk.set stagingRoot (some .other))
  guarded stuck stagingRoot do
    let disk ← get
    let files ← Update.attempt (discoverSubjectFiles disk running tree request)
    freezeFiles faults reads request stagingRoot files

/-- A package that is dropped takes its staging directory with it. -/
def FrozenSubjectClosure.drop (stuck : Path → Bool) (frozen : FrozenSubjectClosure)
    (disk : Disk) : Disk :=
  removeDirAll stuck frozen.stagingRoot disk

/-! ## What packaging leaves alone -/

variable {stagingRoot : Path} {disk : Disk}

/-- The disks agree but for what is below the directory. -/
def Disk.AgreeOutside (root : Path) (before after : Disk) : Prop :=
  ∀ path, ¬ path.Beneath root → after path = before path

omit [Primitives] in
theorem Disk.AgreeOutside.trans {root : Path} {first second third : Disk}
    (one : first.AgreeOutside root second) (other : second.AgreeOutside root third) :
    first.AgreeOutside root third :=
  fun path outside => (other path outside).trans (one path outside)

omit [Primitives] in
theorem Disk.AgreeOutside.set {root path : Path} {before after : Disk}
    (agree : before.AgreeOutside root after) (below : path.Beneath root) (node : Option Node) :
    before.AgreeOutside root (after.set path node) := by
  intro other outside
  have elsewhere : other ≠ path := fun same => outside (same ▸ below)
  rw [after.set_of_ne elsewhere, agree other outside]

omit [Primitives] in
theorem writeFile_agrees {root path : Path} {before after : Disk}
    (agree : before.AgreeOutside root after) (below : path.Beneath root) (content : Bytes)
    (unavailable : Error) :
    before.AgreeOutside root (writeFile faults path content unavailable after).2 := by
  unfold writeFile
  split
  · exact agree
  · exact agree
  · exact agree.set below _
  · exact agree.set below _

omit [Primitives] in
theorem removeFile_agrees {root path : Path} {before after : Disk}
    (agree : before.AgreeOutside root after) (below : path.Beneath root) (unavailable : Error) :
    before.AgreeOutside root (removeFile faults path unavailable after).2 := by
  unfold removeFile
  split
  · exact agree.set below _
  · exact agree

theorem storeStaged_agrees {root temporary path : Path} {before after : Disk}
    (agree : before.AgreeOutside root after) (below : path.Beneath root)
    (belowToo : temporary.Beneath root) (limits : SubjectPackagingLimits) (content : Bytes) :
    before.AgreeOutside root (storeStaged faults limits temporary path content after).2 := by
  rw [storeStaged]
  cases after path with
  | some node =>
      dsimp only
      cases verifyStaged faults limits path (Digest.of content) content.length after with
      | error error => exact agree
      | ok done => exact removeFile_agrees faults agree belowToo subjectUnavailable
  | none =>
      dsimp only
      rw [renameFile]
      split_ifs
      · exact agree
      · exact (agree.set belowToo _).set below _
      · exact (agree.set belowToo _).set below _

/-- Freezing a file changes nothing outside the directory. -/
theorem freezeOneFile_agrees {before : Disk} (agree : disk.AgreeOutside stagingRoot before)
    (limits : SubjectPackagingLimits) (index : Nat) (discovered : DiscoveredFile) :
    Update.EndsIn (disk.AgreeOutside stagingRoot)
      (freezeOneFile faults reads limits stagingRoot index discovered) before := by
  rw [freezeOneFile]
  apply Update.EndsIn.get_bind
  apply Update.EndsIn.attempt_bind agree
  intro content _
  apply Update.EndsIn.attempt_bind agree
  intro _ _
  have wrote := writeFile_agrees faults agree (stagingRoot.join_beneath (partialName index))
    content subjectUnavailable
  dsimp only
  generalize writeFile faults (stagingRoot.join (partialName index)) content subjectUnavailable
    before = outcome at wrote ⊢
  obtain ⟨written, first⟩ := outcome
  apply Update.EndsIn.set_bind
  apply Update.EndsIn.attempt_bind wrote
  intro _ _
  apply Update.EndsIn.attempt_bind wrote
  intro size _
  have stored := storeStaged_agrees faults wrote
    (stagingRoot.join_beneath (stagedName (Digest.of content)))
    (stagingRoot.join_beneath (partialName index)) limits content
  dsimp only at stored ⊢
  generalize storeStaged faults limits (stagingRoot.join (partialName index))
    (stagingRoot.join (stagedName (Digest.of content))) content first = outcome at stored ⊢
  obtain ⟨kept, second⟩ := outcome
  apply Update.EndsIn.set_bind
  apply Update.EndsIn.attempt_bind stored
  intro _ _
  by_cases module : discovered.module = true
  · rw [if_pos module]
    apply Update.EndsIn.attempt_bind stored
    intro _ _
    exact Update.EndsIn.pure stored
  · rw [if_neg module]
    exact Update.EndsIn.pure stored

theorem freezeEach_agrees (request : SubjectPackagingRequest) (entrypoint : Path)
    (files : List DiscoveredFile) (index : Nat) (set : FrozenFileSet) {before : Disk}
    (agree : disk.AgreeOutside stagingRoot before) :
    Update.EndsIn (disk.AgreeOutside stagingRoot)
      (freezeEach faults reads request stagingRoot entrypoint index files set) before := by
  induction files generalizing index set before with
  | nil => exact Update.EndsIn.pure agree
  | cons discovered rest ih =>
      have one := freezeOneFile_agrees faults reads agree request.limits index discovered
      rw [freezeEach]
      apply Update.EndsIn.bind one
      intro object between ran
      have there : disk.AgreeOutside stagingRoot between := by
        rw [Update.EndsIn, ran] at one
        exact one
      apply Update.EndsIn.attempt_bind there
      intro next _
      exact ih _ _ there

theorem freezeFiles_agrees (request : SubjectPackagingRequest) (files : List DiscoveredFile)
    {before : Disk} (agree : disk.AgreeOutside stagingRoot before) :
    Update.EndsIn (disk.AgreeOutside stagingRoot)
      (freezeFiles faults reads request stagingRoot files) before := by
  rw [freezeFiles]
  apply Update.EndsIn.get_bind
  apply Update.EndsIn.attempt_bind agree
  intro entrypoint _
  have each := freezeEach_agrees faults reads request entrypoint files 0 .new agree
  apply Update.EndsIn.bind each
  intro frozen after ran
  have there : disk.AgreeOutside stagingRoot after := by
    rw [Update.EndsIn, ran] at each
    exact each
  apply Update.EndsIn.attempt_bind there
  intro _ _
  apply Update.EndsIn.attempt_bind there
  intro _ _
  apply Update.EndsIn.attempt_bind there
  intro _ _
  apply Update.EndsIn.attempt_bind there
  intro _ _
  exact Update.EndsIn.pure there

/-! ## What packaging leaves in the directory -/

/-- A stored copy is new, and the unfinished one is gone. -/
theorem storeStaged_new {limits : SubjectPackagingLimits} {temporary path : Path}
    {content : Bytes} {after : Disk} (apart : path ≠ temporary)
    (stored : storeStaged faults limits temporary path content disk = (.ok (), after)) :
    ∀ other, (after other).isSome → other ≠ temporary ∧ ((disk other).isSome ∨ other = path) := by
  rw [storeStaged] at stored
  intro other there
  cases held : disk path with
  | some node =>
      rw [held] at stored
      dsimp only at stored
      cases checked : verifyStaged faults limits path (Digest.of content) content.length disk with
      | error error =>
          rw [checked] at stored
          cases stored
      | ok done =>
          rw [checked] at stored
          dsimp only at stored
          unfold removeFile at stored
          split at stored
          · cases stored
            by_cases gone : other = temporary
            · rw [gone, Disk.set_self] at there
              cases there
            · rw [Disk.set_of_ne _ gone] at there
              exact ⟨gone, .inl there⟩
          · cases stored
  | none =>
      rw [held] at stored
      dsimp only at stored
      rw [renameFile] at stored
      by_cases fault : faults.remove temporary = true
      · rw [if_pos fault] at stored
        cases stored
      · rw [if_neg fault] at stored
        obtain rfl := congrArg Prod.snd stored
        change ((disk.set temporary none).set path _ other).isSome at there
        by_cases here : other = path
        · exact ⟨here ▸ apart, .inr here⟩
        · rw [Disk.set_of_ne _ here] at there
          by_cases gone : other = temporary
          · rw [gone, Disk.set_self] at there
            cases there
          · rw [Disk.set_of_ne _ gone] at there
            exact ⟨gone, .inl there⟩

/-- A frozen file adds the copy of its content and nothing else. -/
theorem freezeOneFile_new {limits : SubjectPackagingLimits} {index : Nat}
    {discovered : DiscoveredFile} {after : Disk} {object : FrozenSubjectObject}
    (ran : freezeOneFile faults reads limits stagingRoot index discovered disk =
      .ok object after) :
    object.path = stagingRoot.join (stagedName object.digest) ∧
      ∀ other, (after other).isSome → (disk other).isSome ∨ other = object.path := by
  simp only [freezeOneFile, Update.get_bind, Update.bind_eq_ok, Update.attempt_eq_ok] at ran
  obtain ⟨content, _, ⟨-, rfl⟩, _, _, ⟨-, rfl⟩, ran⟩ := ran
  rcases wrote : writeFile faults (stagingRoot.join (partialName index)) content
    subjectUnavailable disk with ⟨written, first⟩
  rw [wrote] at ran
  dsimp only at ran
  obtain ⟨_, _, stateSet, _, _, ⟨rfl, rfl⟩, size, _, ⟨-, rfl⟩, ran⟩ := ran
  cases stateSet
  rcases stored : storeStaged faults limits (stagingRoot.join (partialName index))
    (stagingRoot.join (stagedName (Digest.of content))) content first with ⟨outcome, second⟩
  rw [stored] at ran
  dsimp only at ran
  obtain ⟨_, _, stateSet, _, _, ⟨rfl, rfl⟩, ran⟩ := ran
  cases stateSet
  have finished : ∃ embeddedDwarf, object =
      { digest := Digest.of content, embeddedDwarf
        path := stagingRoot.join (stagedName (Digest.of content)), size } ∧ after = second := by
    by_cases module : discovered.module = true
    · rw [if_pos module] at ran
      obtain ⟨embedded, _, searched, made⟩ := Update.bind_eq_ok.mp ran
      obtain ⟨-, rfl⟩ := Update.attempt_eq_ok.mp searched
      cases made
      exact ⟨embedded, rfl, rfl⟩
    · rw [if_neg module] at ran
      cases ran
      exact ⟨false, rfl, rfl⟩
  obtain ⟨embeddedDwarf, rfl, rfl⟩ := finished
  obtain ⟨-, rfl⟩ := writeFile_eq_ok wrote
  have apart : stagingRoot.join (stagedName (Digest.of content)) ≠
      stagingRoot.join (partialName index) := fun same =>
    stagedName_ne_partialName _ _ (join_injective stagingRoot same)
  refine ⟨rfl, fun other there => ?_⟩
  obtain ⟨kept, earlier | here⟩ := storeStaged_new faults apart stored other there
  · rw [Disk.set_of_ne _ kept] at earlier
    exact .inl earlier
  · exact .inr here

/-- The directory holds the recorded objects and nothing else. -/
structure Staged (stagingRoot : Path) (set : FrozenFileSet) (disk : Disk) : Prop where
  keys : ∀ digest : Digest, set.frozenObjects[digest]?.isSome = set.objects[digest]?.isSome
  named : ∀ (digest : Digest) object, set.frozenObjects[digest]? = some object →
    object.path = stagingRoot.join (stagedName digest)
  stored : ∀ (digest : Digest) object, set.frozenObjects[digest]? = some object →
    ∃ content, disk object.path = some (.file content) ∧ Digest.of content = object.digest ∧
      content.length = object.size.toNat
  only : ∀ path, path.Beneath stagingRoot → (disk path).isSome →
    ∃ (digest : Digest) (object : _), set.frozenObjects[digest]? = some object ∧
      object.path = path

namespace Staged

variable {request : SubjectPackagingRequest} {set : FrozenFileSet}

/-- Nothing is in a new directory. -/
theorem empty (free : ∀ path, path.Beneath stagingRoot → disk path = none) :
    Staged stagingRoot .new disk where
  keys digest := by simp [FrozenFileSet.new]
  named digest object held := by simp [FrozenFileSet.new] at held
  stored digest object held := by simp [FrozenFileSet.new] at held
  only path below there := by
    rw [free path below] at there
    cases there

/-- Freezing and recording one more file. -/
theorem freezeOne (staged : Staged stagingRoot set disk) {index : Nat}
    {discovered : DiscoveredFile} {object : FrozenSubjectObject} {executable : Bool}
    {next : FrozenFileSet} {after : Disk}
    (froze : freezeOneFile faults reads request.limits stagingRoot index discovered disk =
      .ok object after)
    (recorded : set.record request discovered object executable = .ok next) :
    Staged stagingRoot next after := by
  obtain ⟨content, -, digest, size, ⟨copy, held, same, length⟩, kept, -⟩ := freezeOneFile_eq_ok froze
  obtain ⟨path, new⟩ := freezeOneFile_new faults reads froze
  let file : RecordedFile := { discovered, object, executable }
  obtain ⟨between, listed, objects, frozen, -⟩ :=
    @FrozenFileSet.record_eq_ok request set next file recorded
  rcases FrozenFileSet.recordObject_eq_ok.mp listed with ⟨known, unchanged⟩ | ⟨unknown, total, -, -, rfl⟩
  · -- the content was stored before
    rw [unchanged] at objects frozen
    have present : set.frozenObjects[object.digest]?.isSome := by
      rw [staged.keys]
      exact Option.isSome_iff_exists.mpr ⟨_, known⟩
    obtain ⟨existing, stored⟩ := Option.isSome_iff_exists.mp present
    constructor
    case keys =>
      intro other
      rw [frozen, objects]
      exact staged.keys other
    case named =>
      intro other entry there
      rw [frozen] at there
      exact staged.named other entry there
    case stored =>
      intro other entry there
      rw [frozen] at there
      obtain ⟨bytes, before, right⟩ := staged.stored other entry there
      exact ⟨bytes, kept _ _ before, right⟩
    case only =>
      intro other below there
      rw [frozen]
      rcases new other there with earlier | rfl
      · exact staged.only other below earlier
      · exact ⟨_, existing, stored, (staged.named _ _ stored).trans path.symm⟩
  · constructor
    case keys =>
      intro other
      rw [frozen, objects]
      simp only [OrderedMap.getElem?_insert]
      split_ifs
      · rfl
      · exact staged.keys other
    case named =>
      intro other entry there
      rw [frozen] at there
      simp only [OrderedMap.getElem?_insert] at there
      split_ifs at there with mine
      · obtain rfl := Option.some.inj there
        rw [path, mine]
      · exact staged.named other entry there
    case stored =>
      intro other entry there
      rw [frozen] at there
      simp only [OrderedMap.getElem?_insert] at there
      split_ifs at there with mine
      · obtain rfl := Option.some.inj there
        exact ⟨copy, held, same.trans digest.symm, length.trans size.symm⟩
      · obtain ⟨bytes, before, right⟩ := staged.stored other entry there
        exact ⟨bytes, kept _ _ before, right⟩
    case only =>
      intro other below there
      rw [frozen]
      rcases new other there with earlier | rfl
      · obtain ⟨named, entry, stored, mine⟩ := staged.only other below earlier
        refine ⟨named, entry, ?_, mine⟩
        simp only [OrderedMap.getElem?_insert]
        rw [if_neg]
        · exact stored
        · intro equal
          have present := staged.keys named
          rw [stored, ← equal, unknown] at present
          cases present
      · refine ⟨object.digest, object, ?_, rfl⟩
        simp only [OrderedMap.getElem?_insert]
        exact if_pos rfl

/-- Freezing the files in order. -/
theorem freezeEach (staged : Staged stagingRoot set disk) {entrypoint : Path}
    {files : List DiscoveredFile} {index : Nat} {result : FrozenFileSet} {after : Disk}
    (ran : Backend.freezeEach faults reads request stagingRoot entrypoint index files set disk =
      .ok result after) : Staged stagingRoot result after := by
  induction files generalizing index set disk with
  | nil =>
      cases ran
      exact staged
  | cons discovered rest ih =>
      simp only [Backend.freezeEach, Update.bind_eq_ok, Update.attempt_eq_ok] at ran
      obtain ⟨object, between, froze, next, _, ⟨recorded, rfl⟩, others⟩ := ran
      exact ih (staged.freezeOne faults reads froze recorded) others

end Staged

/-- The directory holds the objects of the package, each under its path, and nothing else. -/
structure FrozenSubjectClosure.Holds (frozen : FrozenSubjectClosure) (disk : Disk) : Prop where
  root : disk frozen.stagingRoot = some .other
  stored : ∀ object ∈ frozen.objects, object.path.Beneath frozen.stagingRoot ∧
    ∃ content, disk object.path = some (.file content) ∧ Digest.of content = object.digest ∧
      content.length = object.size.toNat
  only : ∀ path, path.Beneath frozen.stagingRoot → (disk path).isSome →
    ∃ object ∈ frozen.objects, object.path = path

theorem freezeFiles_holds {request : SubjectPackagingRequest} {files : List DiscoveredFile}
    {after : Disk} {frozen : FrozenSubjectClosure}
    (free : ∀ path, path.Beneath stagingRoot → disk path = none)
    (directory : disk stagingRoot = some .other)
    (ran : freezeFiles faults reads request stagingRoot files disk = .ok frozen after) :
    frozen.stagingRoot = stagingRoot ∧ frozen.Holds after := by
  have outside := freezeFiles_agrees faults reads request files
    (fun _ _ => rfl : disk.AgreeOutside stagingRoot disk)
  rw [Update.EndsIn, ran] at outside
  simp only [freezeFiles, Update.get_bind, Update.bind_eq_ok, Update.attempt_eq_ok] at ran
  obtain ⟨entrypoint, _, ⟨-, rfl⟩, frozenSet, _, froze, debugArtifacts, _, ⟨-, rfl⟩, executable, _,
    ⟨-, rfl⟩, _, _, ⟨-, rfl⟩, manifestDigest, _, ⟨-, rfl⟩, made⟩ := ran
  cases made
  have staged : Staged stagingRoot frozenSet after := (Staged.empty free).freezeEach faults reads froze
  refine ⟨rfl, ?_⟩
  constructor
  case root =>
    have same : after stagingRoot = disk stagingRoot :=
      outside stagingRoot fun below => below.2.2 rfl
    exact same.trans directory
  case stored =>
    intro object listed
    obtain ⟨⟨digest, entry⟩, among, rfl⟩ := List.mem_map.mp listed
    have held := OrderedMap.mem_toList.mp among
    refine ⟨?_, staged.stored digest entry held⟩
    rw [staged.named digest entry held]
    exact Path.join_beneath _ _
  case only =>
    intro path below there
    obtain ⟨digest, object, held, same⟩ := staged.only path below there
    exact ⟨object, List.mem_map.mpr ⟨(digest, object), OrderedMap.mem_toList.mpr held, rfl⟩, same⟩

/-! ## No trace is left -/

/-- Nothing is below a path where nothing is. -/
def Disk.Rooted (disk : Disk) (path : Path) : Prop :=
  disk path = none → ∀ other, other.Beneath path → disk other = none

omit [Primitives] in
/-- Removing a new directory gives the old disk back. -/
theorem removeDirAll_restores {root : Path} {before after : Disk} (new : before root = none)
    (rooted : before.Rooted root) (agree : (before.set root (some .other)).AgreeOutside root after)
    {stuck : Path → Bool} (removes : ∀ path, stuck path = false) :
    removeDirAll stuck root after = before := by
  funext path
  rw [removeDirAll]
  by_cases here : path = root
  · rw [if_pos ⟨.inl here, removes path⟩, here, new]
  · by_cases below : path.Beneath root
    · rw [if_pos ⟨.inr below, removes path⟩, rooted new path below]
    · rw [if_neg (fun inside => inside.1.elim here below), agree path below,
        Disk.set_of_ne _ here]

omit [Primitives] in
theorem removeDirAll_agrees {root : Path} {before after : Disk}
    (agree : (before.set root (some .other)).AgreeOutside root after) (stuck : Path → Bool)
    {path : Path} (here : path ≠ root) (below : ¬ path.Beneath root) :
    removeDirAll stuck root after path = before path := by
  rw [removeDirAll, if_neg (fun inside => inside.1.elim here below), agree path below,
    Disk.set_of_ne _ here]

/-- Packaging a running subject fills a new directory with the objects of the package, and
dropping the package gives the old disk back; a packaging that fails changes nothing outside the
directory, and nothing at all when the directory can be removed. -/
theorem freezeRunningSubject_leaves_no_trace (running : RunningProgram) (tree : List TreeEntry)
    (stuck : Path → Bool) (request : SubjectPackagingRequest)
    (rooted : disk.Rooted stagingRoot) :
    match freezeRunningSubject faults reads running tree stuck request stagingRoot disk with
    | .ok frozen after =>
        frozen.Holds after ∧
        (∀ path, path ≠ frozen.stagingRoot → ¬ path.Beneath frozen.stagingRoot →
          after path = disk path) ∧
        ∀ kept, (∀ path, kept path = false) → frozen.drop kept after = disk
    | .error _ after =>
        (∀ path, path ≠ stagingRoot → ¬ path.Beneath stagingRoot → after path = disk path) ∧
        ((∀ path, stuck path = false) → after = disk) := by
  rw [freezeRunningSubject]
  cases request.limits.validate with
  | error error =>
      rw [Update.attempt_bind_error rfl]
      exact ⟨fun _ _ _ => rfl, fun _ => rfl⟩
  | ok done =>
  rw [Update.attempt_bind_ok rfl, Update.get_bind]
  cases validated : validateNewStagingRoot faults disk stagingRoot with
  | error error =>
      rw [Update.attempt_bind_error rfl]
      exact ⟨fun _ _ _ => rfl, fun _ => rfl⟩
  | ok done =>
  rw [Update.attempt_bind_ok rfl]
  cases rejectIf ((faults.write stagingRoot).isSome = true) subjectUnavailable with
  | error error =>
      rw [Update.attempt_bind_error rfl]
      exact ⟨fun _ _ _ => rfl, fun _ => rfl⟩
  | ok done =>
  rw [Update.attempt_bind_ok rfl, Update.set_bind]
  have new : disk stagingRoot = none := by
    simp only [validateNewStagingRoot, bind_eq_ok, rejectIf_eq_ok, not_or] at validated
    obtain ⟨_, ⟨-, missing⟩, -⟩ := validated
    exact Option.not_isSome_iff_eq_none.mp missing
  let directory := disk.set stagingRoot (some .other)
  have agree : directory.AgreeOutside stagingRoot directory := fun _ _ => rfl
  rw [guarded, Update.get_bind]
  cases discoverSubjectFiles directory running tree request with
  | error error =>
      rw [Update.attempt_bind_error rfl]
      exact ⟨fun _ => removeDirAll_agrees agree stuck, removeDirAll_restores new rooted agree⟩
  | ok files =>
  rw [Update.attempt_bind_ok rfl]
  have ends := freezeFiles_agrees faults reads request files agree
  rw [Update.EndsIn] at ends
  cases ran : freezeFiles faults reads request stagingRoot files directory with
  | error error after =>
      rw [ran] at ends
      exact ⟨fun _ => removeDirAll_agrees ends stuck, removeDirAll_restores new rooted ends⟩
  | ok frozen after =>
      rw [ran] at ends
      have free : ∀ path, path.Beneath stagingRoot → directory path = none := by
        intro path below
        exact (Disk.set_of_ne _ below.2.2 _).trans (rooted new path below)
      obtain ⟨same, holds⟩ := freezeFiles_holds faults reads free (Disk.set_self _ _ _) ran
      refine ⟨holds, ?_, fun kept removes => ?_⟩
      · intro path here below
        rw [same] at here below
        exact (ends path below).trans (Disk.set_of_ne _ here _)
      · rw [FrozenSubjectClosure.drop, same]
        exact removeDirAll_restores new rooted ends removes

omit [Primitives] in
/-- A subject whose entrypoint is missing is not packaged, and its new directory is gone. -/
theorem freezeRunningSubject_leaves_no_trace_missing :
    letI := Sample.primitives
    ∃ error, freezeRunningSubject noFaults ⟨fun _ => 3, fun _ => by decide⟩ ⟨false, .ok []⟩ []
      (fun _ => false) Sample.mainRequest Sample.staging (fun _ => none) =
        .error error fun _ => none := by
  let _ := Sample.primitives
  have fails : ∃ error after, freezeRunningSubject noFaults ⟨fun _ => 3, fun _ => by decide⟩
      ⟨false, .ok []⟩ [] (fun _ => false) Sample.mainRequest Sample.staging (fun _ => none) =
        .error error after := ⟨_, _, rfl⟩
  obtain ⟨error, after, ran⟩ := fails
  have rooted : Disk.Rooted (fun _ => none) Sample.staging := fun _ _ _ => rfl
  have trace := freezeRunningSubject_leaves_no_trace noFaults ⟨fun _ => 3, fun _ => by decide⟩
    ⟨false, .ok []⟩ [] (fun _ => false) Sample.mainRequest rooted
  rw [ran] at trace
  exact ⟨error, ran.trans (congrArg _ (trace.2 fun _ => rfl))⟩

end Reproit.Backend
