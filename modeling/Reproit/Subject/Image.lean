/-
# A package is the image of its files

Freezing copies every content once under its digest and leaves the files alone.  What the
manifest lists is what was discovered: the files in order, the distinct contents once each,
the entrypoint as the executable, and debug bindings between contents of the package.
-/

import Mathlib.Data.List.Chain
import Mathlib.Data.List.Dedup
import Reproit.Backend.Sample
import Reproit.Subject.Recording

namespace Reproit.Backend

/-! ## The staging directory -/

/-- Whatever was on the disk is still there. -/
def Disk.Kept (before after : Disk) : Prop :=
  ∀ path node, before path = some node → after path = some node

theorem Disk.Kept.refl (disk : Disk) : disk.Kept disk := fun _ _ => id

theorem Disk.Kept.trans {first second third : Disk} (one : first.Kept second)
    (other : second.Kept third) : first.Kept third :=
  fun path node held => other path node (one path node held)

/-- Every content on the later disk is one of the earlier disk. -/
def Disk.Copies (before after : Disk) : Prop :=
  ∀ path content, after path = some (.file content) →
    ∃ source, before source = some (.file content)

theorem Disk.Copies.refl (disk : Disk) : disk.Copies disk := fun path _ there => ⟨path, there⟩

theorem Disk.Copies.trans {first second third : Disk} (one : first.Copies second)
    (other : second.Copies third) : first.Copies third := by
  intro path content there
  obtain ⟨source, held⟩ := other path content there
  exact one source content held

theorem removeFile_copies {faults : Faults} {path other : Path} {unavailable : Error} {disk : Disk}
    {content : Bytes} (there : (removeFile faults path unavailable disk).2 other =
      some (.file content)) : disk other = some (.file content) := by
  by_cases same : other = path
  · subst same
    unfold removeFile at there
    split at there
    · dsimp only at there
      rw [Disk.set_self] at there
      cases there
    · exact there
  · rwa [removeFile_of_ne _ _ _ same] at there

theorem join_injective (root : Path) {first second : String}
    (same : root.join first = root.join second) : first = second := by
  have components := congrArg Path.components same
  exact List.singleton_injective (List.append_cancel_left components)

/-- A finished copy and an unfinished one never share a name. -/
theorem stagedName_ne_partialName (digest : Digest) (index : Nat) :
    stagedName digest ≠ partialName index := by
  intro same
  have first := congrArg (fun name => name.toList.head?) same
  have staged : (stagedName digest).toList.head? = some 's' := by
    rw [stagedName, String.toList_ofList, Digest.toText, String.toList_ofList]
    rfl
  have unfinished : (partialName index).toList.head? = some 'o' := by
    simp only [partialName, String.toList_append]
    rfl
  rw [staged, unfinished] at first
  exact absurd first (by decide)

variable [Primitives] {faults : Faults} {reads : ShortReads}

/-- A stored copy of a content. -/
def Stores (disk : Disk) (path : Path) (content : Bytes) : Prop :=
  ∃ copy, disk path = some (.file copy) ∧ Digest.of copy = Digest.of content ∧
    copy.length = content.length

theorem Stores.kept {before after : Disk} {path : Path} {content : Bytes}
    (stores : Stores before path content) (kept : before.Kept after) :
    Stores after path content := by
  obtain ⟨copy, held, same⟩ := stores
  exact ⟨copy, kept path _ held, same⟩

theorem verifyStaged_eq_ok {limits : SubjectPackagingLimits} {path : Path} {digest : Digest}
    {size : Nat} {disk : Disk} (checked : verifyStaged faults limits path digest size disk = .ok ()) :
    ∃ copy, disk path = some (.file copy) ∧ Digest.of copy = digest ∧ copy.length = size := by
  rw [verifyStaged, bind_eq_ok] at checked
  obtain ⟨_, -, checked⟩ := checked
  cases held : disk path with
  | none => rw [held] at checked; cases checked
  | some node =>
      rw [held] at checked
      cases node with
      | other => cases checked
      | file copy =>
          simp only [bind_eq_ok, rejectIf_eq_ok, not_or, not_not] at checked
          obtain ⟨_, -, digests, sizes⟩ := checked
          exact ⟨copy, rfl, digests, sizes⟩

/-- A finished copy is stored, nothing but the unfinished one is gone, and nothing but the
content is new. -/
theorem storeStaged_eq_ok {limits : SubjectPackagingLimits} {temporary path : Path}
    {content : Bytes} {disk after : Disk} (apart : path ≠ temporary)
    (stored : storeStaged faults limits temporary path content disk = (.ok (), after)) :
    Stores after path content ∧
      (∀ other node, other ≠ temporary → disk other = some node → after other = some node) ∧
      ∀ other copy, after other = some (.file copy) →
        copy = content ∨ disk other = some (.file copy) := by
  rw [storeStaged] at stored
  cases held : disk path with
  | some node =>
      rw [held] at stored
      dsimp only at stored
      cases checked : verifyStaged faults limits path (Digest.of content) content.length disk with
      | error error =>
          rw [checked] at stored
          cases stored
      | ok =>
          rw [checked] at stored
          dsimp only at stored
          obtain ⟨copy, here, same⟩ := verifyStaged_eq_ok checked
          have others : ∀ other, other ≠ temporary → after other = disk other := by
            intro other different
            have left := removeFile_of_ne faults subjectUnavailable disk different
            rwa [stored] at left
          refine ⟨⟨copy, ?_, same⟩, fun other node different there => ?_, ?_⟩
          · rw [others path apart, here]
          · rw [others other different, there]
          · intro other copy there
            apply Or.inr
            apply removeFile_copies
            rw [stored]
            exact there
  | none =>
      rw [held] at stored
      dsimp only at stored
      rw [renameFile] at stored
      by_cases fault : faults.remove temporary = true
      · rw [if_pos fault] at stored
        cases stored
      · rw [if_neg fault] at stored
        obtain rfl := congrArg Prod.snd stored
        refine ⟨⟨content, Disk.set_self _ _ _, rfl, rfl⟩, fun other node different there => ?_, ?_⟩
        · have elsewhere : other ≠ path := by
            rintro rfl
            rw [held] at there
            cases there
          show (disk.set temporary none).set path _ other = some node
          rw [Disk.set_of_ne _ elsewhere, Disk.set_of_ne _ different, there]
        · intro other copy there
          change (disk.set temporary none).set path _ other = some (.file copy) at there
          by_cases here : other = path
          · subst here
            rw [Disk.set_self] at there
            cases there
            exact .inl rfl
          · rw [Disk.set_of_ne _ here] at there
            by_cases gone : other = temporary
            · subst gone
              rw [Disk.set_self] at there
              cases there
            · rw [Disk.set_of_ne _ gone] at there
              exact .inr there

/-- Freezing a file stores its content under its digest and changes no other file. -/
theorem freezeOneFile_eq_ok {limits : SubjectPackagingLimits} {stagingRoot : Path} {index : Nat}
    {discovered : DiscoveredFile} {before after : Disk} {object : FrozenSubjectObject}
    (ran : freezeOneFile faults reads limits stagingRoot index discovered before =
      .ok object after) :
    ∃ content, before discovered.source = some (.file content) ∧
      object.digest = Digest.of content ∧ object.size.toNat = content.length ∧
      Stores after object.path content ∧ before.Kept after ∧ before.Copies after := by
  simp only [freezeOneFile, Update.get_bind, Update.bind_eq_ok, Update.attempt_eq_ok] at ran
  obtain ⟨content, _, ⟨bounded, rfl⟩, _, _, ⟨-, rfl⟩, ran⟩ := ran
  have held : before discovered.source = some (.file content) := by
    rw [boundedContent] at bounded
    cases there : before discovered.source with
    | none => rw [there] at bounded; cases bounded
    | some node =>
        rw [there] at bounded
        cases node with
        | other => cases bounded
        | file content =>
            simp only [bind_eq_ok, pure_eq_ok] at bounded
            obtain ⟨_, -, rfl⟩ := bounded
            rfl
  rcases wrote : writeFile faults (stagingRoot.join (partialName index)) content
    subjectUnavailable before with ⟨written, first⟩
  rw [wrote] at ran
  dsimp only at ran
  obtain ⟨_, _, stateSet, _, _, ⟨rfl, rfl⟩, size, _, ⟨sized, rfl⟩, ran⟩ := ran
  cases stateSet
  rcases stored : storeStaged faults limits (stagingRoot.join (partialName index))
    (stagingRoot.join (stagedName (Digest.of content))) content first with ⟨outcome, second⟩
  rw [stored] at ran
  dsimp only at ran
  obtain ⟨_, _, stateSet, _, _, ⟨rfl, rfl⟩, ran⟩ := ran
  cases stateSet
  have finished : ∃ embeddedDwarf, object =
      { digest := Digest.of content, embeddedDwarf
        path := stagingRoot.join (stagedName (Digest.of content)), size } ∧ after = second := by
    by_cases module : discovered.module = true
    · rw [if_pos module] at ran
      obtain ⟨embedded, _, searched, made⟩ := Update.bind_eq_ok.mp ran
      obtain ⟨-, rfl⟩ := Update.attempt_eq_ok.mp searched
      cases made
      exact ⟨embedded, rfl, rfl⟩
    · rw [if_neg module] at ran
      cases ran
      exact ⟨false, rfl, rfl⟩
  obtain ⟨embeddedDwarf, rfl, rfl⟩ := finished
  have apart : stagingRoot.join (stagedName (Digest.of content)) ≠
      stagingRoot.join (partialName index) := fun same =>
    stagedName_ne_partialName _ _ (join_injective stagingRoot same)
  obtain ⟨free, rfl⟩ := writeFile_eq_ok wrote
  obtain ⟨stores, others, new⟩ := storeStaged_eq_ok apart stored
  refine ⟨content, held, rfl, ?_, stores, fun path node there => ?_, fun path copy there => ?_⟩
  · exact uint64OfNat_eq_some.mp ((okOr_eq_ok _ _ _).mp sized)
  · have elsewhere : path ≠ stagingRoot.join (partialName index) := by
      rintro rfl
      rw [free] at there
      cases there
    exact others path node elsewhere ((Disk.set_of_ne _ elsewhere _).trans there)
  · rcases new path copy there with rfl | earlier
    · exact ⟨discovered.source, held⟩
    · by_cases here : path = stagingRoot.join (partialName index)
      · subst here
        rw [Disk.set_self] at earlier
        cases earlier
        exact ⟨discovered.source, held⟩
      · rw [Disk.set_of_ne _ here] at earlier
        exact ⟨path, earlier⟩

omit [Primitives] in
theorem canonicalRegularFile_eq_ok {disk : Disk} {path canonical : Path}
    (found : canonicalRegularFile disk path = .ok canonical) : canonical = path := by
  unfold canonicalRegularFile at found
  split at found
  · cases found
  · exact (Except.ok.inj found).symm
  · cases found

/-! ## Freezing every file -/

/-- A recorded file is the image of its content. -/
structure RecordedFile.IsImage (content : Path → Bytes) (entrypoint : Path) (disk : Disk)
    (file : RecordedFile) : Prop where
  digest : file.object.digest = Digest.of (content file.discovered.source)
  size : file.object.size.toNat = (content file.discovered.source).length
  executable : file.executable = decide (file.discovered.source = entrypoint)
  stores : Stores disk file.object.path (content file.discovered.source)

theorem RecordedFile.IsImage.kept {content : Path → Bytes} {entrypoint : Path} {before after : Disk}
    {file : RecordedFile} (image : file.IsImage content entrypoint before)
    (kept : before.Kept after) : file.IsImage content entrypoint after :=
  { image with stores := image.stores.kept kept }

/-- Freezing the files in order records the image of each. -/
theorem freezeEach_eq_ok {request : SubjectPackagingRequest} {stagingRoot entrypoint : Path}
    {content : Path → Bytes} {files : List DiscoveredFile} {index : Nat}
    {set result : FrozenFileSet} {before after : Disk}
    (contents : ∀ file ∈ files, before file.source = some (.file (content file.source)))
    (ran : freezeEach faults reads request stagingRoot entrypoint index files set before =
      .ok result after) :
    ∃ recorded, FrozenFileSet.recordAll request recorded set = .ok result ∧
      recorded.map RecordedFile.discovered = files ∧
      (∀ file ∈ recorded, file.IsImage content entrypoint after) ∧ before.Kept after ∧
      before.Copies after := by
  induction files generalizing index set before with
  | nil =>
      cases ran
      exact ⟨[], rfl, rfl, List.forall_mem_nil _, .refl _, .refl _⟩
  | cons discovered rest ih =>
      simp only [freezeEach, Update.bind_eq_ok, Update.attempt_eq_ok] at ran
      obtain ⟨object, between, froze, next, _, ⟨recordedOne, rfl⟩, others⟩ := ran
      obtain ⟨copied, here, digest, size, stores, kept, copies⟩ := freezeOneFile_eq_ok froze
      have listed := contents discovered List.mem_cons_self
      obtain rfl : content discovered.source = copied := by
        rw [listed] at here
        cases here
        rfl
      have stay : ∀ file ∈ rest, between file.source = some (.file (content file.source)) :=
        fun file member => kept _ _ (contents file (List.mem_cons_of_mem _ member))
      obtain ⟨recorded, ranRest, sources, images, keptRest, copiesRest⟩ := ih stay others
      let file : RecordedFile :=
        { discovered, object, executable := decide (discovered.source = entrypoint) }
      have image : file.IsImage content entrypoint between :=
        { digest, size, executable := rfl, stores }
      refine ⟨file :: recorded, ?_, ?_, ?_, kept.trans keptRest, copies.trans copiesRest⟩
      · rw [FrozenFileSet.recordAll]
        change (set.record request discovered object _ >>= _) = _
        rw [recordedOne, ok_bind]
        exact ranRest
      · rw [List.map_cons, sources]
      · intro other member
        rcases List.mem_cons.mp member with rfl | old
        · exact image.kept keptRest
        · exact images other old

/-! ## The package -/

/-- Equal digests of contents of the disk are digests of equal contents. -/
def Disk.CollisionFree (disk : Disk) : Prop :=
  ∀ first second one other, disk first = some (.file one) → disk second = some (.file other) →
    Digest.of one = Digest.of other → one = other

/-- The contents of the files, each once. -/
def distinctContents (content : Path → Bytes) (files : List DiscoveredFile) : List Bytes :=
  (files.map fun file => content file.source).dedup

/-- The package is the image of the files. -/
structure FaithfulImage (request : SubjectPackagingRequest) (content : Path → Bytes)
    (discovered : List DiscoveredFile) (disk : Disk) (frozen : FrozenSubjectClosure) : Prop where
  valid : frozen.manifest.validate = .ok ()
  /-- The files in order, with the entrypoint as the executable. -/
  files : frozen.manifest.files = discovered.map fun file =>
    { executable := decide (file.source = request.entrypoint)
      objectDigest := Digest.of (content file.source), path := file.target }
  /-- Every content once with its size. -/
  objects : (frozen.manifest.objects.map fun object => (object.digest, object.size.toNat)).Perm
    ((distinctContents content discovered).map fun bytes => (Digest.of bytes, bytes.length))
  digests : frozen.objects.map FrozenSubjectObject.digest =
    frozen.manifest.objects.map SubjectClosureObject.digest
  /-- The stored copies are the contents. -/
  stored : ∀ object ∈ frozen.objects, ∃ file ∈ discovered,
    object.digest = Digest.of (content file.source) ∧
      object.size.toNat = (content file.source).length ∧
      disk object.path = some (.file (content file.source))
  total : frozen.manifest.totalBytes.toNat =
    ((distinctContents content discovered).map List.length).sum
  within : frozen.manifest.totalBytes ≤ request.limits.maximumTotalBytes
  launch : ∃ file ∈ discovered, file.source = request.entrypoint ∧
    frozen.manifest.launch.executable = file.target
  /-- A debug binding is between a content and a module. -/
  debug : ∀ binding ∈ frozen.manifest.debugArtifacts,
    (∃ file ∈ discovered, file.target = binding.path ∧
      binding.artifactDigest = Digest.of (content file.source)) ∧
    ∃ entry ∈ frozen.manifest.modules, entry.moduleDigest = binding.moduleDigest

omit [Primitives] in
/-- What a valid manifest says of its objects and debug artifacts. -/
theorem validate_image {manifest : SubjectClosureManifest}
    (valid : manifest.validate = .ok ()) :
    (manifest.objects.map SubjectClosureObject.digest).Nodup ∧
      ((manifest.objects.map SubjectClosureObject.size).map UInt64.toNat).sum =
        manifest.totalBytes.toNat ∧
      ∀ binding ∈ manifest.debugArtifacts,
        manifest.fileDigests.lookup binding.path = some binding.artifactDigest ∧
          binding.moduleDigest ∈ manifest.modules.map SubjectModule.moduleDigest := by
  simp only [SubjectClosureManifest.validate, SubjectClosureManifest.validateObjects,
    SubjectClosureManifest.validateModules, SubjectClosureManifest.validateDebugArtifacts,
    bind_eq_ok, rejectIf_eq_ok, forEach_eq_ok, okOr_eq_ok, pure_eq_ok, not_not, not_or] at valid
  obtain ⟨_, -, _, -, _, ⟨_, ascending, _, -, sum, summed, _, same, -⟩, _, -, modules,
    ⟨_, -, _, -, listed⟩, _, ⟨_, -, bindings⟩, -⟩ := valid
  refine ⟨?_, ?_, fun binding member => ?_⟩
  · have ordered : (manifest.objects.map SubjectClosureObject.digest).IsChain (· < ·) :=
      (List.isChain_map _).mpr ascending
    exact ordered.pairwise.imp fun below => ne_of_lt below
  · have total := checkedSum_eq_some.mp summed
    rw [UInt64.toNat_zero, zero_add, same] at total
    exact total
  · obtain ⟨-, found, -, module⟩ := bindings binding member
    exact ⟨found, listed ▸ module⟩

section Recorded

variable {request : SubjectPackagingRequest} {content : Path → Bytes} {disk : Disk}
  {recorded : List RecordedFile} {set : FrozenFileSet}
  (holds : FrozenFileSet.Holds request recorded set)
  (images : ∀ file ∈ recorded, file.IsImage content request.entrypoint disk)

include holds

omit [Primitives] in
theorem mem_closureObjects {object : SubjectClosureObject} :
    object ∈ set.objects.toList.map Prod.snd ↔
      ∃ file ∈ recorded, file.closureObject = object := by
  constructor
  · intro listed
    obtain ⟨⟨digest, _⟩, entry, rfl⟩ := List.mem_map.mp listed
    obtain ⟨file, member, -, same⟩ := (holds.objects _ _).mp (OrderedMap.mem_toList.mp entry)
    exact ⟨file, member, same⟩
  · intro ⟨file, member, same⟩
    have found := (holds.objects file.object.digest object).mpr ⟨file, member, rfl, same⟩
    exact List.mem_map.mpr ⟨(_, object), OrderedMap.mem_toList.mpr found, rfl⟩

omit [Primitives] in
theorem mem_frozenObjects {object : FrozenSubjectObject}
    (listed : object ∈ set.frozenObjects.toList.map Prod.snd) :
    ∃ file ∈ recorded, file.object = object := by
  obtain ⟨⟨digest, _⟩, entry, rfl⟩ := List.mem_map.mp listed
  exact (holds.frozen _ _ (OrderedMap.mem_toList.mp entry)).2

omit [Primitives] in
/-- The stored copies and the listed objects have the same digests in the same order. -/
theorem frozen_digests :
    (set.frozenObjects.toList.map Prod.snd).map FrozenSubjectObject.digest =
      (set.objects.toList.map Prod.snd).map SubjectClosureObject.digest := by
  have copies : (set.frozenObjects.toList.map Prod.snd).map FrozenSubjectObject.digest =
      set.frozenObjects.keys := by
    rw [← Std.ExtTreeMap.map_fst_toList_eq_keys, List.map_map]
    apply List.map_congr_left
    intro entry listed
    exact (holds.frozen _ _ (OrderedMap.mem_toList.mp listed)).1
  have objects : (set.objects.toList.map Prod.snd).map SubjectClosureObject.digest =
      set.objects.keys := by
    rw [← Std.ExtTreeMap.map_fst_toList_eq_keys, List.map_map]
    apply List.map_congr_left
    intro entry listed
    obtain ⟨file, -, digest, same⟩ := (holds.objects _ _).mp (OrderedMap.mem_toList.mp listed)
    show entry.2.digest = entry.1
    rw [← same, ← digest]
    rfl
  rw [copies, objects]
  exact OrderedMap.keys_congr holds.frozenKeys

include images

/-- The files of the manifest. -/
theorem files_image : set.files = (recorded.map RecordedFile.discovered).map fun file =>
    { executable := decide (file.source = request.entrypoint)
      objectDigest := Digest.of (content file.source), path := file.target } := by
  rw [holds.files, List.map_map]
  apply List.map_congr_left
  intro file listed
  have image := images file listed
  rw [RecordedFile.subjectFile, image.executable, image.digest]
  rfl

/-- The objects are the contents, each once. -/
theorem objects_image
    (distinct : ((set.objects.toList.map Prod.snd).map SubjectClosureObject.digest).Nodup)
    (collisionFree : ∀ first ∈ recorded, ∀ second ∈ recorded,
      Digest.of (content first.discovered.source) = Digest.of (content second.discovered.source) →
        content first.discovered.source = content second.discovered.source) :
    ((set.objects.toList.map Prod.snd).map fun object => (object.digest, object.size.toNat)).Perm
      ((distinctContents content (recorded.map RecordedFile.discovered)).map
        fun bytes => (Digest.of bytes, bytes.length)) := by
  have listed : ∀ bytes, bytes ∈ distinctContents content (recorded.map RecordedFile.discovered) ↔
      ∃ file ∈ recorded, content file.discovered.source = bytes := by
    intro bytes
    simp only [distinctContents, List.mem_dedup, List.mem_map, exists_exists_and_eq_and]
  apply (List.perm_ext_iff_of_nodup ?_ ?_).mpr
  · intro entry
    simp only [List.mem_map (l := set.objects.toList.map Prod.snd), mem_closureObjects holds,
      List.mem_map (l := distinctContents _ _), listed]
    constructor
    · intro ⟨object, ⟨file, member, made⟩, same⟩
      refine ⟨_, ⟨file, member, rfl⟩, ?_⟩
      have image := images file member
      rw [← same, ← made, ← image.digest, ← image.size]
      rfl
    · intro ⟨bytes, ⟨file, member, made⟩, same⟩
      refine ⟨_, ⟨file, member, rfl⟩, ?_⟩
      have image := images file member
      rw [← same, ← made, ← image.digest, ← image.size]
      rfl
  · apply List.Nodup.of_map Prod.fst
    rw [List.map_map]
    exact distinct
  · apply List.Nodup.map_on _ (List.nodup_dedup _)
    intro first firstListed second secondListed same
    obtain ⟨one, oneListed, rfl⟩ := (listed first).mp firstListed
    obtain ⟨other, otherListed, rfl⟩ := (listed second).mp secondListed
    exact collisionFree one oneListed other otherListed (congrArg Prod.fst same)

end Recorded

/-- The bytes of the distinct contents. -/
theorem sum_sizes_image {objects : List SubjectClosureObject} {contents : List Bytes}
    (same : (objects.map fun object => (object.digest, object.size.toNat)).Perm
      (contents.map fun bytes => (Digest.of bytes, bytes.length))) :
    ((objects.map SubjectClosureObject.size).map UInt64.toNat).sum =
      (contents.map List.length).sum := by
  have sizes := (same.map Prod.snd).sum_eq
  rw [List.map_map, List.map_map] at sizes
  rw [List.map_map]
  exact sizes

/-- A debug binding carries the digest of the content at its path. -/
theorem debug_image {manifest : SubjectClosureManifest} {content : Path → Bytes}
    {entrypoint : Path} {files : List DiscoveredFile} {binding : DebugArtifactBinding}
    (image : manifest.files = files.map fun file =>
      { executable := decide (file.source = entrypoint)
        objectDigest := Digest.of (content file.source), path := file.target })
    (found : manifest.fileDigests.lookup binding.path = some binding.artifactDigest) :
    ∃ file ∈ files, file.target = binding.path ∧
      binding.artifactDigest = Digest.of (content file.source) := by
  obtain ⟨first, second, split, -⟩ := List.lookup_eq_some_iff.mp found
  have listed : (binding.path, binding.artifactDigest) ∈ manifest.fileDigests := by
    rw [split]
    exact List.mem_append_right _ List.mem_cons_self
  rw [SubjectClosureManifest.fileDigests, image, List.map_map] at listed
  obtain ⟨file, member, same⟩ := List.mem_map.mp listed
  exact ⟨file, member, congrArg Prod.fst same, (congrArg Prod.snd same).symm⟩

/-- A successful packaging is a faithful image of the files. -/
theorem freezeFiles_faithful {request : SubjectPackagingRequest} {stagingRoot : Path}
    {content : Path → Bytes} {files : List DiscoveredFile} {before after : Disk}
    {frozen : FrozenSubjectClosure}
    (contents : ∀ file ∈ files, before file.source = some (.file (content file.source)))
    (collisionFree : before.CollisionFree)
    (ran : freezeFiles faults reads request stagingRoot files before = .ok frozen after) :
    FaithfulImage request content files after frozen := by
  simp only [freezeFiles, Update.get_bind, Update.bind_eq_ok, Update.attempt_eq_ok] at ran
  obtain ⟨entrypoint, _, ⟨located, rfl⟩, set, _, froze, debugArtifacts, _, ⟨-, rfl⟩, executable, _,
    ⟨found, rfl⟩, _, _, ⟨valid, rfl⟩, manifestDigest, _, ⟨-, rfl⟩, made⟩ := ran
  cases made
  obtain rfl := canonicalRegularFile_eq_ok located
  obtain ⟨recorded, all, rfl, images, -, copies⟩ := freezeEach_eq_ok contents froze
  have holds := (FrozenFileSet.holds_new request).recordAll all
  rw [List.nil_append] at holds
  have sources : ∀ file ∈ recorded, before file.discovered.source =
      some (.file (content file.discovered.source)) :=
    fun file listed => contents _ (List.mem_map_of_mem listed)
  have distinct : ∀ first ∈ recorded, ∀ second ∈ recorded,
      Digest.of (content first.discovered.source) = Digest.of (content second.discovered.source) →
        content first.discovered.source = content second.discovered.source :=
    fun first firstListed second secondListed =>
      collisionFree _ _ _ _ (sources first firstListed) (sources second secondListed)
  obtain ⟨nodup, total, bindings⟩ := validate_image valid
  have filesImage := files_image holds images
  have objectsImage := objects_image holds images nodup distinct
  constructor
  case valid => exact valid
  case files => exact filesImage
  case objects => exact objectsImage
  case digests => exact frozen_digests holds
  case stored =>
    intro object listed
    obtain ⟨file, member, rfl⟩ := mem_frozenObjects holds listed
    have image := images file member
    obtain ⟨copy, held, same, -⟩ := image.stores
    obtain ⟨source, original⟩ := copies _ _ held
    obtain rfl := collisionFree _ _ _ _ original (sources file member) same
    exact ⟨file.discovered, List.mem_map_of_mem member, image.digest, image.size, held⟩
  case total => rw [← total]; exact sum_sizes_image objectsImage
  case within => exact holds.within
  case launch =>
    obtain ⟨file, first, rfl⟩ := Option.map_eq_some_iff.mp ((okOr_eq_ok _ _ _).mp found)
    have listed := List.mem_of_find?_eq_some first
    have marked := List.find?_some first
    rw [filesImage] at listed
    obtain ⟨source, member, rfl⟩ := List.mem_map.mp listed
    exact ⟨source, member, of_decide_eq_true marked, rfl⟩
  case debug =>
    intro binding listed
    obtain ⟨artifact, module⟩ := bindings binding listed
    exact ⟨debug_image filesImage artifact, List.mem_map.mp module⟩

/-! ## A package of one file -/

namespace Sample

def mainRequest : SubjectPackagingRequest where
  applicationRoot := { absolute := true, components := ["app"] }
  architecture := "arm64"
  arguments := []
  entrypoint := { absolute := true, components := ["app", "main.py"] }
  environmentNames := []
  limits := .v1
  operatingSystem := "linux"
  runtimeFamily := .python

/-- The entrypoint, an empty file. -/
def mainFile : DiscoveredFile where
  debugArtifactKind := none
  kind := .application
  mediaType := "text/x-python"
  module := true
  source := mainRequest.entrypoint
  target := "/reproit/subject/app/main.py"

def mainDisk : Disk := Disk.set (fun _ => none) mainFile.source (some (.file []))

def staging : Path where
  absolute := true
  components := ["staging"]

/-- The stored copy of the entrypoint. -/
def mainObject : FrozenSubjectObject where
  digest := Digest.of []
  embeddedDwarf := false
  path := staging.join (stagedName (Digest.of []))
  size := 0

def mainSet : FrozenFileSet where
  debugArtifacts := [FrozenFileSet.selfBinding .interpretedSourceIdentity mainFile (Digest.of [])]
  files := [{ executable := true, objectDigest := Digest.of [], path := mainFile.target }]
  frozenObjects := Std.ExtTreeMap.insert ∅ (Digest.of []) mainObject
  moduleByStem := Std.ExtTreeMap.insert ∅ "main" (Digest.of [])
  modules := [{ identity := (Digest.of []).toText, moduleDigest := Digest.of []
                path := mainFile.target }]
  objects := Std.ExtTreeMap.insert ∅ (Digest.of [])
    { digest := Digest.of [], kind := .application, mediaType := mainFile.mediaType, size := 0 }
  totalBytes := 0

/-- The entrypoint as it is recorded. -/
def mainRecord : RecordedFile where
  discovered := mainFile
  object := mainObject
  executable := true

theorem record_main :
    FrozenFileSet.new.record mainRequest mainFile mainObject true = .ok mainSet := by
  have stem : fileStem mainFile.source = .ok "main" := by decide
  have missing : FrozenFileSet.new.objects[mainRecord.object.digest]? = none :=
    Std.ExtTreeMap.getElem?_empty
  have unnamed : FrozenFileSet.new.moduleByStem["main"]? = none := Std.ExtTreeMap.getElem?_empty
  have interpreted : isInterpretedSource mainFile.source = true := by decide
  have fits : (0 : UInt64) ≤ mainRequest.limits.maximumTotalBytes := by decide
  have stored := FrozenFileSet.recordObject_eq_ok.mpr (.inr ⟨missing, 0, rfl, fits, rfl⟩)
  rw [FrozenFileSet.record]
  change (FrozenFileSet.new.recordObject mainRequest.limits mainRecord.closureObject
    mainRecord.object >>= _) = _
  rw [stored, ok_bind, if_pos (show mainFile.module = true from rfl), FrozenFileSet.recordModule,
    stem, ok_bind, rejectIf_of_not]
  · rw [ok_bind]
    have interpretedModule : (mainRequest.runtimeFamily = .node ∨
        mainRequest.runtimeFamily = .python) ∧ isInterpretedSource mainFile.source :=
      ⟨.inr rfl, interpreted⟩
    simp only [if_pos interpretedModule]
    rfl
  · rintro ⟨existing, held, _⟩
    rw [unnamed] at held
    cases held

/-- The disk with the stored copy. -/
def frozenDisk : Disk :=
  ((mainDisk.set (staging.join (partialName 0)) (some (.file []))).set
    (staging.join (partialName 0)) none).set (staging.join (stagedName (Digest.of [])))
      (some (.file []))

theorem freezeOne_main (reads : ShortReads) :
    freezeOneFile noFaults reads mainRequest.limits staging 0 mainFile mainDisk =
      .ok mainObject frozenDisk := by
  have held : mainDisk mainFile.source = some (.file []) := Disk.set_self _ _ _
  have free : ∀ name, mainDisk (staging.join name) = none := by
    intro name
    apply Disk.set_of_ne
    intro same
    have first := congrArg (fun path => path.components.head?) same
    exact absurd first (show ¬ some "staging" = some "app" by decide)
  have bounded : boundedContent mainRequest.limits mainDisk mainFile.source = .ok [] := by
    rw [boundedContent, held]
    rfl
  have apart : staging.join (stagedName (Digest.of [])) ≠ staging.join (partialName 0) :=
    fun same => stagedName_ne_partialName _ _ (join_injective staging same)
  have written : writeFile noFaults (staging.join (partialName 0)) [] subjectUnavailable mainDisk =
      (.ok (), mainDisk.set (staging.join (partialName 0)) (some (.file []))) := by
    simp only [writeFile, free]
    rfl
  have stored : storeStaged noFaults mainRequest.limits (staging.join (partialName 0))
      (staging.join (stagedName (Digest.of []))) []
      (mainDisk.set (staging.join (partialName 0)) (some (.file []))) = (.ok (), frozenDisk) := by
    rw [storeStaged, Disk.set_of_ne _ apart, free]
    rfl
  have searched : searchStaged noFaults reads (staging.join (stagedName (Digest.of []))) frozenDisk =
      .ok false := by
    have copy : frozenDisk (staging.join (stagedName (Digest.of []))) = some (.file []) :=
      Disk.set_self _ _ _
    have plain : containsEmbeddedDwarf reads [] = false := if_pos (by decide)
    have readable : ¬ noFaults.read (staging.join (stagedName (Digest.of []))) = true :=
      Bool.false_ne_true
    rw [searchStaged, rejectIf_of_not _ readable, ok_bind, copy]
    exact congrArg Except.ok plain
  simp only [freezeOneFile, Update.get_bind, Update.bind_eq_ok, Update.attempt_eq_ok]
  refine ⟨[], _, ⟨bounded, rfl⟩, (), _, ⟨rejectIf_of_not _ Bool.false_ne_true, rfl⟩, ?_⟩
  rw [written]
  refine ⟨(), _, rfl, (), _, ⟨rfl, rfl⟩, 0, _, ⟨rfl, rfl⟩, ?_⟩
  rw [stored]
  refine ⟨(), _, rfl, (), _, ⟨rfl, rfl⟩, ?_⟩
  rw [if_pos (show mainFile.module = true from rfl)]
  exact Update.bind_eq_ok.mpr ⟨false, _, Update.attempt_eq_ok.mpr ⟨searched, rfl⟩, rfl⟩

def mainManifest : SubjectClosureManifest :=
  frozenManifest mainRequest mainSet mainSet.debugArtifacts mainFile.target

omit [Primitives] in
theorem toList_insert_empty {β : Type} (digest : Digest) (value : β) :
    (Std.ExtTreeMap.insert ∅ digest value : OrderedMap Digest β).toList = [(digest, value)] := by
  have inserted : OrderedMap.insertAllNew ∅ [(digest, value)] =
      some (Std.ExtTreeMap.insert ∅ digest value) := by
    rw [OrderedMap.insertAllNew, List.foldlM_cons, OrderedMap.insertNew,
      if_neg Std.ExtTreeMap.not_mem_empty]
    rfl
  exact OrderedMap.toList_of_ordered inserted (List.pairwise_singleton _ _)

theorem objects_main : mainManifest.objects =
    [{ digest := Digest.of [], kind := .application, mediaType := mainFile.mediaType, size := 0 }] :=
  congrArg (List.map Prod.snd) (toList_insert_empty _ _)

theorem modules_main : mainManifest.modules = mainSet.modules := List.mergeSort_singleton _

theorem debugArtifacts_main : mainManifest.debugArtifacts = mainSet.debugArtifacts :=
  List.mergeSort_singleton _

theorem validate_mainManifest : mainManifest.validate = .ok () := by
  obtain ⟨⟨arm64, linux, -⟩, -⟩ := subject_texts
  have path : validAbsoluteSubjectPath mainFile.target = true := by decide
  have launch : SubjectLaunch.validate
      { arguments := [], environmentNames := [], executable := mainFile.target
        workingDirectory := "/reproit/subject/app" } = .ok () := by decide
  have media : mainFile.mediaType.isEmpty = false ∧ mainFile.mediaType.utf8ByteSize ≤ 128 := by decide
  have name : (Digest.of []).toText.isEmpty = false ∧ (Digest.of []).toText.utf8ByteSize ≤ 512 := by
    have size := Json.utf8ByteSize_add_two_le_stringSize (Digest.of []).toText
    rw [Digest.stringSize_toText] at size
    refine ⟨?_, by omega⟩
    rw [String.isEmpty_eq_false_iff]
    intro empty
    have letters := congrArg String.toList empty
    rw [Digest.toText, String.toList_ofList] at letters
    cases letters
  simp only [SubjectClosureManifest.validate, SubjectClosureManifest.validateObjects,
    SubjectClosureManifest.validateFiles, SubjectClosureManifest.validateModules,
    SubjectClosureManifest.validateDebugArtifacts, bind_eq_ok, rejectIf_eq_ok, forEach_eq_ok,
    okOr_eq_ok, pure_eq_ok, not_not, objects_main, modules_main, debugArtifacts_main]
  refine ⟨(), launch, (), ?_, _,
    ⟨(), .singleton _, (), ?_, 0, by rfl, (), rfl, rfl⟩, (),
    ⟨(), .singleton _, ?_⟩, _,
    ⟨(), .singleton _, (), ?_, rfl⟩, (), ⟨(), .singleton _, ?_⟩, ?_⟩
  · simp [mainManifest, frozenManifest, mainRequest, mainSet, arm64, linux]
  · intro object listed
    obtain rfl := List.mem_singleton.mp listed
    simp [media]
  · intro file listed
    obtain rfl := List.mem_singleton.mp listed
    simp [path]
  · intro entry listed
    obtain rfl := List.mem_singleton.mp listed
    simp [SubjectClosureManifest.fileDigests, mainManifest, frozenManifest, mainSet, path, name]
  · intro artifact listed
    obtain rfl := List.mem_singleton.mp listed
    simp [SubjectClosureManifest.fileDigests, mainManifest, frozenManifest, mainSet, path,
      FrozenFileSet.selfBinding, SubjectClosureManifest.validArtifactKind]
  · exact ⟨_, List.mem_singleton_self _, rfl, rfl⟩

theorem freezeEach_main (reads : ShortReads) :
    freezeEach noFaults reads mainRequest staging mainRequest.entrypoint 0 [mainFile] .new mainDisk =
      .ok mainSet frozenDisk := by
  rw [freezeEach]
  refine Update.bind_eq_ok.mpr ⟨_, _, freezeOne_main reads, ?_⟩
  refine Update.bind_eq_ok.mpr ⟨mainSet, _, Update.attempt_eq_ok.mpr ⟨?_, rfl⟩, rfl⟩
  rw [decide_eq_true (show mainFile.source = mainRequest.entrypoint from rfl)]
  exact record_main

/-- The package of the entrypoint. -/
def mainClosure : FrozenSubjectClosure where
  manifest := mainManifest
  manifestDigest := Digest.of (Canonical.text mainManifest)
  objects := [mainObject]
  stagingRoot := staging

theorem freezeFiles_main (reads : ShortReads) :
    freezeFiles noFaults reads mainRequest staging [mainFile] mainDisk =
      .ok mainClosure frozenDisk := by
  have located : canonicalRegularFile mainDisk mainRequest.entrypoint =
      .ok mainRequest.entrypoint := by
    have held : mainDisk mainRequest.entrypoint = some (.file []) := Disk.set_self _ _ _
    rw [canonicalRegularFile, held]
  have digest := Canonical.digest_of_exact (SubjectClosureManifest.exact validate_mainManifest)
  have objects : mainSet.frozenObjects.toList.map Prod.snd = [mainObject] :=
    congrArg (List.map Prod.snd) (toList_insert_empty _ _)
  simp only [freezeFiles, Update.get_bind, Update.bind_eq_ok, Update.attempt_eq_ok]
  refine ⟨_, _, ⟨located, rfl⟩, mainSet, _, freezeEach_main reads, mainSet.debugArtifacts, _,
    ⟨rfl, rfl⟩, mainFile.target, _, ⟨rfl, rfl⟩, (), _, ⟨validate_mainManifest, rfl⟩, _, _,
    ⟨digest, rfl⟩, ?_⟩
  rw [objects]
  rfl

end Sample

omit [Primitives] in
/-- The package of an empty entrypoint is its image. -/
theorem freezeFiles_faithful_main :
    letI := Sample.primitives
    freezeFiles noFaults ⟨fun _ => 3, fun _ => by decide⟩ Sample.mainRequest Sample.staging
        [Sample.mainFile] Sample.mainDisk = .ok Sample.mainClosure Sample.frozenDisk ∧
      FaithfulImage Sample.mainRequest (fun _ => []) [Sample.mainFile] Sample.frozenDisk
        Sample.mainClosure := by
  let _ := Sample.primitives
  have ran := Sample.freezeFiles_main ⟨fun _ => 3, fun _ => by decide⟩
  refine ⟨ran, freezeFiles_faithful ?_ ?_ ran⟩
  · intro file listed
    obtain rfl := List.mem_singleton.mp listed
    exact Disk.set_self _ _ _
  · have only : ∀ path content, Sample.mainDisk path = some (.file content) → content = [] := by
      intro path content held
      by_cases here : path = Sample.mainFile.source
      · subst here
        rw [Sample.mainDisk, Disk.set_self] at held
        cases held
        rfl
      · rw [Sample.mainDisk, Disk.set_of_ne _ here] at held
        cases held
    intro first second one other firstHeld secondHeld _
    rw [only first one firstHeld, only second other secondHeld]

end Reproit.Backend
