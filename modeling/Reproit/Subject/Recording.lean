/-
# What is recorded of a list of files

The recorded files determine every collection of the package.  A list of files can be
recorded exactly when files with one digest have one record, modules with one stem have one
digest, and the distinct objects fit the limit.
-/

import Mathlib.Algebra.BigOperators.Group.Finset.Basic
import Mathlib.Algebra.Order.BigOperators.Group.Finset
import Reproit.Subject.Discovery

namespace Reproit.Backend

/-- A discovered file with its stored copy. -/
structure RecordedFile where
  discovered : DiscoveredFile
  object : FrozenSubjectObject
  executable : Bool

namespace RecordedFile

def closureObject (file : RecordedFile) : SubjectClosureObject where
  digest := file.object.digest
  kind := file.discovered.kind
  mediaType := file.discovered.mediaType
  size := file.object.size

def subjectFile (file : RecordedFile) : SubjectFile where
  executable := file.executable
  objectDigest := file.object.digest
  path := file.discovered.target

def subjectModule (file : RecordedFile) : SubjectModule where
  identity := file.object.digest.toText
  moduleDigest := file.object.digest
  path := file.discovered.target

end RecordedFile

/-- The bytes of the distinct objects. -/
def distinctBytes (objects : List SubjectClosureObject) : Nat :=
  ∑ object ∈ objects.toFinset, object.size.toNat

theorem distinctBytes_append_of_mem {objects : List SubjectClosureObject}
    {object : SubjectClosureObject} (held : object ∈ objects) :
    distinctBytes (objects ++ [object]) = distinctBytes objects := by
  rw [distinctBytes, distinctBytes, List.toFinset_append]
  congr 1
  ext other
  simp only [Finset.mem_union, List.mem_toFinset, List.mem_singleton]
  constructor
  · intro listed
    rcases listed with old | rfl
    · exact old
    · exact held
  · exact .inl

theorem distinctBytes_append_of_not_mem {objects : List SubjectClosureObject}
    {object : SubjectClosureObject} (new : object ∉ objects) :
    distinctBytes (objects ++ [object]) = distinctBytes objects + object.size.toNat := by
  have grown : (objects ++ [object]).toFinset = insert object objects.toFinset := by
    ext other
    simp
  rw [distinctBytes, distinctBytes, grown, Finset.sum_insert (by simpa using new), add_comm]

theorem distinctBytes_mono {objects others : List SubjectClosureObject}
    (within : objects ⊆ others) : distinctBytes objects ≤ distinctBytes others := by
  apply Finset.sum_le_sum_of_subset
  intro object listed
  exact List.mem_toFinset.mpr (within (List.mem_toFinset.mp listed))

namespace FrozenFileSet

def recordAll (request : SubjectPackagingRequest) :
    List RecordedFile → FrozenFileSet → Result FrozenFileSet
  | [], set => .ok set
  | file :: rest, set => do
      let set ← set.record request file.discovered file.object file.executable
      recordAll request rest set

/-- The files can be recorded together. -/
structure Compatible (request : SubjectPackagingRequest) (files : List RecordedFile) : Prop where
  /-- Files with one digest have one record. -/
  objects : ∀ first ∈ files, ∀ second ∈ files, first.object.digest = second.object.digest →
    first.closureObject = second.closureObject
  /-- Every module has a name. -/
  named : ∀ file ∈ files, file.discovered.module = true →
    ∃ stem, fileStem file.discovered.source = .ok stem
  /-- Modules with one stem have one digest. -/
  stems : ∀ first ∈ files, ∀ second ∈ files, first.discovered.module = true →
    second.discovered.module = true →
    fileStem first.discovered.source = fileStem second.discovered.source →
    first.object.digest = second.object.digest
  /-- The distinct objects fit the limit. -/
  bytes : distinctBytes (files.map RecordedFile.closureObject) ≤
    request.limits.maximumTotalBytes.toNat

/-- What the set knows when the files were recorded. -/
structure Holds (request : SubjectPackagingRequest) (recorded : List RecordedFile)
    (set : FrozenFileSet) : Prop where
  files : set.files = recorded.map RecordedFile.subjectFile
  modules : set.modules =
    (recorded.filter fun file => file.discovered.module).map RecordedFile.subjectModule
  objects : ∀ digest object, set.objects[digest]? = some object ↔
    ∃ file ∈ recorded, file.object.digest = digest ∧ file.closureObject = object
  frozen : ∀ digest object, set.frozenObjects[digest]? = some object →
    object.digest = digest ∧ ∃ file ∈ recorded, file.object = object
  frozenKeys : ∀ digest : Digest, set.frozenObjects[digest]?.isSome = set.objects[digest]?.isSome
  stems : ∀ stem digest, set.moduleByStem[stem]? = some digest ↔
    ∃ file ∈ recorded, file.discovered.module = true ∧
      fileStem file.discovered.source = .ok stem ∧ file.object.digest = digest
  named : ∀ file ∈ recorded, file.discovered.module = true →
    ∃ stem, fileStem file.discovered.source = .ok stem
  total : set.totalBytes.toNat = distinctBytes (recorded.map RecordedFile.closureObject)
  within : set.totalBytes ≤ request.limits.maximumTotalBytes

theorem holds_new (request : SubjectPackagingRequest) : Holds request [] new where
  files := rfl
  modules := rfl
  objects digest object := by simp [new]
  frozen digest object := by simp [new]
  frozenKeys digest := by simp [new]
  stems stem digest := by simp [new]
  named := nofun
  total := rfl
  within := UInt64.le_iff_toNat_le.mpr (Nat.zero_le _)

/-! ## One file -/

variable {request : SubjectPackagingRequest} {set after : FrozenFileSet} {file : RecordedFile}

/-- The object of a file is there already, or it is new and fits the limit. -/
theorem recordObject_eq_ok {limits : SubjectPackagingLimits} :
    set.recordObject limits file.closureObject file.object = .ok after ↔
      (set.objects[file.object.digest]? = some file.closureObject ∧ after = set) ∨
      (set.objects[file.object.digest]? = none ∧ ∃ totalBytes : UInt64,
        set.totalBytes.toNat + file.object.size.toNat = totalBytes.toNat ∧
          totalBytes ≤ limits.maximumTotalBytes ∧
          after = { set with
            totalBytes
            objects := set.objects.insert file.object.digest file.closureObject
            frozenObjects := set.frozenObjects.insert file.object.digest file.object }) := by
  rw [recordObject]
  cases found : set.objects[file.object.digest]? with
  | some existing =>
      simp only [bind_eq_ok, rejectIf_eq_ok, not_not, pure_eq_ok, Option.some.injEq, reduceCtorEq,
        false_and, or_false]
      constructor
      · rintro ⟨_, same, stored⟩
        exact ⟨same, stored.symm⟩
      · rintro ⟨same, stored⟩
        exact ⟨(), same, stored.symm⟩
  | none =>
      simp only [bind_eq_ok, okOr_eq_ok, pure_eq_ok, Option.filter_eq_some_iff, checkedAdd_eq_some,
        decide_eq_true_eq, reduceCtorEq, false_and, false_or, true_and]
      constructor
      · rintro ⟨totalBytes, ⟨sum, fits⟩, stored⟩
        exact ⟨totalBytes, sum, fits, stored.symm⟩
      · rintro ⟨totalBytes, sum, fits, stored⟩
        exact ⟨totalBytes, ⟨sum, fits⟩, stored.symm⟩

/-- What recording a file does to the set. -/
theorem record_eq_ok
    (ran : set.record request file.discovered file.object file.executable = .ok after) :
    ∃ stored, set.recordObject request.limits file.closureObject file.object = .ok stored ∧
      after.objects = stored.objects ∧ after.frozenObjects = stored.frozenObjects ∧
      after.totalBytes = stored.totalBytes ∧ after.files = set.files ++ [file.subjectFile] ∧
      ((file.discovered.module = false ∧ after.modules = set.modules ∧
          after.moduleByStem = set.moduleByStem) ∨
        (file.discovered.module = true ∧ ∃ stem, fileStem file.discovered.source = .ok stem ∧
          (∀ existing, set.moduleByStem[stem]? = some existing → existing = file.object.digest) ∧
          after.modules = set.modules ++ [file.subjectModule] ∧
          after.moduleByStem = set.moduleByStem.insert stem file.object.digest)) := by
  rw [record, bind_eq_ok] at ran
  obtain ⟨stored, object, ran⟩ := ran
  have kept : stored.files = set.files ∧ stored.modules = set.modules ∧
      stored.moduleByStem = set.moduleByStem := by
    rcases recordObject_eq_ok.mp object with ⟨-, rfl⟩ | ⟨-, total, -, -, rfl⟩
    · exact ⟨rfl, rfl, rfl⟩
    · exact ⟨rfl, rfl, rfl⟩
  refine ⟨stored, object, ?_⟩
  by_cases module : file.discovered.module = true
  · rw [if_pos module, bind_eq_ok] at ran
    obtain ⟨named, module', ran⟩ := ran
    simp only [recordModule, bind_eq_ok, rejectIf_eq_ok, pure_eq_ok] at module'
    obtain ⟨stem, found, _, agrees, rfl⟩ := module'
    obtain rfl := Except.ok.inj ran
    refine ⟨rfl, rfl, rfl, by rw [← kept.1]; rfl, .inr ⟨module, stem, found, ?_, ?_, ?_⟩⟩
    · intro existing held
      by_contra different
      exact agrees ⟨existing, kept.2.2 ▸ held, different⟩
    · rw [← kept.2.1]
      rfl
    · rw [← kept.2.2]
  · rw [if_neg module] at ran
    obtain rfl := Except.ok.inj ran
    refine ⟨rfl, rfl, rfl, by rw [← kept.1]; rfl, .inl ⟨?_, kept.2.1, kept.2.2⟩⟩
    rwa [Bool.not_eq_true] at module

/-- A file whose object and stem agree with the set is recorded. -/
theorem exists_record
    (object : ∃ stored, set.recordObject request.limits file.closureObject file.object = .ok stored)
    (module : file.discovered.module = true → ∃ stem, fileStem file.discovered.source = .ok stem ∧
      ∀ existing, set.moduleByStem[stem]? = some existing → existing = file.object.digest) :
    ∃ after, set.record request file.discovered file.object file.executable = .ok after := by
  obtain ⟨stored, object⟩ := object
  have kept : stored.moduleByStem = set.moduleByStem := by
    rcases recordObject_eq_ok.mp object with ⟨-, rfl⟩ | ⟨-, total, -, -, rfl⟩
    · rfl
    · rfl
  rw [record]
  change ∃ after, (set.recordObject request.limits file.closureObject file.object >>= _) = .ok after
  rw [object, ok_bind]
  by_cases isModule : file.discovered.module = true
  · obtain ⟨stem, found, agrees⟩ := module isModule
    rw [if_pos isModule, recordModule, found, ok_bind, rejectIf_of_not]
    · exact ⟨_, rfl⟩
    · intro ⟨existing, held, different⟩
      exact different (agrees existing (kept ▸ held))
  · rw [if_neg isModule]
    exact ⟨_, rfl⟩

/-! ## Every file -/

variable {recorded files : List RecordedFile}

/-- A file with the digest of a recorded file that agrees has the same record. -/
theorem Holds.mem_objects (holds : Holds request recorded set)
    (held : set.objects[file.object.digest]? = some file.closureObject) :
    file.closureObject ∈ recorded.map RecordedFile.closureObject := by
  obtain ⟨other, listed, -, same⟩ := (holds.objects _ _).mp held
  exact List.mem_map.mpr ⟨other, listed, same⟩

theorem Holds.not_mem_objects (holds : Holds request recorded set)
    (missing : set.objects[file.object.digest]? = none) :
    file.closureObject ∉ recorded.map RecordedFile.closureObject := by
  intro listed
  obtain ⟨other, member, same⟩ := List.mem_map.mp listed
  have digest : other.object.digest = file.object.digest :=
    congrArg SubjectClosureObject.digest same
  have held := (holds.objects file.object.digest file.closureObject).mpr
    ⟨other, member, digest, same⟩
  rw [missing] at held
  cases held

/-- Recording one more file. -/
theorem Holds.record (holds : Holds request recorded set)
    (ran : set.record request file.discovered file.object file.executable = .ok after) :
    Holds request (recorded ++ [file]) after := by
  obtain ⟨stored, object, objects, frozenObjects, totalBytes, files, modules⟩ := record_eq_ok ran
  have last : ∀ (property : RecordedFile → Prop), (∃ other ∈ recorded ++ [file], property other) ↔
      (∃ other ∈ recorded, property other) ∨ property file := by
    intro property
    constructor
    · intro ⟨other, listed, holds⟩
      rcases List.mem_append.mp listed with old | new
      · exact .inl ⟨other, old, holds⟩
      · exact .inr (List.mem_singleton.mp new ▸ holds)
    · intro found
      rcases found with ⟨other, old, holds⟩ | holds
      · exact ⟨other, List.mem_append_left _ old, holds⟩
      · exact ⟨file, List.mem_append_right _ List.mem_cons_self, holds⟩
  constructor
  case files => rw [files, holds.files, List.map_append]; rfl
  case modules =>
    rcases modules with ⟨plain, same, -⟩ | ⟨module, -, -, -, grown, -⟩
    · rw [same, holds.modules, List.filter_append, List.filter_singleton, plain]
      simp
    · rw [grown, holds.modules, List.filter_append, List.filter_singleton, module]
      simp
  case objects =>
    intro digest other
    rw [last, ← holds.objects, objects]
    rcases recordObject_eq_ok.mp object with ⟨held, rfl⟩ | ⟨missing, total, -, -, rfl⟩
    · constructor
      · exact .inl
      · intro found
        rcases found with old | ⟨rfl, rfl⟩
        · exact old
        · exact held
    · rw [OrderedMap.getElem?_insert]
      split_ifs with same
      · subst same
        rw [missing, Option.some.injEq]
        simp
      · simp [same]
  case frozen =>
    intro digest other
    rw [last, frozenObjects]
    rcases recordObject_eq_ok.mp object with ⟨held, rfl⟩ | ⟨missing, total, -, -, rfl⟩
    · intro found
      obtain ⟨digests, listed⟩ := holds.frozen digest other found
      exact ⟨digests, .inl listed⟩
    · rw [OrderedMap.getElem?_insert]
      split_ifs with same
      · intro found
        obtain rfl := Option.some.inj found
        exact ⟨same, .inr rfl⟩
      · intro found
        obtain ⟨digests, listed⟩ := holds.frozen digest other found
        exact ⟨digests, .inl listed⟩
  case frozenKeys =>
    intro digest
    rw [frozenObjects, objects]
    rcases recordObject_eq_ok.mp object with ⟨-, rfl⟩ | ⟨-, total, -, -, rfl⟩
    · exact holds.frozenKeys digest
    · rw [OrderedMap.getElem?_insert, OrderedMap.getElem?_insert]
      split_ifs
      · rfl
      · exact holds.frozenKeys digest
  case stems =>
    intro stem digest
    rw [last, ← holds.stems]
    rcases modules with ⟨plain, -, same⟩ | ⟨module, here, found, agrees, -, grown⟩
    · rw [same, plain]
      simp
    · rw [grown, OrderedMap.getElem?_insert, module, found, Except.ok.injEq]
      split_ifs with same
      · subst same
        rw [Option.some.injEq]
        constructor
        · intro digests
          exact .inr ⟨rfl, rfl, digests⟩
        · intro either
          rcases either with old | ⟨-, -, digests⟩
          · exact (agrees digest old).symm
          · exact digests
      · simp [same]
  case named =>
    intro other listed isModule
    rcases List.mem_append.mp listed with old | new
    · exact holds.named other old isModule
    · obtain rfl := List.mem_singleton.mp new
      rcases modules with ⟨plain, -, -⟩ | ⟨-, stem, found, -⟩
      · rw [plain] at isModule
        cases isModule
      · exact ⟨stem, found⟩
  case total =>
    rw [totalBytes, List.map_append]
    rcases recordObject_eq_ok.mp object with ⟨held, rfl⟩ | ⟨missing, total, sum, -, rfl⟩
    · rw [holds.total]
      exact (distinctBytes_append_of_mem (holds.mem_objects held)).symm
    · rw [← sum, holds.total]
      exact (distinctBytes_append_of_not_mem (holds.not_mem_objects missing)).symm
  case within =>
    rw [totalBytes]
    rcases recordObject_eq_ok.mp object with ⟨-, rfl⟩ | ⟨-, total, -, fits, rfl⟩
    · exact holds.within
    · exact fits

/-- Recording the rest of the files. -/
theorem Holds.recordAll (holds : Holds request recorded set)
    (ran : FrozenFileSet.recordAll request files set = .ok after) :
    Holds request (recorded ++ files) after := by
  induction files generalizing recorded set with
  | nil =>
      obtain rfl := Except.ok.inj ran
      rwa [List.append_nil]
  | cons file rest ih =>
      rw [FrozenFileSet.recordAll, bind_eq_ok] at ran
      obtain ⟨next, one, others⟩ := ran
      have whole := ih (holds.record one) others
      rwa [List.append_assoc] at whole

/-- Recorded files agree with each other. -/
theorem Holds.compatible (holds : Holds request recorded set) : Compatible request recorded where
  objects first firstListed second secondListed same := by
    have one := (holds.objects _ _).mpr ⟨first, firstListed, rfl, rfl⟩
    have other := (holds.objects _ _).mpr ⟨second, secondListed, same.symm, rfl⟩
    exact Option.some.inj (one.symm.trans other)
  named := holds.named
  stems first firstListed second secondListed firstModule secondModule same := by
    obtain ⟨stem, found⟩ := holds.named first firstListed firstModule
    have one := (holds.stems _ _).mpr ⟨first, firstListed, firstModule, found, rfl⟩
    have other := (holds.stems _ _).mpr
      ⟨second, secondListed, secondModule, same.symm.trans found, rfl⟩
    exact Option.some.inj (one.symm.trans other)
  bytes := by
    rw [← holds.total]
    exact UInt64.le_iff_toNat_le.mp holds.within

/-- A file that agrees with the recorded ones is recorded. -/
theorem Holds.exists_record (holds : Holds request recorded set)
    (compatible : Compatible request (recorded ++ file :: files)) :
    ∃ after, set.record request file.discovered file.object file.executable = .ok after := by
  have here : file ∈ recorded ++ file :: files :=
    List.mem_append_right _ List.mem_cons_self
  apply FrozenFileSet.exists_record
  · cases found : set.objects[file.object.digest]? with
    | some existing =>
        obtain ⟨other, listed, digest, rfl⟩ := (holds.objects _ _).mp found
        have same := compatible.objects other (List.mem_append_left _ listed) file here digest
        exact ⟨set, recordObject_eq_ok.mpr (.inl ⟨found.trans (congrArg some same), rfl⟩)⟩
    | none =>
        have grown := distinctBytes_append_of_not_mem (holds.not_mem_objects found)
        have part : distinctBytes (recorded.map RecordedFile.closureObject ++
              [file.closureObject]) ≤
            distinctBytes ((recorded ++ file :: files).map RecordedFile.closureObject) := by
          apply distinctBytes_mono
          intro object listed
          rw [List.map_append, List.map_cons]
          rcases List.mem_append.mp listed with old | new
          · exact List.mem_append_left _ old
          · exact List.mem_append_right _ (List.mem_singleton.mp new ▸ List.mem_cons_self)
        have bound := grown ▸ part.trans compatible.bytes
        rw [← holds.total] at bound
        have limit := request.limits.maximumTotalBytes.toNat_lt
        have sum : set.totalBytes.toNat + file.object.size.toNat =
            (UInt64.ofNat (set.totalBytes.toNat + file.object.size.toNat)).toNat :=
          (UInt64.toNat_ofNat_of_lt' (lt_of_le_of_lt bound limit)).symm
        refine ⟨_, recordObject_eq_ok.mpr (.inr ⟨found, _, sum, ?_, rfl⟩)⟩
        rw [UInt64.le_iff_toNat_le, ← sum]
        exact bound
  · intro module
    obtain ⟨stem, found⟩ := compatible.named file here module
    refine ⟨stem, found, ?_⟩
    intro existing held
    obtain ⟨other, listed, otherModule, otherStem, rfl⟩ := (holds.stems _ _).mp held
    exact compatible.stems other (List.mem_append_left _ listed) file here otherModule module
      (otherStem.trans found.symm)

/-- The files can be recorded exactly when they are compatible. -/
theorem exists_recordAll_iff (request : SubjectPackagingRequest) (files : List RecordedFile) :
    (∃ set, recordAll request files new = .ok set) ↔ Compatible request files := by
  constructor
  · intro ⟨set, ran⟩
    exact ((holds_new request).recordAll ran).compatible
  · -- the files that were recorded move to the front, and each next one agrees with them
    suffices general : ∀ rest recorded set, Holds request recorded set →
        Compatible request (recorded ++ rest) →
          ∃ after, FrozenFileSet.recordAll request rest set = .ok after from
      general files [] new (holds_new request)
    intro rest
    induction rest with
    | nil => exact fun _ set _ _ => ⟨set, rfl⟩
    | cons file rest ih =>
        intro recorded set holds compatible
        obtain ⟨next, one⟩ := holds.exists_record compatible
        rw [List.append_cons] at compatible
        obtain ⟨after, others⟩ := ih _ next (holds.record one) compatible
        refine ⟨after, ?_⟩
        rw [FrozenFileSet.recordAll, one, ok_bind]
        exact others

end FrozenFileSet

end Reproit.Backend
