/-
# Which trees can be packaged

Files of one content share one object, and modules are kept by the stems of their names.
A tree is recorded exactly when neither rule meets two files that differ.
-/

import Reproit.Backend.Sample
import Reproit.Subject.Recording

namespace Reproit.Backend

variable [Primitives]

/-- A discovered file with the copy of its content. -/
def frozenFile (content : Path → Bytes) (reads : ShortReads) (stagingRoot entrypoint : Path)
    (discovered : DiscoveredFile) : RecordedFile where
  discovered := discovered
  object :=
    { digest := Digest.of (content discovered.source)
      embeddedDwarf := discovered.module && containsEmbeddedDwarf reads (content discovered.source)
      path := stagingRoot.join (stagedName (Digest.of (content discovered.source)))
      size := UInt64.ofNat (content discovered.source).length }
  executable := discovered.source = entrypoint

/-- Every discovered file is recorded exactly when files with the digest of one content have
one kind, one media type and one size, modules have names, modules with one stem have the
digest of one content, and the distinct objects fit the limit. -/
theorem records_every_file_iff (request : SubjectPackagingRequest) (content : Path → Bytes)
    (reads : ShortReads) (stagingRoot entrypoint : Path) (files : List DiscoveredFile) :
    (∃ set, FrozenFileSet.recordAll request
        (files.map (frozenFile content reads stagingRoot entrypoint)) .new = .ok set) ↔
      (∀ first ∈ files, ∀ second ∈ files,
        Digest.of (content first.source) = Digest.of (content second.source) →
          first.kind = second.kind ∧ first.mediaType = second.mediaType ∧
            UInt64.ofNat (content first.source).length =
              UInt64.ofNat (content second.source).length) ∧
      (∀ file ∈ files, file.module = true → ∃ stem, fileStem file.source = .ok stem) ∧
      (∀ first ∈ files, ∀ second ∈ files, first.module = true → second.module = true →
        fileStem first.source = fileStem second.source →
          Digest.of (content first.source) = Digest.of (content second.source)) ∧
      distinctBytes (files.map fun file =>
        (frozenFile content reads stagingRoot entrypoint file).closureObject) ≤
          request.limits.maximumTotalBytes.toNat := by
  have objects : ∀ first second : DiscoveredFile,
      (frozenFile content reads stagingRoot entrypoint first).closureObject =
          (frozenFile content reads stagingRoot entrypoint second).closureObject ↔
        Digest.of (content first.source) = Digest.of (content second.source) ∧
          first.kind = second.kind ∧ first.mediaType = second.mediaType ∧
            UInt64.ofNat (content first.source).length =
              UInt64.ofNat (content second.source).length := by
    intro first second
    simp only [RecordedFile.closureObject, frozenFile, SubjectClosureObject.mk.injEq]
  rw [FrozenFileSet.exists_recordAll_iff]
  constructor
  · intro compatible
    refine ⟨?_, ?_, ?_, ?_⟩
    · intro first firstListed second secondListed same
      exact ((objects first second).mp (compatible.objects _ (List.mem_map_of_mem firstListed) _
        (List.mem_map_of_mem secondListed) same)).2
    · intro file listed module
      exact compatible.named _ (List.mem_map_of_mem listed) module
    · intro first firstListed second secondListed firstModule secondModule same
      exact compatible.stems _ (List.mem_map_of_mem firstListed) _
        (List.mem_map_of_mem secondListed) firstModule secondModule same
    · have bytes := compatible.bytes
      rwa [List.map_map] at bytes
  · intro ⟨records, named, stems, bytes⟩
    constructor
    case objects =>
      intro _ firstListed _ secondListed same
      obtain ⟨first, firstHere, rfl⟩ := List.mem_map.mp firstListed
      obtain ⟨second, secondHere, rfl⟩ := List.mem_map.mp secondListed
      exact (objects first second).mpr ⟨same, records first firstHere second secondHere same⟩
    case named =>
      intro _ listed module
      obtain ⟨file, here, rfl⟩ := List.mem_map.mp listed
      exact named file here module
    case stems =>
      intro _ firstListed _ secondListed firstModule secondModule same
      obtain ⟨first, firstHere, rfl⟩ := List.mem_map.mp firstListed
      obtain ⟨second, secondHere, rfl⟩ := List.mem_map.mp secondListed
      exact stems first firstHere second secondHere firstModule secondModule same
    case bytes => rwa [List.map_map]

/-! ## Two Python trees -/

namespace Sample

def pythonRequest : SubjectPackagingRequest where
  applicationRoot := { absolute := true, components := ["srv"] }
  architecture := "arm64"
  arguments := []
  entrypoint := { absolute := true, components := ["bin", "python"] }
  environmentNames := []
  limits := .v1
  operatingSystem := "linux"
  runtimeFamily := .python

/-- A file system whose regular files have the given content. -/
def diskOf (content : Path → Bytes) : Disk := fun path => some (.file (content path))

/-- Every file is empty but the one in the directory `b`. -/
def packageContent (path : Path) : Bytes := if "b" ∈ path.components then [10] else []

/-- Two packages, each with its `__init__.py`. -/
def packageTree : List TreeEntry :=
  [.directory "a" [.file "__init__.py"], .directory "b" [.file "__init__.py"]]

/-- An empty module and an empty data file. -/
def markerTree : List TreeEntry := [.file "main.py", .file "py.typed"]

/-- A file of the Python application. -/
def pythonFile (relative : List String) (module : Bool) (mediaType : String) :
    DiscoveredFile where
  debugArtifactKind := none
  kind := .application
  mediaType := mediaType
  module := module
  source := { absolute := true, components := "srv" :: relative }
  target := "/reproit/subject/app/" ++ "/".intercalate relative

omit [Primitives] in
theorem collectTree_packageTree :
    collectTree (diskOf packageContent) pythonRequest [] packageTree [] =
      .ok [pythonFile ["a", "__init__.py"] true "text/plain",
        pythonFile ["b", "__init__.py"] true "text/plain"] := by
  simp only [packageTree, collectTree]
  rfl

omit [Primitives] in
theorem collectTree_markerTree :
    collectTree (diskOf fun _ => []) pythonRequest [] markerTree [] =
      .ok [pythonFile ["main.py"] true "text/plain",
        pythonFile ["py.typed"] false "application/vnd.reproit.subject-file.v1"] := by
  simp only [markerTree, collectTree]
  rfl

/-- The functions of the small captures with a digest that tells sizes apart. -/
@[reducible] def sized : Primitives :=
  { primitives with
    sha256 := fun bytes => ⟨bytes.length % 2 ^ 256, Nat.mod_lt _ (Nat.two_pow_pos 256)⟩ }

/-- The copies of the files of a tree. -/
def frozenFiles (content : Path → Bytes) : List DiscoveredFile → List RecordedFile :=
  List.map (frozenFile content ⟨fun _ => 65536, fun _ => by decide⟩
    { absolute := true, components := ["staging"] } pythonRequest.entrypoint)

end Sample

omit [Primitives] in
/-- A tree of two packages is not recorded when their `__init__.py` differ, and an empty module
is not recorded beside an empty data file. -/
theorem python_trees_refused :
    letI := Sample.sized
    (∃ files, collectTree (Sample.diskOf Sample.packageContent) Sample.pythonRequest []
        Sample.packageTree [] = .ok files ∧
      ∀ set, FrozenFileSet.recordAll Sample.pythonRequest
        (Sample.frozenFiles Sample.packageContent files) .new ≠ .ok set) ∧
    ∃ files, collectTree (Sample.diskOf fun _ => []) Sample.pythonRequest []
        Sample.markerTree [] = .ok files ∧
      ∀ set, FrozenFileSet.recordAll Sample.pythonRequest
        (Sample.frozenFiles (fun _ => []) files) .new ≠ .ok set := by
  let _ := Sample.sized
  constructor
  · refine ⟨_, Sample.collectTree_packageTree, fun set ran => ?_⟩
    have compatible := (FrozenFileSet.exists_recordAll_iff _ _).mp ⟨set, ran⟩
    have same := compatible.stems _ List.mem_cons_self _
      (List.mem_cons_of_mem _ List.mem_cons_self) rfl rfl rfl
    have digests : (⟨0⟩ : Digest) = ⟨1⟩ := same
    exact absurd digests (by decide)
  · refine ⟨_, Sample.collectTree_markerTree, fun set ran => ?_⟩
    have compatible := (FrozenFileSet.exists_recordAll_iff _ _).mp ⟨set, ran⟩
    have same := compatible.objects _ List.mem_cons_self _
      (List.mem_cons_of_mem _ List.mem_cons_self) rfl
    have mediaTypes : "text/plain" = "application/vnd.reproit.subject-file.v1" :=
      congrArg SubjectClosureObject.mediaType same
    exact absurd mediaTypes (by decide)

end Reproit.Backend
