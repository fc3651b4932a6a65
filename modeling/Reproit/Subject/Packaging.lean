/-
# Freezing the files of a subject

The files that were discovered are copied into a staging directory under their digests.
Files with one content share one object.  Every module is kept by the stem of its name, so
that the debug artifacts find their modules, and the manifest lists everything.
-/

import Reproit.Core.Canonical
import Reproit.Data.OrderedMap
import Reproit.Data.Update
import Reproit.Subject.Dwarf
import Reproit.Subject.Names

namespace Reproit.Backend

structure SubjectPackagingLimits where
  maximumFileBytes : UInt64
  maximumFiles : Nat
  maximumTotalBytes : UInt64

namespace SubjectPackagingLimits

def v1 : SubjectPackagingLimits where
  maximumFileBytes := 4 * 1024 * 1024 * 1024
  maximumFiles := 32767
  maximumTotalBytes := 256 * 1024 * 1024 * 1024

def validate (limits : SubjectPackagingLimits) : Result Unit :=
  rejectIf (limits.maximumFileBytes = 0 ∨ limits.maximumFileBytes > limits.maximumTotalBytes ∨
    limits.maximumFiles = 0 ∨ limits.maximumFiles > v1.maximumFiles ∨
    limits.maximumTotalBytes > v1.maximumTotalBytes) .schemaInvalid

end SubjectPackagingLimits

structure SubjectPackagingRequest where
  applicationRoot : Path
  architecture : String
  arguments : List String
  entrypoint : Path
  environmentNames : List String
  limits : SubjectPackagingLimits
  operatingSystem : String
  runtimeFamily : SubjectRuntimeFamily

/-- A file of the subject with its place in the package. -/
structure DiscoveredFile where
  debugArtifactKind : Option DebugArtifactKind
  kind : SubjectObjectKind
  mediaType : String
  module : Bool
  source : Path
  target : String

/-- A stored copy of a content. -/
structure FrozenSubjectObject where
  digest : Digest
  embeddedDwarf : Bool
  path : Path
  size : UInt64

/-! ## Recording files -/

/-- What is known about the files that were recorded. -/
structure FrozenFileSet where
  debugArtifacts : List DebugArtifactBinding
  files : List SubjectFile
  frozenObjects : OrderedMap Digest FrozenSubjectObject
  moduleByStem : OrderedMap String Digest
  modules : List SubjectModule
  objects : OrderedMap Digest SubjectClosureObject
  totalBytes : UInt64

namespace FrozenFileSet

def new : FrozenFileSet where
  debugArtifacts := []
  files := []
  frozenObjects := ∅
  moduleByStem := ∅
  modules := []
  objects := ∅
  totalBytes := 0

/-- Keep the object of a content; a content that is there must have the same record. -/
def recordObject (limits : SubjectPackagingLimits) (object : SubjectClosureObject)
    (frozen : FrozenSubjectObject) (set : FrozenFileSet) : Result FrozenFileSet :=
  match set.objects[frozen.digest]? with
  | some existing => do
      rejectIf (existing ≠ object) subjectIncomplete
      return set
  | none => do
      let totalBytes ← okOr ((checkedAdd set.totalBytes frozen.size).filter
        fun total => total ≤ limits.maximumTotalBytes) subjectUnbounded
      return { set with
        totalBytes
        objects := set.objects.insert frozen.digest object
        frozenObjects := set.frozenObjects.insert frozen.digest frozen }

/-- The binding of a module that is its own debug artifact. -/
def selfBinding (kind : DebugArtifactKind) (discovered : DiscoveredFile) (digest : Digest) :
    DebugArtifactBinding where
  artifactDigest := digest
  kind := kind
  moduleDigest := digest
  path := discovered.target

def recordModule (runtimeFamily : SubjectRuntimeFamily) (discovered : DiscoveredFile)
    (digest : Digest) (set : FrozenFileSet) : Result FrozenFileSet := do
  let stem ← fileStem discovered.source
  rejectIf (∃ existing ∈ set.moduleByStem[stem]?, existing ≠ digest) subjectIncomplete
  return { set with
    modules := set.modules ++
      [{ identity := digest.toText, moduleDigest := digest, path := discovered.target }]
    moduleByStem := set.moduleByStem.insert stem digest
    debugArtifacts :=
      if (runtimeFamily = .node ∨ runtimeFamily = .python) ∧
          isInterpretedSource discovered.source then
        set.debugArtifacts ++ [selfBinding .interpretedSourceIdentity discovered digest]
      else set.debugArtifacts }

def record (request : SubjectPackagingRequest) (discovered : DiscoveredFile)
    (frozen : FrozenSubjectObject) (executable : Bool) (set : FrozenFileSet) :
    Result FrozenFileSet := do
  let object : SubjectClosureObject :=
    { digest := frozen.digest, kind := discovered.kind, mediaType := discovered.mediaType
      size := frozen.size }
  let set ← set.recordObject request.limits object frozen
  let set := { set with
    files := set.files ++
      [{ executable, objectDigest := frozen.digest, path := discovered.target }] }
  if discovered.module then do
    let set ← set.recordModule request.runtimeFamily discovered frozen.digest
    return { set with
      debugArtifacts :=
        if frozen.embeddedDwarf then
          set.debugArtifacts ++ [selfBinding .dwarf discovered frozen.digest]
        else set.debugArtifacts }
  else return set

end FrozenFileSet

/-! ## Debug artifacts -/

/-- The module of a debug artifact: the one of its stem, or the only stem there is. -/
def moduleOfStem (moduleByStem : OrderedMap String Digest) (stem : String) : Option Digest :=
  match moduleByStem[stem]? with
  | some digest => some digest
  | none =>
      if moduleByStem.size = 1 then moduleByStem.toList.head?.map Prod.snd else none

def bindDebugArtifact (moduleByStem : OrderedMap String Digest) (source : DiscoveredFile)
    (file : SubjectFile) (kind : DebugArtifactKind) : Result DebugArtifactBinding := do
  let stem ← debugModuleStem source.source
  let moduleDigest ← okOr (moduleOfStem moduleByStem stem) subjectIncomplete
  return { artifactDigest := file.objectDigest, kind, moduleDigest, path := file.path }

def bindDebugArtifacts (moduleByStem : OrderedMap String Digest) :
    List (DiscoveredFile × SubjectFile) → List DebugArtifactBinding →
      Result (List DebugArtifactBinding)
  | [], bindings => .ok bindings
  | (source, file) :: rest, bindings =>
      match source.debugArtifactKind with
      | none => bindDebugArtifacts moduleByStem rest bindings
      | some kind => do
          let binding ← bindDebugArtifact moduleByStem source file kind
          bindDebugArtifacts moduleByStem rest (bindings ++ [binding])

/-! ## Copying files -/

section

variable [Primitives] (faults : Faults) (reads : ShortReads)

/-- The canonical path of a regular file. -/
def canonicalRegularFile (disk : Disk) (path : Path) : Result Path :=
  match disk path with
  | none => .error subjectUnavailable
  | some (.file _) => .ok path
  | some .other => .error subjectIncomplete

/-- The content of a file that is not too large. -/
def boundedContent (limits : SubjectPackagingLimits) (disk : Disk) (path : Path) :
    Result Bytes :=
  match disk path with
  | none => .error subjectUnavailable
  | some .other => .error subjectUnbounded
  | some (.file content) => do
      rejectIf (content.length > limits.maximumFileBytes.toNat) subjectUnbounded
      return content

/-- The name of the stored copy of a content. -/
def stagedName (digest : Digest) : String :=
  String.ofList (digest.toText.toList.map fun c => if c = ':' then '-' else c)

/-- The name of a copy that is not finished. -/
def partialName (index : Nat) : String :=
  let digits := toString index
  "object-" ++ String.ofList (List.replicate (5 - digits.length) '0') ++ digits ++ ".partial"

/-- The content that is already stored must be the one that was copied. -/
def verifyStaged (limits : SubjectPackagingLimits) (path : Path) (digest : Digest) (size : Nat)
    (disk : Disk) : Result Unit := do
  rejectIf (faults.read path = true) subjectUnavailable
  match disk path with
  | some (.file content) => do
      rejectIf (content.length > limits.maximumFileBytes.toNat) subjectUnbounded
      rejectIf (Digest.of content ≠ digest ∨ content.length ≠ size) subjectChanged
  | _ => throw subjectUnavailable

/-- Give the finished copy its name. -/
def renameFile (temporary path : Path) (content : Bytes) : Disk → Result Unit × Disk := fun disk =>
  if faults.remove temporary then (.error subjectUnavailable, disk)
  else
    let disk := (disk.set temporary none).set path (some (.file content))
    (if (faults.write path).isSome then .error subjectUnavailable else .ok (), disk)

/-- Keep the finished copy, unless the content is stored already. -/
def storeStaged (limits : SubjectPackagingLimits) (temporary path : Path) (content : Bytes) :
    Disk → Result Unit × Disk := fun disk =>
  match disk path with
  | some _ =>
      match verifyStaged faults limits path (Digest.of content) content.length disk with
      | .error error => (.error error, disk)
      | .ok () => removeFile faults temporary subjectUnavailable disk
  | none => renameFile faults temporary path content disk

/-- Search a stored copy for debug information. -/
def searchStaged (path : Path) (disk : Disk) : Result Bool := do
  rejectIf (faults.read path = true) subjectUnavailable
  match disk path with
  | some (.file content) => return containsEmbeddedDwarf reads content
  | _ => throw subjectUnavailable

/-- Copy a file into the staging directory. The file does not change meanwhile. -/
def freezeOneFile (limits : SubjectPackagingLimits) (stagingRoot : Path) (index : Nat)
    (discovered : DiscoveredFile) : Update Error Disk FrozenSubjectObject := do
  let disk ← get
  let content ← Update.attempt (boundedContent limits disk discovered.source)
  Update.attempt (rejectIf (faults.read discovered.source = true) subjectUnavailable)
  let temporary := stagingRoot.join (partialName index)
  let (written, disk) := writeFile faults temporary content subjectUnavailable disk
  set disk
  Update.attempt written
  let digest := Digest.of content
  let size ← Update.attempt (okOr (uint64OfNat content.length) subjectUnbounded)
  let path := stagingRoot.join (stagedName digest)
  let (stored, disk) := storeStaged faults limits temporary path content disk
  set disk
  Update.attempt stored
  let embeddedDwarf ← if discovered.module then
    Update.attempt (searchStaged faults reads path disk) else pure false
  return { digest, embeddedDwarf, path, size }

/-- The frozen files of a subject with their manifest. -/
structure FrozenSubjectClosure where
  manifest : SubjectClosureManifest
  manifestDigest : Digest
  objects : List FrozenSubjectObject
  stagingRoot : Path

/-- Copy and record the files in order. -/
def freezeEach (request : SubjectPackagingRequest) (stagingRoot entrypoint : Path) :
    Nat → List DiscoveredFile → FrozenFileSet → Update Error Disk FrozenFileSet
  | _, [], frozen => pure frozen
  | index, discovered :: rest, frozen => do
      let object ← freezeOneFile faults reads request.limits stagingRoot index discovered
      let frozen ← Update.attempt
        (frozen.record request discovered object (discovered.source = entrypoint))
      freezeEach request stagingRoot entrypoint (index + 1) rest frozen

/-- The manifest of the recorded files. -/
def frozenManifest (request : SubjectPackagingRequest) (frozen : FrozenFileSet)
    (debugArtifacts : List DebugArtifactBinding) (executable : String) :
    SubjectClosureManifest where
  architecture := request.architecture
  debugArtifacts := debugArtifacts.mergeSort fun left right => left.path ≤ right.path
  files := frozen.files
  format := .v1
  launch :=
    { arguments := request.arguments
      environmentNames := request.environmentNames
      executable
      workingDirectory := "/reproit/subject/app" }
  modules := frozen.modules.mergeSort fun left right => left.path ≤ right.path
  objects := frozen.objects.toList.map Prod.snd
  operatingSystem := request.operatingSystem
  runtimeFamily := request.runtimeFamily
  totalBytes := frozen.totalBytes

/-- Freeze the discovered files and list them in a valid manifest. -/
def freezeFiles (request : SubjectPackagingRequest) (stagingRoot : Path)
    (files : List DiscoveredFile) : Update Error Disk FrozenSubjectClosure := do
  let disk ← get
  let entrypoint ← Update.attempt (canonicalRegularFile disk request.entrypoint)
  let frozen ← freezeEach faults reads request stagingRoot entrypoint 0 files .new
  let debugArtifacts ← Update.attempt
    (bindDebugArtifacts frozen.moduleByStem (files.zip frozen.files) frozen.debugArtifacts)
  let executable ← Update.attempt
    (okOr ((frozen.files.find? SubjectFile.executable).map SubjectFile.path) subjectIncomplete)
  let manifest := frozenManifest request frozen debugArtifacts executable
  Update.attempt manifest.validate
  let manifestDigest ← Update.attempt (Canonical.digest manifest)
  return { manifest, manifestDigest, objects := frozen.frozenObjects.toList.map Prod.snd
           stagingRoot }

end

end Reproit.Backend
