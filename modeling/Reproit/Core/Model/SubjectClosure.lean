/-
# Subject closures

The closure manifest of a running program: the stored objects of its files, the
files and modules that use them, the debug artifacts of the modules and the launch
record.
-/

import Reproit.Data.Checked
import Reproit.Core.Model.Object

namespace Reproit

abbrev SubjectClosureFormat := Format "reproit.subject-closure.v1"

/-! ## Enumerations -/

inductive SubjectRuntimeFamily
  | dotnet | go | node | python | rust
  deriving DecidableEq

def SubjectRuntimeFamily.name : SubjectRuntimeFamily → String
  | .dotnet => "dotnet"
  | .go => "go"
  | .node => "node"
  | .python => "python"
  | .rust => "rust"

def SubjectRuntimeFamily.codec : Codec SubjectRuntimeFamily :=
  .enumeration [.dotnet, .go, .node, .python, .rust] name fun value => by cases value <;> decide

inductive SubjectObjectKind
  | application | debugArtifact | launchData | moduleIdentity | nativeDependency | runtime
  deriving DecidableEq

def SubjectObjectKind.name : SubjectObjectKind → String
  | .application => "application"
  | .debugArtifact => "debug-artifact"
  | .launchData => "launch-data"
  | .moduleIdentity => "module-identity"
  | .nativeDependency => "native-dependency"
  | .runtime => "runtime"

def SubjectObjectKind.codec : Codec SubjectObjectKind :=
  .enumeration [.application, .debugArtifact, .launchData, .moduleIdentity, .nativeDependency,
    .runtime] name fun value => by cases value <;> decide

inductive DebugArtifactKind
  | dwarf | interpretedSourceIdentity | nativePdb | portablePdb | sourceMap
  deriving DecidableEq

def DebugArtifactKind.name : DebugArtifactKind → String
  | .dwarf => "dwarf"
  | .interpretedSourceIdentity => "interpreted-source-identity"
  | .nativePdb => "native-pdb"
  | .portablePdb => "portable-pdb"
  | .sourceMap => "source-map"

def DebugArtifactKind.codec : Codec DebugArtifactKind :=
  .enumeration [.dwarf, .interpretedSourceIdentity, .nativePdb, .portablePdb, .sourceMap] name
    fun value => by cases value <;> decide

/-! ## Members -/

/-- A stored object of the closure. -/
structure SubjectClosureObject where
  digest : Digest
  kind : SubjectObjectKind
  mediaType : String
  size : UInt64
  deriving DecidableEq

def SubjectClosureObject.codec : Codec SubjectClosureObject :=
  .record
    (.required "digest" Digest.codec <| .required "kind" SubjectObjectKind.codec <|
      .required "media_type" .string <| .required "size" .uint64 .done)
    (fun r => (r.digest, r.kind, r.mediaType, r.size, ()))
    (fun (digest, kind, mediaType, size, ()) => { digest, kind, mediaType, size })
    (fun _ => rfl) (by decide)

/-- A file of the program, backed by a stored object. -/
structure SubjectFile where
  executable : Bool
  objectDigest : Digest
  path : String
  deriving DecidableEq

def SubjectFile.codec : Codec SubjectFile :=
  .record
    (.required "executable" .bool <| .required "object_digest" Digest.codec <|
      .required "path" .string .done)
    (fun r => (r.executable, r.objectDigest, r.path, ()))
    (fun (executable, objectDigest, path, ()) => { executable, objectDigest, path })
    (fun _ => rfl) (by decide)

/-- A loaded module. -/
structure SubjectModule where
  identity : String
  moduleDigest : Digest
  path : String
  deriving DecidableEq

def SubjectModule.codec : Codec SubjectModule :=
  .record
    (.required "identity" .string <| .required "module_digest" Digest.codec <|
      .required "path" .string .done)
    (fun r => (r.identity, r.moduleDigest, r.path, ()))
    (fun (identity, moduleDigest, path, ()) => { identity, moduleDigest, path })
    (fun _ => rfl) (by decide)

/-- A debug artifact bound to the module that it describes. -/
structure DebugArtifactBinding where
  artifactDigest : Digest
  kind : DebugArtifactKind
  moduleDigest : Digest
  path : String
  deriving DecidableEq

def DebugArtifactBinding.codec : Codec DebugArtifactBinding :=
  .record
    (.required "artifact_digest" Digest.codec <| .required "kind" DebugArtifactKind.codec <|
      .required "module_digest" Digest.codec <| .required "path" .string .done)
    (fun r => (r.artifactDigest, r.kind, r.moduleDigest, r.path, ()))
    (fun (artifactDigest, kind, moduleDigest, path, ()) =>
      { artifactDigest, kind, moduleDigest, path })
    (fun _ => rfl) (by decide)

/-- An absolute path below the subject root without empty or relative parts. -/
def validAbsoluteSubjectPath (path : String) : Bool :=
  match Json.expect "/reproit/subject/".toList path.toList with
  | none => false
  | some relative =>
      relative ≠ [] && path.utf8ByteSize ≤ 4096 && !path.toList.contains '\x00' &&
        (relative.splitOn '/').all fun part => part ≠ [] && part ≠ ['.'] && part ≠ ['.', '.']

/-- How the closed program is started. -/
structure SubjectLaunch where
  arguments : List String
  environmentNames : List String
  executable : String
  workingDirectory : String
  deriving DecidableEq

namespace SubjectLaunch

def codec : Codec SubjectLaunch :=
  .record
    (.required "arguments" (.list .string) <| .required "environment_names" (.list .string) <|
      .required "executable" .string <| .required "working_directory" .string .done)
    (fun r => (r.arguments, r.environmentNames, r.executable, r.workingDirectory, ()))
    (fun (arguments, environmentNames, executable, workingDirectory, ()) =>
      { arguments, environmentNames, executable, workingDirectory })
    (fun _ => rfl) (by decide)

def validate (launch : SubjectLaunch) : Result Unit :=
  rejectIf (launch.arguments.length > 128 ∨
    (∃ argument ∈ launch.arguments, argument.utf8ByteSize > 4096) ∨
    launch.environmentNames.length > 256 ∨ ¬ validAbsoluteSubjectPath launch.executable ∨
    ¬ validAbsoluteSubjectPath launch.workingDirectory ∨
    ¬ launch.environmentNames.IsChain (· < ·) ∨
    ∃ name ∈ launch.environmentNames, ¬ validEnvironmentName name) .schemaInvalid

instance : Validate SubjectLaunch := ⟨validate⟩

end SubjectLaunch

/-! ## The closure manifest -/

/-- The closure of one running program. -/
structure SubjectClosureManifest where
  architecture : String
  debugArtifacts : List DebugArtifactBinding
  files : List SubjectFile
  format : SubjectClosureFormat
  launch : SubjectLaunch
  modules : List SubjectModule
  objects : List SubjectClosureObject
  operatingSystem : String
  runtimeFamily : SubjectRuntimeFamily
  totalBytes : UInt64
  deriving DecidableEq

namespace SubjectClosureManifest

def codec : Codec SubjectClosureManifest :=
  .record
    (.required "architecture" .string <|
      .required "debug_artifacts" (.list DebugArtifactBinding.codec) <|
      .required "files" (.list SubjectFile.codec) <| .required "format" (Format.codec _) <|
      .required "launch" SubjectLaunch.codec <|
      .required "modules" (.list SubjectModule.codec) <|
      .required "objects" (.list SubjectClosureObject.codec) <|
      .required "operating_system" .string <|
      .required "runtime_family" SubjectRuntimeFamily.codec <|
      .required "total_bytes" .uint64 .done)
    (fun r => (r.architecture, r.debugArtifacts, r.files, r.format, r.launch, r.modules,
      r.objects, r.operatingSystem, r.runtimeFamily, r.totalBytes, ()))
    (fun (architecture, debugArtifacts, files, format, launch, modules, objects,
      operatingSystem, runtimeFamily, totalBytes, ()) =>
      { architecture, debugArtifacts, files, format, launch, modules, objects,
        operatingSystem, runtimeFamily, totalBytes })
    (fun _ => rfl) (by decide)

instance : Document SubjectClosureManifest := ⟨codec, by decide⟩

/-- The stored kinds by digest. -/
abbrev ObjectKinds := List (Digest × SubjectObjectKind)

def validateObjects (manifest : SubjectClosureManifest) : Result ObjectKinds := do
  rejectIf (¬ manifest.objects.IsChain (·.digest < ·.digest)) .schemaInvalid
  forEach manifest.objects fun object =>
    rejectIf (object.size.toNat > maxObjectBytes ∨ object.mediaType.isEmpty ∨
      object.mediaType.utf8ByteSize > 128) .schemaInvalid
  let totalBytes ← okOr (checkedSum 0 (manifest.objects.map SubjectClosureObject.size))
    .schemaInvalid
  rejectIf (totalBytes ≠ manifest.totalBytes) .schemaInvalid
  return manifest.objects.map fun object => (object.digest, object.kind)

def validateFiles (manifest : SubjectClosureManifest) (objects : ObjectKinds) : Result Unit := do
  rejectIf (¬ manifest.files.IsChain (·.path < ·.path)) .schemaInvalid
  forEach manifest.files fun file =>
    rejectIf (¬ validAbsoluteSubjectPath file.path ∨ (objects.lookup file.objectDigest).isNone)
      .schemaInvalid

/-- The digest of every file by its path. -/
def fileDigests (manifest : SubjectClosureManifest) : List (String × Digest) :=
  manifest.files.map fun file => (file.path, file.objectDigest)

def validateModules (manifest : SubjectClosureManifest) (objects : ObjectKinds) :
    Result (List Digest) := do
  rejectIf (¬ manifest.modules.IsChain (·.path < ·.path)) .schemaInvalid
  forEach manifest.modules fun entry =>
    rejectIf (entry.identity.isEmpty ∨ entry.identity.utf8ByteSize > 512 ∨
      ¬ validAbsoluteSubjectPath entry.path ∨
      manifest.fileDigests.lookup entry.path ≠ some entry.moduleDigest ∨
      (objects.lookup entry.moduleDigest).isNone) .schemaInvalid
  return manifest.modules.map SubjectModule.moduleDigest

/-- An interpreted source identity and a module that carries its own DWARF may be any
object; every other debug artifact is stored as one. -/
def validArtifactKind (artifact : DebugArtifactBinding) (stored : Option SubjectObjectKind) :
    Bool :=
  match artifact.kind with
  | .interpretedSourceIdentity => stored.isSome
  | .dwarf =>
      if artifact.artifactDigest = artifact.moduleDigest then stored.isSome
      else stored = some .debugArtifact
  | _ => stored = some .debugArtifact

def validateDebugArtifacts (manifest : SubjectClosureManifest) (objects : ObjectKinds)
    (modules : List Digest) : Result Unit := do
  rejectIf (¬ manifest.debugArtifacts.IsChain (·.path < ·.path)) .schemaInvalid
  forEach manifest.debugArtifacts fun artifact =>
    rejectIf (¬ validAbsoluteSubjectPath artifact.path ∨
      manifest.fileDigests.lookup artifact.path ≠ some artifact.artifactDigest ∨
      ¬ validArtifactKind artifact (objects.lookup artifact.artifactDigest) ∨
      artifact.moduleDigest ∉ modules) .schemaInvalid

def validate (manifest : SubjectClosureManifest) : Result Unit := do
  manifest.launch.validate
  rejectIf (manifest.objects.isEmpty ∨ manifest.objects.length > 32767 ∨
    manifest.files.isEmpty ∨ manifest.files.length > 32767 ∨
    manifest.modules.isEmpty ∨ manifest.modules.length > 4096 ∨
    manifest.debugArtifacts.isEmpty ∨ manifest.debugArtifacts.length > 4096 ∨
    manifest.totalBytes.toNat > maxObjectBytes ∨ ¬ validComponent manifest.architecture ∨
    ¬ validComponent manifest.operatingSystem) .schemaInvalid
  let objects ← manifest.validateObjects
  manifest.validateFiles objects
  let modules ← manifest.validateModules objects
  manifest.validateDebugArtifacts objects modules
  rejectIf (¬ ∃ file ∈ manifest.files, file.path = manifest.launch.executable ∧ file.executable)
    .schemaInvalid

instance : Validate SubjectClosureManifest := ⟨validate⟩

end SubjectClosureManifest

end Reproit
