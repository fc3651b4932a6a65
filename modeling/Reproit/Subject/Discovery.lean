/-
# Discovering the files of a subject

An interpreted or managed program is packaged with the whole tree of its application
directory; a compiled one with its executable and the debug artifacts beside it.  A running
program that packages itself adds the native libraries that it has loaded.
-/

import Reproit.Subject.Packaging

namespace Reproit.Backend

/-! ## Places in the package -/

/-- The place of a file below a section of the package. -/
def normalizedTarget (subjectSection : String) (relative : List String) : Result String := do
  rejectIf (∃ part ∈ relative, part = "." ∨ part = ".." ∨ part.isEmpty ∨ part.utf8ByteSize > 255)
    subjectIncomplete
  rejectIf (relative = []) subjectIncomplete
  let target := "/reproit/subject/" ++ subjectSection ++ "/" ++ "/".intercalate relative
  rejectIf (target.utf8ByteSize > 4096) subjectUnbounded
  return target

def executableTarget (path : Path) : Result String := do
  let name ← okOr path.fileName subjectIncomplete
  normalizedTarget "bin" [name]

/-- The text of an absolute path. -/
def Path.text (path : Path) : String := "/" ++ "/".intercalate path.components

/-- Libraries are told apart by a part of the digest of their path. -/
def dependencyTarget [Primitives] (path : Path) : Result String := do
  let name ← okOr path.fileName subjectIncomplete
  let digest := (Digest.of (Json.textBytes path.text.toList)).toText
  let lead := String.ofList ((digest.toList.drop 7).take 12)
  normalizedTarget "lib" [lead ++ "-" ++ name]

/-! ## Files -/

/-- The content of a regular file. -/
def regularContent (disk : Disk) (path : Path) : Result Bytes :=
  match disk path with
  | none => .error subjectUnavailable
  | some (.file content) => .ok content
  | some .other => .error subjectIncomplete

/-- Add a file, unless it was added before. -/
def pushFile (disk : Disk) (source : Path) (target : String) (kind : SubjectObjectKind)
    (module : Bool) (files : List DiscoveredFile) : Result (List DiscoveredFile) :=
  if source ∈ files.map DiscoveredFile.source then .ok files
  else do
    let content ← regularContent disk source
    let debugArtifactKind ← debugArtifactKind source content
    return files ++ [{ debugArtifactKind
                       kind
                       mediaType := mediaType source kind debugArtifactKind
                       module
                       source
                       target }]

/-- An entry of a directory. -/
inductive TreeEntry
  | file (name : String)
  | directory (name : String) (entries : List TreeEntry)
  | symlink (name : String)
  | other (name : String)

/-- Add the file of a directory entry. -/
def collectFile (disk : Disk) (request : SubjectPackagingRequest) (relative : List String)
    (files : List DiscoveredFile) : Result (List DiscoveredFile) := do
  let root := request.applicationRoot
  let source : Path := { root with components := root.components ++ relative }
  let content ← regularContent disk source
  let target ← normalizedTarget "app" relative
  let debugArtifactKind ← debugArtifactKind source content
  let (kind, module) := classifyApplicationFile request.runtimeFamily source debugArtifactKind
  pushFile disk source target kind module files

/-- Walk through the entries of a directory, which come in the order of their names. -/
def collectTree (disk : Disk) (request : SubjectPackagingRequest) (directory : List String) :
    List TreeEntry → List DiscoveredFile → Result (List DiscoveredFile)
  | [], files => .ok files
  | entry :: entries, files => do
      rejectIf (files.length ≥ request.limits.maximumFiles) subjectUnbounded
      let files ← match entry with
        | .symlink _ => .error subjectIncomplete
        | .directory name inner => collectTree disk request (directory ++ [name]) inner files
        | .other _ => .error subjectIncomplete
        | .file name => collectFile disk request (directory ++ [name]) files
      collectTree disk request directory entries files

/-- A path with another last component. -/
def Path.withFileName (path : Path) (name : String) : Path :=
  { path with components := path.components.dropLast ++ [name] }

/-- Add the debug artifacts beside a compiled program. -/
def discoverNativeDebugArtifacts (disk : Disk) (entrypoint : Path)
    (files : List DiscoveredFile) : Result (List DiscoveredFile) := do
  let name ← okOr entrypoint.fileName subjectIncomplete
  let adjacent := [name ++ ".debug", name ++ ".dwp", (splitExtension name).1 ++ ".pdb"]
  adjacent.foldlM (fun files name => do
    let source := entrypoint.withFileName name
    match disk source with
    | none => return files
    | some .other => throw subjectIncomplete
    | some (.file _) =>
        let target ← normalizedTarget "debug" [name]
        pushFile disk source target .debugArtifact false files) files

/-- What a running program knows about itself: whether it is the entrypoint, and the native
libraries that it has loaded. -/
structure RunningProgram where
  isEntrypoint : Bool
  loaded : Result (List Path)

/-- The files of a subject, in the order of their places. -/
def discoverSubjectFiles [Primitives] (disk : Disk) (running : RunningProgram)
    (tree : List TreeEntry) (request : SubjectPackagingRequest) :
    Result (List DiscoveredFile) := do
  let entrypoint ← canonicalRegularFile disk request.entrypoint
  let files ← match request.runtimeFamily with
    | .rust | .go => do
        let target ← executableTarget entrypoint
        let files ← pushFile disk entrypoint target .application true []
        discoverNativeDebugArtifacts disk entrypoint files
    | .dotnet | .node | .python => do
        let files ← collectTree disk request [] tree []
        if entrypoint ∈ files.map DiscoveredFile.source then return files
        else do
          let target ← executableTarget entrypoint
          pushFile disk entrypoint target .runtime true files
  let files ← if running.isEntrypoint then do
      let loaded ← running.loaded
      loaded.foldlM (fun files dependency =>
        if dependency ∈ files.map DiscoveredFile.source then return files
        else do
          let target ← dependencyTarget dependency
          pushFile disk dependency target .nativeDependency true files) files
    else pure files
  rejectIf (files = [] ∨ files.length > request.limits.maximumFiles) subjectUnbounded
  let files := files.mergeSort fun left right => left.target ≤ right.target
  rejectIf (¬ files.IsChain (·.target < ·.target)) subjectIncomplete
  return files

end Reproit.Backend
