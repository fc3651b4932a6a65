/-
# The files of a subject

What a file of a running program is, by its name: application code, launch data or a debug
artifact, whether it is a module, and which module a debug artifact belongs to.
-/

import Mathlib.Data.List.TakeWhile
import Reproit.Backend.FileSystem
import Reproit.Core.Model.SubjectClosure

namespace Reproit.Backend

/-! ## Errors -/

def subjectIncomplete : Error :=
  .new .incompleteCandidate
    "Repro It could not build a complete subject package. Ensure that every required file is present."

def subjectChanged : Error :=
  .new .subjectDigestMismatch
    "The subject changed during packaging. Restart the deployed application before capture."

def subjectUnbounded : Error :=
  .new .uploadLimitExceeded
    "The subject package exceeds a capture limit. Reduce the deployed subject closure."

def subjectUnavailable : Error :=
  .new .artifactNotFound
    "Repro It could not read the deployed subject. Check file access and try again."

/-! ## File names -/

/-- The last component of a path, unless it is a dot or two. -/
def Path.fileName (path : Path) : Option String :=
  path.components.getLast?.filter fun name => name ≠ "." ∧ name ≠ ".."

/-- The stem and the extension of a file name: the parts around its last dot. A name that
begins with its only dot has no extension. -/
def splitExtension (name : String) : String × Option String :=
  let after := (name.toList.reverse.takeWhile (· ≠ '.')).reverse
  let before := (name.toList.reverse.dropWhile (· ≠ '.')).tail.reverse
  if '.' ∈ name.toList ∧ before ≠ [] then (String.ofList before, some (String.ofList after))
  else (name, none)

def fileStem (path : Path) : Result String :=
  okOr (path.fileName.map fun name => (splitExtension name).1) subjectIncomplete

/-- The extension of a file, empty when there is none. -/
def extension (path : Path) : String :=
  (path.fileName.bind fun name => (splitExtension name).2).getD ""

/-- The text in front of a suffix that is spelled in any case. -/
def stripSuffixAsciiCase (value suffix : String) : Option String :=
  let start := value.toList.length - suffix.toList.length
  if suffix.toList.length ≤ value.toList.length ∧
      (value.toList.drop start).map Char.toLower = suffix.toList.map Char.toLower then
    some (String.ofList (value.toList.take start))
  else none

/-- The text without the pattern at its end, however often it stands there. -/
def trimEndMatches (pattern text : List Char) : List Char :=
  if pattern ≠ [] ∧ pattern <:+ text then
    trimEndMatches pattern (text.take (text.length - pattern.length))
  else text
termination_by text.length
decreasing_by
  rename_i stripped
  have some := List.length_pos_of_ne_nil stripped.1
  have fits := stripped.2.length_le
  rw [List.length_take]
  omega

/-- The stem of the module that a debug artifact belongs to. -/
def debugModuleStem (path : Path) : Result String := do
  let name ← okOr path.fileName subjectIncomplete
  let stem ← okOr ([".pdb", ".map", ".debug", ".dwp"].findSome? (stripSuffixAsciiCase name))
    subjectIncomplete
  return String.ofList (trimEndMatches ".js".toList stem.toList)

theorem trimEndMatches_of_suffix {pattern text : List Char} (some : pattern ≠ [])
    (ends : pattern <:+ text) :
    trimEndMatches pattern text =
      trimEndMatches pattern (text.take (text.length - pattern.length)) := by
  rw [trimEndMatches, if_pos ⟨some, ends⟩]

theorem trimEndMatches_of_not_suffix {pattern text : List Char} (plain : ¬ pattern <:+ text) :
    trimEndMatches pattern text = text := by
  rw [trimEndMatches, if_neg fun both => plain both.2]

theorem length_trimEndMatches_le (pattern text : List Char) :
    (trimEndMatches pattern text).length ≤ text.length := by
  induction text using trimEndMatches.induct pattern with
  | case1 text stripped ih =>
      rw [trimEndMatches, if_pos stripped]
      apply ih.trans
      rw [List.length_take]
      omega
  | case2 text plain => rw [trimEndMatches, if_neg plain]

/-- Nothing is trimmed exactly when the text does not end with the pattern. -/
theorem trimEndMatches_eq_self {pattern text : List Char} (some : pattern ≠ []) :
    trimEndMatches pattern text = text ↔ ¬ pattern <:+ text := by
  constructor
  · intro same ends
    have shorter := length_trimEndMatches_le pattern (text.take (text.length - pattern.length))
    have fits := ends.length_le
    have positive := List.length_pos_of_ne_nil some
    rw [← trimEndMatches_of_suffix some ends, same, List.length_take] at shorter
    omega
  · exact trimEndMatches_of_not_suffix

/-- A name with an extension is its stem, a dot and the extension. -/
theorem splitExtension_eq_some {name stem suffix : String} :
    splitExtension name = (stem, some suffix) ↔
      name.toList = stem.toList ++ '.' :: suffix.toList ∧ stem.toList ≠ [] ∧
        '.' ∉ suffix.toList := by
  have reversed : name.toList = ((name.toList.reverse.takeWhile (· ≠ '.')) ++
      (name.toList.reverse.dropWhile (· ≠ '.'))).reverse := by
    rw [List.takeWhile_append_dropWhile, List.reverse_reverse]
  constructor
  · intro split
    rw [splitExtension] at split
    by_cases dotted : '.' ∈ name.toList ∧
        (name.toList.reverse.dropWhile (· ≠ '.')).tail.reverse ≠ []
    · rw [if_pos dotted, Prod.mk.injEq, Option.some.injEq] at split
      obtain ⟨rfl, rfl⟩ := split
      rw [String.toList_ofList, String.toList_ofList]
      refine ⟨?_, dotted.2, ?_⟩
      · cases rest : name.toList.reverse.dropWhile (· ≠ '.') with
        | nil => exact absurd (by rw [rest]; rfl) dotted.2
        | cons first rest' =>
            have dot : first = '.' := by
              have nonempty : name.toList.reverse.dropWhile (· ≠ '.') ≠ [] := by
                rw [rest]
                exact List.cons_ne_nil _ _
              have stopped := List.head_dropWhile_not (fun c => decide (c ≠ '.')) nonempty
              simpa only [rest, List.head_cons, decide_eq_false_iff_not, not_not] using stopped
            rw [rest, dot] at reversed
            conv_lhs => rw [reversed]
            simp
      · rw [List.mem_reverse]
        intro member
        simpa using List.mem_takeWhile_imp member
    · rw [if_neg dotted] at split
      cases split
  · intro ⟨spelled, nonempty, plain⟩
    have back : name.toList.reverse = suffix.toList.reverse ++ '.' :: stem.toList.reverse := by
      rw [spelled]
      simp
    have stop : ∀ c ∈ suffix.toList.reverse, decide (c ≠ '.') = true := by
      intro c member
      rw [decide_eq_true_eq]
      rintro rfl
      exact plain (List.mem_reverse.mp member)
    have taken : name.toList.reverse.takeWhile (· ≠ '.') = suffix.toList.reverse := by
      rw [back, List.takeWhile_append_of_pos stop]
      simp
    have dropped : name.toList.reverse.dropWhile (· ≠ '.') = '.' :: stem.toList.reverse := by
      rw [back, List.dropWhile_append_of_pos stop]
      simp
    rw [splitExtension, taken, dropped]
    have dotted : '.' ∈ name.toList := by
      rw [spelled]
      simp
    simp only [List.tail_cons, List.reverse_reverse, dotted, true_and]
    rw [if_pos nonempty, String.ofList_toList, String.ofList_toList]

/-! ## Debug artifacts -/

/-- How a Program Database file begins in its two formats. -/
def nativePdbSignature : Bytes :=
  ("Microsoft C/C++ MSF 7.00\r\n\x1aDS".toList ++ ['\x00', '\x00', '\x00']).map fun c => c.toUInt8

def portablePdbSignature : Bytes := "BSJB".toList.map fun c => c.toUInt8

def classifyPdbPrefix (lead : Bytes) : Option DebugArtifactKind :=
  if portablePdbSignature.isPrefixOf lead then some .portablePdb
  else if nativePdbSignature.isPrefixOf lead then some .nativePdb
  else none

/-- Classify the content of a Program Database file by its first bytes. -/
def classifyPdb (content : Bytes) : Result DebugArtifactKind := do
  rejectIf (content.length < 4) subjectIncomplete
  match classifyPdbPrefix (content.take 4) with
  | some kind => return kind
  | none =>
      rejectIf (content.length < 32) subjectIncomplete
      okOr (classifyPdbPrefix (content.take 32)) subjectIncomplete

/-- Whether a file is a debug artifact, by its extension in any case. -/
def debugArtifactKind (path : Path) (content : Bytes) : Result (Option DebugArtifactKind) :=
  match path.fileName.bind fun name => (splitExtension name).2 with
  | none => return none
  | some extension =>
      let lower := extension.toList.map Char.toLower
      if lower = "pdb".toList then some <$> classifyPdb content
      else if lower = "map".toList then return some .sourceMap
      else if lower = "debug".toList ∨ lower = "dwp".toList then return some .dwarf
      else return none

/-! ## Classes of files -/

/-- The kind of an application file and whether it is a module. -/
def classifyApplicationFile (runtime : SubjectRuntimeFamily) (path : Path)
    (debugArtifactKind : Option DebugArtifactKind) : SubjectObjectKind × Bool :=
  if debugArtifactKind.isSome then (.debugArtifact, false)
  else
    let name := path.fileName.getD ""
    if ".deps.json".toList <:+ name.toList ∨ ".runtimeconfig.json".toList <:+ name.toList ∨
        name ∈ ["package-lock.json", "pnpm-lock.yaml", "yarn.lock"] then (.launchData, false)
    else
      (.application, match runtime with
        | .dotnet => extension path ∈ ["dll", "exe"]
        | .node => extension path ∈ ["cjs", "js", "mjs", "node"]
        | .python => extension path ∈ ["py", "pyc", "so"]
        | .go | .rust => true)

def isInterpretedSource (path : Path) : Bool := extension path ∈ ["cjs", "js", "mjs", "py"]

def mediaType (path : Path) (kind : SubjectObjectKind)
    (debugArtifactKind : Option DebugArtifactKind) : String :=
  match kind, debugArtifactKind with
  | .debugArtifact, some .nativePdb => "application/vnd.reproit.native-pdb.v1"
  | .debugArtifact, some .portablePdb => "application/vnd.reproit.portable-pdb.v1"
  | .debugArtifact, some .sourceMap => "application/vnd.reproit.source-map.v1"
  | .debugArtifact, _ => "application/vnd.reproit.dwarf.v1"
  | .launchData, _ => "application/vnd.reproit.launch-data.v1+json"
  | .nativeDependency, _ => "application/vnd.reproit.native-library.v1"
  | .runtime, _ => "application/vnd.reproit.runtime.v1"
  | _, _ =>
      if extension path ∈ ["py", "js", "mjs", "cjs"] then "text/plain"
      else "application/vnd.reproit.subject-file.v1"

end Reproit.Backend
