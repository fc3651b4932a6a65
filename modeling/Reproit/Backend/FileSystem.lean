/-
# Files

The part of a file system that a provider uses: absolute and relative paths, regular
files and other nodes, and the faults that an operation can meet.  A file is created
only where nothing is, as the exclusive creation flag asks.
-/

import Reproit.Core.Error
import Reproit.Core.Identity

namespace Reproit.Backend

/-! ## Paths -/

/-- A path of a Unix file system by its components. -/
structure Path where
  absolute : Bool
  components : List String
  deriving DecidableEq

namespace Path

/-- Read a path; repeated separators and inner dots do not count. -/
def ofText (text : String) : Path :=
  let pieces := ((text.toList.splitOn '/').map String.ofList).filter (· ≠ "")
  let absolute := text.toList.head? = some '/'
  { absolute
    components := match pieces with
      | [] => []
      | first :: rest =>
          let inner := rest.filter (· ≠ ".")
          if absolute ∧ first = "." then inner else first :: inner }

/-- The path without its last component. -/
def parent (path : Path) : Option Path :=
  if path.components = [] then none
  else some { path with components := path.components.dropLast }

/-- A file of a directory. -/
def join (path : Path) (name : String) : Path :=
  { path with components := path.components ++ [name] }

/-- The path is below a directory. -/
def Beneath (path directory : Path) : Prop :=
  path.absolute = directory.absolute ∧ directory.components <+: path.components ∧ path ≠ directory

instance (path directory : Path) : Decidable (path.Beneath directory) :=
  inferInstanceAs (Decidable (_ ∧ _))

theorem parent_join (directory : Path) (name : String) :
    (directory.join name).parent = some directory := by
  have filled : directory.components ++ [name] ≠ [] := by simp
  rw [parent, join, if_neg filled, List.dropLast_concat]

theorem join_beneath (directory : Path) (name : String) :
    (directory.join name).Beneath directory := by
  refine ⟨rfl, List.prefix_append _ _, fun same => ?_⟩
  have lengths := congrArg (fun path => path.components.length) same
  simp [join] at lengths

end Path

/-! ## The disk -/

/-- A regular file or anything else. -/
inductive Node
  | file (content : Bytes)
  | other

/-- What is at every path. -/
abbrev Disk := Path → Option Node

/-- How far a write comes before it fails. -/
inductive WriteFault
  | open' | later
  deriving DecidableEq

/-- The faults that the operations of one call meet. -/
structure Faults where
  read : Path → Bool
  write : Path → Option WriteFault
  directory : Path → Bool
  remove : Path → Bool

/-- No operation meets a fault. -/
def noFaults : Faults where
  read _ := false
  write _ := none
  directory _ := false
  remove _ := false

def Disk.set (disk : Disk) (path : Path) (node : Option Node) : Disk :=
  Function.update disk path node

theorem Disk.set_self (disk : Disk) (path : Path) (node : Option Node) :
    disk.set path node path = node :=
  Function.update_self _ _ _

theorem Disk.set_of_ne (disk : Disk) {path other : Path} (different : other ≠ path)
    (node : Option Node) : disk.set path node other = disk other :=
  Function.update_of_ne different _ _

/-- Create a file and write it; a fault in the middle leaves a file. -/
def writeFile (faults : Faults) (path : Path) (content : Bytes) (unavailable : Error) :
    Disk → Result Unit × Disk := fun disk =>
  match faults.write path, disk path with
  | some .open', _ | _, some _ => (.error unavailable, disk)
  | some .later, none => (.error unavailable, disk.set path (some (.file [])))
  | none, none => (.ok (), disk.set path (some (.file content)))

/-- A file that was created was not there before. -/
theorem writeFile_eq_ok {faults : Faults} {path : Path} {content : Bytes} {unavailable : Error}
    {disk after : Disk} (written : writeFile faults path content unavailable disk = (.ok (), after)) :
    disk path = none ∧ after = disk.set path (some (.file content)) := by
  unfold writeFile at written
  split at written
  · cases written
  · cases written
  · cases written
  · rename_i missing
    cases written
    exact ⟨missing, rfl⟩

/-- What was there is left alone. -/
theorem writeFile_present (faults : Faults) (path : Path) (content : Bytes) (unavailable : Error)
    {disk : Disk} {other : Path} {node : Node} (present : disk other = some node) :
    (writeFile faults path content unavailable disk).2 other = some node := by
  have kept : ∀ written, disk path = none → disk.set path (some written) other = some node := by
    intro written missing
    have different : other ≠ path := by
      rintro rfl
      rw [missing] at present
      cases present
    exact (disk.set_of_ne different _).trans present
  unfold writeFile
  split
  · exact present
  · exact present
  · exact kept _ ‹_›
  · exact kept _ ‹_›

/-- Remove a file that is there. -/
def removeFile (faults : Faults) (path : Path) (unavailable : Error) :
    Disk → Result Unit × Disk := fun disk =>
  match faults.remove path, disk path with
  | false, some (.file _) => (.ok (), disk.set path none)
  | _, _ => (.error unavailable, disk)

/-- The other files are left alone. -/
theorem removeFile_of_ne (faults : Faults) {path other : Path} (unavailable : Error) (disk : Disk)
    (different : other ≠ path) : (removeFile faults path unavailable disk).2 other = disk other := by
  unfold removeFile
  split
  · exact disk.set_of_ne different _
  · rfl

end Reproit.Backend
