/-
# Debug information inside a program

A module is searched for the names of the sections that hold debug information.  The file
is read in pieces, and a name may lie across any number of them.
-/

import Reproit.Core.Identity
import Reproit.Data.Window

namespace Reproit.Backend

/-- The bytes of an ASCII text. -/
def asciiBytes (text : String) : Bytes := text.toList.map fun c => c.toUInt8

/-- How an ELF file begins. -/
def elfMagic : Bytes := [0x7f, 0x45, 0x4c, 0x46]

/-- The names of the sections that hold debug information, plain and compressed. -/
def dwarfMarkers : List Bytes := [asciiBytes ".debug_info", asciiBytes ".zdebug_info"]

def copyBufferBytes : Nat := 64 * 1024

/-- One of the names lies in the buffer. -/
def holdsDwarfMarker (buffer : Bytes) : Bool :=
  dwarfMarkers.any fun marker => (windows marker.length buffer).any (· = marker)

/-- Whether the content of a file is a program with debug information in it. -/
def containsEmbeddedDwarf (reads : ShortReads) (content : Bytes) : Bool :=
  if content.take 4 ≠ elfMagic then false
  else streamSearch holdsDwarfMarker 15 (copyBufferBytes + 16) reads 0 [] (content.drop 4)

theorem holdsDwarfMarker_iff {buffer : Bytes} :
    holdsDwarfMarker buffer = true ↔ ∃ marker ∈ dwarfMarkers, marker <:+: buffer := by
  rw [holdsDwarfMarker, List.any_eq_true]
  apply exists_congr
  intro marker
  apply and_congr_right
  intro _
  rw [List.any_eq_true]
  constructor
  · intro ⟨window, listed, same⟩
    rw [decide_eq_true_eq] at same
    exact same ▸ (mem_windows.mp listed).2
  · intro inside
    exact ⟨marker, mem_windows.mpr ⟨rfl, inside⟩, decide_eq_true rfl⟩

theorem length_of_mem_dwarfMarkers : ∀ marker ∈ dwarfMarkers, marker.length ≤ 15 + 1 := by
  decide

/-- The search is exact, however the file is read. -/
theorem containsEmbeddedDwarf_iff (reads : ShortReads) (content : Bytes) :
    containsEmbeddedDwarf reads content = true ↔
      elfMagic <+: content ∧ ∃ marker ∈ dwarfMarkers, marker <:+: content.drop 4 := by
  have begins : content.take 4 = elfMagic ↔ elfMagic <+: content := by
    rw [List.prefix_iff_eq_take]
    exact eq_comm
  have room : 15 < copyBufferBytes + 16 := by decide
  rw [containsEmbeddedDwarf]
  by_cases magic : content.take 4 = elfMagic
  · have nothing : ∀ marker ∈ dwarfMarkers, ¬ marker <:+: [] := by decide
    have search := @streamSearch_iff _ _ _ _ reads _ (fun buffer => holdsDwarfMarker_iff)
      length_of_mem_dwarfMarkers room 0 [] (content.drop 4) nothing
    rw [if_neg (not_not.mpr magic)]
    rw [keepLast_nil, List.nil_append] at search
    rw [search, and_iff_right (begins.mp magic)]
  · rw [if_pos magic]
    apply iff_of_false
    · exact Bool.false_ne_true
    · exact fun found => magic (begins.mpr found.1)

end Reproit.Backend
