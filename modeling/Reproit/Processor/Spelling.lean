/-
# How names are spelled

The spelling of a name in a capability lowers its letters and writes an underscore as a
hyphen.  On the names of features, and on those of states, nothing else is lost: two names
with one spelling differ only in underscores and hyphens, and exchanging the two marks gives
another name with the same spelling.
-/

import Reproit.Processor.Acceptance

namespace Reproit

/-! ## Marks -/

/-- A mark is written as a hyphen. -/
def hyphenChar (c : Char) : Char := if c = '_' then '-' else c

/-- The two marks are exchanged. -/
def swapChar (c : Char) : Char := if c = '_' then '-' else if c = '-' then '_' else c

def hyphenate (name : String) : String := String.ofList (name.toList.map hyphenChar)

def swapMarks (name : String) : String := String.ofList (name.toList.map swapChar)

/-- A name without marks. -/
def Unmarked (name : String) : Prop := '_' ∉ name.toList ∧ '-' ∉ name.toList

theorem normalizeChar_hyphenChar (c : Char) : normalizeChar (hyphenChar c) = normalizeChar c := by
  by_cases mark : c = '_'
  · subst mark
    rfl
  · rw [hyphenChar, if_neg mark]

theorem hyphenChar_swapChar (c : Char) : hyphenChar (swapChar c) = hyphenChar c := by
  by_cases low : c = '_'
  · subst low
    rfl
  · by_cases high : c = '-'
    · subst high
      rfl
    · rw [swapChar, if_neg low, if_neg high]

theorem normalizeChar_swapChar (c : Char) : normalizeChar (swapChar c) = normalizeChar c := by
  rw [← normalizeChar_hyphenChar, hyphenChar_swapChar, normalizeChar_hyphenChar]

theorem swapChar_ne_of_mark {c : Char} (mark : c = '_' ∨ c = '-') : swapChar c ≠ c := by
  rcases mark with rfl | rfl
  · decide
  · decide

theorem normalizeName_hyphenate (name : String) :
    normalizeName (hyphenate name) = normalizeName name := by
  rw [normalizeName, normalizeName, hyphenate, String.toList_ofList, List.map_map]
  exact congrArg _ (List.map_congr_left fun c _ => normalizeChar_hyphenChar c)

theorem normalizeName_swapMarks (name : String) :
    normalizeName (swapMarks name) = normalizeName name := by
  rw [normalizeName, normalizeName, swapMarks, String.toList_ofList, List.map_map]
  exact congrArg _ (List.map_congr_left fun c _ => normalizeChar_swapChar c)

theorem hyphenate_swapMarks (name : String) : hyphenate (swapMarks name) = hyphenate name := by
  rw [hyphenate, hyphenate, swapMarks, String.toList_ofList, List.map_map]
  exact congrArg _ (List.map_congr_left fun c _ => hyphenChar_swapChar c)

theorem hyphenate_of_unmarked {name : String} (unmarked : Unmarked name) :
    hyphenate name = name := by
  apply String.toList_injective
  rw [hyphenate, String.toList_ofList]
  refine (List.map_congr_left fun c member => ?_).trans (List.map_id _)
  rw [hyphenChar, if_neg]
  · rfl
  · rintro rfl
    exact unmarked.1 member

/-- A name with a mark is changed by the exchange. -/
theorem swapMarks_ne {name : String} (marked : ¬ Unmarked name) : swapMarks name ≠ name := by
  intro same
  apply marked
  have fixed : ∀ c ∈ name.toList, swapChar c = c := by
    have lists := congrArg String.toList same
    rw [swapMarks, String.toList_ofList] at lists
    intro c member
    obtain ⟨index, small, rfl⟩ := List.mem_iff_getElem.mp member
    have entry := congrArg (·[index]?) lists
    rw [List.getElem?_map, List.getElem?_eq_getElem small] at entry
    exact Option.some.inj entry
  exact ⟨fun member => swapChar_ne_of_mark (.inl rfl) (fixed _ member),
    fun member => swapChar_ne_of_mark (.inr rfl) (fixed _ member)⟩

/-! ## Alphabets -/

/-- An alphabet of names whose letters the spelling does not confuse. -/
structure Alphabet (letter : Char → Bool) : Prop where
  name : ∀ {c : Char}, letter c = true → nameChar c = true
  swap : ∀ {c : Char}, letter c = true → letter (swapChar c) = true
  restore : ∃ restore : Char → Char, ∀ {c : Char}, letter c = true →
    restore (normalizeChar c) = hyphenChar c

theorem alphabet_feature : Alphabet Processor.featureChar where
  name := nameChar_of_featureChar
  swap := fun {c} letter => forall_nameChar
    (p := fun c => Processor.featureChar c = true → Processor.featureChar (swapChar c) = true)
    (by decide) (nameChar_of_featureChar letter) letter
  restore := ⟨fun c => if c.isLower then c.toUpper else c, fun {c} letter => forall_nameChar
    (p := fun c => Processor.featureChar c = true →
      (if (normalizeChar c).isLower then (normalizeChar c).toUpper else normalizeChar c) =
        hyphenChar c) (by decide) (nameChar_of_featureChar letter) letter⟩

theorem alphabet_state : Alphabet Processor.stateChar where
  name := nameChar_of_stateChar
  swap := fun {c} letter => forall_nameChar
    (p := fun c => Processor.stateChar c = true → Processor.stateChar (swapChar c) = true)
    (by decide) (nameChar_of_stateChar letter) letter
  restore := ⟨fun c => c, fun {c} letter => forall_nameChar
    (p := fun c => Processor.stateChar c = true → normalizeChar c = hyphenChar c)
    (by decide) (nameChar_of_stateChar letter) letter⟩

namespace Alphabet

variable {letter : Char → Bool} {name first second : String}

/-- Names with one spelling differ in their marks only. -/
theorem hyphenate_eq_of_normalizeName (alphabet : Alphabet letter)
    (holds : first.toList.all letter = true) (other : second.toList.all letter = true)
    (same : normalizeName first = normalizeName second) : hyphenate first = hyphenate second := by
  obtain ⟨restore, inverse⟩ := alphabet.restore
  have read : ∀ {name : String}, name.toList.all letter = true →
      hyphenate name = String.ofList ((normalizeName name).toList.map restore) := by
    intro name all
    rw [hyphenate, normalizeName, String.toList_ofList, List.map_map]
    exact congrArg _ (List.map_congr_left fun c member =>
      (inverse (List.all_eq_true.mp all c member)).symm)
  rw [read holds, read other, same]

theorem normalizeName_eq_iff (alphabet : Alphabet letter)
    (holds : first.toList.all letter = true) (other : second.toList.all letter = true) :
    normalizeName first = normalizeName second ↔ hyphenate first = hyphenate second := by
  constructor
  · exact alphabet.hyphenate_eq_of_normalizeName holds other
  · intro same
    rw [← normalizeName_hyphenate first, same, normalizeName_hyphenate]

/-- An unmarked name has a spelling of its own. -/
theorem eq_of_unmarked (alphabet : Alphabet letter) (unmarked : Unmarked first)
    (holds : first.toList.all letter = true) (other : second.toList.all letter = true)
    (same : normalizeName first = normalizeName second) : first = second := by
  have hyphens := alphabet.hyphenate_eq_of_normalizeName holds other same
  rw [hyphenate_of_unmarked unmarked] at hyphens
  have marks : ∀ c ∈ second.toList, c ≠ '_' ∧ c ≠ '-' := by
    intro c member
    have listed : hyphenChar c ∈ first.toList := by
      rw [hyphens, hyphenate, String.toList_ofList]
      exact List.mem_map_of_mem member
    constructor
    · rintro rfl
      exact unmarked.2 listed
    · rintro rfl
      exact unmarked.2 listed
  rw [hyphens, hyphenate_of_unmarked
    ⟨fun member => (marks _ member).1 rfl, fun member => (marks _ member).2 rfl⟩]

theorem utf8ByteSize_eq_length (alphabet : Alphabet letter) (all : name.toList.all letter = true) :
    name.utf8ByteSize = name.toList.length :=
  utf8ByteSize_of_ascii fun c member =>
    toNat_lt_of_nameChar (alphabet.name (List.all_eq_true.mp all c member))

theorem all_swapMarks (alphabet : Alphabet letter) (all : name.toList.all letter = true) :
    (swapMarks name).toList.all letter = true := by
  rw [swapMarks, String.toList_ofList, List.all_eq_true]
  intro c member
  obtain ⟨other, listed, rfl⟩ := List.mem_map.mp member
  exact alphabet.swap (List.all_eq_true.mp all other listed)

theorem utf8ByteSize_swapMarks (alphabet : Alphabet letter)
    (all : name.toList.all letter = true) :
    (swapMarks name).utf8ByteSize = name.utf8ByteSize := by
  rw [alphabet.utf8ByteSize_eq_length all,
    alphabet.utf8ByteSize_eq_length (alphabet.all_swapMarks all), swapMarks, String.toList_ofList,
    List.length_map]

/-- The spelling of a name is as long as the name. -/
theorem spellable_iff (alphabet : Alphabet letter) (all : name.toList.all letter = true)
    (some : name.isEmpty = false) : Spellable name ↔ name.utf8ByteSize ≤ 96 := by
  have chars : (normalizeName name).toList.all capabilityNameChar = true := by
    rw [normalizeName, String.toList_ofList, List.all_eq_true]
    intro c member
    obtain ⟨other, listed, rfl⟩ := List.mem_map.mp member
    exact capabilityNameChar_normalizeChar (alphabet.name (List.all_eq_true.mp all other listed))
  have size : (normalizeName name).utf8ByteSize = name.utf8ByteSize := by
    rw [alphabet.utf8ByteSize_eq_length all, utf8ByteSize_of_ascii fun c member =>
      toNat_lt_of_capabilityNameChar (List.all_eq_true.mp chars c member), normalizeName,
      String.toList_ofList, List.length_map]
  have nonempty : (normalizeName name).isEmpty = false := by
    rw [String.isEmpty_eq_false_iff] at some ⊢
    intro empty
    have lists := congrArg String.toList empty
    rw [normalizeName, String.toList_ofList] at lists
    exact some (String.toList_injective (List.map_eq_nil_iff.mp lists))
  rw [Spellable, size]
  exact ⟨fun held => held.2.1, fun short => ⟨nonempty, short, chars⟩⟩

end Alphabet

end Reproit
