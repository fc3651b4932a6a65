/-
# Ordered maps

Finite maps over a linear order, which two equal sets of entries determine.  An
insertion that must not replace an entry is an operation of its own: it fails when
the key is present, so a map that is built by it has one entry for every key used.
-/

import Mathlib.Data.List.Perm.Subperm
import Mathlib.Order.Compare
import Mathlib.Order.Lattice
import Mathlib.Tactic.Tauto
import Std.Data.ExtTreeMap

namespace Reproit

variable {κ β : Type} [LinearOrder κ]

instance lawfulEqOrd : Std.LawfulEqOrd κ where
  eq_of_compare {first second} same := (compare_eq_iff_eq (a := first) (b := second)).mp same

/-- Keys are compared in their order. -/
instance transCmp : Std.TransCmp (compare : κ → κ → Ordering) := inferInstance

/-- A finite map that is kept in key order. -/
abbrev OrderedMap (κ β : Type) [LinearOrder κ] := Std.ExtTreeMap κ β compare

namespace OrderedMap

theorem getElem?_insert (map : OrderedMap κ β) (key wanted : κ) (value : β) :
    (map.insert key value)[wanted]? = if key = wanted then some value else map[wanted]? := by
  rw [Std.ExtTreeMap.getElem?_insert]
  simp

/-- Insert an entry whose key must be new. -/
def insertNew (map : OrderedMap κ β) (key : κ) (value : β) : Option (OrderedMap κ β) :=
  if key ∈ map then none else some (map.insert key value)

theorem insertNew_eq_some {map inserted : OrderedMap κ β} {key : κ} {value : β} :
    insertNew map key value = some inserted ↔ key ∉ map ∧ map.insert key value = inserted := by
  by_cases present : key ∈ map <;> simp [insertNew, present]

/-- Insert entries in turn, all of whose keys must be new. -/
def insertAllNew (map : OrderedMap κ β) (entries : List (κ × β)) : Option (OrderedMap κ β) :=
  entries.foldlM (fun held entry => insertNew held entry.1 entry.2) map

theorem insertAllNew_append (map : OrderedMap κ β) (first second : List (κ × β)) :
    insertAllNew map (first ++ second) =
      (insertAllNew map first).bind fun held => insertAllNew held second :=
  List.foldlM_append

/-- Entries with new and distinct keys can be inserted. -/
theorem exists_insertAllNew {map : OrderedMap κ β} {entries : List (κ × β)}
    (distinct : (entries.map Prod.fst).Nodup) (fresh : ∀ key ∈ entries.map Prod.fst, key ∉ map) :
    ∃ inserted, insertAllNew map entries = some inserted := by
  induction entries generalizing map with
  | nil => exact ⟨map, rfl⟩
  | cons entry entries ih =>
      rw [List.map_cons, List.nodup_cons] at distinct
      have missing : entry.1 ∉ map := fresh _ List.mem_cons_self
      obtain ⟨inserted, rest⟩ := @ih (map.insert entry.1 entry.2) distinct.2
        fun key member => by
          rw [Std.ExtTreeMap.mem_insert, compare_eq_iff_eq, not_or]
          exact ⟨fun same => distinct.1 (same ▸ member), fresh key (List.mem_cons_of_mem _ member)⟩
      refine ⟨inserted, ?_⟩
      rw [insertAllNew, List.foldlM_cons, insertNew, if_neg missing]
      exact rest

/-- Inserting new entries succeeds exactly when their keys are new and distinct, and
the result looks up each of them. -/
theorem insertAllNew_eq_some {map inserted : OrderedMap κ β} {entries : List (κ × β)} :
    insertAllNew map entries = some inserted ↔
      (entries.map Prod.fst).Nodup ∧ (∀ key ∈ entries.map Prod.fst, key ∉ map) ∧
        ∀ key value, inserted[key]? = some value ↔
          (key, value) ∈ entries ∨ map[key]? = some value := by
  induction entries generalizing map with
  | nil =>
      simp only [insertAllNew, List.foldlM_nil, Option.pure_def, Option.some.injEq,
        List.map_nil, List.nodup_nil, List.not_mem_nil, false_imp_iff, implies_true, true_and,
        false_or]
      constructor
      · rintro rfl key value
        rfl
      · intro same
        apply Std.ExtTreeMap.ext_getElem?
        intro key
        apply Option.ext
        intro value
        exact (same key value).symm
  | cons entry entries ih =>
      obtain ⟨key, value⟩ := entry
      have absent : ∀ wanted, wanted ∉ map.insert key value ↔ wanted ≠ key ∧ wanted ∉ map := by
        intro wanted
        rw [Std.ExtTreeMap.mem_insert, compare_eq_iff_eq, not_or, ne_comm]
      have lookup : ∀ wanted found, key ∉ map →
          ((map.insert key value)[wanted]? = some found ↔
            (wanted = key ∧ found = value) ∨ map[wanted]? = some found) := by
        intro wanted found missing
        rw [getElem?_insert]
        split_ifs with same
        · subst same
          have nothing : map[key]? = none := Std.ExtTreeMap.getElem?_eq_none missing
          simp [nothing, eq_comm]
        · simp [Ne.symm same]
      simp only [insertAllNew, List.foldlM_cons, Option.bind_eq_bind, Option.bind_eq_some_iff,
        insertNew_eq_some]
      constructor
      · rintro ⟨next, ⟨missing, rfl⟩, rest⟩
        obtain ⟨distinct, fresh, found⟩ := ih.mp rest
        refine ⟨?_, ?_, ?_⟩
        · rw [List.map_cons, List.nodup_cons]
          exact ⟨fun member => ((absent key).mp (fresh key member)).1 rfl, distinct⟩
        · intro other member
          rcases List.mem_cons.mp member with rfl | later
          · exact missing
          · exact ((absent other).mp (fresh other later)).2
        · intro wanted held
          rw [found, lookup wanted held missing, List.mem_cons, Prod.mk.injEq]
          tauto
      · rintro ⟨distinct, fresh, found⟩
        rw [List.map_cons, List.nodup_cons] at distinct
        have missing : key ∉ map := fresh key List.mem_cons_self
        refine ⟨_, ⟨missing, rfl⟩, ih.mpr ⟨distinct.2, ?_, ?_⟩⟩
        · intro other member
          refine (absent other).mpr ⟨?_, fresh other (List.mem_cons_of_mem _ member)⟩
          rintro rfl
          exact distinct.1 member
        · intro wanted held
          rw [found, lookup wanted held missing, List.mem_cons, Prod.mk.injEq]
          tauto

theorem nodup_keys (map : OrderedMap κ β) : map.keys.Nodup := by
  refine Std.ExtTreeMap.distinct_keys.imp ?_
  rintro first _ different rfl
  exact different (compare_eq_iff_eq.mpr rfl)

/-- Lists of distinct keys that the map holds exactly have the size of the map. -/
theorem length_eq_size {map : OrderedMap κ β} {keys : List κ} (distinct : keys.Nodup)
    (exact : ∀ key, key ∈ keys ↔ key ∈ map) : keys.length = map.size := by
  rw [← Std.ExtTreeMap.length_keys]
  refine List.Perm.length_eq ((List.perm_ext_iff_of_nodup distinct map.nodup_keys).mpr ?_)
  intro key
  rw [exact, Std.ExtTreeMap.mem_keys]

/-! ## Entries as a list -/

theorem getElem?_erase (map : OrderedMap κ β) (key wanted : κ) :
    (map.erase key)[wanted]? = if key = wanted then none else map[wanted]? := by
  rw [Std.ExtTreeMap.getElem?_erase]
  simp

theorem mem_toList {map : OrderedMap κ β} {entry : κ × β} :
    entry ∈ map.toList ↔ map[entry.1]? = some entry.2 :=
  Std.ExtTreeMap.mem_toList_iff_getElem?_eq_some

@[simp]
theorem toList_empty : (∅ : OrderedMap κ β).toList = [] :=
  Std.ExtTreeMap.toList_eq_nil_iff.mpr rfl

theorem nodup_toList (map : OrderedMap κ β) : map.toList.Nodup := by
  have keys := map.nodup_keys
  rw [← Std.ExtTreeMap.map_fst_toList_eq_keys] at keys
  exact List.Pairwise.of_map _ (fun _ _ different same => different (same ▸ rfl)) keys

/-- A list without repetition that lists what the map looks up is the list of its
entries. -/
theorem toList_perm {map : OrderedMap κ β} {entries : List (κ × β)} (distinct : entries.Nodup)
    (exact : ∀ entry, entry ∈ entries ↔ map[entry.1]? = some entry.2) :
    map.toList.Perm entries := by
  apply (List.perm_ext_iff_of_nodup map.nodup_toList distinct).mpr
  intro entry
  rw [mem_toList, exact]

theorem toList_insert_perm {map : OrderedMap κ β} {key : κ} (fresh : map[key]? = none)
    (value : β) : (map.insert key value).toList.Perm ((key, value) :: map.toList) := by
  have missing : (key, value) ∉ map.toList := by
    rw [mem_toList, fresh]
    exact nofun
  apply toList_perm (List.nodup_cons.mpr ⟨missing, map.nodup_toList⟩)
  intro entry
  rw [getElem?_insert, List.mem_cons, mem_toList]
  obtain ⟨wanted, held⟩ := entry
  by_cases same : key = wanted
  · subst same
    simp [fresh, eq_comm]
  · simp [same, Ne.symm same]

theorem toList_perm_erase {map : OrderedMap κ β} {key : κ} {value : β}
    (present : map[key]? = some value) :
    map.toList.Perm ((key, value) :: (map.erase key).toList) := by
  have gone : (map.erase key)[key]? = none := by rw [getElem?_erase, if_pos rfl]
  have restored : (map.erase key).insert key value = map := by
    apply Std.ExtTreeMap.ext_getElem?
    intro wanted
    rw [getElem?_insert, getElem?_erase]
    by_cases same : key = wanted
    · subst same
      rw [if_pos rfl, present]
    · rw [if_neg same, if_neg same]
  have entries := toList_insert_perm gone value
  rwa [restored] at entries

/-- An insertion that replaces an entry or adds one, as a list. -/
theorem toList_insert_perm_erase (map : OrderedMap κ β) (key : κ) (value : β) :
    (map.insert key value).toList.Perm ((key, value) :: (map.erase key).toList) := by
  have present : (map.insert key value)[key]? = some value := by rw [getElem?_insert, if_pos rfl]
  have same : (map.insert key value).erase key = map.erase key := by
    apply Std.ExtTreeMap.ext_getElem?
    intro wanted
    rw [getElem?_erase, getElem?_erase, getElem?_insert]
    by_cases chosen : key = wanted
    · rw [if_pos chosen, if_pos chosen]
    · rw [if_neg chosen, if_neg chosen, if_neg chosen]
  have entries := toList_perm_erase present
  rwa [same] at entries

theorem erase_of_fresh {map : OrderedMap κ β} {key : κ} (fresh : map[key]? = none) :
    map.erase key = map := by
  apply Std.ExtTreeMap.ext_getElem?
  intro wanted
  rw [getElem?_erase]
  by_cases same : key = wanted
  · rw [if_pos same, ← same, fresh]
  · rw [if_neg same]

section Select

variable {γ : Type} (pick : κ × β → Option γ)

/-- What is selected of the entries. -/
def select (map : OrderedMap κ β) : List γ := map.toList.filterMap pick

theorem select_insert (map : OrderedMap κ β) (key : κ) (value : β) :
    (OrderedMap.select pick (map.insert key value)).Perm
      ((pick (key, value)).toList ++ OrderedMap.select pick (map.erase key)) := by
  refine ((toList_insert_perm_erase map key value).filterMap pick).trans ?_
  rw [List.filterMap_cons]
  cases pick (key, value) <;> exact List.Perm.refl _

theorem select_of_present {map : OrderedMap κ β} {key : κ} {value : β}
    (present : map[key]? = some value) :
    (OrderedMap.select pick map).Perm
      ((pick (key, value)).toList ++ OrderedMap.select pick (map.erase key)) := by
  refine ((toList_perm_erase present).filterMap pick).trans ?_
  rw [List.filterMap_cons]
  cases pick (key, value) <;> exact List.Perm.refl _

/-- Replacing an entry by one of which the same is selected. -/
theorem select_insert_same {map : OrderedMap κ β} {key : κ} {old value : β}
    (present : map[key]? = some old) (same : pick (key, value) = pick (key, old)) :
    (OrderedMap.select pick (map.insert key value)).Perm (OrderedMap.select pick map) := by
  refine (select_insert pick map key value).trans ?_
  rw [same]
  exact (select_of_present pick present).symm

end Select

/-- Every entry of the first map is an entry of the second. -/
def Within (first second : OrderedMap κ β) : Prop :=
  ∀ (key : κ) (value : β), first[key]? = some value → second[key]? = some value

theorem Within.subperm {first second : OrderedMap κ β} (within : first.Within second) :
    first.toList.Subperm second.toList :=
  first.nodup_toList.subperm fun _ member =>
    mem_toList.mpr (within _ _ (mem_toList.mp member))

theorem within_erase (map : OrderedMap κ β) (key : κ) : Within (map.erase key) map := by
  intro wanted value present
  rw [getElem?_erase] at present
  split_ifs at present with same
  exact present

/-! ## Entries in key order -/

theorem pairwise_toList (map : OrderedMap κ β) :
    map.toList.Pairwise fun first second => first.1 < second.1 := by
  have keys : map.keys.Pairwise (· < ·) :=
    Std.ExtTreeMap.ordered_keys.imp fun {_ _} below => compare_lt_iff_lt.mp below
  rw [← Std.ExtTreeMap.map_fst_toList_eq_keys] at keys
  exact List.pairwise_map.mp keys

/-- The keys that are present determine the list of keys. -/
theorem keys_congr {γ : Type} {first : OrderedMap κ β} {second : OrderedMap κ γ}
    (same : ∀ key : κ, first[key]?.isSome = second[key]?.isSome) : first.keys = second.keys := by
  have perm : first.keys.Perm second.keys := by
    apply (List.perm_ext_iff_of_nodup first.nodup_keys second.nodup_keys).mpr
    intro key
    rw [Std.ExtTreeMap.mem_keys, Std.ExtTreeMap.mem_keys,
      Std.ExtTreeMap.mem_iff_isSome_getElem?, Std.ExtTreeMap.mem_iff_isSome_getElem?, same]
  have ascending : ∀ {δ : Type} (map : OrderedMap κ δ), map.keys.Pairwise (· < ·) := by
    intro δ map
    exact Std.ExtTreeMap.ordered_keys.imp fun {_ _} below => compare_lt_iff_lt.mp below
  apply perm.eq_of_pairwise _ (ascending first) (ascending second)
  intro key other _ _ below above
  exact absurd (below.trans above) (lt_irrefl _)

/-- Two ascending lists of the same keys are one list. -/
theorem keys_eq_of_ascending {map : OrderedMap κ β} {keys : List κ}
    (ascending : keys.Pairwise (· < ·)) (same : ∀ key, key ∈ keys ↔ key ∈ map) :
    map.keys = keys := by
  have ordered : map.keys.Pairwise (· < ·) :=
    Std.ExtTreeMap.ordered_keys.imp fun {_ _} below => compare_lt_iff_lt.mp below
  have distinct : keys.Nodup := ascending.imp fun below => ne_of_lt below
  have perm : map.keys.Perm keys := by
    apply (List.perm_ext_iff_of_nodup map.nodup_keys distinct).mpr
    intro key
    rw [Std.ExtTreeMap.mem_keys, same]
  apply perm.eq_of_pairwise _ ordered ascending
  intro key other _ _ below above
  exact absurd (below.trans above) (lt_irrefl _)

/-! ## A part of a map -/

/-- The entries with some of the keys. -/
def restrict (map : OrderedMap κ β) (keys : List κ) : OrderedMap κ β :=
  map.filter fun key _ => key ∈ keys

theorem getElem?_restrict {map : OrderedMap κ β} {keys : List κ} {key : κ} (kept : key ∈ keys) :
    (map.restrict keys)[key]? = map[key]? := by
  rw [restrict, Std.ExtTreeMap.getElem?_filter', decide_eq_true kept]
  cases map[key]? <;> rfl

theorem mem_restrict {map : OrderedMap κ β} {keys : List κ} {key : κ} :
    key ∈ map.restrict keys ↔ key ∈ keys ∧ key ∈ map := by
  constructor
  · intro held
    have here := Std.ExtTreeMap.mem_of_mem_filter held
    obtain ⟨_, kept⟩ := Std.ExtTreeMap.mem_filter.mp held
    rw [Std.ExtTreeMap.getKey_eq, decide_eq_true_eq] at kept
    exact ⟨kept, here⟩
  · intro ⟨kept, held⟩
    rw [Std.ExtTreeMap.mem_iff_isSome_getElem?, getElem?_restrict kept]
    exact Std.ExtTreeMap.mem_iff_isSome_getElem?.mp held

section Ordered

variable {map : OrderedMap κ β} {entries : List (κ × β)}

theorem toList_perm_of_inserted (inserted : insertAllNew ∅ entries = some map) :
    map.toList.Perm entries := by
  obtain ⟨distinct, -, found⟩ := insertAllNew_eq_some.mp inserted
  have apart : entries.Nodup :=
    List.Pairwise.of_map _ (fun _ _ different same => different (same ▸ rfl)) distinct
  apply toList_perm apart
  intro entry
  rw [found, Std.ExtTreeMap.getElem?_empty]
  exact (or_iff_left nofun).symm

/-- Entries that are inserted in key order are listed in that order. -/
theorem toList_of_ordered (inserted : insertAllNew ∅ entries = some map)
    (ordered : entries.Pairwise fun first second => first.1 < second.1) :
    map.toList = entries := by
  apply (toList_perm_of_inserted inserted).eq_of_pairwise _ map.pairwise_toList ordered
  intro first second _ _ below above
  exact absurd (below.trans above) (lt_irrefl _)

/-- The order of insertions does not matter. -/
theorem insertAllNew_perm {other : List (κ × β)} (inserted : insertAllNew ∅ entries = some map)
    (same : other.Perm entries) : insertAllNew ∅ other = some map := by
  obtain ⟨distinct, fresh, found⟩ := insertAllNew_eq_some.mp inserted
  refine insertAllNew_eq_some.mpr ⟨(same.map _).nodup_iff.mpr distinct, ?_, ?_⟩
  · exact fun key member => fresh key ((same.map _).subset member)
  · intro key value
    rw [found, same.mem_iff]

end Ordered

/-- Entries for different keys are all that a map holds exactly when each of them is held and
there are as many of them. -/
theorem exists_closed_iff {entries : List (κ × β)} {held : OrderedMap κ γ} {good : κ × β → Prop}
    (present : ∀ entry, good entry → entry.1 ∈ held) :
    (∃ expected, insertAllNew ∅ entries = some expected ∧ expected.size = held.size ∧
      ∀ entry ∈ expected.toList, good entry) ↔
    (entries.map Prod.fst).Nodup ∧ (∀ key, key ∈ held ↔ key ∈ entries.map Prod.fst) ∧
      ∀ entry ∈ entries, good entry := by
  constructor
  · intro ⟨expected, inserted, size, each⟩
    have listed := toList_perm_of_inserted inserted
    have distinct := (insertAllNew_eq_some.mp inserted).1
    have every : ∀ entry ∈ entries, good entry :=
      fun entry among => each entry (listed.mem_iff.mpr among)
    have inside : ∀ key ∈ entries.map Prod.fst, key ∈ held.keys := by
      intro key named
      obtain ⟨entry, among, rfl⟩ := List.mem_map.mp named
      exact Std.ExtTreeMap.mem_keys.mpr (present entry (every entry among))
    have count : held.keys.length = (entries.map Prod.fst).length := by
      rw [Std.ExtTreeMap.length_keys, ← size, ← Std.ExtTreeMap.length_toList, listed.length_eq,
        List.length_map]
    have all := (distinct.subperm inside).perm_of_length_le (Nat.le_of_eq count)
    refine ⟨distinct, fun key => ?_, every⟩
    rw [all.mem_iff, Std.ExtTreeMap.mem_keys]
  · intro ⟨distinct, named, every⟩
    obtain ⟨expected, inserted⟩ := exists_insertAllNew distinct
      fun key _ => (Std.ExtTreeMap.not_mem_empty : key ∉ (∅ : OrderedMap κ β))
    have listed := toList_perm_of_inserted inserted
    refine ⟨expected, inserted, ?_, fun entry among => every entry (listed.mem_iff.mp among)⟩
    rw [← length_eq_size distinct fun key => (named key).symm, ← Std.ExtTreeMap.length_toList,
      listed.length_eq, List.length_map]

end OrderedMap

end Reproit
