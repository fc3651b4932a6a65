/-
# Ledgers of single use

A ledger is opened for distinct keys and marks each key when it is used.  A key that
is unknown or already marked cannot be used.  A sequence of uses that runs through
and leaves no key unmarked is therefore a permutation of the keys, and every
permutation of the keys runs through: using up a ledger is exact cover.
-/

import Reproit.Data.OrderedMap

namespace Reproit

variable {κ : Type} [LinearOrder κ]

/-- The keys of a ledger with their marks. -/
abbrev Ledger (κ : Type) [LinearOrder κ] := OrderedMap κ Bool

namespace Ledger

/-- Open a ledger for keys that must be distinct. -/
def opened (keys : List κ) : Option (Ledger κ) :=
  OrderedMap.insertAllNew ∅ (keys.map fun key => (key, false))

/-- Use a key once. -/
def consume (ledger : Ledger κ) (key : κ) : Option (Ledger κ) :=
  match ledger[key]? with
  | some false => some (ledger.insert key true)
  | _ => none

/-- Use keys in turn. -/
def consumeAll (ledger : Ledger κ) (order : List κ) : Option (Ledger κ) :=
  order.foldlM consume ledger

/-- Every key is marked. -/
def complete (ledger : Ledger κ) : Bool := ledger.toList.all Prod.snd

/-- The ledger of `keys` in which exactly the keys of `used` are marked. -/
def Tracks (ledger : Ledger κ) (keys used : List κ) : Prop :=
  ∀ key mark, ledger[key]? = some mark ↔ key ∈ keys ∧ (mark = true ↔ key ∈ used)

theorem Tracks.unique {first second : Ledger κ} {keys used : List κ}
    (hfirst : first.Tracks keys used) (hsecond : second.Tracks keys used) : first = second := by
  apply Std.ExtTreeMap.ext_getElem?
  intro key
  apply Option.ext
  intro mark
  rw [hfirst, hsecond]

theorem opened_eq_some {keys : List κ} {ledger : Ledger κ} :
    opened keys = some ledger ↔ keys.Nodup ∧ ledger.Tracks keys [] := by
  have names : (keys.map fun key => (key, false)).map Prod.fst = keys := by
    rw [List.map_map]
    exact List.map_id keys
  rw [opened, OrderedMap.insertAllNew_eq_some, names]
  refine and_congr_right fun _ => ?_
  simp only [Tracks, List.mem_map, Prod.mk.injEq, List.not_mem_nil, iff_false,
    Std.ExtTreeMap.not_mem_empty, not_false_eq_true, implies_true, true_and,
    Std.ExtTreeMap.getElem?_empty, reduceCtorEq, or_false, Bool.not_eq_true]
  refine forall_congr' fun key => forall_congr' fun mark => iff_congr Iff.rfl ?_
  constructor
  · rintro ⟨held, member, rfl, rfl⟩
    exact ⟨member, rfl⟩
  · rintro ⟨member, rfl⟩
    exact ⟨key, member, rfl, rfl⟩

theorem exists_opened {keys : List κ} (distinct : keys.Nodup) :
    ∃ ledger, opened keys = some ledger := by
  have names : (keys.map fun key => (key, false)).map Prod.fst = keys := by
    rw [List.map_map]
    exact List.map_id keys
  exact OrderedMap.exists_insertAllNew (names.symm ▸ distinct)
    fun _ _ => Std.ExtTreeMap.not_mem_empty

/-- A key of the ledger that is not marked can be used. -/
theorem exists_consume {ledger : Ledger κ} {keys used : List κ} (tracks : ledger.Tracks keys used)
    {key : κ} (member : key ∈ keys) (unused : key ∉ used) :
    ∃ next, ledger.consume key = some next := by
  have free : ledger[key]? = some false := (tracks key false).mpr ⟨member, by simp [unused]⟩
  exact ⟨ledger.insert key true, by rw [consume, free]⟩

/-- Only such a key can be used, and it is marked then. -/
theorem Tracks.consume {ledger next : Ledger κ} {keys used : List κ}
    (tracks : ledger.Tracks keys used) {key : κ} (step : ledger.consume key = some next) :
    key ∈ keys ∧ key ∉ used ∧ next.Tracks keys (used ++ [key]) := by
  unfold Ledger.consume at step
  split at step
  · rename_i free
    obtain ⟨member, mark⟩ := (tracks key false).mp free
    have unused : key ∉ used := fun held => Bool.false_ne_true (mark.mpr held)
    refine ⟨member, unused, fun other flag => ?_⟩
    rw [← Option.some.inj step, OrderedMap.getElem?_insert, List.mem_append, List.mem_singleton]
    split_ifs with same
    · subst same
      simp [member, eq_comm]
    · rw [tracks]
      simp [Ne.symm same]
  · cases step

/-- Distinct unmarked keys can be used in turn. -/
theorem exists_consumeAll {ledger : Ledger κ} {keys used order : List κ}
    (tracks : ledger.Tracks keys used) (distinct : order.Nodup)
    (free : ∀ key ∈ order, key ∈ keys ∧ key ∉ used) :
    ∃ last, ledger.consumeAll order = some last := by
  induction order generalizing ledger used with
  | nil => exact ⟨ledger, rfl⟩
  | cons key order ih =>
      rw [List.nodup_cons] at distinct
      obtain ⟨member, unused⟩ := free key List.mem_cons_self
      obtain ⟨next, step⟩ := exists_consume tracks member unused
      have nextTracks := (tracks.consume step).2.2
      obtain ⟨last, rest⟩ := ih nextTracks distinct.2 fun other later => by
        obtain ⟨known, fresh⟩ := free other (List.mem_cons_of_mem _ later)
        rw [List.mem_append, List.mem_singleton, not_or]
        exact ⟨known, fresh, fun same => distinct.1 (same ▸ later)⟩
      exact ⟨last, by rw [consumeAll, List.foldlM_cons, step]; exact rest⟩

/-- Only distinct unmarked keys can be used in turn, and they are marked then. -/
theorem Tracks.consumeAll {ledger last : Ledger κ} {keys used order : List κ}
    (tracks : ledger.Tracks keys used) (run : ledger.consumeAll order = some last) :
    order.Nodup ∧ (∀ key ∈ order, key ∈ keys ∧ key ∉ used) ∧ last.Tracks keys (used ++ order) := by
  induction order generalizing ledger used with
  | nil =>
      rw [Ledger.consumeAll, List.foldlM_nil, Option.pure_def, Option.some.injEq] at run
      subst run
      simpa using tracks
  | cons key order ih =>
      rw [Ledger.consumeAll, List.foldlM_cons, Option.bind_eq_bind,
        Option.bind_eq_some_iff] at run
      obtain ⟨next, step, rest⟩ := run
      obtain ⟨member, unused, nextTracks⟩ := tracks.consume step
      obtain ⟨distinct, free, lastTracks⟩ := ih nextTracks rest
      simp only [List.mem_append, List.mem_singleton, not_or] at free
      refine ⟨List.nodup_cons.mpr ⟨fun again => (free key again).2.2 rfl, distinct⟩, ?_, ?_⟩
      · intro other hother
        rcases List.mem_cons.mp hother with rfl | later
        · exact ⟨member, unused⟩
        · exact ⟨(free other later).1, (free other later).2.1⟩
      · rwa [List.append_assoc, List.singleton_append] at lastTracks

theorem complete_iff {ledger : Ledger κ} {keys used : List κ} (tracks : ledger.Tracks keys used) :
    ledger.complete ↔ ∀ key ∈ keys, key ∈ used := by
  rw [complete, List.all_eq_true]
  constructor
  · intro all key member
    by_contra unused
    have free : ledger[key]? = some false := (tracks key false).mpr ⟨member, by simp [unused]⟩
    exact Bool.false_ne_true
      (all (key, false) (Std.ExtTreeMap.mem_toList_iff_getElem?_eq_some.mpr free))
  · rintro all ⟨key, mark⟩ held
    obtain ⟨member, marked⟩ :=
      (tracks key mark).mp (Std.ExtTreeMap.mem_toList_iff_getElem?_eq_some.mp held)
    exact marked.mpr (all key member)

/-- Using up a fresh ledger is exact cover: the uses run through and leave nothing
unmarked exactly when they are a permutation of the keys. -/
theorem consumeAll_complete_iff_perm {keys order : List κ} {ledger : Ledger κ}
    (fresh : opened keys = some ledger) :
    (∃ last, ledger.consumeAll order = some last ∧ last.complete) ↔ order.Perm keys := by
  obtain ⟨distinctKeys, tracks⟩ := opened_eq_some.mp fresh
  constructor
  · rintro ⟨last, run, full⟩
    obtain ⟨distinct, known, lastTracks⟩ := tracks.consumeAll run
    rw [complete_iff lastTracks, List.nil_append] at full
    exact (List.perm_ext_iff_of_nodup distinct distinctKeys).mpr
      fun key => ⟨fun member => (known key member).1, full key⟩
  · intro perm
    obtain ⟨last, run⟩ := exists_consumeAll tracks (perm.nodup_iff.mpr distinctKeys)
      fun key member => ⟨perm.mem_iff.mp member, List.not_mem_nil⟩
    have lastTracks := (tracks.consumeAll run).2.2
    exact ⟨last, run, (complete_iff lastTracks).mpr fun key member => perm.mem_iff.mpr member⟩

end Ledger

end Reproit
