/-
# Exact covers

Selectors pick items of a list.  They cover the list exactly when every selector
picks one item and every item is picked by one selector.  For distinct items this
says that the picked items, in the order of the selectors, are a permutation of the
list.
-/

import Mathlib.Data.List.Nodup

namespace Reproit

variable {α γ : Type}

/-- The item is the only one that is selected. -/
def UniqueMatch (items : List α) (select : α → Bool) (item : α) : Prop :=
  items.filter select = [item]

theorem UniqueMatch.mem {items : List α} {select : α → Bool} {item : α}
    (unique : UniqueMatch items select item) : item ∈ items ∧ select item = true := by
  have member : item ∈ items.filter select := by
    rw [unique]
    exact List.mem_singleton_self item
  exact List.mem_filter.mp member

/-- A selected item is the unique one. -/
theorem UniqueMatch.eq_of_select {items : List α} {select : α → Bool} {item other : α}
    (unique : UniqueMatch items select item) (member : other ∈ items)
    (selected : select other = true) : other = item := by
  have found : other ∈ items.filter select := List.mem_filter.mpr ⟨member, selected⟩
  rw [unique] at found
  exact List.mem_singleton.mp found

/-- A selector that selects less still selects the item. -/
theorem UniqueMatch.narrow {items : List α} {select narrower : α → Bool} {item : α}
    (unique : UniqueMatch items select item)
    (weaker : ∀ other, narrower other = true → select other = true)
    (selected : narrower item = true) : UniqueMatch items narrower item := by
  have first : (items.filter select).filter narrower = items.filter narrower := by
    rw [List.filter_filter]
    refine List.filter_congr fun other _ => ?_
    cases held : narrower other with
    | true => rw [weaker other held, Bool.and_self]
    | false => rw [Bool.false_and]
  rw [UniqueMatch, ← first, unique, List.filter_cons, if_pos selected, List.filter_nil]

/-- Selecting by a key that differs from item to item selects one item. -/
theorem uniqueMatch_of_nodup {κ : Type} {items : List α} {select : α → Bool} {item : α}
    (key : α → κ) (distinct : (items.map key).Nodup) (member : item ∈ items)
    (selects : ∀ other ∈ items, (select other = true ↔ key other = key item)) :
    UniqueMatch items select item := by
  rw [UniqueMatch]
  induction items with
  | nil => cases member
  | cons first items ih =>
      rw [List.map_cons, List.nodup_cons] at distinct
      obtain ⟨head, tail⟩ := List.forall_mem_cons.mp selects
      rcases List.mem_cons.mp member with rfl | later
      · have others : items.filter select = [] := by
          rw [List.filter_eq_nil_iff]
          intro other held selected
          exact distinct.1 (List.mem_map.mpr ⟨other, held, (tail other held).mp selected⟩)
        rw [List.filter_cons, if_pos (head.mpr rfl), others]
      · have different : ¬ select first = true := fun selected =>
          distinct.1 (List.mem_map.mpr ⟨item, later, (head.mp selected).symm⟩)
        rw [List.filter_cons, if_neg different, ih distinct.2 later tail]

theorem exists_uniqueMatch {items : List α} {select : α → Bool} :
    (∃ item, UniqueMatch items select item) ↔ items.countP select = 1 := by
  rw [List.countP_eq_length_filter, List.length_eq_one_iff]
  rfl

/-- The selected items match the entries one by one. -/
def MatchEach (items : List α) (select : γ → α → Bool) (entries : List γ) (found : List α) :
    Prop :=
  List.Forall₂ (fun entry item => UniqueMatch items (select entry) item) entries found

theorem MatchEach.subset {items : List α} {select : γ → α → Bool} {entries : List γ}
    {found : List α} (each : MatchEach items select entries found) : found ⊆ items := by
  induction each with
  | nil => exact List.nil_subset _
  | cons first _ ih => exact List.cons_subset.mpr ⟨first.mem.1, ih⟩

/-- Every entry is matched by something that was found. -/
theorem MatchEach.exists_of_mem {items : List α} {select : γ → α → Bool} {entries : List γ}
    {found : List α} (each : MatchEach items select entries found) {entry : γ}
    (member : entry ∈ entries) : ∃ item ∈ found, UniqueMatch items (select entry) item := by
  induction each with
  | nil => cases member
  | cons first _ ih =>
      rcases List.mem_cons.mp member with rfl | later
      · exact ⟨_, List.mem_cons_self, first⟩
      · obtain ⟨item, held, unique⟩ := ih later
        exact ⟨item, List.mem_cons_of_mem _ held, unique⟩

/-- Entries that select distinct items select differently. -/
theorem MatchEach.pairwise_ne {items : List α} {select : γ → α → Bool} {entries : List γ}
    {found : List α} (each : MatchEach items select entries found) (distinct : found.Nodup) :
    entries.Pairwise fun first second => select first ≠ select second := by
  induction each with
  | nil => exact .nil
  | @cons entry item entries found first rest ih =>
      have rest : MatchEach items select entries found := rest
      obtain ⟨notLater, distinct⟩ := List.nodup_cons.mp distinct
      refine .cons (fun other member same => notLater ?_) (ih distinct)
      obtain ⟨later, held, second⟩ := rest.exists_of_mem member
      have equal : item = later :=
        second.eq_of_select first.mem.1 (by rw [← same]; exact first.mem.2)
      rwa [equal]

/-- Every entry that selects one item can be matched. -/
theorem exists_matchEach {items : List α} {select : γ → α → Bool} {entries : List γ}
    (single : ∀ entry ∈ entries, items.countP (select entry) = 1) :
    ∃ found, MatchEach items select entries found := by
  induction entries with
  | nil => exact ⟨[], .nil⟩
  | cons entry entries ih =>
      obtain ⟨item, unique⟩ := exists_uniqueMatch.mpr (single entry List.mem_cons_self)
      obtain ⟨found, each⟩ := ih fun other member => single other (List.mem_cons_of_mem _ member)
      exact ⟨item :: found, .cons unique each⟩

/-- What matches the entries is determined. -/
theorem MatchEach.unique {items : List α} {select : γ → α → Bool} {entries : List γ}
    {first second : List α} (hfirst : MatchEach items select entries first)
    (hsecond : MatchEach items select entries second) : first = second := by
  induction hfirst generalizing second with
  | nil =>
      cases hsecond
      rfl
  | cons unique _ ih =>
      cases hsecond with
      | cons other rest =>
          rw [ih rest, other.eq_of_select unique.mem.1 unique.mem.2]

/-- Every selector selects one item and every item is selected by one selector. -/
structure ExactCover (items : List α) (selectors : List (α → Bool)) : Prop where
  selects : ∀ select ∈ selectors, items.countP select = 1
  selected : ∀ item ∈ items, selectors.countP (fun select => select item) = 1

/-- A cover of a list covers every permutation of it. -/
theorem ExactCover.perm {first second : List α} {selectors : List (α → Bool)}
    (same : first.Perm second) (cover : ExactCover first selectors) :
    ExactCover second selectors where
  selects select member := by rw [← same.countP_eq]; exact cover.selects select member
  selected item member := cover.selected item (same.mem_iff.mpr member)

/-- How often an item was found is how many selectors select it. -/
theorem count_eq_countP [DecidableEq α] {items : List α} {selectors : List (α → Bool)}
    {found : List α} (each : MatchEach items id selectors found) {item : α}
    (member : item ∈ items) : found.count item = selectors.countP fun select => select item := by
  induction each with
  | nil => rfl
  | @cons select other selectors found first rest ih =>
      rw [List.count_cons, List.countP_cons, ih]
      congr 1
      by_cases selected : select item = true
      · have same : item = other := first.eq_of_select member selected
        subst same
        simp [selected]
      · have different : other ≠ item := by
          rintro rfl
          exact selected first.mem.2
        simp [selected, different]

/-- Selectors cover distinct items exactly when what they select is a permutation. -/
theorem exactCover_iff {items : List α} {selectors : List (α → Bool)} (distinct : items.Nodup) :
    ExactCover items selectors ↔
      ∃ found, MatchEach items id selectors found ∧ found.Perm items := by
  classical
  constructor
  · intro cover
    obtain ⟨found, each⟩ := @exists_matchEach α _ items id selectors cover.selects
    refine ⟨found, each, List.perm_iff_count.mpr fun item => ?_⟩
    by_cases member : item ∈ items
    · rw [count_eq_countP each member, cover.selected item member,
        List.count_eq_one_of_mem distinct member]
    · rw [List.count_eq_zero.mpr member, List.count_eq_zero]
      exact fun held => member (each.subset held)
  · rintro ⟨found, each, perm⟩
    constructor
    · intro select member
      obtain ⟨item, -, unique⟩ := each.exists_of_mem member
      exact exists_uniqueMatch.mp ⟨item, unique⟩
    · intro item member
      rw [← count_eq_countP each member, perm.count_eq, List.count_eq_one_of_mem distinct member]

end Reproit
