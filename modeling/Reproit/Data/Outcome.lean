/-
# Fallible computations

`Except` computations in the shape guard, guard, bind, loop.  The lemmas here
invert a successful run: what each guard excluded, what each bind produced, and
what a loop established for every element.  They are the only facts about the
monad that the later modules use.
-/

import Mathlib.Data.List.Forall2

namespace Reproit

variable {ε η α β γ : Type}

/-- Fail with `error` when the rejected condition holds. -/
def rejectIf (condition : Prop) [Decidable condition] (error : ε) : Except ε Unit :=
  if condition then .error error else .ok ()

/-- Fail with `error` when the optional value is absent. -/
def okOr (value : Option α) (error : ε) : Except ε α :=
  match value with
  | some found => .ok found
  | none => .error error

/-- Visit every element in order, stopping at the first failure. -/
def forEach (items : List γ) (visit : γ → Except ε Unit) :
    Except ε Unit :=
  match items with
  | [] => .ok ()
  | item :: rest => visit item >>= fun _ => forEach rest visit

/-- Compute one result for every element in order, stopping at the first failure. -/
def collect (items : List γ) (compute : γ → Except ε α) : Except ε (List α) :=
  match items with
  | [] => .ok []
  | item :: rest => compute item >>= fun first =>
      collect rest compute >>= fun others => .ok (first :: others)

@[simp]
theorem rejectIf_eq_ok (condition : Prop) {decision : Decidable condition} (error : ε)
    (done : Unit) : rejectIf condition error = .ok done ↔ ¬ condition := by
  by_cases holds : condition <;> simp [rejectIf, holds]

theorem rejectIf_of {condition : Prop} [Decidable condition] (error : ε) (holds : condition) :
    rejectIf condition error = .error error := if_pos holds

theorem rejectIf_of_not {condition : Prop} [Decidable condition] (error : ε)
    (fails : ¬ condition) : rejectIf condition error = (.ok () : Except ε Unit) :=
  (rejectIf_eq_ok condition error ()).mpr fails

@[simp]
theorem okOr_eq_ok (value : Option α) (error : ε) (found : α) :
    okOr value error = .ok found ↔ value = some found := by
  cases value <;> simp [okOr]

/-- A bind succeeds exactly when both of its halves do. -/
@[simp]
theorem bind_eq_ok (first : Except ε α) (next : α → Except ε β) (result : β) :
    first >>= next = .ok result ↔ ∃ value, first = .ok value ∧ next value = .ok result := by
  cases first <;> simp [bind, Except.bind]

@[simp]
theorem ok_bind (value : α) (next : α → Except ε β) :
    (Except.ok value >>= next : Except ε β) = next value := rfl

@[simp]
theorem error_bind (error : ε) (next : α → Except ε β) :
    (Except.error error >>= next : Except ε β) = .error error := rfl

@[simp]
theorem pure_eq_ok (value result : α) :
    (pure value : Except ε α) = .ok result ↔ value = result := by
  simp [pure, Except.pure]

@[simp]
theorem map_eq_ok (transform : α → β) (first : Except ε α) (result : β) :
    transform <$> first = .ok result ↔ ∃ value, first = .ok value ∧ transform value = result := by
  cases first <;> simp [Functor.map, Except.map]

@[simp]
theorem mapError_eq_ok (transform : ε → η) (first : Except ε α) (result : α) :
    first.mapError transform = .ok result ↔ first = .ok result := by
  cases first <;> simp [Except.mapError]

/-- A loop of checks succeeds exactly when every check does. -/
@[simp]
theorem forEach_eq_ok (items : List γ) (visit : γ → Except ε Unit)
    (done : Unit) :
    forEach items visit = .ok done ↔ ∀ item ∈ items, visit item = .ok () := by
  induction items with
  | nil => simp [forEach]
  | cons item rest ih =>
      simp only [forEach, bind_eq_ok, List.forall_mem_cons, ih]
      exact ⟨fun ⟨_, first, others⟩ => ⟨first, others⟩, fun ⟨first, others⟩ => ⟨(), first, others⟩⟩

/-- A collecting loop succeeds exactly when it pairs every element with its result. -/
theorem collect_eq_ok (items : List γ) (compute : γ → Except ε α)
    (results : List α) :
    collect items compute = .ok results ↔
      List.Forall₂ (fun item result => compute item = .ok result) items results := by
  induction items generalizing results with
  | nil =>
      simp only [collect, Except.ok.injEq]
      constructor
      · rintro rfl
        exact .nil
      · intro paired
        cases paired
        rfl
  | cons item rest ih =>
      simp only [collect, bind_eq_ok, Except.ok.injEq]
      constructor
      · rintro ⟨first, hfirst, others, hothers, rfl⟩
        exact .cons hfirst ((ih others).mp hothers)
      · intro paired
        cases paired with
        | cons hfirst hothers => exact ⟨_, hfirst, _, (ih _).mpr hothers, rfl⟩

theorem collect_length {items : List γ} {compute : γ → Except ε α}
    {results : List α} (collected : collect items compute = .ok results) :
    results.length = items.length :=
  ((collect_eq_ok items compute results).mp collected).length_eq.symm

/-! ## Pairings -/

variable {related : α → β → Prop} {sources : List α} {results : List β}

/-- Every element of the second list is related to one of the first. -/
theorem exists_source (every : List.Forall₂ related sources results) {result : β}
    (member : result ∈ results) : ∃ source ∈ sources, related source result := by
  induction every with
  | nil => cases member
  | cons first rest ih =>
      rcases List.mem_cons.mp member with rfl | later
      · exact ⟨_, List.mem_cons_self, first⟩
      · obtain ⟨source, held, found⟩ := ih later
        exact ⟨source, List.mem_cons_of_mem _ held, found⟩

/-- Every element of the first list is related to one of the second. -/
theorem exists_result (every : List.Forall₂ related sources results) {source : α}
    (member : source ∈ sources) : ∃ result ∈ results, related source result := by
  induction every with
  | nil => cases member
  | cons first rest ih =>
      rcases List.mem_cons.mp member with rfl | later
      · exact ⟨_, List.mem_cons_self, first⟩
      · obtain ⟨result, held, found⟩ := ih later
        exact ⟨result, List.mem_cons_of_mem _ held, found⟩

/-- A choice for every element is a pairing. -/
theorem exists_pairing (choice : ∀ source ∈ sources, ∃ result, related source result) :
    ∃ results, List.Forall₂ related sources results := by
  induction sources with
  | nil => exact ⟨[], .nil⟩
  | cons source rest ih =>
      obtain ⟨result, first⟩ := choice source List.mem_cons_self
      obtain ⟨results, others⟩ := ih fun other member => choice other (List.mem_cons_of_mem _ member)
      exact ⟨result :: results, .cons first others⟩

/-- Related elements have equal images under two maps. -/
theorem map_eq_of_pairing {first : β → γ} {second : α → γ}
    (same : ∀ source result, related source result → first result = second source)
    (every : List.Forall₂ related sources results) : results.map first = sources.map second := by
  induction every with
  | nil => rfl
  | cons here rest ih => rw [List.map_cons, List.map_cons, ih, same _ _ here]

end Reproit
