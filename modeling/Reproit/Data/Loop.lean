/-
# Loops that may stop early

A loop visits items one after the other with their positions.  A visit fails, goes on
with a new state, or stops the loop with its last state.
-/

import Reproit.Data.Outcome

namespace Reproit

variable {ε ι σ : Type}

/-- Whether a loop goes on. -/
inductive Flow (σ : Type)
  | next (state : σ)
  | stop (state : σ)

/-- The state behind a visit. -/
def Flow.state : Flow σ → σ
  | .next state => state
  | .stop state => state

/-- Visit the items in order. -/
def runLoop (visit : Nat → ι → σ → Except ε (Flow σ)) : Nat → List ι → σ → Except ε σ
  | _, [], state => .ok state
  | position, item :: rest, state => do
      match ← visit position item state with
      | .next after => runLoop visit (position + 1) rest after
      | .stop after => return after

/-- What every visit that goes on preserves holds at the end, unless a visit stopped the
loop in a state in which it held. -/
theorem runLoop_invariant {visit : Nat → ι → σ → Except ε (Flow σ)} {invariant : List ι → σ → Prop}
    {items : List ι} {start final : σ} (ran : runLoop visit 0 items start = .ok final)
    (initial : invariant [] start)
    (preserved : ∀ visited item rest before after, items = visited ++ item :: rest →
      invariant visited before → visit visited.length item before = .ok (.next after) →
        invariant (visited ++ [item]) after) :
    invariant items final ∨
      ∃ visited item rest before, items = visited ++ item :: rest ∧ invariant visited before ∧
        visit visited.length item before = .ok (.stop final) := by
  -- the items that were visited are moved to the front of the list one by one
  suffices general : ∀ rest visited state, items = visited ++ rest → invariant visited state →
      runLoop visit visited.length rest state = .ok final →
        invariant items final ∨
          ∃ visited item rest before, items = visited ++ item :: rest ∧
            invariant visited before ∧ visit visited.length item before = .ok (.stop final) from
    general items [] start rfl initial ran
  intro rest
  induction rest with
  | nil =>
      intro visited state split holds ended
      rw [List.append_nil] at split
      cases ended
      exact .inl (split ▸ holds)
  | cons item rest ih =>
      intro visited state split holds ran
      simp only [runLoop, bind_eq_ok] at ran
      obtain ⟨flow, visit, ran⟩ := ran
      cases flow with
      | next after =>
          apply ih (visited ++ [item]) after
          · rw [split, List.append_assoc]
            rfl
          · exact preserved visited item rest state after split holds visit
          · rw [List.length_append]
            exact ran
      | stop after =>
          cases ran
          exact .inr ⟨visited, item, rest, state, split, holds, visit⟩

/-! ## The visits of a loop -/

/-- A visit that a loop makes, with the state in which it starts. -/
structure LoopVisit (ι σ : Type) where
  position : Nat
  item : ι
  before : σ

/-- Every visit of a loop in order, up to one that fails or stops. -/
def loopVisits (visit : Nat → ι → σ → Except ε (Flow σ)) :
    Nat → List ι → σ → List (LoopVisit ι σ)
  | _, [], _ => []
  | position, item :: rest, state =>
      ⟨position, item, state⟩ ::
        match visit position item state with
        | .ok (.next after) => loopVisits visit (position + 1) rest after
        | _ => []

/-- What every visit that goes on preserves holds before every visit. -/
theorem loopVisits_invariant {visit : Nat → ι → σ → Except ε (Flow σ)}
    {invariant : List (LoopVisit ι σ) → σ → Prop} {position : Nat} {items : List ι} {start : σ}
    (initial : invariant [] start)
    (preserved : ∀ earlier current after, invariant earlier current.before →
      visit current.position current.item current.before = .ok (.next after) →
        invariant (earlier ++ [current]) after) :
    ∀ earlier current later, loopVisits visit position items start = earlier ++ current :: later →
      invariant earlier current.before := by
  induction items generalizing position start invariant with
  | nil =>
      intro earlier current later listed
      cases earlier <;> cases listed
  | cons item rest ih =>
      intro earlier current later listed
      rw [loopVisits] at listed
      cases earlier with
      | nil =>
          cases listed
          exact initial
      | cons first earlier =>
          obtain ⟨rfl, behind⟩ := List.cons.inj listed
          -- the visit went on, so the rest of the loop starts behind it
          split at behind
          next after ran =>
            have shifted := @ih (fun others => invariant (⟨position, item, start⟩ :: others))
              (position + 1) after (preserved [] _ after initial ran)
            apply shifted _ earlier current later behind
            intro others next state holds went
            exact preserved (_ :: others) next state holds went
          next => cases earlier <;> cases behind

/-- Loops whose visits agree wherever one of them is made have one result. -/
theorem runLoop_congr {visit other : Nat → ι → σ → Except ε (Flow σ)} {position : Nat}
    {items : List ι} {start : σ}
    (agree : ∀ made ∈ loopVisits visit position items start,
      visit made.position made.item made.before = other made.position made.item made.before) :
    runLoop visit position items start = runLoop other position items start := by
  induction items generalizing position start with
  | nil => rfl
  | cons item rest ih =>
      rw [loopVisits] at agree
      have same := agree _ (List.mem_cons_self ..)
      rw [runLoop, runLoop, ← same]
      cases ran : visit position item start with
      | error error => rfl
      | ok flow =>
          cases flow with
          | next after =>
              rw [ran] at agree
              exact ih fun made listed => agree made (List.mem_cons_of_mem _ listed)
          | stop after => rfl

end Reproit
