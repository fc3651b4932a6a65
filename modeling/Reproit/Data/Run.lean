/-
# Runs of a system

A system takes one step after another.  What one step preserves under a condition is
preserved by every run whose steps meet the condition.
-/

import Mathlib.Logic.Basic

namespace Reproit

variable {σ ℓ : Type} (next : σ → ℓ → σ) (guard : σ → ℓ → Prop)

/-- Every step of the run meets the condition in the state that it starts in. -/
def EveryStep (state : σ) : List ℓ → Prop
  | [] => True
  | step :: rest => guard state step ∧ EveryStep (next state step) rest

variable {next guard}

theorem EveryStep.append_left {first second : List ℓ} {state : σ}
    (every : EveryStep next guard state (first ++ second)) : EveryStep next guard state first := by
  induction first generalizing state with
  | nil => trivial
  | cons step rest ih => exact ⟨every.1, ih every.2⟩

/-- A condition on the steps alone is one on every step. -/
theorem EveryStep.and_forall {allowed : ℓ → Prop} {steps : List ℓ} {state : σ} :
    EveryStep next (fun state step => allowed step ∧ guard state step) state steps ↔
      (∀ step ∈ steps, allowed step) ∧ EveryStep next guard state steps := by
  induction steps generalizing state with
  | nil => exact ⟨fun _ => ⟨nofun, trivial⟩, fun _ => trivial⟩
  | cons step rest ih =>
      rw [EveryStep, EveryStep, ih, List.forall_mem_cons]
      exact and_and_and_comm

/-- What holds at first and is preserved by every step that meets the condition holds
after every run of such steps. -/
theorem EveryStep.invariant {invariant : σ → Prop}
    (preserved : ∀ state step, invariant state → guard state step → invariant (next state step))
    {steps : List ℓ} {state : σ} (holds : invariant state)
    (every : EveryStep next guard state steps) : invariant (steps.foldl next state) := by
  induction steps generalizing state with
  | nil => exact holds
  | cons step rest ih => exact ih (preserved _ _ holds every.1) every.2

/-- When a step meets the condition exactly if it leads to a good state, a run meets it
at every step exactly if every state that it reaches is good. -/
theorem EveryStep.iff_reached {kept good : σ → Prop}
    (preserved : ∀ state step, kept state → kept (next state step))
    (exact : ∀ state step, kept state → good state → (guard state step ↔ good (next state step)))
    {state : σ} (holds : kept state) (starts : good state) (steps : List ℓ) :
    EveryStep next guard state steps ↔
      ∀ first second, steps = first ++ second → good (first.foldl next state) := by
  induction steps generalizing state with
  | nil =>
      refine ⟨fun _ first second split => ?_, fun _ => trivial⟩
      rw [(List.nil_eq_append_iff.mp split).1]
      exact starts
  | cons step rest ih =>
      refine ⟨fun every first second split => ?_, fun reached => ?_⟩
      · cases first with
        | nil => exact starts
        | cons other before =>
            obtain ⟨rfl, later⟩ := List.cons.inj split
            have good := (exact state step holds starts).mp every.1
            exact (ih (preserved state step holds) good).mp every.2 before second later
      · have good : good (next state step) := reached [step] rest rfl
        refine ⟨(exact state step holds starts).mpr good, ?_⟩
        apply (ih (preserved state step holds) good).mpr
        intro before second later
        exact reached (step :: before) second (congrArg (step :: ·) later)

end Reproit
