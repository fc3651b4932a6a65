/-
# Bindings that fail

A binding writes the capabilities of its requirement into the capsule before the steps
that can still fail.  A failure keeps them, but everything else is as it was, and the
capsule can be bound again as if nothing had happened.
-/

import Reproit.Processor.AcceptanceSample

namespace Reproit

open Backend Update

variable [Primitives] {requirement : ProcessorRequirement} {receipt : ProcessorReductionReceipt}
  {before after : AdmissionInput} {error : Error}

/-- What was written before a failure: nothing, the capabilities of the requirement, or
these with the capability of a reduction. -/
inductive BoundBefore (requirement : ProcessorRequirement)
    (receipt : Option ProcessorReductionReceipt) (before : AdmissionInput) :
    AdmissionInput → Prop
  | unchanged : BoundBefore requirement receipt before before
  | bound (capabilities : List String)
      (found : processorCapabilities before.capsule.requiredCapabilities requirement =
        .ok capabilities) :
      BoundBefore requirement receipt before (before.withCapabilities capabilities)
  | reduced (capabilities : List String) (reduction : ProcessorReductionReceipt)
      (given : receipt = some reduction)
      (found : processorCapabilities before.capsule.requiredCapabilities requirement =
        .ok capabilities) :
      BoundBefore requirement receipt before
        (before.withCapabilities (sortDedup (capabilities ++ [reductionCapability reduction])))

/-- Only the processor capabilities of the capsule changed. -/
structure KeepsRest (before after : AdmissionInput) : Prop where
  rest : after = before.withCapabilities after.capsule.requiredCapabilities
  others : ∀ capability, capability ∈ processorless after.capsule.requiredCapabilities ↔
    capability ∈ processorless before.capsule.requiredCapabilities
  rebinds : ∀ requirement,
    processorCapabilities after.capsule.requiredCapabilities requirement =
      processorCapabilities before.capsule.requiredCapabilities requirement

/-- A binding depends on the capabilities of no processor only. -/
theorem processorCapabilities_congr {first second : List String}
    (same : ∀ capability, capability ∈ processorless first ↔ capability ∈ processorless second)
    (requirement : ProcessorRequirement) :
    processorCapabilities first requirement = processorCapabilities second requirement := by
  rw [processorCapabilities, processorCapabilities]
  refine congrArg _ (funext fun bound => ?_)
  have sorted : sortDedup (processorless first ++ bound) =
      sortDedup (processorless second ++ bound) := by
    apply sortDedup_congr
    intro capability
    rw [List.mem_append, List.mem_append, same]
  rw [processorless, processorless] at sorted
  rw [sorted]

theorem BoundBefore.keepsRest {receipt : Option ProcessorReductionReceipt}
    (written : BoundBefore requirement receipt before after) : KeepsRest before after := by
  have others : ∀ capability, capability ∈ processorless after.capsule.requiredCapabilities ↔
      capability ∈ processorless before.capsule.requiredCapabilities := by
    intro capability
    have foreign := foreign_processorless before.capsule.requiredCapabilities
    cases written with
    | unchanged => rfl
    | bound capabilities found =>
        obtain ⟨-, -, -, rfl⟩ := processorCapabilities_eq_ok.mp found
        exact mem_processorless_besideBound foreign capability
    | reduced capabilities reduction given found =>
        obtain ⟨-, -, -, rfl⟩ := processorCapabilities_eq_ok.mp found
        change capability ∈ processorless (besideReduced _ _ _) ↔ _
        rw [mem_processorless, mem_besideReduced]
        constructor
        · rintro ⟨outside | expected, architecture, processor⟩
          · exact outside
          · obtain ⟨kind, suffix, rfl⟩ := exists_of_mem_expectedCapabilities expected
            have begins := CapabilityKind.startsWith_processor_or kind suffix
            rw [architecture, processor] at begins
            cases begins
        · exact fun member => ⟨.inl member, foreign capability member⟩
  refine ⟨?_, others, processorCapabilities_congr others⟩
  cases written <;> rfl

/-! ## Failures of each function -/

theorem bindProcessorReduction_eq_error
    (failed : bindProcessorReduction requirement receipt before = .error error after) :
    BoundBefore requirement (some receipt) before after := by
  rw [bindProcessorReduction] at failed
  rcases Update.bind_eq_error.mp failed with first | ⟨digest, _, first, failed⟩
  · obtain ⟨-, rfl⟩ := attempt_eq_error.mp first
    exact .unchanged
  obtain ⟨-, rfl⟩ := attempt_eq_ok.mp first
  rcases Update.bind_eq_error.mp failed with second | ⟨_, _, second, failed⟩
  · obtain ⟨-, rfl⟩ := attempt_eq_error.mp second
    exact .unchanged
  obtain ⟨-, rfl⟩ := attempt_eq_ok.mp second
  rcases Update.bind_eq_error.mp failed with third | ⟨_, _, third, failed⟩
  · obtain rfl := bindProcessorRequirement_eq_error third
    exact .unchanged
  obtain ⟨capabilities, found, rfl⟩ := bindProcessorRequirement_eq_ok.mp third
  -- from here on the capsule is bound
  rcases Update.bind_eq_error.mp failed with fourth | ⟨reduction, _, fourth, failed⟩
  · obtain ⟨-, rfl⟩ := attempt_eq_error.mp fourth
    exact .bound capabilities found
  obtain ⟨named, rfl⟩ := attempt_eq_ok.mp fourth
  obtain ⟨-, rfl⟩ := processorReductionCapability_eq_ok.mp named
  obtain ⟨-, rfl⟩ := attempt_eq_error.mp failed
  exact .reduced capabilities receipt rfl found

theorem admitCapturedProcessorRequirement_eq_error {executor : AdmissionExecutor}
    (failed : admitCapturedProcessorRequirement requirement executor before =
      .error error after) :
    BoundBefore requirement none before after := by
  rw [admitCapturedProcessorRequirement] at failed
  rcases Update.bind_eq_error.mp failed with first | ⟨_, _, first, failed⟩
  · obtain ⟨-, rfl⟩ := attempt_eq_error.mp first
    exact .unchanged
  obtain ⟨-, rfl⟩ := attempt_eq_ok.mp first
  rcases Update.bind_eq_error.mp failed with second | ⟨_, _, second, failed⟩
  · obtain rfl := bindProcessorRequirement_eq_error second
    exact .unchanged
  obtain ⟨capabilities, found, rfl⟩ := bindProcessorRequirement_eq_ok.mp second
  rw [get_bind] at failed
  rcases Update.bind_eq_error.mp failed with third | ⟨_, _, third, failed⟩
  · obtain ⟨-, rfl⟩ := attempt_eq_error.mp third
    exact .bound capabilities found
  obtain ⟨-, rfl⟩ := attempt_eq_ok.mp third
  obtain ⟨-, rfl⟩ := attempt_eq_error.mp failed
  exact .bound capabilities found

/-- A binding that succeeded before a later failure. -/
theorem boundBefore_of_eq_ok
    (bound : bindProcessorReduction requirement receipt before = .ok () after) :
    BoundBefore requirement (some receipt) before after := by
  obtain ⟨-, capabilities, found, -, rfl, -⟩ := bindProcessorReduction_eq_ok.mp bound
  exact .reduced capabilities receipt rfl found

theorem reduceAndAdmit_eq_error {policy : ProcessorReductionPolicy}
    {executor : ProcessorTrialExecutor} {observation : ProcessorObservation}
    {admissionExecutor : AdmissionExecutor}
    (failed : reduceAndAdmit policy executor observation requirement admissionExecutor before =
      .error error after) :
    after = before ∨ ∃ result,
      reduceProcessorRequirements policy executor observation requirement = .ok result ∧
        BoundBefore result.requirement (some result.receipt) before after := by
  rw [reduceAndAdmit, get_bind] at failed
  rcases Update.bind_eq_error.mp failed with first | ⟨result, _, first, failed⟩
  · exact .inl (attempt_eq_error.mp first).2.symm
  obtain ⟨reduced, rfl⟩ := attempt_eq_ok.mp first
  refine .inr ⟨result, reduced, ?_⟩
  rcases Update.bind_eq_error.mp failed with second | ⟨_, between, second, failed⟩
  · exact bindProcessorReduction_eq_error second
  have bound := boundBefore_of_eq_ok second
  rw [get_bind] at failed
  rcases Update.bind_eq_error.mp failed with third | ⟨_, _, third, failed⟩
  · obtain ⟨-, rfl⟩ := attempt_eq_error.mp third
    exact bound
  obtain ⟨-, rfl⟩ := attempt_eq_ok.mp third
  rcases Update.bind_eq_error.mp failed with fourth | ⟨_, _, fourth, failed⟩
  · obtain ⟨-, rfl⟩ := attempt_eq_error.mp fourth
    exact bound
  · cases failed

end Reproit
