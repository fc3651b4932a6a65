/-
# Rebinding a capsule

A binding replaces the processor capabilities of a capsule and keeps the others, so a
capsule may be bound again.
-/

import Reproit.Processor.Acceptance

namespace Reproit

open Backend Update

/-- The capabilities that belong to no processor. -/
def processorless (capabilities : List String) : List String :=
  capabilities.filter fun value =>
    !startsWith value "architecture." && !startsWith value "processor."

theorem mem_processorless {capabilities : List String} {capability : String} :
    capability ∈ processorless capabilities ↔ capability ∈ capabilities ∧
      startsWith capability "architecture." = false ∧
        startsWith capability "processor." = false := by
  rw [processorless, List.mem_filter, Bool.and_eq_true, Bool.not_eq_true', Bool.not_eq_true']

theorem foreign_processorless (capabilities : List String) :
    Foreign (processorless capabilities) :=
  fun _ member => (mem_processorless.mp member).2

variable [Primitives] {requirement other : ProcessorRequirement}
  {receipt : ProcessorReductionReceipt} {others : List String} {capsule : ReplayCapsule}

theorem besideBound_congr {first second : List String}
    (same : ∀ capability, capability ∈ first ↔ capability ∈ second)
    (requirement : ProcessorRequirement) :
    besideBound first requirement = besideBound second requirement := by
  apply sortDedup_congr
  intro capability
  rw [List.mem_append, List.mem_append, same]

/-- A binding keeps the capabilities of no processor. -/
theorem mem_processorless_besideBound (foreign : Foreign others) (capability : String) :
    capability ∈ processorless (besideBound others requirement) ↔ capability ∈ others := by
  rw [mem_processorless, mem_besideBound]
  constructor
  · rintro ⟨outside | bound, architecture, processor⟩
    · exact outside
    · obtain ⟨kind, suffix, -, rfl⟩ := exists_of_mem_boundCapabilities bound
      have begins := CapabilityKind.startsWith_processor_or kind suffix
      rw [architecture, processor] at begins
      cases begins
  · exact fun member => ⟨.inl member, foreign capability member⟩

theorem besideBound_processorless (foreign : Foreign others) :
    besideBound (processorless (besideBound others requirement)) other =
      besideBound others other :=
  besideBound_congr (mem_processorless_besideBound foreign) other

/-- The capabilities of a bound capsule. -/
theorem processorCapabilities_eq_ok {existing capabilities : List String} :
    processorCapabilities existing requirement = .ok capabilities ↔
      requirement.Valid ∧ Nameable requirement ∧
        (besideBound (processorless existing) requirement).length ≤ 64 ∧
          besideBound (processorless existing) requirement = capabilities := by
  simp only [processorCapabilities, bind_eq_ok, rejectIf_eq_ok, pure_eq_ok,
    processorRequirementCapabilities_eq_ok]
  constructor
  · rintro ⟨_, ⟨valid, nameable, rfl⟩, _, few, rfl⟩
    exact ⟨valid, nameable, not_lt.mp few, rfl⟩
  · rintro ⟨valid, nameable, few, rfl⟩
    exact ⟨_, ⟨valid, nameable, rfl⟩, (), not_lt.mpr few, rfl⟩

theorem bindCapsuleProcessorRequirement_eq_ok {bound : ReplayCapsule} :
    bindCapsuleProcessorRequirement capsule requirement = .ok bound ↔
      ∃ capabilities, processorCapabilities capsule.requiredCapabilities requirement =
        .ok capabilities ∧ { capsule with requiredCapabilities := capabilities } = bound := by
  simp only [bindCapsuleProcessorRequirement, bind_eq_ok, pure_eq_ok]

/-! ## Updates of an admission input -/

variable {before after : AdmissionInput} {error : Error}

theorem bindProcessorRequirement_eq_ok {done : Unit} :
    bindProcessorRequirement requirement before = .ok done after ↔
      ∃ capabilities, processorCapabilities before.capsule.requiredCapabilities requirement =
        .ok capabilities ∧ before.withCapabilities capabilities = after := by
  rw [bindProcessorRequirement, get_bind, Update.bind_eq_ok]
  simp only [attempt_eq_ok, bindCapsuleProcessorRequirement_eq_ok]
  constructor
  · rintro ⟨_, _, ⟨⟨capabilities, found, rfl⟩, rfl⟩, written⟩
    exact ⟨capabilities, found, by injection written⟩
  · rintro ⟨capabilities, found, rfl⟩
    exact ⟨_, _, ⟨⟨capabilities, found, rfl⟩, rfl⟩, rfl⟩

/-- A binding that fails writes nothing. -/
theorem bindProcessorRequirement_eq_error
    (failed : bindProcessorRequirement requirement before = .error error after) :
    after = before := by
  rw [bindProcessorRequirement, get_bind] at failed
  rcases Update.bind_eq_error.mp failed with first | ⟨_, _, -, second⟩
  · exact (attempt_eq_error.mp first).2.symm
  · cases second

/-- The steps of binding a reduction. -/
theorem bindProcessorReduction_eq_ok :
    bindProcessorReduction requirement receipt before = .ok () after ↔
      receipt.finalRequirementDigest = Digest.of (Canonical.text requirement) ∧
        ∃ capabilities, processorCapabilities before.capsule.requiredCapabilities requirement =
          .ok capabilities ∧ receipt.validate = .ok () ∧
            before.withCapabilities
              (sortDedup (capabilities ++ [reductionCapability receipt])) = after ∧
                after.capsule.validate = .ok () := by
  rw [bindProcessorReduction]
  simp only [Update.bind_eq_ok, attempt_eq_ok, ProcessorRequirement.digest, Except.ok.injEq,
    rejectIf_eq_ok, not_not, bindProcessorRequirement_eq_ok, processorReductionCapability_eq_ok,
    get_bind, set_bind]
  constructor
  · rintro ⟨_, _, ⟨rfl, rfl⟩, _, _, ⟨final, rfl⟩, _, _, ⟨capabilities, found, rfl⟩, _, _,
      ⟨⟨valid, rfl⟩, rfl⟩, validated, rfl⟩
    exact ⟨final, capabilities, found, valid, rfl, validated⟩
  · rintro ⟨final, capabilities, found, valid, rfl, validated⟩
    exact ⟨_, _, ⟨rfl, rfl⟩, (), _, ⟨final, rfl⟩, (), _, ⟨capabilities, found, rfl⟩, _, _,
      ⟨⟨valid, rfl⟩, rfl⟩, validated, rfl⟩

end Reproit
