/-
# What an accepted transition says

The check of the Runtime compares spellings.  The capsules agree otherwise, and what is
gone was removed; but a trial may name a state with an underscore, or a name of which
the requirement lists another spelling only.
-/

import Reproit.Processor.AcceptanceSample
import Reproit.Processor.Reduction

namespace Reproit

open Backend

/-! ## Removed constraints -/

variable {receipt : ProcessorReductionReceipt} {constraint : ProcessorConstraint}

theorem label_mem_removedConstraints :
    constraint.label ∈ receipt.removedConstraints ↔ RemovedBy receipt.trials constraint := by
  rw [ProcessorReductionReceipt.removedConstraints, List.mem_map]
  constructor
  · rintro ⟨trial, listed, label⟩
    obtain ⟨member, removed⟩ := List.mem_filter.mp listed
    exact ⟨trial, member, of_decide_eq_true removed, label⟩
  · rintro ⟨trial, member, removed, label⟩
    exact ⟨trial, List.mem_filter.mpr ⟨member, decide_eq_true removed⟩, label⟩

/-- The check and the reduction take the same states along. -/
theorem removedWithFeature_label :
    removedWithFeature constraint.label receipt.removedConstraints = true ↔
      Cascaded receipt.trials constraint := by
  have avx : constraint.label = "os-enabled-state.xcr0.avx" ↔
      constraint = .osEnabledState "xcr0.avx" :=
    label_injective.eq_iff (b := ProcessorConstraint.osEnabledState "xcr0.avx")
  have avx512 : constraint.label = "os-enabled-state.xcr0.avx512" ↔
      constraint = .osEnabledState "xcr0.avx512" :=
    label_injective.eq_iff (b := ProcessorConstraint.osEnabledState "xcr0.avx512")
  have removedAvx : "instruction-feature.AVX" ∈ receipt.removedConstraints ↔
      RemovedBy receipt.trials (.instructionFeature "AVX") :=
    @label_mem_removedConstraints receipt (.instructionFeature "AVX")
  have removedAvx512 : "instruction-feature.AVX512F" ∈ receipt.removedConstraints ↔
      RemovedBy receipt.trials (.instructionFeature "AVX512F") :=
    @label_mem_removedConstraints receipt (.instructionFeature "AVX512F")
  simp only [removedWithFeature, Bool.or_eq_true, Bool.and_eq_true, decide_eq_true_eq,
    List.contains_iff_mem, avx, avx512, removedAvx, removedAvx512]
  constructor
  · rintro (⟨rfl, removed⟩ | ⟨rfl, removed⟩)
    · exact ⟨.instructionFeature "AVX", removed, by simp [TakesAlong, osStateRequiredFeature]⟩
    · exact ⟨.instructionFeature "AVX512F", removed, by simp [TakesAlong, osStateRequiredFeature]⟩
  · rintro ⟨feature, removed, takes⟩
    cases feature with
    | osEnabledState state => cases takes
    | processorIdentity => cases takes
    | instructionFeature feature =>
        cases constraint with
        | instructionFeature other => cases takes
        | processorIdentity => cases takes
        | osEnabledState state =>
            simp only [TakesAlong, osStateRequiredFeature, List.mem_cons, Prod.mk.injEq,
              List.not_mem_nil, or_false] at takes
            rcases takes with ⟨rfl, rfl⟩ | ⟨rfl, rfl⟩
            · exact .inl ⟨rfl, removed⟩
            · exact .inr ⟨rfl, removed⟩

/-- A capability is the one of exactly this constraint. -/
def NamesConstraint (capability : String) : ProcessorConstraint → Prop
  | .instructionFeature feature =>
      capability = "processor.feature." ++ normalizeName feature ∧
        restoreName (normalizeName feature) = feature
  | .osEnabledState state => capability = "processor.os-state." ++ state
  | .processorIdentity => startsWith capability "processor.identity." = true

theorem capabilityNameChar_of_validLowerIdentity {lead suffix : String}
    (valid : validLowerIdentity (lead ++ suffix) = true) :
    suffix.toList.all capabilityNameChar = true := by
  simp only [validLowerIdentity, Bool.and_eq_true, String.toList_append, List.all_append] at valid
  exact valid.2.2

/-- The constraint that the check looks for has the capability. -/
theorem exists_of_removedConstraintForCapability {capability label : String}
    (grammar : validLowerIdentity capability = true)
    (found : removedConstraintForCapability capability = some label) :
    ∃ constraint : ProcessorConstraint, label = constraint.label ∧
      NamesConstraint capability constraint := by
  rw [removedConstraintForCapability] at found
  split at found
  next suffix stripped =>
    obtain rfl := stripStart_eq_some.mp stripped
    obtain rfl := Option.some.inj found
    have spelled := normalizeName_restoreName (capabilityNameChar_of_validLowerIdentity grammar)
    refine ⟨.instructionFeature (restoreName suffix), rfl, ?_, ?_⟩
    · rw [spelled]
    · rw [spelled]
  next =>
    split at found
    next suffix stripped =>
      obtain rfl := stripStart_eq_some.mp stripped
      obtain rfl := Option.some.inj found
      exact ⟨.osEnabledState suffix, rfl, rfl⟩
    next =>
      split_ifs at found with begins
      obtain rfl := Option.some.inj found
      exact ⟨.processorIdentity, rfl, begins⟩

/-! ## Faithful transitions -/

/-- What a transition should say about the reduction behind it. -/
structure FaithfulReduction (sealed admitted : ReplayCapsule)
    (requirement : ProcessorRequirement) (receipt : ProcessorReductionReceipt) : Prop where
  equal : stripProcessorCapabilities sealed = stripProcessorCapabilities admitted
  trials : ∀ trial ∈ receipt.trials, ∃ constraint : ProcessorConstraint,
    trial.testedConstraint = constraint.label ∧
      (trial.decision = .removed → constraint.presentIn requirement = false) ∧
        (trial.decision = .retained → constraint.presentIn requirement = true)
  sealedBefore : ∀ capability ∈ admitted.requiredCapabilities,
    hostProcessorRequirement capability = true → capability ∈ sealed.requiredCapabilities
  justified : ∀ capability ∈ sealed.requiredCapabilities,
    hostProcessorRequirement capability = true → capability ∉ admitted.requiredCapabilities →
      ∃ constraint, NamesConstraint capability constraint ∧
        (RemovedBy receipt.trials constraint ∨ Cascaded receipt.trials constraint)

/-- A listed state has an underscore in its name. -/
def ListedWithUnderscore (requirement : ProcessorRequirement) : ProcessorConstraint → Prop
  | .osEnabledState state => state ∈ requirement.osEnabledStates ∧ '_' ∈ state.toList
  | _ => False

/-- The requirement does not list the name, but another one of the same spelling. -/
def ListedOtherwise (requirement : ProcessorRequirement) : ProcessorConstraint → Prop
  | .instructionFeature feature => feature ∉ requirement.instructionFeatures ∧
      ∃ other ∈ requirement.instructionFeatures, normalizeName other = normalizeName feature
  | .osEnabledState state => state ∉ requirement.osEnabledStates ∧
      ∃ other ∈ requirement.osEnabledStates, normalizeName other = state
  | .processorIdentity => False

/-- No trial misleads the check by its spelling. -/
def PlainlySpelled (requirement : ProcessorRequirement) (receipt : ProcessorReductionReceipt) :
    Prop :=
  ∀ trial ∈ receipt.trials, ∀ constraint : ProcessorConstraint,
    trial.testedConstraint = constraint.label →
      (trial.decision = .removed → ¬ ListedWithUnderscore requirement constraint) ∧
        (trial.decision = .retained → ¬ ListedOtherwise requirement constraint)

variable [Primitives] {sealed admitted : ReplayCapsule} {requirement : ProcessorRequirement}

namespace AcceptedReduction

variable (accepted : AcceptedReduction sealed admitted requirement receipt)
include accepted

/-- The processor capabilities of the admitted capsule are the expected ones. -/
theorem lead_append_mem_admitted {kind : CapabilityKind} {suffix : String} :
    kind.lead ++ suffix ∈ admitted.requiredCapabilities ↔
      kind.lead ++ suffix ∈ expectedCapabilities requirement receipt := by
  rw [← accepted.expected, List.mem_filter]
  exact ⟨fun member => ⟨member, CapabilityKind.startsWith_processor_or kind suffix⟩, And.left⟩

theorem mem_admitted_of_host {capability : String}
    (host : hostProcessorRequirement capability = true) :
    capability ∈ admitted.requiredCapabilities ↔
      capability ∈ expectedCapabilities requirement receipt := by
  obtain ⟨kind, suffix, -, rfl⟩ := CapabilityKind.of_hostProcessorRequirement host
  exact accepted.lead_append_mem_admitted

/-- The capsules are equal without their processor capabilities, unless their digests
collide. -/
theorem stripped_eq
    (noCollision : Digest.of (Canonical.text (stripProcessorCapabilities sealed)) =
      Digest.of (Canonical.text (stripProcessorCapabilities admitted)) →
        Canonical.text (stripProcessorCapabilities sealed) =
          Canonical.text (stripProcessorCapabilities admitted)) :
    stripProcessorCapabilities sealed = stripProcessorCapabilities admitted := by
  have same := noCollision accepted.stripped
  apply Canonical.bytes_injective
    (Canonical.bytes_of_exact (ReplayCapsule.exact accepted.validSealed.strip))
  rw [same]
  exact Canonical.bytes_of_exact (ReplayCapsule.exact accepted.validAdmitted.strip)

/-- A trial was checked by its spelling. -/
theorem trial {trial : ProcessorReductionTrial} (member : trial ∈ receipt.trials)
    {constraint : ProcessorConstraint} (label : trial.testedConstraint = constraint.label) :
    (trial.decision = .removed → ¬ SpelledIn requirement constraint) ∧
      (trial.decision = .retained → SpelledIn requirement constraint) := by
  obtain ⟨present, found, notRemoved, notRetained⟩ := accepted.trials trial member
  rw [label, constraintPresent_label] at found
  rw [← found.2]
  exact ⟨fun removed present => notRemoved ⟨removed, present⟩,
    fun retained => by simpa using fun absent => notRetained ⟨retained, absent⟩⟩

end AcceptedReduction

/-- What is listed is spelled, but for states with underscores. -/
theorem spelledIn_of_presentIn (valid : requirement.Valid)
    (present : constraint.presentIn requirement = true) :
    SpelledIn requirement constraint ∨ ListedWithUnderscore requirement constraint := by
  cases constraint with
  | instructionFeature feature =>
      exact .inl ⟨feature, List.contains_iff_mem.mp present, rfl⟩
  | processorIdentity => exact .inl present
  | osEnabledState state =>
      have listed := List.contains_iff_mem.mp present
      by_cases underscore : '_' ∈ state.toList
      · exact .inr ⟨listed, underscore⟩
      · have name := valid.state state listed
        simp only [Processor.validLowerIdentity, Bool.and_eq_true] at name
        exact .inl ⟨state, listed, normalizeName_of_state name.2 underscore⟩

/-- No state with an underscore is spelled. -/
theorem not_spelledIn_of_underscore (valid : requirement.Valid)
    (listed : ListedWithUnderscore requirement constraint) :
    ¬ SpelledIn requirement constraint := by
  cases constraint with
  | instructionFeature feature => cases listed
  | processorIdentity => cases listed
  | osEnabledState state =>
      rintro ⟨other, member, same⟩
      have name := valid.state other member
      simp only [Processor.validLowerIdentity, Bool.and_eq_true] at name
      have chars : other.toList.all nameChar = true :=
        List.all_eq_true.mpr fun c inside =>
          nameChar_of_stateChar (List.all_eq_true.mp name.2 c inside)
      exact underscore_not_mem_normalizeName chars (same ▸ listed.2)

/-- An accepted transition is faithful exactly when its names are plainly spelled, unless
the digests of the two capsules without their processor capabilities collide. -/
theorem faithfulReduction_iff (sealed admitted : ReplayCapsule)
    (requirement : ProcessorRequirement) (receipt : ProcessorReductionReceipt)
    (noCollision : Digest.of (Canonical.text (stripProcessorCapabilities sealed)) =
      Digest.of (Canonical.text (stripProcessorCapabilities admitted)) →
        Canonical.text (stripProcessorCapabilities sealed) =
          Canonical.text (stripProcessorCapabilities admitted))
    (accepted : validateProcessorReductionCapsuleBinding sealed admitted requirement receipt =
      .ok ()) :
    FaithfulReduction sealed admitted requirement receipt ↔ PlainlySpelled requirement receipt := by
  have accepted := validateProcessorReductionCapsuleBinding_eq_ok.mp accepted
  have valid := accepted.validRequirement
  constructor
  · intro faithful trial member constraint label
    obtain ⟨tested, same, removed, retained⟩ := faithful.trials trial member
    obtain rfl : tested = constraint := label_injective (same.symm.trans label)
    constructor
    · intro decision listed
      cases tested with
      | instructionFeature feature => cases listed
      | processorIdentity => cases listed
      | osEnabledState state =>
          have absent := removed decision
          rw [ProcessorConstraint.presentIn, List.contains_iff_mem.mpr listed.1] at absent
          cases absent
    · intro decision listed
      have present := retained decision
      cases tested with
      | instructionFeature feature => exact listed.1 (List.contains_iff_mem.mp present)
      | processorIdentity => cases listed
      | osEnabledState state => exact listed.1 (List.contains_iff_mem.mp present)
  · intro plain
    refine ⟨?_, ?_, ?_, ?_⟩
    · exact accepted.stripped_eq noCollision
    · intro trial member
      obtain ⟨constraint, label, -⟩ :=
        ProcessorReductionReceipt.exists_label accepted.validReceipt member
      have checked := accepted.trial member label
      obtain ⟨underscore, otherwise⟩ := plain trial member constraint label
      refine ⟨constraint, label, fun removed => ?_, fun retained => ?_⟩
      · rw [← Bool.not_eq_true]
        intro present
        rcases spelledIn_of_presentIn valid present with spelled | listed
        · exact checked.1 removed spelled
        · exact underscore removed listed
      · have spelled := checked.2 retained
        by_contra absent
        apply otherwise retained
        cases constraint with
        | instructionFeature feature =>
            exact ⟨fun listed => absent (List.contains_iff_mem.mpr listed), spelled⟩
        | processorIdentity => exact absent spelled
        | osEnabledState state =>
            exact ⟨fun listed => absent (List.contains_iff_mem.mpr listed), spelled⟩
    · intro capability member host
      exact accepted.declared capability ((accepted.mem_admitted_of_host host).mp member) host
    · intro capability listed host gone
      rw [accepted.mem_admitted_of_host host] at gone
      obtain ⟨label, found, explained⟩ := accepted.gone capability listed host gone
      have grammar := (accepted.validSealed.capabilityList.grammar capability listed).2.2
      obtain ⟨constraint, rfl, names⟩ := exists_of_removedConstraintForCapability grammar found
      refine ⟨constraint, names, ?_⟩
      rcases explained with removed | taken
      · exact .inl (label_mem_removedConstraints.mp removed)
      · exact .inr (removedWithFeature_label.mp taken)

omit [Primitives] in
theorem faithfulReduction_iff_feature :
    letI := Sample.marked
    FaithfulReduction Sample.sealedCapsule Sample.admittedCapsule Sample.reduced Sample.receipt ↔
      PlainlySpelled Sample.reduced Sample.receipt :=
  letI := Sample.marked
  @faithfulReduction_iff Sample.marked _ _ _ _
    (fun _ => congrArg Canonical.text Sample.strip_sealedCapsule)
    (validateProcessorReductionCapsuleBinding_eq_ok.mpr Sample.accepted_reduced)

omit [Primitives] in
/-- The check accepts a removed state that the requirement still lists. -/
theorem not_faithfulReduction_underscored :
    letI := Sample.marked
    validateProcessorReductionCapsuleBinding Sample.underscoreSealed Sample.underscoreAdmitted
        Sample.underscored Sample.underscoreReceipt = .ok () ∧
      ¬ FaithfulReduction Sample.underscoreSealed Sample.underscoreAdmitted Sample.underscored
        Sample.underscoreReceipt := by
  let _ := Sample.marked
  refine ⟨validateProcessorReductionCapsuleBinding_eq_ok.mpr Sample.accepted_underscored, ?_⟩
  intro faithful
  obtain ⟨constraint, label, removed, -⟩ :=
    faithful.trials Sample.underscoreTrial (List.mem_singleton.mpr rfl)
  obtain rfl : ProcessorConstraint.osEnabledState "a_b" = constraint := label_injective label
  have absent := removed rfl
  revert absent
  decide

end Reproit
