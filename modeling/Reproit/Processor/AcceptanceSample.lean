/-
# Accepted transitions

The capsule of a small capture with the capabilities of one requirement, before and after
the reduction of its one feature; and a receipt that removes a state with an underscore
which its requirement still lists.
-/

import Reproit.Backend.AdmissionSample
import Reproit.Processor.Rebinding
import Reproit.Processor.Sample

namespace Reproit.Backend.Sample

variable [Primitives]

/-- The capabilities that the small capture has of its own. -/
def ownCapabilities : List String :=
  ["abi.sysv-x86-64", "debugger.gdb-remote", "executor.linux-native", "operating-system.linux",
    "world.checkpoint"]

/-- The small capture with some capabilities. -/
def capsuleWith (capabilities : List String) : ReplayCapsule :=
  { capsule single 0 with requiredCapabilities := capabilities }

omit [Primitives] in
theorem foreign_ownCapabilities : Foreign ownCapabilities := by
  unfold Foreign
  decide

omit [Primitives] in
theorem grammatical_ownCapabilities : ∀ capability ∈ ownCapabilities, Grammatical capability := by
  unfold Grammatical
  decide

/-- A capsule with the capabilities of a requirement with few names. -/
theorem valid_besideBound {requirement : ProcessorRequirement} (nameable : Nameable requirement)
    (anonymous : requirement.identity = none)
    (few : requirement.instructionFeatures.length + requirement.osEnabledStates.length ≤ 8) :
    ValidCapabilities (besideBound ownCapabilities requirement) ∧
      (besideBound ownCapabilities requirement).length ≤ 16 := by
  have length : (besideBound ownCapabilities requirement).length ≤ 16 := by
    refine (length_sortDedup_le _).trans ?_
    rw [List.length_append]
    have bound : (boundCapabilities requirement).length ≤ 10 := by
      refine (length_sortDedup_le _).trans ?_
      simp only [anonymous, List.length_cons, List.length_append, List.length_map, Option.map_none,
        Option.toList_none, List.length_nil]
      omega
    exact (Nat.add_le_add_left bound 5).trans (by decide)
  refine ⟨⟨length.trans (by decide), pairwise_sortDedup _, ?_⟩, length⟩
  intro capability member
  rcases mem_besideBound.mp member with own | bound
  · exact grammatical_ownCapabilities capability own
  · refine grammatical_of_mem_boundCapabilities nameable ?_ bound
    rw [anonymous]
    nofun

theorem valid_besideReduced {requirement : ProcessorRequirement} (nameable : Nameable requirement)
    (anonymous : requirement.identity = none)
    (few : requirement.instructionFeatures.length + requirement.osEnabledStates.length ≤ 8)
    (receipt : ProcessorReductionReceipt) :
    ValidCapabilities (besideReduced ownCapabilities requirement receipt) := by
  obtain ⟨valid, length⟩ := valid_besideBound nameable anonymous few
  refine ⟨?_, pairwise_sortDedup _, ?_⟩
  · refine (length_sortDedup_le _).trans ?_
    rw [List.length_append]
    exact (Nat.add_le_add_right length 1).trans (by decide)
  · intro capability member
    rw [besideReduced, mem_sortDedup, List.mem_append, List.mem_singleton] at member
    rcases member with bound | rfl
    · exact valid.grammar capability bound
    · exact grammatical_reductionCapability receipt

theorem valid_capsuleWith {capabilities : List String} (valid : ValidCapabilities capabilities) :
    (capsuleWith capabilities).Valid :=
  (ReplayCapsule.validate_eq_ok.mp (validate_capsule validate_single storable_single.mediaTypes
    (Nat.zero_le _))).withCapabilities valid

/-! ## The removed feature -/

def sealedCapsule : ReplayCapsule := capsuleWith (besideBound ownCapabilities requirement)

def admittedCapsule : ReplayCapsule :=
  capsuleWith (besideReduced ownCapabilities reduced receipt)

theorem strip_sealedCapsule :
    stripProcessorCapabilities sealedCapsule = stripProcessorCapabilities admittedCapsule := by
  have strip : ∀ capabilities, stripProcessorCapabilities (capsuleWith capabilities) =
      capsuleWith (capabilities.filter fun capability => !startsWith capability "processor.") :=
    fun _ => rfl
  have architecture : reduced.architecture = requirement.architecture := rfl
  rw [sealedCapsule, admittedCapsule, strip, strip,
    @filter_besideBound_eq _ requirement reduced receipt ownCapabilities architecture]

omit [Primitives] in
theorem nameable_requirement : Nameable requirement := by
  constructor
  · intro feature member
    obtain rfl := List.mem_singleton.mp member
    exact ⟨by decide, by decide, by decide⟩
  · intro state member
    obtain rfl := List.mem_singleton.mp member
    exact ⟨by decide, by decide, by decide⟩

omit [Primitives] in
theorem nameable_reduced : Nameable reduced := ⟨nofun, nofun⟩

theorem accepted_reduced : AcceptedReduction sealedCapsule admittedCapsule reduced receipt := by
  apply acceptedReduction_of_part
  · exact valid_capsuleWith (valid_besideBound nameable_requirement rfl (by decide)).1
  · exact valid_capsuleWith (valid_besideReduced nameable_reduced rfl (by decide) _)
  · exact foreign_ownCapabilities
  · exact ProcessorRequirement.validate_eq_ok.mp validate_reduced
  · exact nameable_reduced
  · exact validate_receipt
  · rfl
  · rfl
  · intro kind suffix declarable names
    cases kind with
    | architecture => exact names
    | feature => obtain ⟨_, member, _⟩ := names; cases member
    | identity => obtain ⟨_, member, _⟩ := names; cases member
    | osState => obtain ⟨_, member, _⟩ := names; cases member
    | reduction => cases declarable
    | requirement => cases declarable
  · intro kind suffix declarable names absent
    cases kind with
    | architecture => exact absurd names absent
    | feature =>
        obtain ⟨_, member, rfl⟩ := names
        obtain rfl := List.mem_singleton.mp member
        refine ⟨"instruction-feature.AVX", by decide, .inl ?_⟩
        exact List.mem_singleton.mpr rfl
    | identity => obtain ⟨_, member, _⟩ := names; cases member
    | osState =>
        obtain ⟨_, member, rfl⟩ := names
        obtain rfl := List.mem_singleton.mp member
        exact ⟨"os-enabled-state.xcr0.avx", by decide, .inr rfl⟩
    | reduction => cases declarable
    | requirement => cases declarable
  · intro entry member
    obtain rfl := List.mem_singleton.mp member
    refine ⟨.instructionFeature "AVX", rfl, ⟨by decide, by decide, by decide⟩, ?_, nofun⟩
    rintro - ⟨_, member, _⟩
    cases member

/-- The capture whose capsule was sealed with the captured requirement. -/
def sealedInput : AdmissionInput :=
  { admissionInput single ⟨∅⟩ identity with capsule := sealedCapsule }

omit [Primitives] in
theorem observes : observationFromCapturedCapabilities .x86_64 captured = .ok observation := by
  have features : (captured.filterMap fun capability =>
      stripStart capability "processor.feature.") = ["avx"] := by decide
  have states : (captured.filterMap fun capability =>
      stripStart capability "processor.os-state.") = ["xcr0.avx"] := by decide
  have tokens : (captured.filterMap fun capability =>
      stripStart capability "processor.identity.") = [] := by decide
  have valid : observation.validate = .ok () := by
    rw [ProcessorObservation.validate, validateProcessorView_eq_ok]
    exact ⟨by decide, by decide, by decide, by decide, by decide, by decide, by decide, by simp [observation]⟩
  rw [observationFromCapturedCapabilities, features, states, tokens]
  change (do observation.validate; return observation) = _
  rw [valid]
  rfl

omit [Primitives] in
theorem initial : initialProcessorRequirement observation = .ok requirement := by
  change (do requirement.validate; return requirement) = _
  rw [validate_requirement]
  rfl

omit [Primitives] in
/-- The capabilities of the capsule before it was bound. -/
theorem processorless_ownCapabilities : processorless ownCapabilities = ownCapabilities := by
  decide

theorem binds : bindCapsuleProcessorRequirement (capsuleWith ownCapabilities) requirement =
    .ok sealedCapsule := by
  obtain ⟨valid, few⟩ := valid_besideBound nameable_requirement rfl (by decide)
  rw [bindCapsuleProcessorRequirement_eq_ok]
  refine ⟨besideBound ownCapabilities requirement, ?_, rfl⟩
  have own : (capsuleWith ownCapabilities).requiredCapabilities = ownCapabilities := rfl
  rw [own, processorCapabilities_eq_ok, processorless_ownCapabilities]
  exact ⟨ProcessorRequirement.validate_eq_ok.mp validate_requirement, nameable_requirement,
    few.trans (by decide), rfl⟩

theorem requiredCapabilities_sealedInput :
    sealedInput.capsule.requiredCapabilities = besideBound ownCapabilities requirement := by
  simp only [sealedInput, sealedCapsule, capsuleWith]

/-- The capabilities of the sealed capsule with those of another requirement. -/
theorem rebinds_capabilities {other : ProcessorRequirement} (valid : other.Valid)
    (nameable : Nameable other) (anonymous : other.identity = none)
    (few : other.instructionFeatures.length + other.osEnabledStates.length ≤ 8) :
    processorCapabilities sealedInput.capsule.requiredCapabilities other =
      .ok (besideBound ownCapabilities other) := by
  have same : besideBound (processorless (besideBound ownCapabilities requirement)) other =
      besideBound ownCapabilities other := besideBound_processorless foreign_ownCapabilities
  rw [requiredCapabilities_sealedInput, processorCapabilities_eq_ok]
  refine ⟨valid, nameable, ?_, same⟩
  rw [same]
  exact (valid_besideBound nameable anonymous few).2.trans (by decide)

theorem withCapabilities_sealedInput (capabilities : List String) :
    sealedInput.withCapabilities capabilities =
      { sealedInput with capsule := capsuleWith capabilities } := rfl

theorem rebinds : bindProcessorReduction reduced receipt sealedInput =
    .ok () { sealedInput with capsule := admittedCapsule } := by
  rw [bindProcessorReduction_eq_ok]
  refine ⟨rfl, _, rebinds_capabilities (ProcessorRequirement.validate_eq_ok.mp validate_reduced)
    nameable_reduced rfl (by decide), validate_receipt, withCapabilities_sealedInput _, ?_⟩
  exact ReplayCapsule.validate_eq_ok.mpr
    (valid_capsuleWith (valid_besideReduced nameable_reduced rfl (by decide) _))

/-- A receipt with a trial that is out of order. -/
def refusedReceipt : ProcessorReductionReceipt :=
  { receipt with trials := [{ trial with trialIndex := 1 }] }

/-- The capsule is bound before the receipt is refused. -/
theorem refuses : bindProcessorReduction reduced refusedReceipt sealedInput =
    .error .schemaInvalid (sealedInput.withCapabilities (besideBound ownCapabilities reduced)) := by
  have found := rebinds_capabilities (ProcessorRequirement.validate_eq_ok.mp validate_reduced)
    nameable_reduced rfl (by decide)
  have refused : processorReductionCapability refusedReceipt = .error .schemaInvalid := rfl
  rw [bindProcessorReduction]
  refine Update.bind_eq_error.mpr (.inr ⟨_, _, Update.attempt_eq_ok.mpr
    ⟨ProcessorRequirement.digest _, rfl⟩, ?_⟩)
  refine Update.bind_eq_error.mpr (.inr ⟨(), _, Update.attempt_eq_ok.mpr
    ⟨rejectIf_of_not _ (not_not.mpr rfl), rfl⟩, ?_⟩)
  refine Update.bind_eq_error.mpr (.inr ⟨(), _, bindProcessorRequirement_eq_ok.mpr
    ⟨_, found, rfl⟩, ?_⟩)
  exact Update.bind_eq_error.mpr (.inl (Update.attempt_eq_error.mpr ⟨refused, rfl⟩))

theorem capsule_withCapabilities_ne :
    (sealedInput.withCapabilities (besideBound ownCapabilities reduced)).capsule ≠
      sealedInput.capsule := by
  intro unchanged
  have same := congrArg ReplayCapsule.requiredCapabilities unchanged
  rw [requiredCapabilities_sealedInput, AdmissionInput.withCapabilities] at same
  dsimp only at same
  have listed : CapabilityKind.feature.lead ++ "avx" ∈ besideBound ownCapabilities requirement := by
    refine mem_besideBound.mpr (.inr (lead_append_mem_boundCapabilities.mpr ?_))
    exact ⟨"AVX", List.mem_cons_self, by decide⟩
  rw [← same] at listed
  rcases mem_besideBound.mp listed with own | bound
  · exact lead_append_not_mem foreign_ownCapabilities _ _ own
  · obtain ⟨feature, member, -⟩ := lead_append_mem_boundCapabilities.mp bound
    cases member

/-! ## The state with an underscore -/

def underscored : ProcessorRequirement :=
  { requirement with instructionFeatures := [], osEnabledStates := ["a_b"] }

def underscoreTrial : ProcessorReductionTrial :=
  { trial with testedConstraint := "os-enabled-state.a_b" }

def underscoreReceipt : ProcessorReductionReceipt :=
  { receipt with
    finalRequirementDigest := Digest.of (Canonical.text underscored)
    trials := [underscoreTrial] }

def underscoreSealed : ReplayCapsule := capsuleWith (besideBound ownCapabilities underscored)

def underscoreAdmitted : ReplayCapsule :=
  capsuleWith (besideReduced ownCapabilities underscored underscoreReceipt)

omit [Primitives] in
theorem nameable_underscored : Nameable underscored := by
  constructor
  · exact nofun
  · intro state member
    obtain rfl := List.mem_singleton.mp member
    exact ⟨by decide, by decide, by decide⟩

theorem validate_underscoreReceipt : underscoreReceipt.validate = .ok () := by
  simp only [ProcessorReductionReceipt.validate, bind_eq_ok, rejectIf_eq_ok, forEach_eq_ok]
  refine ⟨(), by simp [underscoreReceipt], ?_⟩
  intro entry member
  obtain rfl := List.mem_singleton.mp member
  have label : ProcessorReductionReceipt.validTestedConstraint "os-enabled-state.a_b" = true := by
    decide
  simp [underscoreReceipt, underscoreTrial, trial, label]

/-- The trial removes a state that is still listed. -/
theorem accepted_underscored :
    AcceptedReduction underscoreSealed underscoreAdmitted underscored underscoreReceipt := by
  apply acceptedReduction_of_part
  · exact valid_capsuleWith (valid_besideBound nameable_underscored rfl (by decide)).1
  · exact valid_capsuleWith (valid_besideReduced nameable_underscored rfl (by decide) _)
  · exact foreign_ownCapabilities
  · exact ⟨by decide, by decide, by decide, nofun, by decide, .nil, by decide, nofun⟩
  · exact nameable_underscored
  · exact validate_underscoreReceipt
  · rfl
  · rfl
  · exact fun _ _ _ names => names
  · exact fun _ _ _ names absent => absurd names absent
  · intro entry member
    obtain rfl := List.mem_singleton.mp member
    refine ⟨.osEnabledState "a_b", rfl, trivial, ?_, nofun⟩
    rintro - ⟨state, member, same⟩
    obtain rfl := List.mem_singleton.mp member
    revert same
    decide

end Reproit.Backend.Sample
