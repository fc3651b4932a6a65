/-
# The transition that the Runtime accepts

What the Runtime checks of a reduced capsule, with the capabilities of the requirement by
what they name.  A label stands for one constraint, and the check looks it up by its
spelling in a capability.
-/

import Reproit.Processor.Capabilities
import Reproit.Processor.Visit

namespace Reproit

open Backend

/-! ## Capabilities of a capsule -/

/-- The capability satisfies the grammar of capsules. -/
def Grammatical (capability : String) : Prop :=
  capability.isEmpty = false ∧ capability.utf8ByteSize ≤ 128 ∧
    validLowerIdentity capability = true

/-- What a list of capabilities satisfies. -/
structure ValidCapabilities (capabilities : List String) : Prop where
  length_le : capabilities.length ≤ 64
  sorted : capabilities.Pairwise (· < ·)
  grammar : ∀ capability ∈ capabilities, Grammatical capability

theorem validateCapabilities_eq_ok {capabilities : List String} :
    validateCapabilities capabilities = .ok () ↔ ValidCapabilities capabilities := by
  simp only [validateCapabilities, bind_eq_ok, rejectIf_eq_ok]
  constructor
  · rintro ⟨_, few, _, sorted, grammar⟩
    push Not at few grammar
    exact ⟨few, (requireStrictOrder_eq_ok _).mp sorted,
      fun capability member => by simpa [Grammatical] using grammar capability member⟩
  · intro valid
    refine ⟨(), ?_, (), (requireStrictOrder_eq_ok _).mpr valid.sorted, ?_⟩
    · push Not
      exact valid.length_le
    · push Not
      exact fun capability member => by
        simpa [Grammatical] using valid.grammar capability member

theorem ValidCapabilities.sublist {capabilities part : List String}
    (valid : ValidCapabilities capabilities) (within : part.Sublist capabilities) :
    ValidCapabilities part where
  length_le := within.length_le.trans valid.length_le
  sorted := valid.sorted.sublist within
  grammar := fun capability member => valid.grammar capability (within.subset member)

namespace ReplayCapsule

variable {capsule : ReplayCapsule}

theorem Valid.capabilityList (valid : capsule.Valid) :
    ValidCapabilities capsule.requiredCapabilities :=
  validateCapabilities_eq_ok.mp valid.capabilities

/-- Capabilities of a valid capsule may be changed. -/
theorem Valid.withCapabilities (valid : capsule.Valid) {capabilities : List String}
    (capable : ValidCapabilities capabilities) :
    { capsule with requiredCapabilities := capabilities }.Valid where
  nonempty := valid.nonempty
  count := valid.count
  suite := valid.suite
  profile := valid.profile
  profileFormat := valid.profileFormat
  objects := valid.objects
  shape := valid.shape
  subject := valid.subject
  artifactDigest := valid.artifactDigest
  artifactMediaType := valid.artifactMediaType
  ordered := valid.ordered
  capabilities := validateCapabilities_eq_ok.mpr capable

theorem Valid.strip (valid : capsule.Valid) : (stripProcessorCapabilities capsule).Valid :=
  valid.withCapabilities (valid.capabilityList.sublist List.filter_sublist)

end ReplayCapsule

/-! ## Labels -/

namespace Backend.ProcessorConstraint

/-- The name in a constraint can stand in a label. -/
def Named : ProcessorConstraint → Prop
  | .instructionFeature feature =>
      feature.isEmpty = false ∧ feature.toList.all Processor.featureChar = true
  | .osEnabledState state => Processor.validLowerIdentity state = true
  | .processorIdentity => True

end Backend.ProcessorConstraint

/-- A label stands for a constraint. -/
theorem exists_of_validTestedConstraint {label : String}
    (valid : ProcessorReductionReceipt.validTestedConstraint label = true) :
    ∃ constraint : ProcessorConstraint, label = constraint.label ∧ constraint.Named := by
  rw [ProcessorReductionReceipt.validTestedConstraint] at valid
  split_ifs at valid with long identity
  · exact ⟨.processorIdentity, identity, trivial⟩
  · split at valid
    next feature found =>
      rw [Bool.and_eq_true, Bool.not_eq_true'] at valid
      exact ⟨.instructionFeature feature, stripStart_eq_some.mp found, valid⟩
    next =>
      obtain ⟨state, found, named⟩ := Option.any_eq_true _ _ |>.mp valid
      exact ⟨.osEnabledState state, stripStart_eq_some.mp found, named⟩

/-- The trials of a valid receipt test constraints. -/
theorem ProcessorReductionReceipt.exists_label {receipt : ProcessorReductionReceipt}
    (valid : receipt.validate = .ok ()) {trial : ProcessorReductionTrial}
    (member : trial ∈ receipt.trials) :
    ∃ constraint : ProcessorConstraint, trial.testedConstraint = constraint.label ∧
      constraint.Named := by
  simp only [validate, bind_eq_ok, rejectIf_eq_ok, forEach_eq_ok] at valid
  obtain ⟨_, -, checks⟩ := valid
  obtain ⟨index, small, rfl⟩ := List.mem_iff_getElem.mp member
  have listed : (receipt.trials[index], index) ∈ receipt.trials.zipIdx :=
    List.mk_mem_zipIdx_iff_getElem?.mpr (List.getElem?_eq_getElem small)
  have named := checks _ listed
  push Not at named
  exact exists_of_validTestedConstraint named.2.1

variable [Primitives]

/-! ## What the check expects -/

def reductionCapability (receipt : ProcessorReductionReceipt) : String :=
  CapabilityKind.reduction.lead ++ digestSuffix (Digest.of (Canonical.text receipt))

/-- The processor capabilities of an accepted capsule. -/
def expectedCapabilities (requirement : ProcessorRequirement)
    (receipt : ProcessorReductionReceipt) : List String :=
  (boundCapabilities requirement ++ [reductionCapability receipt]).insertionSort (· ≤ ·)

theorem processorReductionCapability_eq_ok {receipt : ProcessorReductionReceipt}
    {capability : String} :
    processorReductionCapability receipt = .ok capability ↔
      receipt.validate = .ok () ∧ reductionCapability receipt = capability := by
  simp only [processorReductionCapability, bind_eq_ok, ProcessorReductionReceipt.digest,
    Except.ok.injEq, pure_eq_ok]
  constructor
  · rintro ⟨_, valid, _, rfl, rfl⟩
    exact ⟨valid, rfl⟩
  · rintro ⟨valid, rfl⟩
    exact ⟨(), valid, _, rfl, rfl⟩

variable {requirement : ProcessorRequirement} {receipt : ProcessorReductionReceipt}

theorem mem_expectedCapabilities {capability : String} :
    capability ∈ expectedCapabilities requirement receipt ↔
      capability ∈ boundCapabilities requirement ∨ capability = reductionCapability receipt := by
  rw [expectedCapabilities, List.mem_insertionSort, List.mem_append, List.mem_singleton]

/-- The capabilities that hosts declare are those of the requirement. -/
theorem lead_append_mem_expectedCapabilities {kind : CapabilityKind} {suffix : String}
    (declarable : kind.declarable = true) :
    kind.lead ++ suffix ∈ expectedCapabilities requirement receipt ↔
      requirement.NamesSuffix kind suffix := by
  rw [mem_expectedCapabilities, lead_append_mem_boundCapabilities, reductionCapability,
    CapabilityKind.lead_append_inj]
  constructor
  · rintro (named | ⟨rfl, -⟩)
    · exact named
    · cases declarable
  · exact .inl

/-- The requirement names a capability that is spelled as the constraint. -/
def SpelledIn (requirement : ProcessorRequirement) : ProcessorConstraint → Prop
  | .instructionFeature feature => requirement.NamesSuffix .feature (normalizeName feature)
  | .osEnabledState state => requirement.NamesSuffix .osState state
  | .processorIdentity => requirement.identity.isSome = true

/-- The name of a feature can be spelled. -/
def SpellableConstraint : ProcessorConstraint → Prop
  | .instructionFeature feature => Spellable feature
  | _ => True

theorem constraintPresent_label {constraint : ProcessorConstraint} {present : Bool} :
    constraintPresent constraint.label (expectedCapabilities requirement receipt) = .ok present ↔
      SpellableConstraint constraint ∧ (present = true ↔ SpelledIn requirement constraint) := by
  cases constraint with
  | instructionFeature feature =>
      have named : CapabilityKind.feature.lead ++ normalizeName feature ∈
          expectedCapabilities requirement receipt ↔
            SpelledIn requirement (.instructionFeature feature) :=
        lead_append_mem_expectedCapabilities rfl
      change constraintPresent ("instruction-feature." ++ feature) _ = _ ↔ _
      rw [constraintPresent, stripStart_append, ← named]
      simp only [bind_eq_ok, normalizeProcessorName_eq_ok, pure_eq_ok]
      constructor
      · rintro ⟨_, ⟨spellable, rfl⟩, rfl⟩
        exact ⟨spellable, decide_eq_true_iff⟩
      · rintro ⟨spellable, present⟩
        exact ⟨_, ⟨spellable, rfl⟩, Bool.eq_iff_iff.mpr (decide_eq_true_iff.trans present.symm)⟩
  | osEnabledState state =>
      have named : CapabilityKind.osState.lead ++ state ∈
          expectedCapabilities requirement receipt ↔
            SpelledIn requirement (.osEnabledState state) :=
        lead_append_mem_expectedCapabilities rfl
      change constraintPresent ("os-enabled-state." ++ state) _ = _ ↔ _
      rw [constraintPresent, stripStart_append_of_clash (by decide), stripStart_append, ← named]
      simp only [pure_eq_ok]
      constructor
      · rintro rfl
        exact ⟨trivial, decide_eq_true_iff⟩
      · rintro ⟨-, present⟩
        exact Bool.eq_iff_iff.mpr (decide_eq_true_iff.trans present.symm)
  | processorIdentity =>
      have named : ((expectedCapabilities requirement receipt).any fun value =>
          startsWith value CapabilityKind.identity.lead) = true ↔
            SpelledIn requirement .processorIdentity := by
        rw [List.any_eq_true]
        constructor
        · rintro ⟨value, member, begins⟩
          obtain ⟨suffix, rfl⟩ := startsWith_iff.mp begins
          obtain ⟨identity, given, -⟩ := (lead_append_mem_expectedCapabilities rfl).mp member
          exact Option.isSome_iff_exists.mpr ⟨identity, given⟩
        · intro given
          obtain ⟨identity, given⟩ := Option.isSome_iff_exists.mp given
          have names : requirement.NamesSuffix .identity (encodeIdentityToken identity) :=
            ⟨identity, given, rfl⟩
          exact ⟨_, (lead_append_mem_expectedCapabilities rfl).mpr names, startsWith_append _ _⟩
      change constraintPresent "processor-identity" _ = _ ↔ _
      rw [constraintPresent, stripStart_eq_none (by decide), stripStart_eq_none (by decide), ← named]
      simp only [pure_eq_ok, if_true]
      constructor
      · rintro rfl
        exact ⟨trivial, Iff.rfl⟩
      · rintro ⟨-, present⟩
        exact Bool.eq_iff_iff.mpr present.symm

/-! ## The check -/

/-- A state that is gone with a removed feature, by its label. -/
def removedOrTaken (label : String) (removed : List String) : Prop :=
  label ∈ removed ∨ removedWithFeature label removed = true

/-- What the Runtime accepts. -/
structure AcceptedReduction (sealed admitted : ReplayCapsule)
    (requirement : ProcessorRequirement) (receipt : ProcessorReductionReceipt) : Prop where
  validSealed : sealed.Valid
  validAdmitted : admitted.Valid
  validRequirement : requirement.Valid
  nameable : Nameable requirement
  validReceipt : receipt.validate = .ok ()
  final : receipt.finalRequirementDigest = Digest.of (Canonical.text requirement)
  stripped : Digest.of (Canonical.text (stripProcessorCapabilities sealed)) =
    Digest.of (Canonical.text (stripProcessorCapabilities admitted))
  expected : (admitted.requiredCapabilities.filter fun capability =>
    startsWith capability "architecture." || startsWith capability "processor.") =
      expectedCapabilities requirement receipt
  declared : ∀ capability ∈ expectedCapabilities requirement receipt,
    hostProcessorRequirement capability = true → capability ∈ sealed.requiredCapabilities
  gone : ∀ capability ∈ sealed.requiredCapabilities, hostProcessorRequirement capability = true →
    capability ∉ expectedCapabilities requirement receipt →
      ∃ label, removedConstraintForCapability capability = some label ∧
        removedOrTaken label receipt.removedConstraints
  trials : ∀ trial ∈ receipt.trials, ∃ present,
    constraintPresent trial.testedConstraint (expectedCapabilities requirement receipt) =
      .ok present ∧ ¬ (trial.decision = .removed ∧ present = true) ∧
        ¬ (trial.decision = .retained ∧ present = false)

theorem capsulesEqualExceptProcessorCapabilities_of_valid {sealed admitted : ReplayCapsule}
    (validSealed : sealed.Valid) (validAdmitted : admitted.Valid) :
    capsulesEqualExceptProcessorCapabilities sealed admitted =
      .ok (decide (Digest.of (Canonical.text (stripProcessorCapabilities sealed)) =
        Digest.of (Canonical.text (stripProcessorCapabilities admitted)))) := by
  rw [capsulesEqualExceptProcessorCapabilities,
    Canonical.digest_of_exact (ReplayCapsule.exact validSealed.strip),
    Canonical.digest_of_exact (ReplayCapsule.exact validAdmitted.strip)]
  rfl

omit [Primitives] in
/-- A declared capability is expected, or its absence is explained. -/
theorem explained_eq_ok {capability : String} {expected removed : List String} :
    (if capability ∈ expected then pure ()
      else do
        let constraint ← okOr (removedConstraintForCapability capability) Error.schemaInvalid
        rejectIf (constraint ∉ removed ∧ ¬ removedWithFeature constraint removed)
          Error.schemaInvalid : Result Unit) = .ok () ↔
      (capability ∉ expected → ∃ label, removedConstraintForCapability capability = some label ∧
        removedOrTaken label removed) := by
  split_ifs with listed
  · simp [listed]
  · simp only [bind_eq_ok, okOr_eq_ok, rejectIf_eq_ok, removedOrTaken, listed, not_false_eq_true,
      true_implies]
    refine exists_congr fun label => and_congr_right fun _ => ?_
    tauto

theorem validateProcessorReductionCapsuleBinding_eq_ok {sealed admitted : ReplayCapsule} :
    validateProcessorReductionCapsuleBinding sealed admitted requirement receipt = .ok () ↔
      AcceptedReduction sealed admitted requirement receipt := by
  simp only [validateProcessorReductionCapsuleBinding, bind_eq_ok, ProcessorRequirement.digest,
    Except.ok.injEq, rejectIf_eq_ok, forEach_eq_ok, processorRequirementCapabilities_eq_ok,
    processorReductionCapability_eq_ok, explained_eq_ok]
  constructor
  · rintro ⟨_, sealedValid, _, admittedValid, _, -, _, receiptValid, _, rfl, _, final, _, equal, _,
      same, _, ⟨requirementValid, nameable, rfl⟩, _, ⟨-, rfl⟩, _, expected, _, declared, _, gone,
      trials⟩
    have validSealed := ReplayCapsule.validate_eq_ok.mp sealedValid
    have validAdmitted := ReplayCapsule.validate_eq_ok.mp admittedValid
    rw [capsulesEqualExceptProcessorCapabilities_of_valid validSealed validAdmitted] at equal
    obtain rfl := Except.ok.inj equal
    refine ⟨validSealed, validAdmitted, requirementValid, nameable, receiptValid, not_not.mp final,
      by simpa using same, not_not.mp expected, ?_, ?_, ?_⟩
    · intro capability listed host
      push Not at declared
      exact List.mem_of_mem_filter (declared capability (List.mem_filter.mpr ⟨listed, host⟩))
    · intro capability listed host
      exact gone capability (List.mem_filter.mpr ⟨listed, host⟩)
    · intro trial member
      obtain ⟨present, found, fits⟩ := trials trial member
      rw [not_or, Bool.not_eq_true] at fits
      exact ⟨present, found, fits⟩
  · intro accepted
    refine ⟨(), ReplayCapsule.validate_eq_ok.mpr accepted.validSealed, (),
      ReplayCapsule.validate_eq_ok.mpr accepted.validAdmitted, (),
      ProcessorRequirement.validate_eq_ok.mpr accepted.validRequirement, (), accepted.validReceipt,
      _, rfl, (), not_not.mpr accepted.final, _,
      capsulesEqualExceptProcessorCapabilities_of_valid accepted.validSealed accepted.validAdmitted,
      (), by simpa using accepted.stripped, _,
      ⟨accepted.validRequirement, accepted.nameable, rfl⟩, _, ⟨accepted.validReceipt, rfl⟩, (),
      not_not.mpr accepted.expected, (), ?_, (), ?_, ?_⟩
    · push Not
      intro capability listed
      obtain ⟨listed, host⟩ := List.mem_filter.mp listed
      exact List.mem_filter.mpr ⟨accepted.declared capability listed host, host⟩
    · intro capability listed
      obtain ⟨listed, host⟩ := List.mem_filter.mp listed
      exact accepted.gone capability listed host
    · intro trial member
      obtain ⟨present, found, fits⟩ := accepted.trials trial member
      refine ⟨present, found, ?_⟩
      rw [not_or, Bool.not_eq_true]
      exact fits

end Reproit
