/-
# Processor documents

Requirements, observations and receipts always have canonical bytes, since their
integers have at most 32 bits.  Their validators say what their names are made of, and
the capabilities of a requirement are listed by what they name.
-/

import Reproit.Core.Exactness
import Reproit.Core.Model.ProcessorBinding

namespace Reproit

open Document

/-! ## Canonical bytes -/

theorem ProcessorIdentity.exact (identity : ProcessorIdentity) :
    codec.exact identity = true := by
  cases identity with
  | arm identity => simp [codec, ArmProcessorIdentity.codec, Format.codec]
  | x86 identity => simp [codec, X86ProcessorIdentity.codec, Format.codec]

theorem ProcessorIdentity.exact_all (identity : Option ProcessorIdentity) :
    identity.all codec.exact = true := by
  cases identity with
  | none => rfl
  | some identity => exact identity.exact

theorem ProcessorObservation.exact (observation : ProcessorObservation) : Exact observation := by
  have identity := ProcessorIdentity.exact_all observation.identity
  change codec.exact observation = true
  simp [codec, ProcessorArchitecture.codec, Format.codec, identity]

theorem ProcessorRequirement.exact (requirement : ProcessorRequirement) : Exact requirement := by
  have identity := ProcessorIdentity.exact_all requirement.identity
  change codec.exact requirement = true
  simp [codec, ProcessorArchitecture.codec, Format.codec, identity]

theorem ProcessorReductionReceipt.exact (receipt : ProcessorReductionReceipt) :
    Exact receipt := by
  change codec.exact receipt = true
  simp [codec, ProcessorReductionTrial.codec, ProcessorReductionDecision.codec,
    ProcessorTrialEvidenceKind.codec, ExecutionOutcome.codec,
    ProcessorReductionTerminalReason.codec, Format.codec, Digest.codec]

variable [Primitives]

theorem ProcessorObservation.digest (observation : ProcessorObservation) :
    Canonical.digest observation = .ok (Digest.of (Canonical.text observation)) :=
  Canonical.digest_of_exact observation.exact

theorem ProcessorRequirement.digest (requirement : ProcessorRequirement) :
    Canonical.digest requirement = .ok (Digest.of (Canonical.text requirement)) :=
  Canonical.digest_of_exact requirement.exact

theorem ProcessorReductionReceipt.digest (receipt : ProcessorReductionReceipt) :
    Canonical.digest receipt = .ok (Digest.of (Canonical.text receipt)) :=
  Canonical.digest_of_exact receipt.exact

/-! ## Valid views -/

/-- An identity belongs to an architecture. -/
def ProcessorIdentity.Fits (architecture : ProcessorArchitecture) :
    ProcessorIdentity → Prop
  | .arm identity => architecture = .arm64 ∧
      ∀ value ∈ [identity.implementer, identity.part, identity.revision, identity.variant],
        Processor.validProcessorIdentityValue value = true
  | .x86 identity => architecture = .x86_64 ∧
      Processor.validProcessorIdentityValue identity.vendor = true ∧
        Processor.validProcessorIdentityValue identity.microcode = true

/-- What the validator of observations and requirements demands. -/
structure ValidView (abi : String) (architecture : ProcessorArchitecture)
    (identity : Option ProcessorIdentity) (features states : List String) : Prop where
  abi : abi.isEmpty = false ∧ abi.utf8ByteSize ≤ 128
  featuresLength : features.length ≤ 256
  statesLength : states.length ≤ 64
  feature : ∀ feature ∈ features, feature.isEmpty = false ∧ feature.utf8ByteSize ≤ 128 ∧
    feature.toList.all Processor.featureChar = true
  state : ∀ state ∈ states, Processor.validLowerIdentity state = true
  featuresSorted : features.Pairwise (· < ·)
  statesSorted : states.Pairwise (· < ·)
  identity : ∀ value ∈ identity, value.Fits architecture

omit [Primitives] in
theorem validateProcessorView_eq_ok {abi : String} {architecture : ProcessorArchitecture}
    {identity : Option ProcessorIdentity} {features states : List String} :
    Processor.validateProcessorView abi architecture identity features states = .ok () ↔
      ValidView abi architecture identity features states := by
  simp only [Processor.validateProcessorView, bind_eq_ok, rejectIf_eq_ok]
  constructor
  · rintro ⟨_, bounds, _, featuresSorted, _, statesSorted, rest⟩
    push Not at bounds
    obtain ⟨notEmpty, size, featuresLength, statesLength, feature, state⟩ := bounds
    refine ⟨⟨by simpa using notEmpty, size⟩, featuresLength, statesLength, ?_, state, ?_, ?_, ?_⟩
    · exact fun value member => by simpa using feature value member
    · exact (requireStrictOrder_eq_ok _).mp featuresSorted
    · exact (requireStrictOrder_eq_ok _).mp statesSorted
    · cases identity with
      | none => simp
      | some value =>
          cases architecture <;> cases value <;>
            simp [Processor.validateArm, Processor.validateX86, ProcessorIdentity.Fits] at rest ⊢ <;>
              exact rest
  · intro valid
    refine ⟨(), ?_, (), (requireStrictOrder_eq_ok _).mpr valid.featuresSorted, (),
      (requireStrictOrder_eq_ok _).mpr valid.statesSorted, ?_⟩
    · push Not
      exact ⟨by simp [valid.abi.1], valid.abi.2, valid.featuresLength, valid.statesLength,
        fun value member => by simpa using valid.feature value member, valid.state⟩
    · have fits := valid.identity
      cases identity with
      | none => cases architecture <;> rfl
      | some value =>
          cases architecture <;> cases value <;>
            simp [Processor.validateArm, Processor.validateX86, ProcessorIdentity.Fits] at fits ⊢ <;>
              exact fits

/-- The view of a requirement. -/
abbrev ProcessorRequirement.Valid (requirement : ProcessorRequirement) : Prop :=
  ValidView requirement.abi requirement.architecture requirement.identity
    requirement.instructionFeatures requirement.osEnabledStates

omit [Primitives] in
theorem ProcessorRequirement.validate_eq_ok {requirement : ProcessorRequirement} :
    requirement.validate = .ok () ↔ requirement.Valid :=
  validateProcessorView_eq_ok

end Reproit
