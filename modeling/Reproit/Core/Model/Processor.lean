/-
# Processor requirements

What a capture observed of its processor and what a replay requires of one, and the
receipt of a reduction: the trials that tested one constraint each.  Features and
states are listed in text order.
-/

import Reproit.Core.Model.Profile
import Reproit.Data.Text

namespace Reproit

/-! ## Identities -/

structure ArmProcessorIdentity where
  implementer : String
  part : String
  revision : String
  variant : String
  deriving DecidableEq

structure X86ProcessorIdentity where
  family : UInt32
  microcode : String
  model : UInt32
  stepping : UInt32
  vendor : String
  deriving DecidableEq

inductive ProcessorIdentity
  | arm (identity : ArmProcessorIdentity)
  | x86 (identity : X86ProcessorIdentity)
  deriving DecidableEq

namespace ArmProcessorIdentity

def codec : Codec ArmProcessorIdentity :=
  .record
    (.required "kind" (Format.codec "arm") <| .required "implementer" .string <|
      .required "part" .string <| .required "revision" .string <|
      .required "variant" .string .done)
    (fun r => (.v1, r.implementer, r.part, r.revision, r.variant, ()))
    (fun (_, implementer, part, revision, variant, ()) =>
      { implementer, part, revision, variant })
    (fun _ => rfl) (by decide)

end ArmProcessorIdentity

namespace X86ProcessorIdentity

def codec : Codec X86ProcessorIdentity :=
  .record
    (.required "kind" (Format.codec "x86") <| .required "family" .uint32 <|
      .required "microcode" .string <| .required "model" .uint32 <|
      .required "stepping" .uint32 <| .required "vendor" .string .done)
    (fun r => (.v1, r.family, r.microcode, r.model, r.stepping, r.vendor, ()))
    (fun (_, family, microcode, model, stepping, vendor, ()) =>
      { family, microcode, model, stepping, vendor })
    (fun _ => rfl) (by decide)

end X86ProcessorIdentity

namespace ProcessorIdentity

theorem arm_refuses_x86 (identity : X86ProcessorIdentity) :
    ArmProcessorIdentity.codec.decode (X86ProcessorIdentity.codec.encode identity) = none := by
  refine Codec.decode_record_encode_record_eq_none ?_ (by decide : "family" ∉ _)
  simp [Fields.encode, Fields.required]

/-- An identity is written with its kind. -/
def codec : Codec ProcessorIdentity :=
  (Codec.untagged ArmProcessorIdentity.codec X86ProcessorIdentity.codec arm_refuses_x86).imap
    (fun
      | .arm identity => .inl identity
      | .x86 identity => .inr identity)
    (fun
      | .inl identity => .arm identity
      | .inr identity => .x86 identity)
    (fun identity => by cases identity <;> rfl) (fun identity => by cases identity <;> rfl)

theorem decode_null : codec.decode .null = none := rfl

end ProcessorIdentity

/-! ## Names -/

namespace Processor

/-- A character of a feature name. -/
def featureChar (c : Char) : Bool :=
  c.isUpper || c.isDigit || c = '.' || c = '_' || c = '-'

/-- A character of a state name behind its first one. -/
def stateChar (c : Char) : Bool :=
  c.isLower || c.isDigit || c = '.' || c = '_' || c = '-'

def validLowerIdentity (value : String) : Bool :=
  value.utf8ByteSize ≤ 128 && value.toList.head?.any Char.isLower && value.toList.all stateChar

def validProcessorIdentityValue (value : String) : Bool :=
  !value.isEmpty && value.utf8ByteSize ≤ 64 &&
    value.toList.all fun c => c.isLower || c.isDigit || c = '-'

def validateArm (identity : ArmProcessorIdentity) : Result Unit :=
  rejectIf (∃ value ∈ [identity.implementer, identity.part, identity.revision, identity.variant],
    ¬ validProcessorIdentityValue value) .schemaInvalid

def validateX86 (identity : X86ProcessorIdentity) : Result Unit :=
  rejectIf (¬ validProcessorIdentityValue identity.vendor ∨
    ¬ validProcessorIdentityValue identity.microcode) .schemaInvalid

def validateProcessorView (abi : String) (architecture : ProcessorArchitecture)
    (identity : Option ProcessorIdentity) (instructionFeatures osEnabledStates : List String) :
    Result Unit := do
  rejectIf (abi.isEmpty ∨ abi.utf8ByteSize > 128 ∨ instructionFeatures.length > 256 ∨
    osEnabledStates.length > 64 ∨
    (∃ feature ∈ instructionFeatures, feature.isEmpty ∨ feature.utf8ByteSize > 128 ∨
      ¬ feature.toList.all featureChar) ∨
    ∃ state ∈ osEnabledStates, ¬ validLowerIdentity state) .schemaInvalid
  requireStrictOrder instructionFeatures
  requireStrictOrder osEnabledStates
  match architecture, identity with
  | .arm64, some (.arm value) => validateArm value
  | .x86_64, some (.x86 value) => validateX86 value
  | _, none => return ()
  | _, _ => .error .schemaInvalid

end Processor

/-! ## Observations and requirements -/

abbrev ProcessorObservationFormat := Format "reproit.processor-observation.v1"

structure ProcessorObservation where
  abi : String
  architecture : ProcessorArchitecture
  format : ProcessorObservationFormat
  identity : Option ProcessorIdentity
  instructionFeatures : List String
  osEnabledStates : List String
  deriving DecidableEq

namespace ProcessorObservation

def codec : Codec ProcessorObservation :=
  .record
    (.required "abi" .string <| .required "architecture" ProcessorArchitecture.codec <|
      .required "format" (Format.codec _) <|
      .optional "identity" ProcessorIdentity.codec ProcessorIdentity.decode_null <|
      .required "instruction_features" (.list .string) <|
      .required "os_enabled_states" (.list .string) .done)
    (fun r => (r.abi, r.architecture, r.format, r.identity, r.instructionFeatures,
      r.osEnabledStates, ()))
    (fun (abi, architecture, format, identity, instructionFeatures, osEnabledStates, ()) =>
      { abi, architecture, format, identity, instructionFeatures, osEnabledStates })
    (fun _ => rfl) (by decide)

instance : Document ProcessorObservation := ⟨codec, by decide⟩

def validate (observation : ProcessorObservation) : Result Unit :=
  Processor.validateProcessorView observation.abi observation.architecture observation.identity
    observation.instructionFeatures observation.osEnabledStates

instance : Validate ProcessorObservation := ⟨validate⟩

end ProcessorObservation

abbrev ProcessorRequirementFormat := Format "reproit.processor-requirement.v1"

structure ProcessorRequirement where
  abi : String
  architecture : ProcessorArchitecture
  format : ProcessorRequirementFormat
  identity : Option ProcessorIdentity
  instructionFeatures : List String
  osEnabledStates : List String
  deriving DecidableEq

namespace ProcessorRequirement

def codec : Codec ProcessorRequirement :=
  .record
    (.required "abi" .string <| .required "architecture" ProcessorArchitecture.codec <|
      .required "format" (Format.codec _) <|
      .optional "identity" ProcessorIdentity.codec ProcessorIdentity.decode_null <|
      .required "instruction_features" (.list .string) <|
      .required "os_enabled_states" (.list .string) .done)
    (fun r => (r.abi, r.architecture, r.format, r.identity, r.instructionFeatures,
      r.osEnabledStates, ()))
    (fun (abi, architecture, format, identity, instructionFeatures, osEnabledStates, ()) =>
      { abi, architecture, format, identity, instructionFeatures, osEnabledStates })
    (fun _ => rfl) (by decide)

instance : Document ProcessorRequirement := ⟨codec, by decide⟩

def validate (requirement : ProcessorRequirement) : Result Unit :=
  Processor.validateProcessorView requirement.abi requirement.architecture requirement.identity
    requirement.instructionFeatures requirement.osEnabledStates

instance : Validate ProcessorRequirement := ⟨validate⟩

end ProcessorRequirement

/-! ## Receipts -/

inductive ExecutionOutcome
  | differentFailure | evaluationError | targetAbsent | targetReproduced | unsupported
  deriving DecidableEq

def ExecutionOutcome.name : ExecutionOutcome → String
  | .differentFailure => "DIFFERENT_FAILURE"
  | .evaluationError => "EVALUATION_ERROR"
  | .targetAbsent => "TARGET_ABSENT"
  | .targetReproduced => "TARGET_REPRODUCED"
  | .unsupported => "UNSUPPORTED"

def ExecutionOutcome.codec : Codec ExecutionOutcome :=
  .enumeration [.differentFailure, .evaluationError, .targetAbsent, .targetReproduced,
    .unsupported] name fun value => by cases value <;> decide

inductive ProcessorReductionDecision
  | removed | retained
  deriving DecidableEq

def ProcessorReductionDecision.name : ProcessorReductionDecision → String
  | .removed => "removed"
  | .retained => "retained"

def ProcessorReductionDecision.codec : Codec ProcessorReductionDecision :=
  .enumeration [.removed, .retained] name fun value => by cases value <;> decide

inductive ProcessorTrialEvidenceKind
  | exactNative
  deriving DecidableEq

def ProcessorTrialEvidenceKind.codec : Codec ProcessorTrialEvidenceKind :=
  .enumeration [.exactNative] (fun _ => "exact-native") fun value => by cases value; simp

/-- One test of a constraint. -/
structure ProcessorReductionTrial where
  candidateRequirementDigest : Digest
  decision : ProcessorReductionDecision
  evidenceKind : ProcessorTrialEvidenceKind
  executionResult : ExecutionOutcome
  testedConstraint : String
  trialIndex : UInt8
  deriving DecidableEq

def ProcessorReductionTrial.codec : Codec ProcessorReductionTrial :=
  .record
    (.required "candidate_requirement_digest" Digest.codec <|
      .required "decision" ProcessorReductionDecision.codec <|
      .required "evidence_kind" ProcessorTrialEvidenceKind.codec <|
      .required "execution_result" ExecutionOutcome.codec <|
      .required "tested_constraint" .string <| .required "trial_index" .uint8 .done)
    (fun r => (r.candidateRequirementDigest, r.decision, r.evidenceKind, r.executionResult,
      r.testedConstraint, r.trialIndex, ()))
    (fun (candidateRequirementDigest, decision, evidenceKind, executionResult,
      testedConstraint, trialIndex, ()) =>
      { candidateRequirementDigest, decision, evidenceKind, executionResult, testedConstraint,
        trialIndex })
    (fun _ => rfl) (by decide)

/-- Why a reduction ended. -/
inductive ProcessorReductionTerminalReason
  | complete | cpuLimit | elapsedLimit | outputLimit | timeout | trialLimit | uncontrollable
  | unstable
  deriving DecidableEq

def ProcessorReductionTerminalReason.name : ProcessorReductionTerminalReason → String
  | .complete => "complete"
  | .cpuLimit => "cpu-limit"
  | .elapsedLimit => "elapsed-limit"
  | .outputLimit => "output-limit"
  | .timeout => "timeout"
  | .trialLimit => "trial-limit"
  | .uncontrollable => "uncontrollable"
  | .unstable => "unstable"

def ProcessorReductionTerminalReason.codec : Codec ProcessorReductionTerminalReason :=
  .enumeration [.complete, .cpuLimit, .elapsedLimit, .outputLimit, .timeout, .trialLimit,
    .uncontrollable, .unstable] name fun value => by cases value <;> decide

abbrev ProcessorReductionReceiptFormat := Format "reproit.processor-reduction-receipt.v1"

structure ProcessorReductionReceipt where
  finalRequirementDigest : Digest
  format : ProcessorReductionReceiptFormat
  observationDigest : Digest
  terminalReason : ProcessorReductionTerminalReason
  trials : List ProcessorReductionTrial
  deriving DecidableEq

namespace ProcessorReductionReceipt

def codec : Codec ProcessorReductionReceipt :=
  .record
    (.required "final_requirement_digest" Digest.codec <|
      .required "format" (Format.codec _) <| .required "observation_digest" Digest.codec <|
      .required "terminal_reason" ProcessorReductionTerminalReason.codec <|
      .required "trials" (.list ProcessorReductionTrial.codec) .done)
    (fun r => (r.finalRequirementDigest, r.format, r.observationDigest, r.terminalReason,
      r.trials, ()))
    (fun (finalRequirementDigest, format, observationDigest, terminalReason, trials, ()) =>
      { finalRequirementDigest, format, observationDigest, terminalReason, trials })
    (fun _ => rfl) (by decide)

instance : Document ProcessorReductionReceipt := ⟨codec, by decide⟩

/-- A label names a feature, a state or the identity. -/
def validTestedConstraint (value : String) : Bool :=
  if value.utf8ByteSize > 128 then false
  else if value = "processor-identity" then true
  else match stripStart value "instruction-feature." with
    | some feature => !feature.isEmpty && feature.toList.all Processor.featureChar
    | none => (stripStart value "os-enabled-state.").any Processor.validLowerIdentity

/-- At most sixteen trials in order, each of another constraint; what was removed did
reproduce the target. -/
def validate (receipt : ProcessorReductionReceipt) : Result Unit := do
  rejectIf (receipt.trials.length > 16) .schemaInvalid
  forEach receipt.trials.zipIdx fun (trial, index) =>
    rejectIf (trial.trialIndex.toNat ≠ index ∨ ¬ validTestedConstraint trial.testedConstraint ∨
      trial.testedConstraint ∈
        (receipt.trials.take index).map ProcessorReductionTrial.testedConstraint ∨
      trial.decision = .removed ∧ trial.executionResult ≠ .targetReproduced) .schemaInvalid

instance : Validate ProcessorReductionReceipt := ⟨validate⟩

end ProcessorReductionReceipt

end Reproit
