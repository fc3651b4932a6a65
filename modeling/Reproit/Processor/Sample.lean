/-
# A reduction of one feature

A host has one feature and the state that exists with it.  The trial without the feature
reproduces the target, so the feature is removed, and its state goes with it.
-/

import Reproit.Backend.SamplePrimitives
import Reproit.Processor.Visit

namespace Reproit.Backend.Sample

def captured : List String := ["processor.feature.avx", "processor.os-state.xcr0.avx"]

def observation : ProcessorObservation where
  abi := "sysv-x86-64"
  architecture := .x86_64
  format := .v1
  identity := none
  instructionFeatures := ["AVX"]
  osEnabledStates := ["xcr0.avx"]

def requirement : ProcessorRequirement where
  abi := "sysv-x86-64"
  architecture := .x86_64
  format := .v1
  identity := none
  instructionFeatures := ["AVX"]
  osEnabledStates := ["xcr0.avx"]

/-- Nothing but the architecture is left. -/
def reduced : ProcessorRequirement :=
  { requirement with instructionFeatures := [], osEnabledStates := [] }

def trialLimits : ProcessorTrialLimits where
  cpuMilliseconds := 1000
  elapsedMilliseconds := 1000
  memoryBytes := 1048576
  outputBytes := 1024

def reductionPolicy : ProcessorReductionPolicy where
  maximumTrials := 4
  totalCpuMilliseconds := 4000
  totalElapsedMilliseconds := 4000
  totalOutputBytes := 4096
  trialLimits := trialLimits

def reproduced : ProcessorTrialResult where
  cpuMilliseconds := 10
  elapsedMilliseconds := 10
  executionResult := .targetReproduced
  outputBytes := 10
  timedOut := false
  unstable := false

/-- Every trial reproduces the target. -/
def trialExecutor : ProcessorTrialExecutor where
  canControl _ _ := true
  executeTrial _ _ _ := .ok reproduced

variable [Primitives]

def trial : ProcessorReductionTrial where
  candidateRequirementDigest := Digest.of (Canonical.text reduced)
  decision := .removed
  evidenceKind := .exactNative
  executionResult := .targetReproduced
  testedConstraint := "instruction-feature.AVX"
  trialIndex := 0

def receipt : ProcessorReductionReceipt where
  finalRequirementDigest := Digest.of (Canonical.text reduced)
  format := .v1
  observationDigest := Digest.of (Canonical.text observation)
  terminalReason := .complete
  trials := [trial]

omit [Primitives] in
theorem validate_requirement : requirement.validate = .ok () := by
  rw [ProcessorRequirement.validate_eq_ok]
  exact ⟨by decide, by decide, by decide, by decide, by decide, by decide, by decide, nofun⟩

omit [Primitives] in
theorem validate_reduced : reduced.validate = .ok () := by
  rw [ProcessorRequirement.validate_eq_ok]
  exact ⟨by decide, by decide, by decide, nofun, nofun, .nil, .nil, nofun⟩

theorem validate_receipt : receipt.validate = .ok () := by
  simp only [ProcessorReductionReceipt.validate, bind_eq_ok, rejectIf_eq_ok, forEach_eq_ok]
  refine ⟨(), by simp [receipt], ?_⟩
  intro entry member
  obtain rfl := List.mem_singleton.mp member
  have label : ProcessorReductionReceipt.validTestedConstraint "instruction-feature.AVX" = true := by
    decide
  simp [receipt, trial, label]

/-- The one trial. -/
theorem visit_feature : visitConstraint reductionPolicy trialExecutor 0 (.instructionFeature "AVX")
    { reduced := requirement, trials := [], terminalReason := .complete, used := ⟨0, 0, 0⟩ } =
      .ok (.next { reduced := reduced, trials := [trial], terminalReason := .complete,
                   used := ⟨10, 10, 10⟩ }) := by
  have candidate :
      ProcessorConstraint.removeFrom requirement (.instructionFeature "AVX") = reduced := by decide
  have left : remainingTrialLimits reductionPolicy ⟨0, 0, 0⟩ = some trialLimits := by decide
  have ended : ProcessorTrialResult.terminalReason reproduced trialLimits = .ok none := by decide
  have kept : aggregateLimitReason reductionPolicy ⟨10, 10, 10⟩ = none := by decide
  rw [visitConstraint, if_neg (by decide), if_neg (by decide), if_neg (by decide), left]
  dsimp only
  rw [runTrial, candidate, validate_reduced]
  simp only [ok_bind, trialExecutor, ended, ProcessorRequirement.digest]
  rfl

theorem reduces :
    reduceProcessorRequirements reductionPolicy trialExecutor observation requirement =
      .ok { receipt := receipt, requirement := reduced } := by
  have order : constraints requirement =
      [.instructionFeature "AVX", .osEnabledState "xcr0.avx"] := by decide
  have observed : observation.validate = .ok () := by
    rw [ProcessorObservation.validate, validateProcessorView_eq_ok]
    exact ⟨by decide, by decide, by decide, by decide, by decide, by decide, by decide, nofun⟩
  have policy : reductionPolicy.validate = .ok () := by decide
  have gone : visitConstraint reductionPolicy trialExecutor 1 (.osEnabledState "xcr0.avx")
      { reduced := reduced, trials := [trial], terminalReason := .complete, used := ⟨10, 10, 10⟩ } =
        .ok (.next { reduced := reduced, trials := [trial], terminalReason := .complete,
                     used := ⟨10, 10, 10⟩ }) :=
    if_pos (show ¬ ProcessorConstraint.presentIn reduced (.osEnabledState "xcr0.avx") = true by
      decide)
  rw [reduceProcessorRequirements, observed, validate_requirement, policy, order]
  simp only [ok_bind, runLoop, visit_feature, gone, ProcessorObservation.digest,
    ProcessorRequirement.digest]
  change (do receipt.validate; return _) = _
  rw [validate_receipt]
  rfl

end Reproit.Backend.Sample
