/-
# Reduction of processor requirements

A requirement starts as everything that was captured.  Each constraint is tested by a
trial without it, in an order in which dependent features come first, and is removed
when the trial still reproduces the target.  Trials run out with their number, their
time or their output.
-/

import Reproit.Backend.Admission
import Reproit.Core.Model.ProcessorBinding
import Reproit.Data.Loop
import Reproit.Data.Update

namespace Reproit.Backend

/-! ## Limits -/

structure ProcessorTrialLimits where
  cpuMilliseconds : UInt32
  elapsedMilliseconds : UInt32
  memoryBytes : UInt64
  outputBytes : UInt32
  deriving DecidableEq

def ProcessorTrialLimits.validate (limits : ProcessorTrialLimits) : Result Unit :=
  rejectIf (limits.cpuMilliseconds = 0 ∨ limits.cpuMilliseconds > 60000 ∨
    limits.elapsedMilliseconds < limits.cpuMilliseconds ∨ limits.elapsedMilliseconds > 120000 ∨
    limits.memoryBytes = 0 ∨ limits.memoryBytes > 1073741824 ∨ limits.outputBytes = 0 ∨
    limits.outputBytes > 1048576) .schemaInvalid

structure ProcessorReductionPolicy where
  maximumTrials : UInt8
  totalCpuMilliseconds : UInt64
  totalElapsedMilliseconds : UInt64
  totalOutputBytes : UInt64
  trialLimits : ProcessorTrialLimits
  deriving DecidableEq

def ProcessorReductionPolicy.validate (policy : ProcessorReductionPolicy) : Result Unit := do
  rejectIf (policy.maximumTrials = 0 ∨ policy.maximumTrials > 16 ∨
    policy.totalCpuMilliseconds = 0 ∨ policy.totalCpuMilliseconds > 7200000 ∨
    policy.totalElapsedMilliseconds = 0 ∨ policy.totalElapsedMilliseconds > 1800000 ∨
    policy.totalOutputBytes = 0 ∨ policy.totalOutputBytes > 16 * 1024 * 1024) .schemaInvalid
  policy.trialLimits.validate

/-! ## Constraints -/

inductive ProcessorConstraint
  | instructionFeature (value : String)
  | osEnabledState (value : String)
  | processorIdentity
  deriving DecidableEq

/-- A dependent feature and the feature that it needs. -/
def featurePrerequisites : List (String × String) :=
  [("AVX2", "AVX"), ("AVX512BW", "AVX512F"), ("AVX512DQ", "AVX512F"), ("AVX512F", "AVX"),
    ("AVX512VL", "AVX512F"), ("FMA", "AVX"), ("SSE4_2", "SSE4_1")]

/-- A state and the feature that it exists with. -/
def osStateRequiredFeature : List (String × String) :=
  [("xcr0.avx", "AVX"), ("xcr0.avx512", "AVX512F")]

/-- The features that some features need directly. -/
def prerequisitesOf (features : List String) : List String :=
  features.flatMap fun current =>
    (featurePrerequisites.filter fun (dependent, _) => dependent = current).map Prod.snd

/-- Whether a walk of some rounds from the frontier meets the feature. -/
def reachesWithin : Nat → List String → String → Bool
  | 0, _, _ => false
  | rounds + 1, frontier, feature =>
      let next := prerequisitesOf frontier
      if feature ∈ next then true
      else if next = [] then false
      else reachesWithin rounds next feature

def featureRequires (candidate feature : String) : Bool :=
  reachesWithin featurePrerequisites.length [candidate] feature

/-- The longest chain of prerequisites below a feature, up to a length. -/
def dependencyDepthWithin : Nat → String → Nat
  | 0, _ => 0
  | fuel + 1, feature =>
      (((prerequisitesOf [feature]).map fun prerequisite =>
        dependencyDepthWithin fuel prerequisite + 1).max?).getD 0

/-- The table has no cycle, so no chain is longer than the table. -/
def dependencyDepth (feature : String) : Nat :=
  dependencyDepthWithin featurePrerequisites.length feature

def dependentFeatureRemains (requirement : ProcessorRequirement) (feature : String) : Bool :=
  requirement.instructionFeatures.any fun other => other ≠ feature && featureRequires other feature

namespace ProcessorConstraint

def label : ProcessorConstraint → String
  | .instructionFeature value => "instruction-feature." ++ value
  | .osEnabledState value => "os-enabled-state." ++ value
  | .processorIdentity => "processor-identity"

def presentIn (requirement : ProcessorRequirement) : ProcessorConstraint → Bool
  | .instructionFeature value => requirement.instructionFeatures.contains value
  | .osEnabledState value => requirement.osEnabledStates.contains value
  | .processorIdentity => requirement.identity.isSome

/-- The requirement without the constraint, and without the states of a feature. -/
def removeFrom (requirement : ProcessorRequirement) : ProcessorConstraint → ProcessorRequirement
  | .instructionFeature value => { requirement with
      instructionFeatures := requirement.instructionFeatures.filter (· ≠ value)
      osEnabledStates := requirement.osEnabledStates.filter fun state =>
        !osStateRequiredFeature.any fun (dependent, feature) =>
          dependent = state && feature = value }
  | .osEnabledState value => { requirement with
      osEnabledStates := requirement.osEnabledStates.filter (· ≠ value) }
  | .processorIdentity => { requirement with identity := none }

/-- The states that are removed with a feature are those of the table. -/
theorem any_osStateRequiredFeature {state feature : String} :
    (osStateRequiredFeature.any fun (dependent, required) =>
        dependent = state && required = feature) = true ↔
      (state, feature) ∈ osStateRequiredFeature := by
  rw [List.any_eq_true]
  constructor
  · rintro ⟨⟨dependent, required⟩, listed, same⟩
    obtain ⟨rfl, rfl⟩ : dependent = state ∧ required = feature := by simpa using same
    exact listed
  · intro listed
    exact ⟨(state, feature), listed, by simp⟩

end ProcessorConstraint

/-- Features by descending depth and then by name, the states, and the identity. -/
def constraints (requirement : ProcessorRequirement) : List ProcessorConstraint :=
  let features := requirement.instructionFeatures.insertionSort fun left right =>
    dependencyDepth right < dependencyDepth left ∨
      dependencyDepth right = dependencyDepth left ∧ left ≤ right
  features.map .instructionFeature ++
    (requirement.osEnabledStates.map .osEnabledState ++
      if requirement.identity.isSome then [.processorIdentity] else [])

/-! ## Trials -/

structure ProcessorTrialResult where
  cpuMilliseconds : UInt64
  elapsedMilliseconds : UInt64
  executionResult : ExecutionOutcome
  outputBytes : UInt64
  timedOut : Bool
  unstable : Bool
  deriving DecidableEq

/-- What may be removed, and what a trial gives. The answers may depend on what was
asked before, so an executor also sees the position of the constraint. -/
structure ProcessorTrialExecutor where
  canControl : (position : Nat) → ProcessorConstraint → Bool
  executeTrial : (position : Nat) → ProcessorRequirement → ProcessorTrialLimits →
    Result ProcessorTrialResult

/-- Why a trial ends the reduction. -/
def ProcessorTrialResult.terminalReason (result : ProcessorTrialResult)
    (limits : ProcessorTrialLimits) : Result (Option ProcessorReductionTerminalReason) :=
  if result.timedOut ∧ result.unstable then .error .schemaInvalid
  else if result.timedOut then .ok (some .timeout)
  else if result.unstable then .ok (some .unstable)
  else if result.cpuMilliseconds > limits.cpuMilliseconds.toUInt64 then .ok (some .cpuLimit)
  else if result.elapsedMilliseconds > limits.elapsedMilliseconds.toUInt64 then
    .ok (some .elapsedLimit)
  else if result.outputBytes > limits.outputBytes.toUInt64 then .ok (some .outputLimit)
  else .ok none

/-- What the trials used so far. -/
structure ProcessorUsage where
  cpuMilliseconds : UInt64
  elapsedMilliseconds : UInt64
  outputBytes : UInt64
  deriving DecidableEq

def saturatingAdd (first second : UInt64) : UInt64 :=
  if first.toNat + second.toNat < 2 ^ 64 then first + second else UInt64.ofNat (2 ^ 64 - 1)

/-- A rest of a total within a limit of one trial. -/
def remaining (total used : UInt64) (limit : UInt32) : Option UInt32 :=
  if total < used then none
  else
    let rest := min (total - used) limit.toUInt64
    if rest = 0 then none else some rest.toUInt32

def remainingTrialLimits (policy : ProcessorReductionPolicy) (used : ProcessorUsage) :
    Option ProcessorTrialLimits := do
  let cpuMilliseconds ←
    remaining policy.totalCpuMilliseconds used.cpuMilliseconds policy.trialLimits.cpuMilliseconds
  let elapsedMilliseconds ← remaining policy.totalElapsedMilliseconds used.elapsedMilliseconds
    policy.trialLimits.elapsedMilliseconds
  let outputBytes ←
    remaining policy.totalOutputBytes used.outputBytes policy.trialLimits.outputBytes
  return { cpuMilliseconds, elapsedMilliseconds, memoryBytes := policy.trialLimits.memoryBytes,
           outputBytes }

def aggregateLimitReason (policy : ProcessorReductionPolicy) (used : ProcessorUsage) :
    Option ProcessorReductionTerminalReason :=
  if used.cpuMilliseconds ≥ policy.totalCpuMilliseconds then some .cpuLimit
  else if used.elapsedMilliseconds ≥ policy.totalElapsedMilliseconds then some .elapsedLimit
  else if used.outputBytes ≥ policy.totalOutputBytes then some .outputLimit
  else none

def exhaustedReason (policy : ProcessorReductionPolicy) (used : ProcessorUsage) :
    ProcessorReductionTerminalReason :=
  (aggregateLimitReason policy used).getD .trialLimit

/-! ## The reduction -/

structure ReductionState where
  reduced : ProcessorRequirement
  trials : List ProcessorReductionTrial
  terminalReason : ProcessorReductionTerminalReason
  used : ProcessorUsage

/-- Whether a dependent feature keeps a constraint. -/
def dependencyBlocked (requirement : ProcessorRequirement) : ProcessorConstraint → Bool
  | .instructionFeature feature => dependentFeatureRemains requirement feature
  | _ => false

variable [Primitives] (policy : ProcessorReductionPolicy) (executor : ProcessorTrialExecutor)

/-- Test one constraint by a trial within some limits. -/
def runTrial (position : Nat) (constraint : ProcessorConstraint) (limits : ProcessorTrialLimits)
    (state : ReductionState) : Result (Flow ReductionState) := do
  let candidate := constraint.removeFrom state.reduced
  candidate.validate
  let result ← executor.executeTrial position candidate limits
  let used : ProcessorUsage := {
    cpuMilliseconds := saturatingAdd state.used.cpuMilliseconds result.cpuMilliseconds
    elapsedMilliseconds := saturatingAdd state.used.elapsedMilliseconds result.elapsedMilliseconds
    outputBytes := saturatingAdd state.used.outputBytes result.outputBytes }
  let resultReason ← result.terminalReason limits
  let removed := resultReason = none ∧ result.executionResult = .targetReproduced
  let candidateRequirementDigest ← Canonical.digest candidate
  let trialIndex ← okOr (if state.trials.length < 256 then some state.trials.length else none)
    Error.schemaInvalid
  let trial : ProcessorReductionTrial := {
    candidateRequirementDigest
    decision := if removed then .removed else .retained
    evidenceKind := .exactNative
    executionResult := result.executionResult
    testedConstraint := constraint.label
    trialIndex := UInt8.ofNat trialIndex }
  let after : ReductionState := { state with
    reduced := if removed then candidate else state.reduced
    trials := state.trials ++ [trial]
    used }
  match resultReason.orElse fun _ => aggregateLimitReason policy used with
  | some reason => return .stop { after with terminalReason := reason }
  | none => return .next after

/-- Visit one constraint. -/
def visitConstraint (position : Nat) (constraint : ProcessorConstraint) (state : ReductionState) :
    Result (Flow ReductionState) :=
  -- an earlier removal may have taken the constraint with it
  if ¬ constraint.presentIn state.reduced then .ok (.next state)
  else if state.trials.length ≥ policy.maximumTrials.toNat then
    .ok (.stop { state with terminalReason := .trialLimit })
  else if dependencyBlocked state.reduced constraint ∨ ¬ executor.canControl position constraint then
    .ok (.next { state with terminalReason := .uncontrollable })
  else
    match remainingTrialLimits policy state.used with
    | none => .ok (.stop { state with terminalReason := exhaustedReason policy state.used })
    | some limits => runTrial policy executor position constraint limits state

structure ProcessorReductionResult where
  receipt : ProcessorReductionReceipt
  requirement : ProcessorRequirement

def reduceProcessorRequirements (observation : ProcessorObservation)
    (requirement : ProcessorRequirement) : Result ProcessorReductionResult := do
  observation.validate
  requirement.validate
  policy.validate
  rejectIf (observation.architecture ≠ requirement.architecture ∨
    observation.abi ≠ requirement.abi) .schemaInvalid
  let observationDigest ← Canonical.digest observation
  let final ← runLoop (visitConstraint policy executor) 0 (constraints requirement)
    { reduced := requirement, trials := [], terminalReason := .complete, used := ⟨0, 0, 0⟩ }
  let finalRequirementDigest ← Canonical.digest final.reduced
  let receipt : ProcessorReductionReceipt :=
    { finalRequirementDigest, format := .v1, observationDigest,
      terminalReason := final.terminalReason, trials := final.trials }
  receipt.validate
  return { receipt, requirement := final.reduced }

/-! ## Captured capabilities -/

/-- At most one token, of an identity of the architecture. -/
def capturedIdentity (architecture : ProcessorArchitecture) :
    List String → Result (Option ProcessorIdentity)
  | [] => .ok none
  | [token] => do
      let identity ← okOr (decodeIdentityToken token) Error.schemaInvalid
      match identity, architecture with
      | .arm _, .arm64 => return some identity
      | .x86 _, .x86_64 => return some identity
      | _, _ => .error .schemaInvalid
  | _ => .error .schemaInvalid

/-- The observation that captured capabilities describe. -/
def observationFromCapturedCapabilities (architecture : ProcessorArchitecture)
    (capabilities : List String) : Result ProcessorObservation := do
  let features := sortDedup
    ((capabilities.filterMap fun capability => stripStart capability "processor.feature.").map
      restoreName)
  let states := sortDedup
    (capabilities.filterMap fun capability => stripStart capability "processor.os-state.")
  let identity ← capturedIdentity architecture
    (capabilities.filterMap fun capability => stripStart capability "processor.identity.")
  let observation : ProcessorObservation :=
    { abi := processorCaptureAbi architecture, architecture, format := .v1, identity,
      instructionFeatures := features, osEnabledStates := states }
  observation.validate
  return observation

/-- The requirement of everything that was observed. -/
def initialProcessorRequirement (observation : ProcessorObservation) :
    Result ProcessorRequirement := do
  let requirement : ProcessorRequirement :=
    { abi := observation.abi, architecture := observation.architecture, format := .v1,
      identity := observation.identity, instructionFeatures := observation.instructionFeatures,
      osEnabledStates := observation.osEnabledStates }
  requirement.validate
  return requirement

/-! ## Binding -/

/-- The capabilities of a capsule with those of a requirement in place of its own. -/
def processorCapabilities (existing : List String) (requirement : ProcessorRequirement) :
    Result (List String) := do
  let others := existing.filter fun value =>
    !startsWith value "architecture." && !startsWith value "processor."
  let bound ← processorRequirementCapabilities requirement
  let capabilities := sortDedup (others ++ bound)
  rejectIf (capabilities.length > 64) .schemaInvalid
  return capabilities

def bindCapsuleProcessorRequirement (capsule : ReplayCapsule)
    (requirement : ProcessorRequirement) : Result ReplayCapsule := do
  let requiredCapabilities ← processorCapabilities capsule.requiredCapabilities requirement
  return { capsule with requiredCapabilities }

/-- An operation on the input of an admission. -/
abbrev InputUpdate (α : Type) := Update Error AdmissionInput α

/-- Write the capabilities of the capsule. -/
def AdmissionInput.withCapabilities (input : AdmissionInput) (capabilities : List String) :
    AdmissionInput :=
  { input with capsule := { input.capsule with requiredCapabilities := capabilities } }

def bindProcessorRequirement (requirement : ProcessorRequirement) : InputUpdate Unit := do
  let input ← get
  let capsule ← Update.attempt (bindCapsuleProcessorRequirement input.capsule requirement)
  set { input with capsule }

def bindProcessorReduction (requirement : ProcessorRequirement)
    (receipt : ProcessorReductionReceipt) : InputUpdate Unit := do
  let digest ← Update.attempt (Canonical.digest requirement)
  Update.attempt (rejectIf (receipt.finalRequirementDigest ≠ digest) .schemaInvalid)
  bindProcessorRequirement requirement
  let reduction ← Update.attempt (processorReductionCapability receipt)
  let input ← get
  let input := input.withCapabilities
    (sortDedup (input.capsule.requiredCapabilities ++ [reduction]))
  set input
  Update.attempt input.capsule.validate

/-- Admit a candidate with everything that was captured. -/
def admitCapturedProcessorRequirement (requirement : ProcessorRequirement)
    (admissionExecutor : AdmissionExecutor) : InputUpdate AdmittedCandidate := do
  Update.attempt requirement.validate
  bindProcessorRequirement requirement
  let input ← get
  Update.attempt (rejectIf (∃ capability ∈ input.capsule.requiredCapabilities,
    startsWith capability "processor.reduction.") .schemaInvalid)
  Update.attempt (admitCandidate input admissionExecutor)

/-- Reduce the requirement, and admit the candidate with what is left of it. -/
def reduceAndAdmit (observation : ProcessorObservation) (requirement : ProcessorRequirement)
    (admissionExecutor : AdmissionExecutor) :
    InputUpdate (ProcessorReductionResult × AdmittedCandidate) := do
  let input ← get
  let sealedCapsule := input.capsule
  let reduction ← Update.attempt
    (reduceProcessorRequirements policy executor observation requirement)
  bindProcessorReduction reduction.requirement reduction.receipt
  let input ← get
  Update.attempt (validateProcessorReductionCapsuleBinding sealedCapsule input.capsule
    reduction.requirement reduction.receipt)
  let admitted ← Update.attempt (admitCandidate input admissionExecutor)
  return (reduction, admitted)

end Reproit.Backend
