/-
# Processor bindings of a capsule

A requirement is bound into the capabilities of a capsule: its architecture, its digest,
its features, states and identity.  After a reduction the Runtime compares the capsule
that it sealed with the one that a worker returned.
-/

import Reproit.Core.Model.ProcessorCapture

namespace Reproit

variable [Primitives]

/-! ## Names of capabilities -/

omit [Primitives] in
/-- The digits of a digest. -/
def digestSuffix (digest : Digest) : String := String.ofList (Radix.hexText 64 digest.number)

/-- The spelling of a name in a capability. -/
def normalizeChar (c : Char) : Char := if c.isUpper then c.toLower else if c = '_' then '-' else c

def normalizeName (value : String) : String := String.ofList (value.toList.map normalizeChar)

def capabilityNameChar (c : Char) : Bool := c.isLower || c.isDigit || c = '.' || c = '-'

def normalizeProcessorName (value : String) : Result String := do
  let normalized := normalizeName value
  rejectIf (normalized.isEmpty ∨ normalized.utf8ByteSize > 96 ∨
    ¬ normalized.toList.all capabilityNameChar) .schemaInvalid
  return normalized

/-- The spelling of a feature for the name in its capability. -/
def restoreChar (c : Char) : Char := if c.isLower then c.toUpper else if c = '-' then '_' else c

def restoreName (suffix : String) : String := String.ofList (suffix.toList.map restoreChar)

/-! ## Capabilities of requirements and receipts -/

/-- The capabilities of a requirement, in order. -/
def processorRequirementCapabilities (requirement : ProcessorRequirement) :
    Result (List String) := do
  requirement.validate
  let digest ← Canonical.digest requirement
  let features ← collect requirement.instructionFeatures normalizeProcessorName
  let states ← collect requirement.osEnabledStates normalizeProcessorName
  let identity := requirement.identity.map encodeIdentityToken
  return sortDedup (requirement.architecture.name ::
    ("processor.requirement." ++ digestSuffix digest) ::
    (features.map ("processor.feature." ++ ·) ++ states.map ("processor.os-state." ++ ·) ++
      (identity.map ("processor.identity." ++ ·)).toList))

def processorReductionCapability (receipt : ProcessorReductionReceipt) : Result String := do
  receipt.validate
  let digest ← Canonical.digest receipt
  return "processor.reduction." ++ digestSuffix digest

/-! ## The transition of a capsule -/

/-- The capsule without its processor capabilities. -/
def stripProcessorCapabilities (capsule : ReplayCapsule) : ReplayCapsule :=
  { capsule with requiredCapabilities :=
    capsule.requiredCapabilities.filter fun capability => !startsWith capability "processor." }

def capsulesEqualExceptProcessorCapabilities (sealed admitted : ReplayCapsule) : Result Bool := do
  let sealedDigest ← Canonical.digest (stripProcessorCapabilities sealed)
  let admittedDigest ← Canonical.digest (stripProcessorCapabilities admitted)
  return sealedDigest = admittedDigest

/-- A capability that a replay host declares. -/
def hostProcessorRequirement (capability : String) : Bool :=
  startsWith capability "architecture." || startsWith capability "processor.feature." ||
    startsWith capability "processor.os-state." || startsWith capability "processor.identity."

/-- The constraint whose removal explains that a capability is gone. -/
def removedConstraintForCapability (capability : String) : Option String :=
  match stripStart capability "processor.feature." with
  | some feature => some ("instruction-feature." ++ restoreName feature)
  | none =>
      match stripStart capability "processor.os-state." with
      | some state => some ("os-enabled-state." ++ state)
      | none => if startsWith capability "processor.identity." then some "processor-identity" else none

/-- Whether the capabilities name a tested constraint. -/
def constraintPresent (constraint : String) (capabilities : List String) : Result Bool :=
  match stripStart constraint "instruction-feature." with
  | some feature => do
      let normalized ← normalizeProcessorName feature
      return decide ("processor.feature." ++ normalized ∈ capabilities)
  | none =>
      match stripStart constraint "os-enabled-state." with
      | some state => return decide ("processor.os-state." ++ state ∈ capabilities)
      | none =>
          if constraint = "processor-identity" then
            return capabilities.any fun value => startsWith value "processor.identity."
          else .error .schemaInvalid

/-- A state that is gone with its feature. -/
def removedWithFeature (constraint : String) (removed : List String) : Bool :=
  (constraint = "os-enabled-state.xcr0.avx" && removed.contains "instruction-feature.AVX") ||
    (constraint = "os-enabled-state.xcr0.avx512" && removed.contains "instruction-feature.AVX512F")

/-- The constraints that a receipt removed. -/
def ProcessorReductionReceipt.removedConstraints (receipt : ProcessorReductionReceipt) :
    List String :=
  (receipt.trials.filter fun trial => trial.decision = .removed).map
    ProcessorReductionTrial.testedConstraint

/-- The one transition of a sealed capsule that the Runtime accepts. -/
def validateProcessorReductionCapsuleBinding (sealed admitted : ReplayCapsule)
    (requirement : ProcessorRequirement) (receipt : ProcessorReductionReceipt) :
    Result Unit := do
  sealed.validate
  admitted.validate
  requirement.validate
  receipt.validate
  let digest ← Canonical.digest requirement
  rejectIf (receipt.finalRequirementDigest ≠ digest) .schemaInvalid
  let equal ← capsulesEqualExceptProcessorCapabilities sealed admitted
  rejectIf (¬ equal) .schemaInvalid
  let bound ← processorRequirementCapabilities requirement
  let reduction ← processorReductionCapability receipt
  let expected := (bound ++ [reduction]).insertionSort (· ≤ ·)
  let actual := admitted.requiredCapabilities.filter fun capability =>
    startsWith capability "architecture." || startsWith capability "processor."
  rejectIf (actual ≠ expected) .schemaInvalid
  let sealedHostRequirements := sealed.requiredCapabilities.filter hostProcessorRequirement
  rejectIf (∃ capability ∈ expected.filter hostProcessorRequirement,
    capability ∉ sealedHostRequirements) .schemaInvalid
  let removed := receipt.removedConstraints
  forEach sealedHostRequirements fun capability => do
    if capability ∈ expected then return ()
    else do
      let constraint ← okOr (removedConstraintForCapability capability) Error.schemaInvalid
      rejectIf (constraint ∉ removed ∧ ¬ removedWithFeature constraint removed) Error.schemaInvalid
  forEach receipt.trials fun trial => do
    let present ← constraintPresent trial.testedConstraint expected
    rejectIf (trial.decision = .removed ∧ present ∨ trial.decision = .retained ∧ ¬ present)
      .schemaInvalid

end Reproit
