/-
# Three runs of a candidate

A closed candidate is executed three times, once under every perturbation.  Each run
must clean up and reproduce the expected failure; the three proofs together must bind
the capsule.  An executor may answer differently from run to run, so an executor here
also sees the executions before.
-/

import Reproit.Core.Admission
import Reproit.Core.Model.Candidate
import Reproit.Data.OrderedMap

namespace Reproit.Backend

variable [Primitives]

/-! ## Closed objects -/

def objectClosureIncomplete : Error :=
  .new .worldNotClosed "The object closure is incomplete."

/-- The plaintext of every object of a list of descriptors. -/
structure ObjectClosure where
  objects : OrderedMap ObjectId Bytes

/-- The objects are those of the descriptors, with their digests and sizes. -/
def ObjectClosure.new (descriptors : List LogicalObject) (objects : OrderedMap ObjectId Bytes) :
    Result ObjectClosure := do
  let descriptorIds := descriptors.map LogicalObject.objectId
  rejectIf (¬ descriptorIds.Nodup ∨ descriptors.length ≠ objects.size ∨
    (∃ objectId ∈ descriptorIds, objectId ∉ objects)) objectClosureIncomplete
  forEach descriptors fun descriptor => do
    descriptor.validate
    let bytes ← okOr objects[descriptor.objectId]? objectClosureIncomplete
    rejectIf (descriptor.plainDigest ≠ Digest.of bytes ∨
      descriptor.plainSize.toNat ≠ bytes.length) .objectDigestMismatch
  return { objects }

/-! ## Inputs and executors -/

structure AdmissionInput where
  capsule : ReplayCapsule
  closure : WorldClosure
  closurePolicy : ClosurePolicy
  expectedFailure : FailureIdentity
  objects : ObjectClosure
  perturbations : Vector Perturbation 3

structure ExecutionRequest where
  capsule : ReplayCapsule
  objects : ObjectClosure
  perturbation : Perturbation

structure ExecutionObservation where
  cleanupComplete : Bool
  executorCapabilitiesDigest : Digest
  failure : Option FailureIdentity

/-- A request that was executed, and what was observed. -/
structure Execution where
  request : ExecutionRequest
  observation : ExecutionObservation

/-- What is observed for a request, given the executions before. -/
abbrev AdmissionExecutor :=
  (earlier : List Execution) → ExecutionRequest → Result ExecutionObservation

structure AdmittedCandidate where
  capsuleDigest : Digest
  proofs : Vector Proof 3

def candidateBindingError : Error :=
  .new .incompleteCandidate "The closed candidate does not bind the captured operation."

/-- The captured candidate is the one that the input closed. -/
def validateCandidateBinding (candidate : Candidate) (input : AdmissionInput) : Result Unit := do
  candidate.validate
  input.expectedFailure.validate
  input.capsule.validate
  let failureDigest ← Canonical.digest input.expectedFailure
  rejectIf (failureDigest ≠ candidate.failure.identity ∨
    input.capsule.failureDigest ≠ candidate.failure.identity ∨
    input.capsule.subjectDigest ≠ candidate.deployment.subject.artifactDigest ∨
    input.capsule.worldDigest ≠ candidate.worldId) candidateBindingError

/-! ## Admission -/

def proofBinding : Error :=
  .new .admissionProofBinding "The admission proof does not bind the sealed capsule."

def unsupportedProfile : Error :=
  .new .unsupportedCapabilitySet "The Backend release does not support this profile."

def unboundWorld : Error :=
  .new .worldNotClosed "The capsule does not bind the closed World."

def validateAdmissionInput (input : AdmissionInput) : Result Unit := do
  input.capsule.validate
  rejectIf (input.capsule.profile ≠ "backend" ∨ input.capsule.profileFormat ≠ 1)
    unsupportedProfile
  input.expectedFailure.validate
  validateWorldClosure input.closurePolicy input.closure
  let closureDigest ← Canonical.digest input.closure
  rejectIf (closureDigest ≠ input.capsule.closureManifestDigest) unboundWorld
  forEach input.perturbations.toList.zipIdx fun (perturbation, runIndex) => do
    perturbation.validate
    rejectIf (perturbation.runIndex.toNat ≠ runIndex) proofBinding

def cleanupIncomplete : Error :=
  .new .evaluationError "The admission executor did not complete cleanup."

def failureNotReproduced : Error :=
  .new .differentFailure "The target Failure did not reproduce."

def differentFailure : Error :=
  .new .differentFailure "A different Failure occurred during admission."

/-- One run, and the executions with it. -/
def admitRunWithCalls (input : AdmissionInput) (executor : AdmissionExecutor) (runIndex : Nat)
    (earlier : List Execution) : Result (Proof × List Execution) := do
  validateAdmissionInput input
  let perturbation ← okOr input.perturbations[runIndex]? proofBinding
  perturbation.validate
  rejectIf (perturbation.runIndex.toNat ≠ runIndex) proofBinding
  let request : ExecutionRequest :=
    { capsule := input.capsule, objects := input.objects, perturbation }
  let observation ← executor earlier request
  rejectIf (¬ observation.cleanupComplete) cleanupIncomplete
  let observedFailure ← okOr observation.failure failureNotReproduced
  rejectIf (¬ input.expectedFailure.matches' observedFailure) differentFailure
  let capsuleDigest ← Canonical.digest input.capsule
  let perturbationDigest ← Canonical.digest perturbation
  return ({
    capsuleDigest
    executorCapabilitiesDigest := observation.executorCapabilitiesDigest
    failureDigest := input.capsule.failureDigest
    format := .v1
    perturbationDigest
    processingMode := input.capsule.processingMode
    result := .targetReproduced
    runIndex := perturbation.runIndex
    subjectDigest := input.capsule.subjectDigest
    triggerDigest := input.capsule.triggerDigest
    worldDigest := input.capsule.worldDigest }, earlier ++ [⟨request, observation⟩])

def completeAdmission (input : AdmissionInput) (proofs : Vector Proof 3) :
    Result AdmittedCandidate := do
  validateAdmissionInput input
  let capsuleDigest ← Canonical.digest input.capsule
  let _ ← validateProofSet input.capsule proofs.toList input.perturbations.toList
  return { capsuleDigest, proofs }

/-- Admit a candidate, and record its executions. -/
def admitWithCalls (input : AdmissionInput) (executor : AdmissionExecutor) :
    Result (AdmittedCandidate × List Execution) := do
  validateAdmissionInput input
  let (first, calls) ← admitRunWithCalls input executor 0 []
  let (second, calls) ← admitRunWithCalls input executor 1 calls
  let (third, calls) ← admitRunWithCalls input executor 2 calls
  let admitted ← completeAdmission input #v[first, second, third]
  return (admitted, calls)

def admitCandidate (input : AdmissionInput) (executor : AdmissionExecutor) :
    Result AdmittedCandidate :=
  Prod.fst <$> admitWithCalls input executor

end Reproit.Backend
