/-
# Closing a managed World

A managed worker closes the World of a replay from the identities of what it runs with.
For every rule it takes the first allowed mechanism that it has evidence for, and a
receipt commits to that evidence.
-/

import Reproit.Core.Admission

namespace Reproit.Backend

structure ManagedClosureEvidence where
  dependencyIdentity : Option Digest
  executorIdentity : Digest
  isolationIdentity : Digest
  subjectIdentity : Digest
  worldIdentity : Digest
  deriving DecidableEq

/-- What the evidence digest of a receipt commits to. -/
structure ClosureEvidenceBinding where
  boundaryId : String
  evidenceIdentity : Digest
  mechanism : ClosureMechanism
  observationClass : ObservationClass
  deriving DecidableEq

namespace ClosureEvidenceBinding

def codec : Codec ClosureEvidenceBinding :=
  .record
    (.required "boundary_id" .string <| .required "evidence_identity" Digest.codec <|
      .required "mechanism" ClosureMechanism.codec <|
      .required "observation_class" ObservationClass.codec .done)
    (fun r => (r.boundaryId, r.evidenceIdentity, r.mechanism, r.observationClass, ()))
    (fun (boundaryId, evidenceIdentity, mechanism, observationClass, ()) =>
      { boundaryId, evidenceIdentity, mechanism, observationClass })
    (fun _ => rfl) (by decide)

instance : Document ClosureEvidenceBinding := ⟨codec, by decide⟩

end ClosureEvidenceBinding

/-- The evidence that a worker has for a mechanism. -/
def evidenceFor (evidence : ManagedClosureEvidence) (observationClass : ObservationClass) :
    ClosureMechanism → Option Digest
  | .blocked => some evidence.isolationIdentity
  | .exactTranscript => evidence.dependencyIdentity
  | .fixedExecutorCapability => some evidence.executorIdentity
  | .immutableObject =>
      match observationClass with
      | .filesystemEnvironment => some evidence.subjectIdentity
      | .stateService => some evidence.worldIdentity
      | _ => none
  | .verifiedSimulator => none

/-- The first mechanism that there is evidence for. -/
def selectEvidence (observationClass : ObservationClass) (evidence : ManagedClosureEvidence) :
    (allowed : List ClosureMechanism) → Result (ClosureMechanism × Digest)
  | [] => .error (.new .worldNotClosed
      "The managed worker has no verified evidence for one World boundary.")
  | mechanism :: rest =>
      match evidenceFor evidence observationClass mechanism with
      | some identity => .ok (mechanism, identity)
      | none => selectEvidence observationClass evidence rest

variable [Primitives]

/-- The receipt of a rule. -/
def closeRule (evidence : ManagedClosureEvidence) (rule : ClosureRule) :
    Result ClosureReceipt := do
  let (mechanism, evidenceIdentity) ←
    selectEvidence rule.observationClass evidence rule.allowedMechanisms
  let binding : ClosureEvidenceBinding :=
    { boundaryId := rule.boundaryId, evidenceIdentity, mechanism
      observationClass := rule.observationClass }
  let evidenceDigest ← Canonical.digest binding
  return {
    boundaryId := rule.boundaryId
    evidenceDigest
    mechanism
    observationClass := rule.observationClass
    version := 1 }

def closeManagedWorld (policy : ClosurePolicy) (evidence : ManagedClosureEvidence) :
    Result WorldClosure := do
  policy.validate
  let receipts ← collect policy.rules (closeRule evidence)
  let policyDigest ← Canonical.digest policy
  let closure : WorldClosure := { format := .v1, policyDigest, receipts }
  validateWorldClosure policy closure
  return closure

end Reproit.Backend
