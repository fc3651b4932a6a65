/-
# Verifying an automatic capture

An automatic capture is accepted when its fence stands in front of the failure and signs
for every observation before it: their number, their digest, the adapters that own them
and the World that they close.
-/

import Reproit.Core.Admission
import Reproit.Core.CandidateShape
import Reproit.Core.Crypto

namespace Reproit

/-- A list of observations is a document of its own. -/
instance : Document (List AutomaticObservationPayload) :=
  ⟨.list AutomaticObservationPayload.codec, by decide⟩

def attestationScope : Error :=
  .new .attestationScope "The observation fence does not match the capture scope."

/-- The documents of an automatic capture. -/
structure AutomaticRecords where
  begin' : OperationBeginPayload
  fence : NativeObservationFenceReceipt
  observations : List AutomaticObservationPayload

/-- The records of an automatic capture. The fence is the third record from the end and
the failure follows it. -/
def automaticRecords (candidate : Candidate) : Result AutomaticRecords := do
  let first ← okOr candidate.records.head? worldNotClosed
  let begin' ← recordPayload OperationBeginPayload first
  let fenceIndex ← okOr
    (candidate.records.findIdx? fun record => record.kind = .observationFence) worldNotClosed
  rejectIf (fenceIndex + 2 ≠ candidate.records.length - 1 ∨
    (candidate.records[fenceIndex + 1]?).map EventRecord.kind ≠ some .failure ∨
    candidate.records.countP (fun record => record.kind = .observationFence) ≠ 1) worldNotClosed
  let fenceRecord ← okOr candidate.records[fenceIndex]? worldNotClosed
  let fence ← recordPayload NativeObservationFenceReceipt fenceRecord
  let observations ← collect
    ((candidate.records.take fenceIndex).filter fun record => record.kind = .observation)
    (recordPayload AutomaticObservationPayload)
  return { begin', fence, observations }

/-- The observations are numbered in order and belong to the operation. -/
def validateScope (candidate : Candidate) (begin' : OperationBeginPayload)
    (observations : List AutomaticObservationPayload) : Result Unit :=
  forEach observations.zipIdx fun (observation, index) => do
    rejectIf (observation.observationSequence.toNat ≠ index)
      (.new .incompleteRecordSequence "The automatic observation sequence is incomplete.")
    rejectIf (observation.operationId ≠ candidate.operationId ∨
      observation.causalParentId.any fun parent => parent ∉ begin'.causalParentIds) worldNotClosed

/-- Every observation has an owner that is listed for its boundary and class. -/
def validateObservationOwners (observations : List AutomaticObservationPayload)
    (ownerships : List SemanticAdapterOwnership) : Result Unit :=
  forEach observations fun observation => do
    let ownerAdapterId ← okOr observation.ownerAdapterId worldNotClosed
    rejectIf (¬ ∃ ownership ∈ ownerships, ownership.adapterId = ownerAdapterId ∧
      ownership.boundaryId = observation.boundaryId ∧
      ownership.observationClass = observation.observationClass) worldNotClosed

variable [Primitives]

/-- The fence signs for this capture and for exactly these observations. -/
def validateFenceBinding (candidate : Candidate)
    (observations : List AutomaticObservationPayload) (fence : NativeObservationFenceReceipt) :
    Result Unit := do
  fence.validate
  let deploymentDigest ← Canonical.digest candidate.deployment
  let subjectDigest ← Canonical.digest candidate.deployment.subject
  rejectIf (fence.subjectDigest ≠ subjectDigest)
    (.new .subjectDigestMismatch "The observation fence does not match the captured subject.")
  rejectIf (fence.deploymentDigest ≠ deploymentDigest ∨
    fence.operationId ≠ candidate.operationId) attestationScope
  let unownedCount := observations.countP fun observation => observation.ownerAdapterId.isNone
  rejectIf (fence.observationCount.toNat ≠ observations.length ∨
    fence.unownedObservationCount.toNat ≠ unownedCount) worldNotClosed
  let observationsDigest ← Canonical.digest observations
  rejectIf (fence.observationsDigest ≠ observationsDigest) worldNotClosed
  rejectIf (fence.overflowed ∨ fence.droppedObservationCount ≠ 0 ∨ unownedCount ≠ 0)
    worldNotClosed
  validateObservationOwners observations fence.adapterOwnership

def verifyAutomaticCapture (candidate : Candidate) (closurePolicy : ClosurePolicy)
    (expectedFenceSignerKeyId : String) (fencePublicKey : SecretKey) : Result Unit := do
  candidate.validate
  let records ← automaticRecords candidate
  validateScope candidate records.begin' records.observations
  validateFenceBinding candidate records.observations records.fence
  validateWorldClosure closurePolicy records.fence.worldClosure
  rejectIf (records.fence.signerKeyId ≠ expectedFenceSignerKeyId) attestationScope
  verifySignedValue (Document.encode records.fence) fencePublicKey

end Reproit
