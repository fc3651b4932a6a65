/-
# Automatic observations and their fence

A semantic adapter owns the observations of one boundary.  The native fence signs a
receipt of the observations that it saw, of the adapters that own them and of the
World that they close.
-/

import Reproit.Core.Base64Url
import Reproit.Core.Model.Proof

namespace Reproit

/-! ## Observation classes -/

inductive AutomaticObservationClass
  | clock | database | environment | filesystem | outboundHttp | queue | randomness
  deriving DecidableEq

namespace AutomaticObservationClass

def all : List AutomaticObservationClass :=
  [.clock, .database, .environment, .filesystem, .outboundHttp, .queue, .randomness]

def name : AutomaticObservationClass → String
  | .clock => "clock"
  | .database => "database"
  | .environment => "environment"
  | .filesystem => "filesystem"
  | .outboundHttp => "outbound-http"
  | .queue => "queue"
  | .randomness => "randomness"

def codec : Codec AutomaticObservationClass :=
  .enumeration all name fun value => by cases value <;> decide

def boundaryId : AutomaticObservationClass → String
  | .clock => "automatic.clock"
  | .database => "automatic.database"
  | .environment => "automatic.environment"
  | .filesystem => "automatic.filesystem"
  | .outboundHttp => "automatic.outbound-http"
  | .queue => "automatic.queue"
  | .randomness => "automatic.randomness"

def closureClass : AutomaticObservationClass → ObservationClass
  | .clock | .randomness => .clockRandomIdentity
  | .database => .stateService
  | .environment | .filesystem => .filesystemEnvironment
  | .outboundHttp | .queue => .networkIpcSignal

end AutomaticObservationClass

/-! ## Observations -/

/-- The adapter that owns the observations of one boundary. -/
structure SemanticAdapterOwnership where
  adapterId : String
  adapterVersion : String
  boundaryId : String
  implementationDigest : Digest
  observationClass : AutomaticObservationClass
  deriving DecidableEq

namespace SemanticAdapterOwnership

def codec : Codec SemanticAdapterOwnership :=
  .record
    (.required "adapter_id" .string <| .required "adapter_version" .string <|
      .required "boundary_id" .string <| .required "implementation_digest" Digest.codec <|
      .required "observation_class" AutomaticObservationClass.codec .done)
    (fun r => (r.adapterId, r.adapterVersion, r.boundaryId, r.implementationDigest,
      r.observationClass, ()))
    (fun (adapterId, adapterVersion, boundaryId, implementationDigest, observationClass, ()) =>
      { adapterId, adapterVersion, boundaryId, implementationDigest, observationClass })
    (fun _ => rfl) (by decide)

def validate (ownership : SemanticAdapterOwnership) : Result Unit :=
  rejectIf (¬ validComponent ownership.adapterId ∨ ownership.adapterVersion.isEmpty ∨
    ownership.adapterVersion.utf8ByteSize > 64 ∨ ¬ validBoundaryId ownership.boundaryId)
    .schemaInvalid

instance : Validate SemanticAdapterOwnership := ⟨validate⟩

end SemanticAdapterOwnership

def maxObservations : Nat := 1024

abbrev AutomaticObservationPayloadFormat := Format "reproit.automatic-observation.v1"

/-- One automatic observation of an operation. -/
structure AutomaticObservationPayload where
  boundaryId : String
  causalParentId : Option OperationId
  evidenceDigest : Digest
  format : AutomaticObservationPayloadFormat
  observationClass : AutomaticObservationClass
  observationSequence : UInt16
  operationId : OperationId
  ownerAdapterId : Option String
  deriving DecidableEq

namespace AutomaticObservationPayload

def codec : Codec AutomaticObservationPayload :=
  .record
    (.required "boundary_id" .string <|
      .optional "causal_parent_id" TypedId.codec TypedId.decode_null <|
      .required "evidence_digest" Digest.codec <| .required "format" (Format.codec _) <|
      .required "observation_class" AutomaticObservationClass.codec <|
      .required "observation_sequence" .uint16 <| .required "operation_id" TypedId.codec <|
      .optional "owner_adapter_id" .string Codec.decode_null_string .done)
    (fun r => (r.boundaryId, r.causalParentId, r.evidenceDigest, r.format, r.observationClass,
      r.observationSequence, r.operationId, r.ownerAdapterId, ()))
    (fun (boundaryId, causalParentId, evidenceDigest, format, observationClass,
      observationSequence, operationId, ownerAdapterId, ()) =>
      { boundaryId, causalParentId, evidenceDigest, format, observationClass,
        observationSequence, operationId, ownerAdapterId })
    (fun _ => rfl) (by decide)

instance : Document AutomaticObservationPayload := ⟨codec, by decide⟩

def validate (observation : AutomaticObservationPayload) : Result Unit :=
  rejectIf (¬ validBoundaryId observation.boundaryId ∨
    observation.observationSequence.toNat ≥ maxObservations ∨
    observation.ownerAdapterId.any fun adapterId => ¬ validComponent adapterId) .schemaInvalid

instance : Validate AutomaticObservationPayload := ⟨validate⟩

end AutomaticObservationPayload

/-! ## Fence receipts -/

def worldNotClosed : Error :=
  .new .worldNotClosed "Repro It could not own every automatic application observation."

/-- Every ownership is valid, names the boundary of its class, comes after the one
before it and describes its adapter as earlier ones do. -/
def validateOwnerships : (previous : Option String) →
    (identities : List (String × String × Digest)) → List SemanticAdapterOwnership → Result Unit
  | _, _, [] => .ok ()
  | previous, identities, ownership :: rest => do
      ownership.validate
      rejectIf (ownership.boundaryId ≠ ownership.observationClass.boundaryId) .schemaInvalid
      rejectIf (previous.any fun prior => prior ≥ ownership.boundaryId) .schemaInvalid
      let identity := (ownership.adapterVersion, ownership.implementationDigest)
      rejectIf ((identities.lookup ownership.adapterId).any fun existing => existing ≠ identity)
        .schemaInvalid
      validateOwnerships (some ownership.boundaryId)
        ((ownership.adapterId, identity) :: identities) rest

/-- The adapters own every class and the receipts of the World are theirs. -/
def validateOwnership (ownerships : List SemanticAdapterOwnership) (closure : WorldClosure) :
    Result Unit := do
  rejectIf (ownerships.length < AutomaticObservationClass.all.length ∨ ownerships.length > 64)
    .schemaInvalid
  validateOwnerships none [] ownerships
  rejectIf (∃ observed ∈ AutomaticObservationClass.all,
    observed ∉ ownerships.map SemanticAdapterOwnership.observationClass) worldNotClosed
  rejectIf (closure.receipts.length ≠ ownerships.length) worldNotClosed
  forEach (ownerships.zip closure.receipts) fun (ownership, receipt) =>
    rejectIf (ownership.boundaryId ≠ receipt.boundaryId ∨
      ownership.observationClass.closureClass ≠ receipt.observationClass) worldNotClosed

abbrev NativeObservationFenceReceiptFormat := Format "reproit.native-observation-fence-receipt.v1"

/-- The signed receipt of the native fence. -/
structure NativeObservationFenceReceipt where
  adapterOwnership : List SemanticAdapterOwnership
  deploymentDigest : Digest
  droppedObservationCount : UInt64
  fenceId : String
  fenceVersion : String
  format : NativeObservationFenceReceiptFormat
  observationCount : UInt16
  observationsDigest : Digest
  operationId : OperationId
  overflowed : Bool
  signature : String
  signerKeyId : String
  subjectDigest : Digest
  unownedObservationCount : UInt16
  worldClosure : WorldClosure
  deriving DecidableEq

namespace NativeObservationFenceReceipt

def codec : Codec NativeObservationFenceReceipt :=
  .record
    (.required "adapter_ownership" (.list SemanticAdapterOwnership.codec) <|
      .required "deployment_digest" Digest.codec <|
      .required "dropped_observation_count" .uint64 <| .required "fence_id" .string <|
      .required "fence_version" .string <| .required "format" (Format.codec _) <|
      .required "observation_count" .uint16 <|
      .required "observations_digest" Digest.codec <| .required "operation_id" TypedId.codec <|
      .required "overflowed" .bool <| .required "signature" .string <|
      .required "signer_key_id" .string <| .required "subject_digest" Digest.codec <|
      .required "unowned_observation_count" .uint16 <|
      .required "world_closure" WorldClosure.codec .done)
    (fun r => (r.adapterOwnership, r.deploymentDigest, r.droppedObservationCount, r.fenceId,
      r.fenceVersion, r.format, r.observationCount, r.observationsDigest, r.operationId,
      r.overflowed, r.signature, r.signerKeyId, r.subjectDigest, r.unownedObservationCount,
      r.worldClosure, ()))
    (fun (adapterOwnership, deploymentDigest, droppedObservationCount, fenceId, fenceVersion,
      format, observationCount, observationsDigest, operationId, overflowed, signature,
      signerKeyId, subjectDigest, unownedObservationCount, worldClosure, ()) =>
      { adapterOwnership, deploymentDigest, droppedObservationCount, fenceId, fenceVersion,
        format, observationCount, observationsDigest, operationId, overflowed, signature,
        signerKeyId, subjectDigest, unownedObservationCount, worldClosure })
    (fun _ => rfl) (by decide)

instance : Document NativeObservationFenceReceipt := ⟨codec, by decide⟩

def validate (receipt : NativeObservationFenceReceipt) : Result Unit := do
  rejectIf (¬ validComponent receipt.fenceId ∨ receipt.fenceVersion.isEmpty ∨
    receipt.fenceVersion.utf8ByteSize > 64 ∨ receipt.signerKeyId.isEmpty ∨
    receipt.signerKeyId.utf8ByteSize > 256 ∨ receipt.signature.utf8ByteSize ≠ 86 ∨
    receipt.observationCount.toNat > maxObservations ∨
    receipt.unownedObservationCount.toNat > maxObservations) .schemaInvalid
  let _ ← decodeBase64Url 64 receipt.signature
  receipt.worldClosure.validate
  validateOwnership receipt.adapterOwnership receipt.worldClosure

instance : Validate NativeObservationFenceReceipt := ⟨validate⟩

end NativeObservationFenceReceipt

end Reproit
