/-
# Failures, triggers and dependency transcripts

The documents that say what happened in a captured operation: the identity of its
failure, the trigger that started it with its inputs, and the recorded dependency
interactions.  Summaries of a failure are cut down to fixed texts in managed mode.
-/

import Reproit.Core.Model.Object

namespace Reproit

/-! ## Enumerations -/

inductive OperationKind
  | deliveredWork | requestResponse | stream
  deriving DecidableEq

def OperationKind.name : OperationKind → String
  | .deliveredWork => "delivered-work"
  | .requestResponse => "request-response"
  | .stream => "stream"

def OperationKind.codec : Codec OperationKind :=
  .enumeration [.deliveredWork, .requestResponse, .stream] name
    fun value => by cases value <;> decide

inductive ExceptionCategory
  | exception | panic | visibleError
  deriving DecidableEq

def ExceptionCategory.name : ExceptionCategory → String
  | .exception => "exception"
  | .panic => "panic"
  | .visibleError => "visible-error"

def ExceptionCategory.codec : Codec ExceptionCategory :=
  .enumeration [.exception, .panic, .visibleError] name fun value => by cases value <;> decide

inductive ContractCategory
  | explicit | postcondition | responseContract
  deriving DecidableEq

def ContractCategory.name : ContractCategory → String
  | .explicit => "explicit"
  | .postcondition => "postcondition"
  | .responseContract => "response-contract"

def ContractCategory.codec : Codec ContractCategory :=
  .enumeration [.explicit, .postcondition, .responseContract] name
    fun value => by cases value <;> decide

inductive FailureCategory
  | exception | explicit | panic | postcondition | responseContract | visibleError
  deriving DecidableEq

namespace FailureCategory

def fixedLabel : FailureCategory → String
  | .exception => "exception"
  | .explicit => "explicit"
  | .panic => "panic"
  | .postcondition => "postcondition"
  | .responseContract => "response-contract"
  | .visibleError => "visible-error"

/-- A category is written as its fixed label. -/
def codec : Codec FailureCategory :=
  .enumeration [.exception, .explicit, .panic, .postcondition, .responseContract,
    .visibleError] fixedLabel fun value => by cases value <;> decide

def ofException : ExceptionCategory → FailureCategory
  | .exception => .exception
  | .panic => .panic
  | .visibleError => .visibleError

def ofContract : ContractCategory → FailureCategory
  | .explicit => .explicit
  | .postcondition => .postcondition
  | .responseContract => .responseContract

end FailureCategory

inductive FailureMatcher
  | contractDigestV1 | exceptionExactV1
  deriving DecidableEq

def FailureMatcher.name : FailureMatcher → String
  | .contractDigestV1 => "contract-digest-v1"
  | .exceptionExactV1 => "exception-exact-v1"

def FailureMatcher.codec : Codec FailureMatcher :=
  .enumeration [.contractDigestV1, .exceptionExactV1] name fun value => by cases value <;> decide

inductive InputChannel
  | control | input | metadata
  deriving DecidableEq

def InputChannel.name : InputChannel → String
  | .control => "control"
  | .input => "input"
  | .metadata => "metadata"

def InputChannel.codec : Codec InputChannel :=
  .enumeration [.control, .input, .metadata] name fun value => by cases value <;> decide

inductive TriggerCompletion
  | acknowledgment | return' | streamEnd | taskEnd
  deriving DecidableEq

def TriggerCompletion.name : TriggerCompletion → String
  | .acknowledgment => "acknowledgment"
  | .return' => "return"
  | .streamEnd => "stream-end"
  | .taskEnd => "task-end"

def TriggerCompletion.codec : Codec TriggerCompletion :=
  .enumeration [.acknowledgment, .return', .streamEnd, .taskEnd] name
    fun value => by cases value <;> decide

inductive DependencyOutcome
  | error | response
  deriving DecidableEq

def DependencyOutcome.name : DependencyOutcome → String
  | .error => "error"
  | .response => "response"

def DependencyOutcome.codec : Codec DependencyOutcome :=
  .enumeration [.error, .response] name fun value => by cases value <;> decide

/-! ## Failure identities -/

/-- One frame of a failure's stack. -/
structure FailureFrame where
  function : String
  module : String
  source : String
  deriving DecidableEq

namespace FailureFrame

def codec : Codec FailureFrame :=
  .record
    (.required "function" .string <| .required "module" .string <|
      .required "source" .string .done)
    (fun r => (r.function, r.module, r.source, ()))
    (fun (function, module, source, ()) => { function, module, source })
    (fun _ => rfl) (by decide)

/-- A source path that leaves the source tree. -/
def escapesSource (source : String) : Bool :=
  source.toList.head? = some '/' || (source.toList.splitOn '/').contains ['.', '.'] ||
    source.toList.contains '\x5c'

end FailureFrame

/-- The identity of a failure by its exception. -/
structure ExceptionFailureIdentity where
  category : ExceptionCategory
  causeTypes : List String
  frames : List FailureFrame
  operationKind : OperationKind
  operationName : String
  runtimeFamily : String
  schema : String
  stableCode : Option String
  typeName : String
  deriving DecidableEq

namespace ExceptionFailureIdentity

def codec : Codec ExceptionFailureIdentity :=
  .record
    (.required "category" ExceptionCategory.codec <| .required "cause_types" (.list .string) <|
      .required "frames" (.list FailureFrame.codec) <|
      .required "operation_kind" OperationKind.codec <| .required "operation_name" .string <|
      .required "runtime_family" .string <| .required "schema" .string <|
      .optional "stable_code" .string Codec.decode_null_string <| .required "type" .string .done)
    (fun r => (r.category, r.causeTypes, r.frames, r.operationKind, r.operationName,
      r.runtimeFamily, r.schema, r.stableCode, r.typeName, ()))
    (fun (category, causeTypes, frames, operationKind, operationName, runtimeFamily, schema,
      stableCode, typeName, ()) =>
      { category, causeTypes, frames, operationKind, operationName, runtimeFamily, schema,
        stableCode, typeName })
    (fun _ => rfl) (by decide)

def validate (identity : ExceptionFailureIdentity) : Result Unit := do
  rejectIf (identity.schema ≠ "reproit.failure.v1" ∨ identity.operationName.isEmpty ∨
    identity.runtimeFamily.isEmpty ∨ identity.typeName.isEmpty ∨
    (identity.frames = [] ∧ identity.stableCode = none) ∨ identity.causeTypes.length > 32 ∨
    identity.frames.length > 64) .schemaInvalid
  forEach identity.frames fun frame =>
    rejectIf (frame.function.isEmpty ∨ frame.module.isEmpty ∨ frame.source.isEmpty ∨
      FailureFrame.escapesSource frame.source) .schemaInvalid

end ExceptionFailureIdentity

/-- The identity of a failure by the contract that it broke. -/
structure ContractFailureIdentity where
  category : ContractCategory
  contractId : String
  contractVersion : String
  expectedDigest : Digest
  observedDigest : Digest
  operationKind : OperationKind
  operationName : String
  runtimeFamily : String
  schema : String
  deriving DecidableEq

namespace ContractFailureIdentity

def codec : Codec ContractFailureIdentity :=
  .record
    (.required "category" ContractCategory.codec <| .required "contract_id" .string <|
      .required "contract_version" .string <| .required "expected_digest" Digest.codec <|
      .required "observed_digest" Digest.codec <|
      .required "operation_kind" OperationKind.codec <| .required "operation_name" .string <|
      .required "runtime_family" .string <| .required "schema" .string .done)
    (fun r => (r.category, r.contractId, r.contractVersion, r.expectedDigest, r.observedDigest,
      r.operationKind, r.operationName, r.runtimeFamily, r.schema, ()))
    (fun (category, contractId, contractVersion, expectedDigest, observedDigest, operationKind,
      operationName, runtimeFamily, schema, ()) =>
      { category, contractId, contractVersion, expectedDigest, observedDigest, operationKind,
        operationName, runtimeFamily, schema })
    (fun _ => rfl) (by decide)

def validate (identity : ContractFailureIdentity) : Result Unit :=
  rejectIf (identity.schema ≠ "reproit.failure.v1" ∨ identity.contractId.isEmpty ∨
    identity.contractVersion.isEmpty ∨ identity.operationName.isEmpty ∨
    identity.runtimeFamily.isEmpty) .schemaInvalid

end ContractFailureIdentity

/-- What counts as the same failure. -/
inductive FailureIdentity
  | exception (identity : ExceptionFailureIdentity)
  | contract (identity : ContractFailureIdentity)
  deriving DecidableEq

abbrev FailureGroupingFormat := Format "reproit.failure-grouping.v1"

/-- The bounded facts that group failures. -/
structure FailureGrouping where
  category : FailureCategory
  format : FailureGroupingFormat
  identityDigest : Digest
  matcher : FailureMatcher
  deriving DecidableEq

def FailureGrouping.codec : Codec FailureGrouping :=
  .record
    (.required "category" FailureCategory.codec <| .required "format" (Format.codec _) <|
      .required "identity_digest" Digest.codec <|
      .required "matcher" FailureMatcher.codec .done)
    (fun r => (r.category, r.format, r.identityDigest, r.matcher, ()))
    (fun (category, format, identityDigest, matcher, ()) =>
      { category, format, identityDigest, matcher })
    (fun _ => rfl) (by decide)

instance : Document FailureGrouping := ⟨FailureGrouping.codec, by decide⟩

/-- A summary of the failure that may leave the capture. -/
structure FailureSummary where
  category : FailureCategory
  operation : String
  stableCode : Option String
  typeName : String
  deriving DecidableEq

namespace FailureSummary

def codec : Codec FailureSummary :=
  .record
    (.required "category" FailureCategory.codec <| .required "operation" .string <|
      .optional "stable_code" .string Codec.decode_null_string <| .required "type" .string .done)
    (fun r => (r.category, r.operation, r.stableCode, r.typeName, ()))
    (fun (category, operation, stableCode, typeName, ()) =>
      { category, operation, stableCode, typeName })
    (fun _ => rfl) (by decide)

def validateForMode (summary : FailureSummary) (processingMode : ProcessingMode) :
    Result Unit := do
  rejectIf (summary.operation.isEmpty ∨ summary.operation.utf8ByteSize > 128 ∨
    summary.typeName.isEmpty ∨ summary.typeName.utf8ByteSize > 256 ∨
    summary.stableCode.any fun value => value.isEmpty || value.utf8ByteSize > 128) .schemaInvalid
  rejectIf (processingMode = .managed ∧ (summary.operation ≠ "captured-operation" ∨
    summary.stableCode.isSome ∨ summary.typeName ≠ summary.category.fixedLabel)) .schemaInvalid

end FailureSummary

/-- A summary of the trigger that may leave the capture. -/
structure TriggerSummary where
  kind : OperationKind
  operation : String
  deriving DecidableEq

namespace TriggerSummary

def codec : Codec TriggerSummary :=
  .record
    (.required "kind" OperationKind.codec <| .required "operation" .string .done)
    (fun r => (r.kind, r.operation, ())) (fun (kind, operation, ()) => { kind, operation })
    (fun _ => rfl) (by decide)

def validateForMode (summary : TriggerSummary) (processingMode : ProcessingMode) : Result Unit :=
  rejectIf (summary.operation.isEmpty ∨ summary.operation.utf8ByteSize > 128 ∨
    (processingMode = .managed ∧ summary.operation ≠ "captured-operation")) .schemaInvalid

end TriggerSummary

def safeOperation (processingMode : ProcessingMode) (operation : String) : String :=
  match processingMode with
  | .managed => "captured-operation"
  | .private' => operation

namespace FailureIdentity

theorem exception_refuses_contract (identity : ContractFailureIdentity) :
    ExceptionFailureIdentity.codec.decode (ContractFailureIdentity.codec.encode identity) =
      none := by
  refine Codec.decode_record_encode_record_eq_none ?_ (by decide : "contract_id" ∉ _)
  simp [Fields.encode, Fields.required]

/-- An identity is written without a tag; the reader tries an exception first. -/
def codec : Codec FailureIdentity :=
  (Codec.untagged ExceptionFailureIdentity.codec ContractFailureIdentity.codec
    exception_refuses_contract).imap
    (fun
      | .exception identity => .inl identity
      | .contract identity => .inr identity)
    (fun
      | .inl identity => .exception identity
      | .inr identity => .contract identity)
    (fun identity => by cases identity <;> rfl) (fun identity => by cases identity <;> rfl)

instance : Document FailureIdentity := ⟨codec, by decide⟩

def validate : FailureIdentity → Result Unit
  | .exception identity => identity.validate
  | .contract identity => identity.validate

instance : Validate FailureIdentity := ⟨validate⟩

def operation : FailureIdentity → OperationKind × String
  | .exception identity => (identity.operationKind, identity.operationName)
  | .contract identity => (identity.operationKind, identity.operationName)

def matches' (expected observed : FailureIdentity) : Bool := expected = observed

/-- The fixed facts of a valid identity. -/
def grouping [Primitives] (identity : FailureIdentity) : Result FailureGrouping := do
  identity.validate
  let identityDigest ← Canonical.digest identity
  let (category, matcher) := match identity with
    | .exception identity => (FailureCategory.ofException identity.category,
        FailureMatcher.exceptionExactV1)
    | .contract identity => (FailureCategory.ofContract identity.category,
        FailureMatcher.contractDigestV1)
  return { category, format := .v1, identityDigest, matcher }

def safeSummaries (processingMode : ProcessingMode) :
    FailureIdentity → FailureSummary × TriggerSummary
  | .exception identity =>
      let category := FailureCategory.ofException identity.category
      ({ category
         operation := safeOperation processingMode identity.operationName
         stableCode := match processingMode with
           | .managed => none
           | .private' => identity.stableCode
         typeName := match processingMode with
           | .managed => category.fixedLabel
           | .private' => identity.typeName },
        { kind := identity.operationKind
          operation := safeOperation processingMode identity.operationName })
  | .contract identity =>
      let category := FailureCategory.ofContract identity.category
      ({ category
         operation := safeOperation processingMode identity.operationName
         stableCode := none
         typeName := match processingMode with
           | .managed => category.fixedLabel
           | .private' => identity.contractId },
        { kind := identity.operationKind
          operation := safeOperation processingMode identity.operationName })

end FailureIdentity

/-! ## Failure payloads -/

/-- A reference to a failure identity and the object that holds it. -/
structure FailureReference where
  category : FailureCategory
  identity : Digest
  matcher : FailureMatcher
  objectId : ObjectId
  schema : String
  deriving DecidableEq

namespace FailureReference

def codec : Codec FailureReference :=
  .record
    (.required "category" FailureCategory.codec <| .required "identity" Digest.codec <|
      .required "matcher" FailureMatcher.codec <| .required "object_id" TypedId.codec <|
      .required "schema" .string .done)
    (fun r => (r.category, r.identity, r.matcher, r.objectId, r.schema, ()))
    (fun (category, identity, matcher, objectId, schema, ()) =>
      { category, identity, matcher, objectId, schema })
    (fun _ => rfl) (by decide)

/-- Exception categories match exactly, contract categories by digest. -/
def matcherMatches : FailureCategory → FailureMatcher → Bool
  | .exception, .exceptionExactV1 | .panic, .exceptionExactV1
  | .visibleError, .exceptionExactV1 | .explicit, .contractDigestV1
  | .postcondition, .contractDigestV1 | .responseContract, .contractDigestV1 => true
  | _, _ => false

def validate (reference : FailureReference) : Result Unit :=
  rejectIf (reference.schema ≠ "reproit.failure.v1" ∨
    ¬ matcherMatches reference.category reference.matcher) .schemaInvalid

instance : Validate FailureReference := ⟨validate⟩

end FailureReference

abbrev FailurePayloadFormat := Format "reproit.failure-payload.v1"

/-- A failure identity with the reference that names it. -/
structure FailurePayload where
  failure : FailureReference
  format : FailurePayloadFormat
  identity : FailureIdentity
  deriving DecidableEq

namespace FailurePayload

def codec : Codec FailurePayload :=
  .record
    (.required "failure" FailureReference.codec <| .required "format" (Format.codec _) <|
      .required "identity" FailureIdentity.codec .done)
    (fun r => (r.failure, r.format, r.identity, ()))
    (fun (failure, format, identity, ()) => { failure, format, identity })
    (fun _ => rfl) (by decide)

instance : Document FailurePayload := ⟨codec, by decide⟩

def validate [Primitives] (payload : FailurePayload) : Result Unit := do
  payload.failure.validate
  payload.identity.validate
  let identityDigest ← Canonical.digest payload.identity
  rejectIf (payload.failure.identity ≠ identityDigest) .schemaInvalid

instance [Primitives] : Validate FailurePayload := ⟨validate⟩

end FailurePayload

/-! ## Triggers -/

abbrev TriggerFormat := Format "reproit.trigger.v1"

/-- One input that the trigger delivered. -/
structure TriggerInput where
  channel : InputChannel
  objectId : ObjectId
  plainDigest : Digest
  sequence : UInt16
  deriving DecidableEq

def TriggerInput.codec : Codec TriggerInput :=
  .record
    (.required "channel" InputChannel.codec <| .required "object_id" TypedId.codec <|
      .required "plain_digest" Digest.codec <| .required "sequence" .uint16 .done)
    (fun r => (r.channel, r.objectId, r.plainDigest, r.sequence, ()))
    (fun (channel, objectId, plainDigest, sequence, ()) =>
      { channel, objectId, plainDigest, sequence })
    (fun _ => rfl) (by decide)

/-- The operation that failed and the inputs that started it. -/
structure Trigger where
  adapterId : String
  adapterVersion : String
  causalParentIds : List OperationId
  completion : TriggerCompletion
  format : TriggerFormat
  inputs : List TriggerInput
  operationId : OperationId
  operationKind : OperationKind
  operationName : String
  deriving DecidableEq

namespace Trigger

def codec : Codec Trigger :=
  .record
    (.required "adapter_id" .string <| .required "adapter_version" .string <|
      .required "causal_parent_ids" (.list TypedId.codec) <|
      .required "completion" TriggerCompletion.codec <| .required "format" (Format.codec _) <|
      .required "inputs" (.list TriggerInput.codec) <|
      .required "operation_id" TypedId.codec <|
      .required "operation_kind" OperationKind.codec <|
      .required "operation_name" .string .done)
    (fun r => (r.adapterId, r.adapterVersion, r.causalParentIds, r.completion, r.format,
      r.inputs, r.operationId, r.operationKind, r.operationName, ()))
    (fun (adapterId, adapterVersion, causalParentIds, completion, format, inputs, operationId,
      operationKind, operationName, ()) =>
      { adapterId, adapterVersion, causalParentIds, completion, format, inputs, operationId,
        operationKind, operationName })
    (fun _ => rfl) (by decide)

instance : Document Trigger := ⟨codec, by decide⟩

def completionMatches : OperationKind → TriggerCompletion → Bool
  | .requestResponse, .return' | .stream, .streamEnd | .deliveredWork, .acknowledgment
  | .deliveredWork, .taskEnd => true
  | _, _ => false

def validate (trigger : Trigger) : Result Unit := do
  rejectIf (trigger.adapterId.isEmpty ∨ trigger.adapterId.utf8ByteSize > 128 ∨
    trigger.adapterVersion.isEmpty ∨ trigger.adapterVersion.utf8ByteSize > 64 ∨
    trigger.operationName.isEmpty ∨ trigger.operationName.utf8ByteSize > 128 ∨
    trigger.causalParentIds.length > 32 ∨ ¬ trigger.causalParentIds.Nodup ∨
    trigger.inputs.isEmpty ∨ trigger.inputs.length > 1024 ∨
    ¬ completionMatches trigger.operationKind trigger.completion) .schemaInvalid
  forEach trigger.inputs.zipIdx fun (input, index) =>
    rejectIf (input.sequence.toNat ≠ index) .schemaInvalid

instance : Validate Trigger := ⟨validate⟩

end Trigger

/-! ## Dependency transcripts -/

abbrev DependencyTranscriptFormat := Format "reproit.dependency-transcript.v1"

/-- One recorded request and its response. -/
structure DependencyTranscriptInteraction where
  causalParentId : Option OperationId
  operationId : OperationId
  outcome : DependencyOutcome
  requestDigest : Digest
  requestObjectId : ObjectId
  responseDigest : Digest
  responseObjectId : ObjectId
  sequence : UInt16
  sessionPosition : UInt64
  deriving DecidableEq

def DependencyTranscriptInteraction.codec : Codec DependencyTranscriptInteraction :=
  .record
    (.optional "causal_parent_id" TypedId.codec TypedId.decode_null <|
      .required "operation_id" TypedId.codec <| .required "outcome" DependencyOutcome.codec <|
      .required "request_digest" Digest.codec <| .required "request_object_id" TypedId.codec <|
      .required "response_digest" Digest.codec <|
      .required "response_object_id" TypedId.codec <| .required "sequence" .uint16 <|
      .required "session_position" .uint64 .done)
    (fun r => (r.causalParentId, r.operationId, r.outcome, r.requestDigest, r.requestObjectId,
      r.responseDigest, r.responseObjectId, r.sequence, r.sessionPosition, ()))
    (fun (causalParentId, operationId, outcome, requestDigest, requestObjectId, responseDigest,
      responseObjectId, sequence, sessionPosition, ()) =>
      { causalParentId, operationId, outcome, requestDigest, requestObjectId, responseDigest,
        responseObjectId, sequence, sessionPosition })
    (fun _ => rfl) (by decide)

/-- The recorded dialogue with a dependency. -/
structure DependencyTranscript where
  adapterId : String
  adapterVersion : String
  format : DependencyTranscriptFormat
  interactions : List DependencyTranscriptInteraction
  deriving DecidableEq

namespace DependencyTranscript

def codec : Codec DependencyTranscript :=
  .record
    (.required "adapter_id" .string <| .required "adapter_version" .string <|
      .required "format" (Format.codec _) <|
      .required "interactions" (.list DependencyTranscriptInteraction.codec) .done)
    (fun r => (r.adapterId, r.adapterVersion, r.format, r.interactions, ()))
    (fun (adapterId, adapterVersion, format, interactions, ()) =>
      { adapterId, adapterVersion, format, interactions })
    (fun _ => rfl) (by decide)

instance : Document DependencyTranscript := ⟨codec, by decide⟩

def validate (transcript : DependencyTranscript) : Result Unit := do
  rejectIf (¬ validComponent transcript.adapterId ∨ transcript.adapterVersion.isEmpty ∨
    transcript.adapterVersion.utf8ByteSize > 64 ∨ transcript.interactions.isEmpty ∨
    transcript.interactions.length > 1024) .schemaInvalid
  forEach transcript.interactions.zipIdx fun (interaction, index) =>
    rejectIf (interaction.sequence.toNat ≠ index ∨
      interaction.sessionPosition.toNat > maxExactInteger) .schemaInvalid

instance : Validate DependencyTranscript := ⟨validate⟩

end DependencyTranscript

end Reproit
