/-
# Captured candidates

A candidate is the record sequence of one failed operation: it begins with the begin
record, holds exactly one failure record and ends with its only terminal record.
Every record carries a canonical document as base 64 text.
-/

import Reproit.Core.Base64Url
import Reproit.Core.Model.Failure
import Reproit.Core.Model.Fuzz
import Reproit.Core.Model.ObservationFence

namespace Reproit

/-! ## Deployments -/

abbrev DeploymentFormat := Format "reproit.deployment.v1"

/-- The signed description of the deployed program. -/
structure Deployment where
  format : DeploymentFormat
  organizationId : OrganizationId
  processingMode : ProcessingMode
  projectId : ProjectId
  repositoryId : String
  runtimeCapabilities : List String
  runtimeEndpoint : String
  serviceId : ServiceId
  servicePath : String
  signature : String
  signedAt : Timestamp
  signerKeyId : String
  sourceRevision : String
  subject : Subject
  deriving DecidableEq

namespace Deployment

def codec : Codec Deployment :=
  .record
    (.required "format" (Format.codec _) <| .required "organization_id" TypedId.codec <|
      .required "processing_mode" ProcessingMode.codec <|
      .required "project_id" TypedId.codec <| .required "repository_id" .string <|
      .required "runtime_capabilities" (.list .string) <|
      .required "runtime_endpoint" .string <| .required "service_id" TypedId.codec <|
      .required "service_path" .string <| .required "signature" .string <|
      .required "signed_at" Timestamp.codec <| .required "signer_key_id" .string <|
      .required "source_revision" .string <| .required "subject" Subject.codec .done)
    (fun r => (r.format, r.organizationId, r.processingMode, r.projectId, r.repositoryId,
      r.runtimeCapabilities, r.runtimeEndpoint, r.serviceId, r.servicePath, r.signature,
      r.signedAt, r.signerKeyId, r.sourceRevision, r.subject, ()))
    (fun (format, organizationId, processingMode, projectId, repositoryId, runtimeCapabilities,
      runtimeEndpoint, serviceId, servicePath, signature, signedAt, signerKeyId, sourceRevision,
      subject, ()) =>
      { format, organizationId, processingMode, projectId, repositoryId, runtimeCapabilities,
        runtimeEndpoint, serviceId, servicePath, signature, signedAt, signerKeyId,
        sourceRevision, subject })
    (fun _ => rfl) (by decide)

instance : Document Deployment := ⟨codec, by decide⟩

def validate (deployment : Deployment) : Result Unit := do
  rejectIf (deployment.repositoryId.isEmpty ∨ deployment.repositoryId.utf8ByteSize > 256 ∨
    deployment.runtimeEndpoint.isEmpty ∨ deployment.runtimeEndpoint.utf8ByteSize > 2048 ∨
    deployment.servicePath.isEmpty ∨ deployment.servicePath.toList.head? = some '/' ∨
    ['.', '.'] ∈ deployment.servicePath.toList.splitOn '/' ∨
    deployment.signerKeyId.isEmpty ∨ deployment.signerKeyId.utf8ByteSize > 256 ∨
    deployment.sourceRevision.isEmpty ∨ deployment.sourceRevision.utf8ByteSize > 256)
    .schemaInvalid
  validateCapabilities deployment.runtimeCapabilities
  deployment.subject.validate
  let _ ← decodeBase64Url 64 deployment.signature

instance : Validate Deployment := ⟨validate⟩

end Deployment

/-! ## Record payloads -/

abbrev DependencyCursorFormat := Format "reproit.dependency-cursor.v1"

/-- The position that an adapter had reached in its dialogue. -/
structure DependencyCursorPayload where
  adapterId : String
  adapterVersion : String
  causalParentId : Option OperationId
  cursor : String
  cursorDigest : Digest
  format : DependencyCursorFormat
  deriving DecidableEq

namespace DependencyCursorPayload

def codec : Codec DependencyCursorPayload :=
  .record
    (.required "adapter_id" .string <| .required "adapter_version" .string <|
      .optional "causal_parent_id" TypedId.codec TypedId.decode_null <|
      .required "cursor" .string <|
      .required "cursor_digest" Digest.codec <| .required "format" (Format.codec _) .done)
    (fun r => (r.adapterId, r.adapterVersion, r.causalParentId, r.cursor, r.cursorDigest,
      r.format, ()))
    (fun (adapterId, adapterVersion, causalParentId, cursor, cursorDigest, format, ()) =>
      { adapterId, adapterVersion, causalParentId, cursor, cursorDigest, format })
    (fun _ => rfl) (by decide)

instance : Document DependencyCursorPayload := ⟨codec, by decide⟩

def validate (payload : DependencyCursorPayload) : Result Unit :=
  rejectIf (¬ validComponent payload.adapterId ∨ payload.adapterVersion.isEmpty ∨
    payload.adapterVersion.utf8ByteSize > 64 ∨ payload.cursor.isEmpty ∨
    payload.cursor.utf8ByteSize > 16384 ∨ ¬ validBase64Url payload.cursor) .schemaInvalid

instance : Validate DependencyCursorPayload := ⟨validate⟩

end DependencyCursorPayload

inductive OperationBeginFormat
  | v1 | v2
  deriving DecidableEq

def OperationBeginFormat.name : OperationBeginFormat → String
  | .v1 => "reproit.operation-begin.v1"
  | .v2 => "reproit.operation-begin.v2"

def OperationBeginFormat.codec : Codec OperationBeginFormat :=
  .enumeration [.v1, .v2] name fun value => by cases value <;> decide

/-- How the operation began. -/
structure OperationBeginPayload where
  adapterId : String
  adapterVersion : String
  campaignContext : Option FuzzContextIdentity
  causalParentIds : List OperationId
  format : OperationBeginFormat
  operationKind : OperationKind
  operationName : String
  deriving DecidableEq

namespace OperationBeginPayload

def codec : Codec OperationBeginPayload :=
  .record
    (.required "adapter_id" .string <| .required "adapter_version" .string <|
      .skipped "campaign_context" FuzzContextIdentity.codec FuzzContextIdentity.decode_null false <|
      .required "causal_parent_ids" (.list TypedId.codec) <|
      .required "format" OperationBeginFormat.codec <|
      .required "operation_kind" OperationKind.codec <|
      .required "operation_name" .string .done)
    (fun r => (r.adapterId, r.adapterVersion, r.campaignContext, r.causalParentIds, r.format,
      r.operationKind, r.operationName, ()))
    (fun (adapterId, adapterVersion, campaignContext, causalParentIds, format, operationKind,
      operationName, ()) =>
      { adapterId, adapterVersion, campaignContext, causalParentIds, format, operationKind,
        operationName })
    (fun _ => rfl) (by decide)

instance : Document OperationBeginPayload := ⟨codec, by decide⟩

/-- The second format, and only it, carries a campaign context. -/
def formatMatches (payload : OperationBeginPayload) : Bool :=
  match payload.format, payload.campaignContext with
  | .v1, none | .v2, some _ => true
  | _, _ => false

def validate (payload : OperationBeginPayload) : Result Unit :=
  rejectIf (¬ validComponent payload.adapterId ∨ payload.adapterVersion.isEmpty ∨
    payload.adapterVersion.utf8ByteSize > 64 ∨ payload.operationName.isEmpty ∨
    payload.operationName.utf8ByteSize > 128 ∨ payload.causalParentIds.length > 32 ∨
    ¬ payload.causalParentIds.Nodup ∨ ¬ payload.formatMatches) .schemaInvalid

instance : Validate OperationBeginPayload := ⟨validate⟩

end OperationBeginPayload

abbrev OperationInputFormat := Format "reproit.operation-input.v1"

/-- One input of the operation, with its content. -/
structure OperationInputPayload where
  channel : InputChannel
  contentType : String
  format : OperationInputFormat
  inputIndex : UInt16
  value : String
  valueDigest : Digest
  deriving DecidableEq

namespace OperationInputPayload

def codec : Codec OperationInputPayload :=
  .record
    (.required "channel" InputChannel.codec <| .required "content_type" .string <|
      .required "format" (Format.codec _) <| .required "input_index" .uint16 <|
      .required "value" .string <| .required "value_digest" Digest.codec .done)
    (fun r => (r.channel, r.contentType, r.format, r.inputIndex, r.value, r.valueDigest, ()))
    (fun (channel, contentType, format, inputIndex, value, valueDigest, ()) =>
      { channel, contentType, format, inputIndex, value, valueDigest })
    (fun _ => rfl) (by decide)

instance : Document OperationInputPayload := ⟨codec, by decide⟩

end OperationInputPayload

abbrev TerminalFormat := Format "reproit.terminal.v1"

/-- How the record sequence ended. -/
structure TerminalPayload where
  complete : Bool
  eventCount : UInt16
  format : TerminalFormat
  deriving DecidableEq

namespace TerminalPayload

def codec : Codec TerminalPayload :=
  .record
    (.required "complete" .bool <| .required "event_count" .uint16 <|
      .required "format" (Format.codec _) .done)
    (fun r => (r.complete, r.eventCount, r.format, ()))
    (fun (complete, eventCount, format, ()) => { complete, eventCount, format })
    (fun _ => rfl) (by decide)

instance : Document TerminalPayload := ⟨codec, by decide⟩

end TerminalPayload

/-! ## Records -/

inductive EventKind
  | begin' | dependency | failure | input | observation | observationFence | terminal
  deriving DecidableEq

def EventKind.name : EventKind → String
  | .begin' => "begin"
  | .dependency => "dependency"
  | .failure => "failure"
  | .input => "input"
  | .observation => "observation"
  | .observationFence => "observation-fence"
  | .terminal => "terminal"

def EventKind.codec : Codec EventKind :=
  .enumeration [.begin', .dependency, .failure, .input, .observation, .observationFence,
    .terminal] name fun value => by cases value <;> decide

/-- One record of a candidate. -/
structure EventRecord where
  kind : EventKind
  payload : String
  sequence : UInt16
  deriving DecidableEq

def EventRecord.codec : Codec EventRecord :=
  .record
    (.required "kind" EventKind.codec <| .required "payload" .string <|
      .required "sequence" .uint16 .done)
    (fun r => (r.kind, r.payload, r.sequence, ()))
    (fun (kind, payload, sequence, ()) => { kind, payload, sequence })
    (fun _ => rfl) (by decide)

/-- The canonical document of a record. -/
def canonicalPayload (record : EventRecord) : Result Bytes := do
  rejectIf (record.payload.utf8ByteSize > 87382) .schemaInvalid
  let bytes ← decodeBase64UrlBytes record.payload
  rejectIf (bytes.length > 65536) .schemaInvalid
  let value ← Canonical.parseStrictValue bytes
  let written ← Canonical.valueBytes value
  rejectIf (written ≠ bytes) .schemaInvalid
  return bytes

/-! ## Candidates -/

def incompleteCandidate : Error :=
  .new .incompleteCandidate "The candidate does not contain a complete terminal record."

def incompleteRecordSequence : Error :=
  .new .incompleteRecordSequence "The candidate record sequence is incomplete."

abbrev CandidateFormat := Format "reproit.candidate.v1"

/-- The captured records of one failed operation. -/
structure Candidate where
  campaignContext : Option FuzzContext
  captureId : CaptureId
  deployment : Deployment
  discoverySource : Option DiscoverySource
  failure : FailureReference
  format : CandidateFormat
  operationId : OperationId
  processingMode : ProcessingMode
  records : List EventRecord
  worldId : Digest
  deriving DecidableEq

namespace Candidate

def codec : Codec Candidate :=
  .record
    (.skipped "campaign_context" FuzzContext.codec FuzzContext.decode_null true <|
      .required "capture_id" TypedId.codec <| .required "deployment" Deployment.codec <|
      .skipped "discovery_source" DiscoverySource.codec DiscoverySource.decode_null true <|
      .required "failure" FailureReference.codec <| .required "format" (Format.codec _) <|
      .required "operation_id" TypedId.codec <|
      .required "processing_mode" ProcessingMode.codec <|
      .required "records" (.list EventRecord.codec) <|
      .required "world_id" Digest.codec .done)
    (fun r => (r.campaignContext, r.captureId, r.deployment, r.discoverySource, r.failure,
      r.format, r.operationId, r.processingMode, r.records, r.worldId, ()))
    (fun (campaignContext, captureId, deployment, discoverySource, failure, format, operationId,
      processingMode, records, worldId, ()) =>
      { campaignContext, captureId, deployment, discoverySource, failure, format, operationId,
        processingMode, records, worldId })
    (fun _ => rfl) (by decide)

instance : Document Candidate := ⟨codec, by decide⟩

variable [Primitives]

/-- Check the document of one record against its kind. -/
def validateRecord (candidate : Candidate) (kind : EventKind) (bytes : Bytes) : Result Unit :=
  match kind with
  | .begin' => do
      let payload ← Canonical.parseStrict OperationBeginPayload bytes
      payload.validate
  | .input => do
      let payload ← Canonical.parseStrict OperationInputPayload bytes
      rejectIf (payload.contentType.isEmpty ∨ payload.inputIndex > 1023) .schemaInvalid
      let value ← decodeBase64UrlBytes payload.value
      rejectIf (value.length > 65536 ∨ Digest.of value ≠ payload.valueDigest)
        .objectDigestMismatch
  | .failure => do
      let payload ← Canonical.parseStrict FailurePayload bytes
      payload.identity.validate
      payload.failure.validate
      rejectIf (payload.failure ≠ candidate.failure) incompleteCandidate
      let identityDigest ← Canonical.digest payload.identity
      rejectIf (identityDigest ≠ candidate.failure.identity) incompleteCandidate
  | .terminal => do
      let payload ← Canonical.parseStrict TerminalPayload bytes
      rejectIf (¬ payload.complete ∨ payload.eventCount.toNat ≠ candidate.records.length - 1)
        incompleteCandidate
  | .dependency => do
      let payload ← Canonical.parseStrict DependencyCursorPayload bytes
      payload.validate
  | .observation => do
      let payload ← Canonical.parseStrict AutomaticObservationPayload bytes
      payload.validate
  | .observationFence => do
      let payload ← Canonical.parseStrict NativeObservationFenceReceipt bytes
      payload.validate

/-- The first record begins, the last one is the only terminal record, and one record
is the failure. -/
def validRecordKinds (records : List EventRecord) : Prop :=
  records.head?.map EventRecord.kind = some .begin' ∧
    records.getLast?.map EventRecord.kind = some .terminal ∧
    records.countP (fun record => record.kind = .failure) = 1 ∧
    ∀ record ∈ records.dropLast, record.kind ≠ .terminal

instance (records : List EventRecord) : Decidable (validRecordKinds records) :=
  inferInstanceAs (Decidable (_ ∧ _))

/-- A fuzz context and the identity in the begin record come together. -/
def validateCampaign (candidate : Candidate) (payload : OperationBeginPayload) : Result Unit :=
  match candidate.campaignContext, payload.campaignContext with
  | some context, some identity => do
      context.validate
      identity.matches' context
      rejectIf (payload.format ≠ .v2 ∨ context.projectId ≠ candidate.deployment.projectId)
        .schemaInvalid
  | none, none => .ok ()
  | _, _ => .error .schemaInvalid

def validate (candidate : Candidate) : Result Unit := do
  candidate.deployment.validate
  candidate.failure.validate
  rejectIf (candidate.processingMode ≠ candidate.deployment.processingMode) .schemaInvalid
  rejectIf (¬ (2 ≤ candidate.records.length ∧ candidate.records.length ≤ 1025))
    incompleteCandidate
  forEach candidate.records.zipIdx fun (record, index) =>
    rejectIf (record.sequence.toNat ≠ index) incompleteRecordSequence
  rejectIf (¬ validRecordKinds candidate.records) incompleteCandidate
  forEach candidate.records fun record => do
    let bytes ← canonicalPayload record
    candidate.validateRecord record.kind bytes
  let first ← okOr candidate.records.head? incompleteCandidate
  let bytes ← canonicalPayload first
  let payload ← Canonical.parseStrict OperationBeginPayload bytes
  candidate.validateCampaign payload
  rejectIf (candidate.campaignContext.isSome ∧ candidate.discoverySource = some .production)
    .schemaInvalid

instance : Validate Candidate := ⟨validate⟩

end Candidate

end Reproit
