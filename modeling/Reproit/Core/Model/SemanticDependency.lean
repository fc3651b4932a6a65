/-
# Semantic dependencies

What an application asked of a database, of another service or of a queue, and what it
was answered.
-/

import Reproit.Core.Model.ObservationFence
import Reproit.Core.Model.SemanticObservation

namespace Reproit

def maxSemanticDependencyRecordBytes : Nat := 65536
def maxSemanticDependencyTargetBytes : Nat := 8192
def maxSemanticDependencyPayloadBytes : Nat := 24576
def maxSemanticDependencyMetadataEntries : Nat := 64
def maxSemanticDependencyMetadataBytes : Nat := 8192
def maxSemanticDependencyMetadataNameBytes : Nat := 256
def maxSemanticDependencyMetadataValueBytes : Nat := 4096

def maxProtocolBytes : Nat := 64
def maxEncodingBytes : Nat := 64
def maxMethodBytes : Nat := 32
def maxStatusBytes : Nat := 64

abbrev SemanticDependencyRequestFormat := Format "reproit.semantic-dependency-request.v1"

abbrev SemanticDependencyResponseFormat := Format "reproit.semantic-dependency-response.v1"

inductive SemanticDependencyOperation
  | databaseExecute | outboundHttpRequest | queueAcknowledge | queuePublish | queueReceive
  | queueReject
  deriving DecidableEq

def SemanticDependencyOperation.name : SemanticDependencyOperation → String
  | .databaseExecute => "database-execute"
  | .outboundHttpRequest => "outbound-http-request"
  | .queueAcknowledge => "queue-acknowledge"
  | .queuePublish => "queue-publish"
  | .queueReceive => "queue-receive"
  | .queueReject => "queue-reject"

def SemanticDependencyOperation.codec : Codec SemanticDependencyOperation :=
  .enumeration [.databaseExecute, .outboundHttpRequest, .queueAcknowledge, .queuePublish,
    .queueReceive, .queueReject] name fun value => by cases value <;> decide

structure SemanticDependencyMetadata where
  name : String
  value : String
  deriving DecidableEq

def SemanticDependencyMetadata.codec : Codec SemanticDependencyMetadata :=
  .record (.required "name" .string <| .required "value" .string .done)
    (fun r => (r.name, r.value, ()))
    (fun (name, value, ()) => { name, value })
    (fun _ => rfl) (by decide)

/-! ## Checks of the parts -/

/-- The operations of each class. -/
def validateClassOperation (observed : AutomaticObservationClass)
    (operation : SemanticDependencyOperation) : Result Unit :=
  match observed, operation with
  | .database, .databaseExecute | .outboundHttp, .outboundHttpRequest
  | .queue, .queueAcknowledge | .queue, .queuePublish | .queue, .queueReceive
  | .queue, .queueReject => .ok ()
  | _, _ => .error .schemaInvalid

def validateComponentToken (value : String) (maximumBytes : Nat) : Result Unit :=
  rejectIf (value.utf8ByteSize > maximumBytes ∨ ¬ validComponent value) .schemaInvalid

/-- An upper-case letter, and after the first place a digit or a hyphen too. -/
def validateMethod (method : Option String) : Result Unit := do
  let method ← okOr method .schemaInvalid
  rejectIf (method.isEmpty ∨ method.utf8ByteSize > maxMethodBytes ∨
    ¬ method.toList.zipIdx.all fun (c, index) =>
      c.isUpper || (index > 0 && (c.isDigit || c = '-'))) .schemaInvalid

def validateDependencyTarget (value : String) : Result Unit := do
  let target ← decodeBase64UrlBytes value
  rejectIf (target.isEmpty ∨ target.length > maxSemanticDependencyTargetBytes ∨ notText target)
    .schemaInvalid

def validatePayload (value : String) : Result Unit := do
  let payload ← decodeBase64UrlBytes value
  rejectIf (payload.length > maxSemanticDependencyPayloadBytes) .schemaInvalid

/-- Check every field and the bytes of all of them. -/
def validateMetadataFields : (totalBytes : Nat) → List SemanticDependencyMetadata → Result Unit
  | _, [] => .ok ()
  | totalBytes, field :: rest => do
      let name ← decodeBase64UrlBytes field.name
      let value ← decodeBase64UrlBytes field.value
      rejectIf (name.isEmpty ∨ name.length > maxSemanticDependencyMetadataNameBytes ∨
        notText name ∨ value.length > maxSemanticDependencyMetadataValueBytes) .schemaInvalid
      let totalBytes := totalBytes + name.length + value.length
      rejectIf (totalBytes > maxSemanticDependencyMetadataBytes) .schemaInvalid
      validateMetadataFields totalBytes rest

def validateMetadata (metadata : List SemanticDependencyMetadata) : Result Unit := do
  rejectIf (metadata.length > maxSemanticDependencyMetadataEntries) .schemaInvalid
  validateMetadataFields 0 metadata

def validateRecordSize {α : Type} [Document α] (value : α) : Result Unit := do
  let bytes ← Canonical.bytes value
  rejectIf (bytes.length > maxSemanticDependencyRecordBytes) .schemaInvalid

/-! ## Requests -/

structure SemanticDependencyRequest where
  encoding : String
  format : SemanticDependencyRequestFormat
  metadata : List SemanticDependencyMetadata
  method : Option String
  observationClass : AutomaticObservationClass
  operation : SemanticDependencyOperation
  payload : String
  protocol : String
  target : String
  deriving DecidableEq

namespace SemanticDependencyRequest

def codec : Codec SemanticDependencyRequest :=
  .record
    (.required "encoding" .string <| .required "format" (Format.codec _) <|
      .required "metadata" (.list SemanticDependencyMetadata.codec) <|
      .optional "method" .string Codec.decode_null_string <|
      .required "observation_class" AutomaticObservationClass.codec <|
      .required "operation" SemanticDependencyOperation.codec <|
      .required "payload" .string <| .required "protocol" .string <|
      .required "target" .string .done)
    (fun r => (r.encoding, r.format, r.metadata, r.method, r.observationClass, r.operation,
      r.payload, r.protocol, r.target, ()))
    (fun (encoding, format, metadata, method, observationClass, operation, payload, protocol,
      target, ()) =>
      { encoding, format, metadata, method, observationClass, operation, payload, protocol,
        target })
    (fun _ => rfl) (by decide)

instance : Document SemanticDependencyRequest := ⟨codec, by decide⟩

def validate (request : SemanticDependencyRequest) : Result Unit := do
  validateClassOperation request.observationClass request.operation
  validateComponentToken request.protocol maxProtocolBytes
  validateComponentToken request.encoding maxEncodingBytes
  validateDependencyTarget request.target
  validatePayload request.payload
  validateMetadata request.metadata
  match request.observationClass with
  | .outboundHttp => validateMethod request.method
  | .database | .queue => rejectIf request.method.isSome .schemaInvalid
  | _ => .error .schemaInvalid
  validateRecordSize request

instance : Validate SemanticDependencyRequest := ⟨validate⟩

end SemanticDependencyRequest

/-! ## Responses -/

structure SemanticDependencyResponse where
  errorCode : Option SemanticObservationErrorCode
  errorNumber : Option UInt32
  format : SemanticDependencyResponseFormat
  metadata : List SemanticDependencyMetadata
  observationClass : AutomaticObservationClass
  operation : SemanticDependencyOperation
  outcome : SemanticObservationOutcome
  payload : Option String
  requestDigest : Digest
  status : Option String
  statusCode : Option UInt16
  deriving DecidableEq

namespace SemanticDependencyResponse

def codec : Codec SemanticDependencyResponse :=
  .record
    (.optional "error_code" SemanticObservationErrorCode.codec
      SemanticObservationErrorCode.decode_null <|
      .optional "error_number" .uint32 Codec.decode_null_uint32 <|
      .required "format" (Format.codec _) <|
      .required "metadata" (.list SemanticDependencyMetadata.codec) <|
      .required "observation_class" AutomaticObservationClass.codec <|
      .required "operation" SemanticDependencyOperation.codec <|
      .required "outcome" SemanticObservationOutcome.codec <|
      .optional "payload" .string Codec.decode_null_string <|
      .required "request_digest" Digest.codec <|
      .optional "status" .string Codec.decode_null_string <|
      .optional "status_code" .uint16 Codec.decode_null_uint16 .done)
    (fun r => (r.errorCode, r.errorNumber, r.format, r.metadata, r.observationClass, r.operation,
      r.outcome, r.payload, r.requestDigest, r.status, r.statusCode, ()))
    (fun (errorCode, errorNumber, format, metadata, observationClass, operation, outcome,
      payload, requestDigest, status, statusCode, ()) =>
      { errorCode, errorNumber, format, metadata, observationClass, operation, outcome, payload,
        requestDigest, status, statusCode })
    (fun _ => rfl) (by decide)

instance : Document SemanticDependencyResponse := ⟨codec, by decide⟩

def validateError (response : SemanticDependencyResponse) : Result Unit := do
  rejectIf (response.errorCode.isNone ∨ response.status.isSome ∨ response.statusCode.isSome ∨
    response.metadata ≠ []) .schemaInvalid
  match response.payload with
  | some payload => validatePayload payload
  | none => .ok ()

def validateResponse (response : SemanticDependencyResponse) : Result Unit := do
  rejectIf (response.errorCode.isSome ∨ response.errorNumber.isSome) .schemaInvalid
  validateMetadata response.metadata
  let payload ← okOr response.payload .schemaInvalid
  validatePayload payload
  match response.observationClass with
  | .outboundHttp =>
      rejectIf (response.status.isSome ∨
        ¬ response.statusCode.any fun code => 100 ≤ code && code ≤ 599) .schemaInvalid
  | .database | .queue => do
      rejectIf response.statusCode.isSome .schemaInvalid
      match response.status with
      | some status => validateComponentToken status maxStatusBytes
      | none => .ok ()
  | _ => .error .schemaInvalid

def validate (response : SemanticDependencyResponse) : Result Unit := do
  validateClassOperation response.observationClass response.operation
  match response.outcome with
  | .error => response.validateError
  | .response => response.validateResponse
  validateRecordSize response

instance : Validate SemanticDependencyResponse := ⟨validate⟩

end SemanticDependencyResponse

/-! ## Pairs -/

variable [Primitives]

def validateSemanticDependencyPair (request : SemanticDependencyRequest)
    (response : SemanticDependencyResponse) : Result Unit := do
  request.validate
  response.validate
  rejectIf (response.observationClass ≠ request.observationClass ∨
    response.operation ≠ request.operation) .schemaInvalid
  let identity ← Canonical.digest request
  rejectIf (response.requestDigest ≠ identity) .schemaInvalid

end Reproit
