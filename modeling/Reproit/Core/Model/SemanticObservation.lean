/-
# Semantic observations

What an application observed of its clock, its environment, its files and its source of
randomness: a request, the response to it, and the checks that tie the two together.
-/

import Reproit.Core.Base64Url
import Reproit.Core.Model.World

namespace Reproit

def maxSemanticObservationTargetBytes : Nat := 16384

def maxSemanticObservationValueBytes : Nat := 32768

/-- The bytes are no UTF-8 text. -/
def notText (bytes : Bytes) : Bool := (Json.bytesText bytes).isNone

/-! ## Requests -/

abbrev SemanticObservationRequestFormat := Format "reproit.semantic-observation-request.v1"

inductive SemanticObservationOperation
  | clockWallTime | environmentRead | filesystemRead | randomBytes
  deriving DecidableEq

def SemanticObservationOperation.name : SemanticObservationOperation → String
  | .clockWallTime => "clock-wall-time"
  | .environmentRead => "environment-read"
  | .filesystemRead => "filesystem-read"
  | .randomBytes => "random-bytes"

def SemanticObservationOperation.codec : Codec SemanticObservationOperation :=
  .enumeration [.clockWallTime, .environmentRead, .filesystemRead, .randomBytes] name
    fun value => by cases value <;> decide

structure SemanticObservationRequest where
  format : SemanticObservationRequestFormat
  length : Option UInt64
  offset : Option UInt64
  operation : SemanticObservationOperation
  target : Option String
  deriving DecidableEq

namespace SemanticObservationRequest

def codec : Codec SemanticObservationRequest :=
  .record
    (.required "format" (Format.codec _) <| .optional "length" .uint64 Codec.decode_null_uint64 <|
      .optional "offset" .uint64 Codec.decode_null_uint64 <|
      .required "operation" SemanticObservationOperation.codec <|
      .optional "target" .string Codec.decode_null_string .done)
    (fun r => (r.format, r.length, r.offset, r.operation, r.target, ()))
    (fun (format, length, offset, operation, target, ()) =>
      { format, length, offset, operation, target })
    (fun _ => rfl) (by decide)

instance : Document SemanticObservationRequest := ⟨codec, by decide⟩

def requireNone (target : Option String) (offset length : Option UInt64) : Result Unit :=
  rejectIf (target.isSome ∨ offset.isSome ∨ length.isSome) .schemaInvalid

def validLength (length : Option UInt64) : Bool :=
  length.any fun value => value > 0 && value.toNat ≤ maxSemanticObservationValueBytes

def validateTarget (target : Option String) : Result Unit := do
  let target ← okOr target .schemaInvalid
  let bytes ← decodeBase64UrlBytes target
  rejectIf (bytes.isEmpty ∨ bytes.length > maxSemanticObservationTargetBytes ∨ notText bytes)
    .schemaInvalid

def validate (request : SemanticObservationRequest) : Result Unit :=
  match request.operation with
  | .clockWallTime => requireNone request.target request.offset request.length
  | .environmentRead => do
      validateTarget request.target
      requireNone none request.offset request.length
  | .filesystemRead => do
      validateTarget request.target
      rejectIf (request.offset.isNone ∨ ¬ validLength request.length) .schemaInvalid
  | .randomBytes =>
      rejectIf (request.target.isSome ∨ request.offset.isSome ∨ ¬ validLength request.length)
        .schemaInvalid

instance : Validate SemanticObservationRequest := ⟨validate⟩

end SemanticObservationRequest

/-! ## Responses -/

abbrev SemanticObservationResponseFormat := Format "reproit.semantic-observation-response.v1"

inductive SemanticObservationOutcome
  | error | response
  deriving DecidableEq

def SemanticObservationOutcome.name : SemanticObservationOutcome → String
  | .error => "error"
  | .response => "response"

def SemanticObservationOutcome.codec : Codec SemanticObservationOutcome :=
  .enumeration [.error, .response] name fun value => by cases value <;> decide

inductive SemanticObservationErrorCode
  | interrupted | invalidInput | notFound | other | permissionDenied | resourceLimit
  | unsupported
  deriving DecidableEq

def SemanticObservationErrorCode.name : SemanticObservationErrorCode → String
  | .interrupted => "interrupted"
  | .invalidInput => "invalid-input"
  | .notFound => "not-found"
  | .other => "other"
  | .permissionDenied => "permission-denied"
  | .resourceLimit => "resource-limit"
  | .unsupported => "unsupported"

def SemanticObservationErrorCode.codec : Codec SemanticObservationErrorCode :=
  .enumeration [.interrupted, .invalidInput, .notFound, .other, .permissionDenied,
    .resourceLimit, .unsupported] name fun value => by cases value <;> decide

theorem SemanticObservationErrorCode.decode_null :
    SemanticObservationErrorCode.codec.decode .null = none := rfl

structure SemanticObservationResponse where
  errorCode : Option SemanticObservationErrorCode
  errorNumber : Option UInt32
  format : SemanticObservationResponseFormat
  operation : SemanticObservationOperation
  outcome : SemanticObservationOutcome
  requestDigest : Digest
  value : Option String
  deriving DecidableEq

namespace SemanticObservationResponse

def codec : Codec SemanticObservationResponse :=
  .record
    (.optional "error_code" SemanticObservationErrorCode.codec
      SemanticObservationErrorCode.decode_null <|
      .optional "error_number" .uint32 Codec.decode_null_uint32 <|
      .required "format" (Format.codec _) <|
      .required "operation" SemanticObservationOperation.codec <|
      .required "outcome" SemanticObservationOutcome.codec <|
      .required "request_digest" Digest.codec <|
      .optional "value" .string Codec.decode_null_string .done)
    (fun r => (r.errorCode, r.errorNumber, r.format, r.operation, r.outcome, r.requestDigest,
      r.value, ()))
    (fun (errorCode, errorNumber, format, operation, outcome, requestDigest, value, ()) =>
      { errorCode, errorNumber, format, operation, outcome, requestDigest, value })
    (fun _ => rfl) (by decide)

instance : Document SemanticObservationResponse := ⟨codec, by decide⟩

def validateResponseValue (operation : SemanticObservationOperation) (value : Option String) :
    Result Unit :=
  match value with
  | none => rejectIf (operation ≠ .environmentRead) .schemaInvalid
  | some value => do
      let bytes ← decodeBase64UrlBytes value
      rejectIf (bytes.length > maxSemanticObservationValueBytes ∨
        (operation = .clockWallTime ∧ bytes.length ≠ 8) ∨
        (operation = .randomBytes ∧ bytes.isEmpty)) .schemaInvalid

def validate (response : SemanticObservationResponse) : Result Unit :=
  match response.outcome with
  | .error => rejectIf (response.errorCode.isNone ∨ response.value.isSome) .schemaInvalid
  | .response => do
      rejectIf (response.errorCode.isSome ∨ response.errorNumber.isSome) .schemaInvalid
      validateResponseValue response.operation response.value

instance : Validate SemanticObservationResponse := ⟨validate⟩

end SemanticObservationResponse

/-! ## Pairs -/

variable [Primitives]

/-- The response answers the request: it names its operation and its digest, and returns no
more bytes than were asked for. -/
def validateSemanticObservationPair (request : SemanticObservationRequest)
    (response : SemanticObservationResponse) : Result Unit := do
  request.validate
  response.validate
  rejectIf (response.operation ≠ request.operation) .schemaInvalid
  let identity ← Canonical.digest request
  rejectIf (response.requestDigest ≠ identity) .schemaInvalid
  if response.outcome = .response ∧
      (request.operation = .filesystemRead ∨ request.operation = .randomBytes) then
    let value ← okOr response.value .schemaInvalid
    let bytes ← decodeBase64UrlBytes value
    let length := (request.length.getD 0).toNat
    rejectIf (bytes.length > length) .schemaInvalid
    rejectIf (request.operation = .randomBytes ∧ bytes.length ≠ length) .schemaInvalid

end Reproit
