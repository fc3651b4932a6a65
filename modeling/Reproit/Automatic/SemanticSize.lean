/-
# The sizes of semantic records

The validators of semantic records bound every field.  The bounds are tight enough for the
whole record: a base 64 text has four characters for three bytes, and the names and the values
of the metadata share one budget.
-/

import Reproit.Backend.AutomaticReplay
import Reproit.Core.CaptureSize
import Reproit.Core.Exactness

namespace Reproit

open Json (stringSize)

/-! ## Texts -/

theorem stringSize_of_decode {value : String} {bytes : Bytes}
    (read : decodeBase64UrlBytes value = .ok bytes) :
    stringSize value = 2 + (bytes.length * 4 + 2) / 3 := by
  rw [decodeBase64UrlBytes_eq_ok.mp read, stringSize_encodeBase64Url]

theorem stringSize_le_of_size {value : String} {bound : Nat} (small : value.utf8ByteSize ≤ bound) :
    stringSize value ≤ 2 + 6 * bound :=
  (Json.stringSize_le value).trans (by omega)

theorem size_le_of_validateComponentToken {value : String} {bound : Nat}
    (valid : validateComponentToken value bound = .ok ()) : stringSize value ≤ 2 + 6 * bound := by
  rw [validateComponentToken, rejectIf_eq_ok, not_or, not_lt] at valid
  exact stringSize_le_of_size valid.1

theorem size_le_of_validateDependencyTarget {value : String}
    (valid : validateDependencyTarget value = .ok ()) : stringSize value ≤ 10925 := by
  simp only [validateDependencyTarget, bind_eq_ok, rejectIf_eq_ok, not_or, not_lt]
    at valid
  obtain ⟨bytes, read, _, small, _⟩ := valid
  rw [maxSemanticDependencyTargetBytes] at small
  rw [stringSize_of_decode read]
  omega

theorem size_le_of_validatePayload {value : String} (valid : validatePayload value = .ok ()) :
    stringSize value ≤ 32770 := by
  simp only [validatePayload, bind_eq_ok, rejectIf_eq_ok, not_lt] at valid
  obtain ⟨bytes, read, small⟩ := valid
  rw [maxSemanticDependencyPayloadBytes] at small
  rw [stringSize_of_decode read]
  omega

theorem size_le_of_validateMethod {method : Option String} (valid : validateMethod method = .ok ()) :
    ∀ value ∈ method, stringSize value ≤ 194 := by
  simp only [validateMethod, bind_eq_ok, okOr_eq_ok, rejectIf_eq_ok, not_or, not_lt] at valid
  obtain ⟨value, rfl, _, small, _⟩ := valid
  intro other same
  exact Option.some.inj same ▸ stringSize_le_of_size small

/-! ## Metadata -/

/-- A field costs its bytes in base 64 and a fixed number of characters. -/
theorem SemanticDependencyMetadata.three_mul_size_le {field : SemanticDependencyMetadata}
    {name value : Bytes} (hname : decodeBase64UrlBytes field.name = .ok name)
    (hvalue : decodeBase64UrlBytes field.value = .ok value) :
    3 * (1 + SemanticDependencyMetadata.codec.size field) ≤
      80 + 4 * (name.length + value.length) := by
  have names : stringSize "name" = 6 ∧ stringSize "value" = 7 := by decide
  simp only [codec, Codec.size_record, Fields.size_required, Fields.size_done, Codec.size_string,
    stringSize_of_decode hname, stringSize_of_decode hvalue, names]
  omega

/-- All fields share the bytes that are left. -/
theorem three_mul_size_metadata_le {totalBytes : Nat} {metadata : List SemanticDependencyMetadata}
    (valid : validateMetadataFields totalBytes metadata = .ok ())
    (start : totalBytes ≤ maxSemanticDependencyMetadataBytes) :
    3 * (metadata.map fun field => 1 + SemanticDependencyMetadata.codec.size field).sum +
      4 * totalBytes ≤ 80 * metadata.length + 4 * maxSemanticDependencyMetadataBytes := by
  induction metadata generalizing totalBytes with
  | nil =>
      rw [List.map_nil, List.sum_nil, List.length_nil]
      omega
  | cons field rest ih =>
      simp only [validateMetadataFields, bind_eq_ok, rejectIf_eq_ok, not_lt] at valid
      obtain ⟨name, hname, value, hvalue, _, _, _, fits, others⟩ := valid
      have later := ih others fits
      have first := SemanticDependencyMetadata.three_mul_size_le hname hvalue
      rw [List.map_cons, List.sum_cons, List.length_cons]
      omega

theorem size_le_of_validateMetadata {metadata : List SemanticDependencyMetadata}
    (valid : validateMetadata metadata = .ok ()) :
    (SemanticDependencyMetadata.codec.list).size metadata ≤ 12640 := by
  simp only [validateMetadata, bind_eq_ok, rejectIf_eq_ok, not_lt] at valid
  obtain ⟨_, few, fields⟩ := valid
  have total := three_mul_size_metadata_le fields (Nat.zero_le _)
  rw [maxSemanticDependencyMetadataEntries] at few
  rw [maxSemanticDependencyMetadataBytes] at total
  rw [Codec.size_list]
  omega

/-! ## Dependency records -/

theorem SemanticObservationErrorCode.size_le (code : SemanticObservationErrorCode) :
    SemanticObservationErrorCode.codec.size code ≤ 40 := by
  rw [codec, Codec.size_enumeration]
  cases code <;> decide

theorem SemanticObservationOutcome.size_le (outcome : SemanticObservationOutcome) :
    SemanticObservationOutcome.codec.size outcome ≤ 40 := by
  rw [codec, Codec.size_enumeration]
  cases outcome <;> decide

theorem SemanticObservationOperation.size_le (operation : SemanticObservationOperation) :
    SemanticObservationOperation.codec.size operation ≤ 40 := by
  rw [codec, Codec.size_enumeration]
  cases operation <;> decide

theorem SemanticDependencyOperation.size_le (operation : SemanticDependencyOperation) :
    SemanticDependencyOperation.codec.size operation ≤ 40 := by
  rw [codec, Codec.size_enumeration]
  cases operation <;> decide

theorem AutomaticObservationClass.size_le (observed : AutomaticObservationClass) :
    AutomaticObservationClass.codec.size observed ≤ 40 := by
  rw [codec, Codec.size_enumeration]
  cases observed <;> decide

/-- An absent field is written as null. -/
theorem Codec.size_option_le {α : Type} (codec : Codec α) {decode_null} {value : Option α}
    {bound : Nat} (large : 4 ≤ bound) (held : ∀ inner ∈ value, codec.size inner ≤ bound) :
    (codec.option decode_null).size value ≤ bound := by
  cases value with
  | none => rwa [Codec.size_option_none]
  | some inner =>
      rw [Codec.size_option_some]
      exact held inner rfl

theorem validateRecordSize_of_exact {α : Type} [Document α] {value : α}
    (exact : Document.Exact value)
    (small : (Document.codec : Codec α).size value ≤ maxSemanticDependencyRecordBytes) :
    validateRecordSize value = .ok () := by
  rw [validateRecordSize, Canonical.bytes_of_exact exact, ok_bind, rejectIf_eq_ok, not_lt,
    Canonical.length_text]
  exact small

namespace SemanticDependencyRequest

/-- The checks of the fields, without the check of the record. -/
def validateFields (request : SemanticDependencyRequest) : Result Unit := do
  validateClassOperation request.observationClass request.operation
  validateComponentToken request.protocol maxProtocolBytes
  validateComponentToken request.encoding maxEncodingBytes
  validateDependencyTarget request.target
  validatePayload request.payload
  validateMetadata request.metadata
  match request.observationClass with
  | .outboundHttp => validateMethod request.method
  | .database | .queue => rejectIf request.method.isSome .schemaInvalid
  | _ => .error .schemaInvalid

variable {request : SemanticDependencyRequest}

theorem validate_eq : request.validate = (do
    request.validateFields
    validateRecordSize request) := by
  simp only [validate, validateFields, bind_assoc]
  cases request.observationClass <;> rfl

theorem exact : Document.Exact request := by
  change codec.exact request = true
  simp [codec, SemanticDependencyMetadata.codec, AutomaticObservationClass.codec,
    SemanticDependencyOperation.codec, Format.codec]

/-- The method is absent or short. -/
theorem method_le (valid : (match request.observationClass with
      | .outboundHttp => validateMethod request.method
      | .database | .queue => rejectIf request.method.isSome .schemaInvalid
      | _ => .error .schemaInvalid) = .ok ()) :
    ∀ value ∈ request.method, Codec.string.size value ≤ 194 := by
  have absent : rejectIf (request.method.isSome = true) Error.schemaInvalid = .ok () →
      ∀ value ∈ request.method, Codec.string.size value ≤ 194 := by
    intro none value held
    rw [rejectIf_eq_ok] at none
    exact absurd (Option.isSome_iff_exists.mpr ⟨value, held⟩) none
  cases observed : request.observationClass with
  | outboundHttp =>
      rw [observed] at valid
      intro value held
      rw [Codec.size_string]
      exact size_le_of_validateMethod valid value held
  | database =>
      rw [observed] at valid
      exact absent valid
  | queue =>
      rw [observed] at valid
      exact absent valid
  | _ =>
      rw [observed] at valid
      cases valid

theorem size_le (valid : request.validateFields = .ok ()) : codec.size request ≤ 65536 := by
  simp only [validateFields, bind_eq_ok] at valid
  obtain ⟨_, _, _, protocol, _, encoding, _, target, _, payload, _, metadata, method⟩ := valid
  have protocolSize := size_le_of_validateComponentToken protocol
  have encodingSize := size_le_of_validateComponentToken encoding
  have targetSize := size_le_of_validateDependencyTarget target
  have payloadSize := size_le_of_validatePayload payload
  have metadataSize := size_le_of_validateMetadata metadata
  have methodSize : (Codec.string.option Codec.decode_null_string).size request.method ≤ 194 :=
    Codec.size_option_le _ (by decide) (method_le method)
  have names : stringSize "encoding" + stringSize "format" + stringSize "metadata" +
      stringSize "method" + stringSize "observation_class" + stringSize "operation" +
      stringSize "payload" + stringSize "protocol" + stringSize "target" ≤ 120 := by decide
  have format : (Format.codec "reproit.semantic-dependency-request.v1").size request.format ≤ 100 := by
    cases request.format
    decide
  have classSize := request.observationClass.size_le
  have operationSize := request.operation.size_le
  rw [maxProtocolBytes] at protocolSize
  rw [maxEncodingBytes] at encodingSize
  simp only [codec, Codec.size_record, Fields.size_required, Fields.size_optional,
    Fields.size_done, Codec.size_string]
  omega

end SemanticDependencyRequest

namespace SemanticDependencyResponse

/-- The checks of the fields, without the check of the record. -/
def validateFields (response : SemanticDependencyResponse) : Result Unit := do
  validateClassOperation response.observationClass response.operation
  match response.outcome with
  | .error => response.validateError
  | .response => response.validateResponse

variable {response : SemanticDependencyResponse}

theorem validate_eq : response.validate = (do
    response.validateFields
    validateRecordSize response) := by
  simp only [validate, validateFields, bind_assoc]
  cases response.outcome <;> rfl

theorem exact : Document.Exact response := by
  change codec.exact response = true
  simp [codec, SemanticDependencyMetadata.codec, AutomaticObservationClass.codec,
    SemanticDependencyOperation.codec, SemanticObservationErrorCode.codec,
    SemanticObservationOutcome.codec, Digest.codec, Format.codec]

/-- What the checks say about the fields that may be long. -/
structure Short (response : SemanticDependencyResponse) : Prop where
  metadata : SemanticDependencyMetadata.codec.list.size response.metadata ≤ 12640
  payload : ∀ value ∈ response.payload, Codec.string.size value ≤ 32770
  status : ∀ value ∈ response.status, Codec.string.size value ≤ 386

theorem short_of_validateError (valid : response.validateError = .ok ()) : response.Short := by
  simp only [validateError, bind_eq_ok, rejectIf_eq_ok, not_or, not_not] at valid
  obtain ⟨_, ⟨_, noStatus, _, noMetadata⟩, payload⟩ := valid
  refine ⟨?_, fun value held => ?_, fun value held => ?_⟩
  · rw [noMetadata]
    decide
  · rw [Option.mem_def.mp held] at payload
    rw [Codec.size_string]
    exact size_le_of_validatePayload payload
  · exact absurd (Option.isSome_iff_exists.mpr ⟨value, held⟩) noStatus

theorem short_of_validateResponse (valid : response.validateResponse = .ok ()) :
    response.Short := by
  simp only [validateResponse, bind_eq_ok, rejectIf_eq_ok, okOr_eq_ok] at valid
  obtain ⟨_, _, _, metadata, payload, held, _, small, status⟩ := valid
  refine ⟨size_le_of_validateMetadata metadata, fun value other => ?_, fun value held => ?_⟩
  · rw [Codec.size_string, ← Option.some.inj (held.symm.trans other)]
    exact size_le_of_validatePayload small
  · rw [Codec.size_string]
    rw [Option.mem_def.mp held] at status
    have token : (rejectIf (response.statusCode.isSome = true) Error.schemaInvalid >>= fun _ =>
        validateComponentToken value maxStatusBytes) = .ok () → stringSize value ≤ 386 := by
      intro checked
      obtain ⟨_, _, token⟩ := (bind_eq_ok _ _ _).mp checked
      exact size_le_of_validateComponentToken token
    cases observed : response.observationClass with
    | outboundHttp =>
        rw [observed, rejectIf_eq_ok] at status
        exact absurd (.inl rfl) status
    | database =>
        rw [observed] at status
        exact token status
    | queue =>
        rw [observed] at status
        exact token status
    | _ =>
        rw [observed] at status
        cases status

theorem size_le (valid : response.validateFields = .ok ()) : codec.size response ≤ 65536 := by
  simp only [validateFields, bind_eq_ok] at valid
  obtain ⟨_, _, checked⟩ := valid
  have short : response.Short := by
    cases outcome : response.outcome with
    | error =>
        rw [outcome] at checked
        exact short_of_validateError checked
    | response =>
        rw [outcome] at checked
        exact short_of_validateResponse checked
  have metadataSize := short.metadata
  have payloadSize : (Codec.string.option Codec.decode_null_string).size response.payload ≤ 32770 :=
    Codec.size_option_le _ (by decide) short.payload
  have statusSize : (Codec.string.option Codec.decode_null_string).size response.status ≤ 386 :=
    Codec.size_option_le _ (by decide) short.status
  have codeSize : (SemanticObservationErrorCode.codec.option
      SemanticObservationErrorCode.decode_null).size response.errorCode ≤ 40 :=
    Codec.size_option_le _ (by decide) fun code _ => code.size_le
  have numberSize : (Codec.uint32.option Codec.decode_null_uint32).size response.errorNumber ≤ 10 :=
    Codec.size_option_le _ (by decide) fun number _ =>
      Codec.size_unsigned_le number (by decide) (number.toNat_lt.trans (by decide))
  have statusCodeSize :
      (Codec.uint16.option Codec.decode_null_uint16).size response.statusCode ≤ 5 :=
    Codec.size_option_le _ (by decide) fun code _ =>
      Codec.size_unsigned_le code (by decide) (code.toNat_lt.trans (by decide))
  have names : stringSize "error_code" + stringSize "error_number" + stringSize "format" +
      stringSize "metadata" + stringSize "observation_class" + stringSize "operation" +
      stringSize "outcome" + stringSize "payload" + stringSize "request_digest" +
      stringSize "status" + stringSize "status_code" ≤ 200 := by decide
  have format :
      (Format.codec "reproit.semantic-dependency-response.v1").size response.format ≤ 100 := by
    cases response.format
    decide
  have classSize := response.observationClass.size_le
  have operationSize := response.operation.size_le
  have outcomeSize := response.outcome.size_le
  simp only [codec, Codec.size_record, Fields.size_required, Fields.size_optional,
    Fields.size_done, Digest.codec, Codec.size_text, Digest.stringSize_toText]
  omega

end SemanticDependencyResponse

/-! ## Observation records -/

namespace SemanticObservationRequest

variable {request : SemanticObservationRequest}

theorem target_le_of_validateTarget {target : Option String}
    (valid : validateTarget target = .ok ()) :
    ∀ value ∈ target, Codec.string.size value ≤ 21848 := by
  simp only [validateTarget, bind_eq_ok, okOr_eq_ok, rejectIf_eq_ok, not_or, not_lt] at valid
  obtain ⟨value, rfl, bytes, read, _, small, _⟩ := valid
  rw [maxSemanticObservationTargetBytes] at small
  intro other same
  rw [← Option.some.inj same, Codec.size_string, stringSize_of_decode read]
  omega

theorem target_le (valid : request.validate = .ok ()) :
    ∀ value ∈ request.target, Codec.string.size value ≤ 21848 := by
  have absent : ¬ request.target.isSome → ∀ value ∈ request.target,
      Codec.string.size value ≤ 21848 := fun none value held =>
    absurd (Option.isSome_iff_exists.mpr ⟨value, held⟩) none
  unfold validate at valid
  cases operation : request.operation with
  | clockWallTime =>
      rw [operation] at valid
      simp only [requireNone, rejectIf_eq_ok, not_or] at valid
      exact absent valid.1
  | environmentRead =>
      rw [operation] at valid
      obtain ⟨_, target, _⟩ := (bind_eq_ok _ _ _).mp valid
      exact target_le_of_validateTarget target
  | filesystemRead =>
      rw [operation] at valid
      obtain ⟨_, target, _⟩ := (bind_eq_ok _ _ _).mp valid
      exact target_le_of_validateTarget target
  | randomBytes =>
      rw [operation] at valid
      simp only [rejectIf_eq_ok, not_or] at valid
      exact absent valid.1

theorem size_le (valid : request.validate = .ok ()) : codec.size request ≤ 65536 := by
  have targetSize : (Codec.string.option Codec.decode_null_string).size request.target ≤ 21848 :=
    Codec.size_option_le _ (by decide) (target_le valid)
  have integer : ∀ value : Option UInt64,
      (Codec.uint64.option Codec.decode_null_uint64).size value ≤ 20 := fun value =>
    Codec.size_option_le _ (by decide) fun number _ =>
      Codec.size_unsigned_le number (by decide) (number.toNat_lt.trans (by decide))
  have lengthSize := integer request.length
  have offsetSize := integer request.offset
  have names : stringSize "format" + stringSize "length" + stringSize "offset" +
      stringSize "operation" + stringSize "target" ≤ 100 := by decide
  have format :
      (Format.codec "reproit.semantic-observation-request.v1").size request.format ≤ 100 := by
    cases request.format
    decide
  have operationSize := request.operation.size_le
  simp only [codec, Codec.size_record, Fields.size_required, Fields.size_optional,
    Fields.size_done]
  omega

end SemanticObservationRequest

namespace SemanticObservationResponse

variable {response : SemanticObservationResponse}

theorem value_le_of_validateResponseValue {operation : SemanticObservationOperation}
    {held : Option String} (valid : validateResponseValue operation held = .ok ()) :
    ∀ value ∈ held, Codec.string.size value ≤ 43693 := by
  rintro value rfl
  simp only [validateResponseValue, bind_eq_ok, rejectIf_eq_ok, not_or, not_lt] at valid
  obtain ⟨bytes, read, small, _⟩ := valid
  rw [maxSemanticObservationValueBytes] at small
  rw [Codec.size_string, stringSize_of_decode read]
  omega

theorem value_le (valid : response.validate = .ok ()) :
    ∀ value ∈ response.value, Codec.string.size value ≤ 43693 := by
  unfold validate at valid
  cases outcome : response.outcome with
  | error =>
      rw [outcome] at valid
      simp only [rejectIf_eq_ok, not_or] at valid
      intro value held
      exact absurd (Option.isSome_iff_exists.mpr ⟨value, held⟩) valid.2
  | response =>
      rw [outcome] at valid
      obtain ⟨_, _, value⟩ := (bind_eq_ok _ _ _).mp valid
      exact value_le_of_validateResponseValue value

theorem size_le (valid : response.validate = .ok ()) : codec.size response ≤ 65536 := by
  have valueSize : (Codec.string.option Codec.decode_null_string).size response.value ≤ 43693 :=
    Codec.size_option_le _ (by decide) (value_le valid)
  have codeSize : (SemanticObservationErrorCode.codec.option
      SemanticObservationErrorCode.decode_null).size response.errorCode ≤ 40 :=
    Codec.size_option_le _ (by decide) fun code _ => code.size_le
  have numberSize : (Codec.uint32.option Codec.decode_null_uint32).size response.errorNumber ≤ 10 :=
    Codec.size_option_le _ (by decide) fun number _ =>
      Codec.size_unsigned_le number (by decide) (number.toNat_lt.trans (by decide))
  have names : stringSize "error_code" + stringSize "error_number" + stringSize "format" +
      stringSize "operation" + stringSize "outcome" + stringSize "request_digest" +
      stringSize "value" ≤ 120 := by decide
  have format :
      (Format.codec "reproit.semantic-observation-response.v1").size response.format ≤ 100 := by
    cases response.format
    decide
  have operationSize := response.operation.size_le
  have outcomeSize := response.outcome.size_le
  simp only [codec, Codec.size_record, Fields.size_required, Fields.size_optional,
    Fields.size_done, Digest.codec, Codec.size_text, Digest.stringSize_toText]
  omega

end SemanticObservationResponse

/-! ## The bound of records -/

/-- The canonical bytes are not more than the size that the codec counts. -/
theorem length_le_of_size_le {α : Type} [Document α] {value : α} {bound : Nat}
    (small : (Document.codec : Codec α).size value ≤ bound) {written : Bytes}
    (canonical : Canonical.bytes value = .ok written) : written.length ≤ bound := by
  obtain ⟨_, spelled⟩ := Canonical.bytes_eq_ok.mp canonical
  rw [spelled]
  exact (Canonical.length_text value).trans_le small

/-- Checked fields make a record that fits, so the bound of the record rejects nothing more. -/
theorem semanticRecords_fit :
    (∀ request : SemanticDependencyRequest, request.validateFields = .ok () →
      request.validate = .ok () ∧ ∃ written, Canonical.bytes request = .ok written ∧
        written.length ≤ maxSemanticDependencyRecordBytes) ∧
    (∀ response : SemanticDependencyResponse, response.validateFields = .ok () →
      response.validate = .ok () ∧ ∃ written, Canonical.bytes response = .ok written ∧
        written.length ≤ maxSemanticDependencyRecordBytes) ∧
    (∀ request : SemanticObservationRequest, request.validate = .ok () →
      ∀ written, Canonical.bytes request = .ok written →
        written.length ≤ Backend.maxRecordBytes) ∧
    (∀ response : SemanticObservationResponse, response.validate = .ok () →
      ∀ written, Canonical.bytes response = .ok written →
        written.length ≤ Backend.maxRecordBytes) := by
  refine ⟨fun request valid => ?_, fun response valid => ?_, fun request valid written => ?_,
    fun response valid written => ?_⟩
  · have small := SemanticDependencyRequest.size_le valid
    rw [SemanticDependencyRequest.validate_eq, valid, ok_bind]
    refine ⟨validateRecordSize_of_exact SemanticDependencyRequest.exact small, _,
      Canonical.bytes_of_exact SemanticDependencyRequest.exact, ?_⟩
    exact (Canonical.length_text request).trans_le small
  · have small := SemanticDependencyResponse.size_le valid
    rw [SemanticDependencyResponse.validate_eq, valid, ok_bind]
    refine ⟨validateRecordSize_of_exact SemanticDependencyResponse.exact small, _,
      Canonical.bytes_of_exact SemanticDependencyResponse.exact, ?_⟩
    exact (Canonical.length_text response).trans_le small
  · exact length_le_of_size_le (SemanticObservationRequest.size_le valid)
  · exact length_le_of_size_le (SemanticObservationResponse.size_le valid)

/-! ## One record of each kind -/

def oneQuery : SemanticDependencyRequest where
  encoding := "json"
  format := .v1
  metadata := [{ name := "YQ", value := "" }]
  method := none
  observationClass := .database
  operation := .databaseExecute
  payload := ""
  protocol := "sql"
  target := "YQ"

def oneAnswer : SemanticDependencyResponse where
  errorCode := none
  errorNumber := none
  format := .v1
  metadata := []
  observationClass := .database
  operation := .databaseExecute
  outcome := .response
  payload := some "YQ"
  requestDigest := default
  status := some "ok"
  statusCode := none

def oneVariable : SemanticObservationRequest where
  format := .v1
  length := none
  offset := none
  operation := .environmentRead
  target := some "YQ"

def oneValue : SemanticObservationResponse where
  errorCode := none
  errorNumber := none
  format := .v1
  operation := .environmentRead
  outcome := .response
  requestDigest := default
  value := some "YQ"

theorem semanticRecords_fit_sample :
    oneQuery.validate = .ok () ∧ oneAnswer.validate = .ok () ∧
      (Canonical.text oneVariable).length ≤ Backend.maxRecordBytes ∧
        (Canonical.text oneValue).length ≤ Backend.maxRecordBytes := by
  obtain ⟨queries, answers, requests, responses⟩ := semanticRecords_fit
  refine ⟨(queries oneQuery ?_).1, (answers oneAnswer ?_).1, requests oneVariable ?_ _ ?_,
    responses oneValue ?_ _ ?_⟩
  · decide
  · decide
  · decide
  · exact Canonical.bytes_of_exact (by decide)
  · decide
  · exact Canonical.bytes_of_exact (by decide)

end Reproit
