/-
# When typed reading loses nothing

A typed value keeps what its document said exactly when the document is spelled in the way
in which the value is written.  Reading is more generous than that: it takes null for the
absence of an optional member and the other way round, an array for a record, and unknown
members in the content of a mailbox item.
-/

import Reproit.Backend.Sample
import Reproit.Canonical.NormalForm
import Reproit.Core.CandidateShape
import Reproit.Core.Model.Batch
import Reproit.Core.Staging

namespace Reproit.Canonical

open Json

/-- A document that the strict parser reads has its members in the order of a map. -/
theorem ordered_of_parseStrictValue {input : Bytes} {document : Value}
    (read : parseStrictValue input = .ok document) : Ordered document := by
  obtain ⟨tree, _, _, _, strict, rfl⟩ := parseStrictValue_eq_ok.mp read
  exact Tree.ordered_value tree strict.distinct

section

variable {α : Type} [Document α] {input : Bytes} {document : Value} {value : α}

/-- The typed value of a document that was read is decoded from it. -/
theorem decode_of_parseStrict (read : parseStrictValue input = .ok document)
    (typed : parseStrict α input = .ok value) :
    (Document.codec (α := α)).decode document = some value := by
  rw [parseStrict, read, ok_bind] at typed
  exact (okOr_eq_ok _ _ _).mp typed

/-- Writing a typed value gives the canonical bytes of its document exactly when the
document is spelled in the way in which the value is written. -/
theorem bytes_eq_valueBytes_iff (read : parseStrictValue input = .ok document)
    (typed : parseStrict α input = .ok value) :
    bytes value = valueBytes document ↔ (Document.codec (α := α)).AsWritten document := by
  rw [← Document.codec.encode_eq_iff (ordered_of_parseStrictValue read)
    (decode_of_parseStrict read typed)]
  obtain ⟨tree, _, _, _, strict, rfl⟩ := parseStrictValue_eq_ok.mp read
  constructor
  · intro same
    rw [valueBytes_value strict] at same
    obtain ⟨exact, written⟩ := bytes_eq_ok.mp same
    have reread := parseStrictValue_textBytes value
    rw [if_pos exact, ← written, parseStrictValue_canonicalBytes strict] at reread
    exact (Except.ok.inj reread).symm
  · intro same
    rw [bytes, Document.encode, same]

end

/-! ## The documents of the wire -/

/-- The types of the documents that are read from outside. -/
inductive WireKind
  | candidate | operationBegin | operationInput | dependencyCursor | automaticObservation
  | observationFence | failure | terminal | replayCapsule | captureBatchManifest
  | uploadEnvelope | candidateMailboxItem
  deriving DecidableEq

namespace WireKind

def Record : WireKind → Type
  | candidate => Candidate
  | operationBegin => OperationBeginPayload
  | operationInput => OperationInputPayload
  | dependencyCursor => DependencyCursorPayload
  | automaticObservation => AutomaticObservationPayload
  | observationFence => NativeObservationFenceReceipt
  | failure => FailurePayload
  | terminal => TerminalPayload
  | replayCapsule => ReplayCapsule
  | captureBatchManifest => CaptureBatchManifest
  | uploadEnvelope => UploadEnvelope
  | candidateMailboxItem => CandidateMailboxItem

instance document : (kind : WireKind) → Document kind.Record
  | candidate => inferInstanceAs (Document Candidate)
  | operationBegin => inferInstanceAs (Document OperationBeginPayload)
  | operationInput => inferInstanceAs (Document OperationInputPayload)
  | dependencyCursor => inferInstanceAs (Document DependencyCursorPayload)
  | automaticObservation => inferInstanceAs (Document AutomaticObservationPayload)
  | observationFence => inferInstanceAs (Document NativeObservationFenceReceipt)
  | failure => inferInstanceAs (Document FailurePayload)
  | terminal => inferInstanceAs (Document TerminalPayload)
  | replayCapsule => inferInstanceAs (Document ReplayCapsule)
  | captureBatchManifest => inferInstanceAs (Document CaptureBatchManifest)
  | uploadEnvelope => inferInstanceAs (Document UploadEnvelope)
  | candidateMailboxItem => inferInstanceAs (Document CandidateMailboxItem)

/-- The document is spelled in the way in which values of the kind are written. -/
def AsWritten (kind : WireKind) (document : Value) : Prop :=
  (Document.codec (α := kind.Record)).AsWritten document

end WireKind

/-- The type of the document that a record of a kind carries. -/
def payloadKind : EventKind → WireKind
  | .begin' => .operationBegin
  | .dependency => .dependencyCursor
  | .failure => .failure
  | .input => .operationInput
  | .observation => .automaticObservation
  | .observationFence => .observationFence
  | .terminal => .terminal

variable [Primitives]

/-- A record of a valid candidate has a typed payload. -/
theorem parseStrict_payload {candidate : Candidate} {kind : EventKind} {payload : Bytes}
    (valid : candidate.validateRecord kind payload = .ok ()) :
    ∃ value : (payloadKind kind).Record, parseStrict _ payload = .ok value := by
  cases kind
  all_goals
    obtain ⟨value, typed, _⟩ := (bind_eq_ok _ _ _).mp valid
    exact ⟨value, typed⟩

/-- A typed value has the canonical bytes of its document exactly when the document is
spelled as the value is written, and so do the payloads of a valid candidate. -/
theorem typed_bytes_iff_asWritten :
    (∀ (kind : WireKind) (input : Bytes) (document : Value) (value : kind.Record),
      parseStrictValue input = .ok document → parseStrict kind.Record input = .ok value →
        (bytes value = valueBytes document ↔ kind.AsWritten document)) ∧
    (∀ candidate : Candidate, candidate.validate = .ok () → ∀ record ∈ candidate.records,
      ∃ payload document, ∃ value : (payloadKind record.kind).Record,
        canonicalPayload record = .ok payload ∧ parseStrictValue payload = .ok document ∧
          parseStrict _ payload = .ok value ∧
            (bytes value = .ok payload ↔ (payloadKind record.kind).AsWritten document)) := by
  refine ⟨fun _ _ _ _ read typed => bytes_eq_valueBytes_iff read typed, ?_⟩
  intro candidate accepted record member
  have valid := Candidate.validate_eq_ok.mp accepted
  obtain ⟨payload, canonical, checked⟩ := valid.records record member
  obtain ⟨value, typed⟩ := parseStrict_payload checked
  have carried := canonical
  simp only [canonicalPayload, bind_eq_ok, rejectIf_eq_ok, pure_eq_ok, not_not] at carried
  obtain ⟨_, -, held, -, _, -, document, read, written, wrote, _, same, rfl⟩ := carried
  subst same
  refine ⟨_, document, value, canonical, read, typed, ?_⟩
  rw [← wrote]
  exact bytes_eq_valueBytes_iff read typed

omit [Primitives]

/-! ## Documents that lose something -/

namespace LossSample

/-- A dependency cursor without a parent. -/
def cursor : DependencyCursorPayload where
  adapterId := "adapter"
  adapterVersion := "1"
  causalParentId := none
  cursor := "AA"
  cursorDigest := ⟨0⟩
  format := .v1

/-- A document of the cursor that leaves the parent out, where it is written as null. -/
def cursorDocument : Value :=
  .object [("adapter_id", .string "adapter"), ("adapter_version", .string "1"),
    ("cursor", .string "AA"), ("cursor_digest", .string (Digest.toText ⟨0⟩)),
    ("format", .string "reproit.dependency-cursor.v1")]

instance (key : String) : Decidable (AsciiKey key) :=
  @List.decidableBAll _ _ (fun _ => Nat.decLt _ _) key.toList

theorem plain_cursorDocument : Plain cursorDocument := by
  refine ⟨by decide, ?_, trivial, trivial, trivial, trivial, trivial, trivial⟩
  show ∀ key ∈ ["adapter_id", "adapter_version", "cursor", "cursor_digest", "format"], AsciiKey key
  decide

theorem decode_cursorDocument :
    DependencyCursorPayload.codec.decode cursorDocument = some cursor := by
  rfl

/-- A mailbox item that points to a stored object. -/
def item (stored : CandidateMailboxObject) (identity : CandidateStagingIdentity) :
    CandidateMailboxItem where
  content := .object stored
  format := .v1
  identity := identity

/-- The content of the item with an unknown member. -/
def contentDocument (stored : CandidateMailboxObject) : Value :=
  .object [("kind", .string "OBJECT"), ("note", .null),
    ("object", CandidateMailboxObject.codec.encode stored)]

def itemDocument (stored : CandidateMailboxObject) (identity : CandidateStagingIdentity) : Value :=
  .object [("content", contentDocument stored),
    ("format", .string "reproit.candidate-mailbox-item.v1"),
    ("identity", CandidateStagingIdentity.codec.encode identity)]

variable (stored : CandidateMailboxObject) (identity : CandidateStagingIdentity)

theorem plain_itemDocument : Plain (itemDocument stored identity) := by
  have content : Plain (contentDocument stored) := by
    refine ⟨?_, ?_, trivial, trivial, CandidateMailboxObject.codec.plain stored, trivial⟩
    · show ["kind", "note", "object"].Pairwise (· < ·)
      decide
    · show ∀ key ∈ ["kind", "note", "object"], AsciiKey key
      decide
  refine ⟨?_, ?_, content, trivial, CandidateStagingIdentity.codec.plain identity, trivial⟩
  · show ["content", "format", "identity"].Pairwise (· < ·)
    decide
  · show ∀ key ∈ ["content", "format", "identity"], AsciiKey key
    decide

theorem decode_contentDocument :
    CandidateMailboxPayload.codec.decode (contentDocument stored) = some (.object stored) := by
  have object := CandidateMailboxObject.codec.decode_encode stored
  simp [contentDocument, CandidateMailboxPayload.codec, Codec.imap, Codec.tagged, Fields.required,
    Fields.decodeMap, List.lookup_cons, object]

theorem decode_itemDocument :
    CandidateMailboxItem.codec.decode (itemDocument stored identity) =
      some (item stored identity) := by
  have format : (Format.codec "reproit.candidate-mailbox-item.v1").decode
      (.string "reproit.candidate-mailbox-item.v1") = some .v1 := rfl
  show Option.map _ (Option.bind (CandidateMailboxPayload.codec.decode (contentDocument stored))
    fun _ => Option.map _ (Option.bind (Codec.decode _ _) fun _ => Option.map _ (Option.bind
      (CandidateStagingIdentity.codec.decode (CandidateStagingIdentity.codec.encode identity))
        fun _ => Option.map _ (some ())))) = _
  rw [decode_contentDocument, format, CandidateStagingIdentity.codec.decode_encode]
  rfl

theorem exact_itemDocument (small : stored.cipherSize.toNat ≤ Json.maxExactInteger) :
    Json.exact (itemDocument stored identity) = true := by
  have object : CandidateMailboxObject.codec.exact stored = true := by
    simp [CandidateMailboxObject.codec, Digest.codec, small]
  have object' : Json.exact (CandidateMailboxObject.codec.encode stored) = true := object
  have identity' : Json.exact (CandidateStagingIdentity.codec.encode identity) = true :=
    CandidateStagingIdentity.exact identity
  simp [itemDocument, contentDocument, Json.exact, exactFields, object', identity']

theorem shallow_itemDocument : Json.depth (itemDocument stored identity) ≤ maxDepth := by
  have object := CandidateMailboxObject.codec.depth_le stored
  have identity' := CandidateStagingIdentity.codec.depth_le identity
  have heights : CandidateMailboxObject.codec.height = 1 ∧
      CandidateStagingIdentity.codec.height = 1 := by decide
  simp only [itemDocument, contentDocument, Json.depth, depthFields, maxDepth]
  omega

theorem not_asWritten_itemDocument :
    ¬ CandidateMailboxItem.codec.AsWritten (itemDocument stored identity) := by
  intro ⟨members, same, asWritten⟩
  obtain rfl := Value.object.inj same
  have content : CandidateMailboxPayload.codec.AsWritten (contentDocument stored) :=
    asWritten.1.1
  obtain ⟨parts, same, written⟩ := content
  obtain rfl := Value.object.inj same
  simp [Fields.required, Fields.names] at written

theorem not_asWritten_cursorDocument :
    ¬ DependencyCursorPayload.codec.AsWritten cursorDocument := by
  intro ⟨members, same, asWritten⟩
  obtain rfl := Value.object.inj same
  obtain ⟨value, _, skipped⟩ := asWritten.2.2.1
  cases skipped

/-- The canonical bytes of a plain document are read, and their typed value loses something
when the document is not spelled as it is written. -/
theorem loses {α : Type} [Document α] {document : Value} {value : α} (plain : Plain document)
    (exact : Json.exact document = true) (shallow : Json.depth document ≤ maxDepth)
    (typed : (Document.codec (α := α)).decode document = some value)
    (spelled : ¬ (Document.codec (α := α)).AsWritten document) :
    ∃ input, parseStrictValue input = .ok document ∧ parseStrict α input = .ok value ∧
      bytes value ≠ valueBytes document := by
  have read : parseStrictValue (textBytes (render document)) = .ok document := by
    rw [parseStrictValue_render shallow plain, if_pos exact]
  have decoded : parseStrict α (textBytes (render document)) = .ok value := by
    rw [parseStrict, read, ok_bind, typed]
    rfl
  exact ⟨_, read, decoded, fun same => spelled ((bytes_eq_valueBytes_iff read decoded).mp same)⟩

end LossSample

/-- A valid cursor is read from a document that leaves its absent parent out, and a valid
mailbox item from a document with an unknown member: neither has the canonical bytes of the
document it was read from. -/
theorem reading_loses :
    letI := Backend.Sample.primitives
    (∃ (input : Bytes) (document : Value) (cursor : DependencyCursorPayload),
      parseStrictValue input = .ok document ∧
        parseStrict DependencyCursorPayload input = .ok cursor ∧ cursor.validate = .ok () ∧
          bytes cursor ≠ valueBytes document) ∧
    (∃ (input : Bytes) (document : Value) (item : CandidateMailboxItem),
      parseStrictValue input = .ok document ∧
        parseStrict CandidateMailboxItem input = .ok item ∧ item.validate = .ok () ∧
          bytes item ≠ valueBytes document) := by
  constructor
  · obtain ⟨input, read, typed, lost⟩ := LossSample.loses LossSample.plain_cursorDocument rfl
      (by decide) LossSample.decode_cursorDocument LossSample.not_asWritten_cursorDocument
    exact ⟨input, _, _, read, typed, rfl, lost⟩
  · let stored : CandidateMailboxObject :=
      { cipherDigest := ⟨0⟩
        cipherSize := 28
        mediaType := candidateMailboxMediaType
        objectIdentity := ⟨0⟩ }
    let identity : CandidateStagingIdentity :=
      { captureId := Backend.Sample.id 0
        deploymentDigest := ⟨0⟩
        expiresAt := Backend.Sample.time
        failureStormDigest := ⟨0⟩
        format := .v1
        organizationId := Backend.Sample.id 0
        processingMode := .managed
        projectId := Backend.Sample.id 0
        providerLeaseDigest := ⟨0⟩
        requestDigest := ⟨0⟩
        serviceId := Backend.Sample.id 0
        worldId := ⟨0⟩ }
    obtain ⟨input, read, typed, lost⟩ := LossSample.loses
      (LossSample.plain_itemDocument stored identity)
      (LossSample.exact_itemDocument stored identity (by decide))
      (LossSample.shallow_itemDocument stored identity)
      (LossSample.decode_itemDocument stored identity)
      (LossSample.not_asWritten_itemDocument stored identity)
    exact ⟨input, _, _, read, typed, rfl, lost⟩

end Reproit.Canonical
