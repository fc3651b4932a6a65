/-
# A candidate and its one operation

The validator of a candidate counts its failures and its terminal records, and looks at
the kind of the first record only.  A second begin record passes it, and the private
closure, which reads the same records, refuses it.  Without one a valid candidate is one
operation.
-/

import Reproit.Backend.PrivateClosure
import Reproit.Backend.Sample
import Reproit.Core.CandidateShape

namespace Reproit

open Backend

/-! ## One operation -/

variable [Primitives]

/-- The records are those of one operation, and the private closure does not refuse them
for their begin record. -/
structure OneOperation (candidate : Candidate) : Prop where
  begins : candidate.records.head?.map EventRecord.kind = some .begin' ∧
    candidate.records.countP (fun record => record.kind = .begin') = 1
  fails : candidate.records.countP (fun record => record.kind = .failure) = 1
  ends : ∃ front record payload, candidate.records = front ++ [record] ∧
    record.kind = .terminal ∧ (∀ other ∈ front, other.kind ≠ .terminal) ∧
    recordPayload TerminalPayload record = .ok payload ∧
    payload.eventCount.toNat = front.length
  numbered : ∀ (index : Nat) record, candidate.records[index]? = some record →
    record.sequence.toNat = index
  decoded : decodeCandidateRecords candidate ≠ .error (incomplete "one begin record")

section Decoding

variable {candidate : Candidate} {record : EventRecord} {found next : FoundRecords}

omit [Primitives] in
theorem incomplete_injective : Function.Injective incomplete := by
  intro first second same
  have texts : "The private candidate closure is missing ".toList ++ (first.toList ++ ".".toList) =
      "The private candidate closure is missing ".toList ++ (second.toList ++ ".".toList) := by
    have messages := congrArg (fun error => error.message.toList) same
    simpa only [incomplete, Error.new, String.toList_append, List.append_assoc] using messages
  exact String.toList_inj.mp (List.append_cancel_right (List.append_cancel_left texts))

/-- A valid record that is no begin record is not refused for the begin record, and leaves
the begin record that was found. -/
theorem decodeRecord_of_other (valid : candidate.Valid) (member : record ∈ candidate.records)
    (other : record.kind ≠ .begin') :
    (∃ next, decodeRecord found record = .ok next ∧ next.begin' = found.begin') ∨
      ∃ error, decodeRecord found record = .error error ∧
        error ≠ incomplete "one begin record" := by
  obtain ⟨bytes, decoded, -, checked⟩ := valid.payload_of_kind member rfl
  rw [decodeRecord, decoded, ok_bind]
  cases kind : record.kind with
  | begin' => exact absurd kind other
  | dependency =>
      rw [kind, Candidate.validateRecord, bind_eq_ok] at checked
      obtain ⟨payload, read, validated⟩ := checked
      dsimp only
      rw [read, ok_bind, validated]
      exact .inl ⟨_, rfl, rfl⟩
  | failure =>
      rw [kind, Candidate.validateRecord] at checked
      simp only [bind_eq_ok, rejectIf_eq_ok, not_not] at checked
      obtain ⟨payload, read, _, identified, _, referred, _, same, identity, written, named⟩ :=
        checked
      have validated : payload.validate = .ok () := by
        simp only [FailurePayload.validate, bind_eq_ok, rejectIf_eq_ok, not_not]
        exact ⟨(), referred, (), identified, identity, written, by rw [same, named]⟩
      dsimp only
      rw [read, ok_bind, validated, ok_bind]
      by_cases twice : found.failure.isSome
      · rw [rejectIf_of _ twice]
        refine .inr ⟨_, rfl, fun same => ?_⟩
        exact absurd (incomplete_injective same) (by decide)
      · rw [rejectIf_of_not _ twice]
        exact .inl ⟨_, rfl, rfl⟩
  | input =>
      rw [kind, Candidate.validateRecord] at checked
      simp only [bind_eq_ok, rejectIf_eq_ok, not_or, not_not] at checked
      obtain ⟨payload, read, _, -, value, held, -⟩ := checked
      dsimp only
      rw [read, ok_bind, held, ok_bind]
      by_cases wrong : Digest.of value ≠ payload.valueDigest ∨
          payload.inputIndex.toNat ≠ found.inputs.length
      · rw [rejectIf_of _ wrong]
        refine .inr ⟨_, rfl, fun same => ?_⟩
        exact absurd (incomplete_injective same) (by decide)
      · rw [rejectIf_of_not _ wrong]
        exact .inl ⟨_, rfl, rfl⟩
  | observation => exact .inr ⟨_, rfl, by decide⟩
  | observationFence => exact .inr ⟨_, rfl, by decide⟩
  | terminal => exact .inl ⟨_, rfl, rfl⟩

/-- Records without a begin record are not refused for one. -/
theorem decodeRecords_of_others (valid : candidate.Valid) {records : List EventRecord}
    (members : ∀ record ∈ records, record ∈ candidate.records ∧ record.kind ≠ .begin') :
    (∃ next, decodeRecords found records = .ok next ∧ next.begin' = found.begin') ∨
      ∃ error, decodeRecords found records = .error error ∧
        error ≠ incomplete "one begin record" := by
  induction records generalizing found with
  | nil => exact .inl ⟨found, rfl, rfl⟩
  | cons record rest ih =>
      obtain ⟨member, other⟩ := members record List.mem_cons_self
      rw [decodeRecords]
      have step : (∃ next, decodeRecord found record = .ok next ∧ next.begin' = found.begin') ∨ _ :=
        decodeRecord_of_other valid member other
      rcases step with ⟨next, decoded, kept⟩ | ⟨error, refused, different⟩
      · rw [decoded, ok_bind, ← kept]
        exact ih fun later listed => members later (List.mem_cons_of_mem _ listed)
      · rw [refused]
        exact .inr ⟨error, rfl, different⟩

/-- A valid candidate ends with its only terminal record, which counts the others. -/
theorem exists_terminal (valid : candidate.Valid) :
    ∃ front record payload, candidate.records = front ++ [record] ∧ record.kind = .terminal ∧
      (∀ other ∈ front, other.kind ≠ .terminal) ∧
      recordPayload TerminalPayload record = .ok payload ∧
      payload.eventCount.toNat = front.length := by
  obtain ⟨-, ends, -, inner⟩ := valid.kinds
  obtain ⟨record, last, kind⟩ := Option.map_eq_some_iff.mp ends
  obtain ⟨front, split⟩ := List.getLast?_eq_some_iff.mp last
  have member : record ∈ candidate.records := by
    rw [split]
    exact List.mem_append_right _ List.mem_cons_self
  obtain ⟨bytes, -, written, checked⟩ := valid.payload_of_kind member kind
  rw [Candidate.validateRecord] at checked
  simp only [bind_eq_ok, rejectIf_eq_ok, not_or, not_not] at checked
  obtain ⟨payload, read, -, counted⟩ := checked
  refine ⟨front, record, payload, split, kind, ?_, ?_, ?_⟩
  · rw [split, List.dropLast_concat] at inner
    exact inner
  · rw [recordPayload, written]
    exact read
  · rw [counted, split, List.length_append, List.length_singleton, Nat.add_sub_cancel]

/-- With one begin record at the front, a valid candidate is not refused for it. -/
theorem decodeCandidateRecords_of_one (valid : candidate.Valid)
    (others : ∀ record ∈ candidate.records.tail, record.kind ≠ .begin') :
    decodeCandidateRecords candidate ≠ .error (incomplete "one begin record") := by
  obtain ⟨first, payload, here, carried, -⟩ := valid.campaign
  obtain ⟨rest, split⟩ : ∃ rest, candidate.records = first :: rest := by
    cases records : candidate.records with
    | nil =>
        rw [records] at here
        cases here
    | cons head rest =>
        rw [records] at here
        exact ⟨rest, by rw [Option.some.inj here]⟩
  have begins : first.kind = .begin' := by
    have kinds := valid.kinds.1
    rw [here] at kinds
    exact Option.some.inj kinds
  have member : first ∈ candidate.records := by
    rw [split]
    exact List.mem_cons_self
  obtain ⟨bytes, decoded, written, -⟩ := valid.payload_of_kind member begins
  rw [recordPayload, written, ok_bind] at carried
  have read : decodeRecord .empty first =
      .ok { FoundRecords.empty with begin' := some payload } := by
    rw [decodeRecord, decoded, ok_bind, begins]
    dsimp only
    rw [carried, ok_bind]
    rfl
  have later : ∀ record ∈ rest, record ∈ candidate.records ∧ record.kind ≠ .begin' := by
    rw [split] at others
    exact fun record listed => ⟨split ▸ List.mem_cons_of_mem _ listed, others record listed⟩
  have differs : ∀ what, what ≠ "one begin record" →
      (Except.error (incomplete what) : Result DecodedRecords) ≠
        .error (incomplete "one begin record") := by
    intro what other same
    exact other (incomplete_injective (Except.error.inj same))
  rw [decodeCandidateRecords, split, decodeRecords, read, ok_bind]
  have collects : (∃ next, decodeRecords { FoundRecords.empty with begin' := some payload } rest =
      .ok next ∧ next.begin' = some payload) ∨ _ := decodeRecords_of_others valid later
  rcases collects with ⟨found, collected, kept⟩ | ⟨error, refused, different⟩
  · rw [collected, ok_bind, kept]
    show (okOr found.failure _ >>= _) ≠ _
    cases failed : found.failure with
    | none => exact differs _ (by decide)
    | some failure =>
    show (rejectIf _ _ >>= _) ≠ _
    by_cases unbound : failure.failure ≠ candidate.failure
    · rw [rejectIf_of _ unbound]
      exact differs _ (by decide)
    rw [rejectIf_of_not _ unbound, ok_bind, Canonical.digest_of_exact failure.identity.exact,
      ok_bind]
    by_cases misnamed :
        Digest.of (Canonical.text failure.identity) ≠ candidate.failure.identity
    · rw [rejectIf_of _ misnamed]
      exact differs _ (by decide)
    rw [rejectIf_of_not _ misnamed, ok_bind]
    by_cases empty : found.inputs.isEmpty
    · rw [rejectIf_of _ empty]
      exact differs _ (by decide)
    · rw [rejectIf_of_not _ empty]
      intro failed
      cases failed
  · rw [refused]
    exact fun same => different (Except.error.inj same)

end Decoding

/-- A valid candidate is one operation exactly when no record after the first one is a
begin record. -/
theorem one_operation_iff {candidate : Candidate} (valid : candidate.validate = .ok ()) :
    OneOperation candidate ↔ ∀ record ∈ candidate.records.tail, record.kind ≠ .begin' := by
  have shape := Candidate.validate_eq_ok.mp valid
  obtain ⟨begins, ends, fails, inner⟩ := shape.kinds
  have count : candidate.records.countP (fun record => record.kind = .begin') =
      candidate.records.tail.countP (fun record => record.kind = .begin') + 1 := by
    cases split : candidate.records with
    | nil =>
        rw [split] at begins
        cases begins
    | cons first rest =>
        rw [split] at begins
        exact List.countP_cons_of_pos (decide_eq_true (Option.some.inj begins))
  have none_iff : candidate.records.tail.countP (fun record => record.kind = .begin') = 0 ↔
      ∀ record ∈ candidate.records.tail, record.kind ≠ .begin' := by
    simp only [List.countP_eq_zero, decide_eq_true_eq, ne_eq]
  constructor
  · intro one
    have single := one.begins.2
    rw [count] at single
    exact none_iff.mp (Nat.succ_injective single)
  · intro others
    constructor
    case begins =>
      refine ⟨begins, ?_⟩
      rw [count, none_iff.mpr others]
    case fails => exact fails
    case ends => exact exists_terminal shape
    case numbered => exact shape.numbered
    case decoded => exact decodeCandidateRecords_of_one shape others

omit [Primitives] in
/-- The candidate of the sample. -/
theorem one_operation_iff_sample :
    letI := Sample.primitives
    (Sample.candidate ⟨0⟩).validate = .ok () ∧
      (OneOperation (Sample.candidate ⟨0⟩) ↔
        ∀ record ∈ (Sample.candidate ⟨0⟩).records.tail, record.kind ≠ .begin') :=
  letI := Sample.primitives
  ⟨Sample.validate_candidate ⟨0⟩, one_operation_iff (Sample.validate_candidate ⟨0⟩)⟩

/-! ## A candidate that begins twice -/

namespace OperationSample

def terminal : TerminalPayload where
  complete := true
  eventCount := 3
  format := .v1

def candidate : Candidate :=
  { Sample.candidate ⟨0⟩ with
    records := [Sample.record .begin' 0 Sample.beginPayload,
      Sample.record .begin' 1 Sample.beginPayload, Sample.record .failure 2 Sample.failure,
      Sample.record .terminal 3 terminal] }

/-- A record of the sample is valid whatever its number is. -/
theorem valid_record {α : Type} [Document α] {kind : EventKind} {sequence : UInt16} {value : α}
    (exact : Document.Exact value) (short : (Canonical.text value).length ≤ 65536)
    (checked : candidate.validateRecord kind (Canonical.text value) = .ok ()) :
    ∃ bytes, canonicalPayload (Sample.record kind sequence value) = .ok bytes ∧
      candidate.validateRecord kind bytes = .ok () :=
  ⟨_, Sample.canonicalPayload_record exact short, checked⟩

theorem validate_candidate : candidate.validate = .ok () := by
  have shape := Candidate.validate_eq_ok.mp (Sample.validate_candidate ⟨0⟩)
  have terminalShort : (Canonical.text terminal).length ≤ 65536 := by
    rw [Canonical.length_text]
    decide
  have beginChecked : candidate.validateRecord .begin' (Canonical.text Sample.beginPayload) =
      .ok () := by
    rw [Candidate.validateRecord, Canonical.parseStrict_bytes
      (Canonical.bytes_of_exact Sample.beginPayload.exact)]
    rfl
  have failureChecked : candidate.validateRecord .failure (Canonical.text Sample.failure) =
      .ok () := by
    simp only [Candidate.validateRecord, bind_eq_ok, rejectIf_eq_ok, not_not]
    exact ⟨_, Canonical.parseStrict_bytes (Canonical.bytes_of_exact Sample.failure.exact), (),
      Sample.validate_identity, (), rfl, (), rfl, _,
      Canonical.digest_of_exact Sample.identity.exact, rfl⟩
  have terminalChecked : candidate.validateRecord .terminal (Canonical.text terminal) =
      .ok () := by
    rw [Candidate.validateRecord, Canonical.parseStrict_bytes
      (Canonical.bytes_of_exact terminal.exact)]
    rfl
  apply Candidate.validate_eq_ok.mpr
  constructor
  case deployment => exact shape.deployment
  case reference => exact shape.reference
  case mode => exact shape.mode
  case few => exact ⟨by simp [candidate], by simp [candidate]⟩
  case numbered =>
    intro index record there
    rcases index with _ | _ | _ | _ | index
    all_goals
      cases there
      try rfl
  case kinds => simp [candidate, Sample.record, Candidate.validRecordKinds]
  case records =>
    simp only [candidate, List.forall_mem_cons, List.not_mem_nil, false_implies, implies_true,
      and_true]
    exact ⟨valid_record Sample.beginPayload.exact Sample.length_text_begin beginChecked,
      valid_record Sample.beginPayload.exact Sample.length_text_begin beginChecked,
      valid_record Sample.failure.exact Sample.length_text_failure failureChecked,
      valid_record terminal.exact terminalShort terminalChecked⟩
  case campaign => exact shape.campaign
  case discovery => exact shape.discovery

/-- The private closure refuses the second begin record. -/
theorem decodeCandidateRecords_candidate :
    decodeCandidateRecords candidate = .error (incomplete "one begin record") := by
  have decoded (sequence : UInt16) : decodeBase64UrlBytes
      (Sample.record .begin' sequence Sample.beginPayload).payload =
        .ok (Canonical.text Sample.beginPayload) := decodeBase64UrlBytes_eq_ok.mpr rfl
  have read : Canonical.parseStrict OperationBeginPayload (Canonical.text Sample.beginPayload) =
      .ok Sample.beginPayload :=
    Canonical.parseStrict_bytes (Canonical.bytes_of_exact Sample.beginPayload.exact)
  have first : decodeRecord .empty (Sample.record .begin' 0 Sample.beginPayload) =
      .ok { FoundRecords.empty with begin' := some Sample.beginPayload } := by
    rw [decodeRecord, decoded, ok_bind]
    show (Canonical.parseStrict OperationBeginPayload _ >>= _) = _
    rw [read]
    rfl
  have second : decodeRecord { FoundRecords.empty with begin' := some Sample.beginPayload }
      (Sample.record .begin' 1 Sample.beginPayload) =
        .error (incomplete "one begin record") := by
    rw [decodeRecord, decoded, ok_bind]
    show (Canonical.parseStrict OperationBeginPayload _ >>= _) = _
    rw [read]
    rfl
  rw [decodeCandidateRecords, candidate, decodeRecords, first, ok_bind, decodeRecords, second]
  rfl

end OperationSample

omit [Primitives] in
/-- Not every valid candidate is one operation: the one that begins twice is refused by
the private closure. -/
theorem not_one_operation :
    letI := Sample.primitives
    ¬ ∀ candidate : Candidate, candidate.validate = .ok () → OneOperation candidate := by
  let _ := Sample.primitives
  intro always
  have one := always OperationSample.candidate OperationSample.validate_candidate
  exact one.decoded OperationSample.decodeCandidateRecords_candidate

end Reproit
