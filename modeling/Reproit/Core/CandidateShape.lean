/-
# The shape of a valid candidate

What the validator of a candidate establishes, as one structure: its parts are valid, its
records are few and numbered, their kinds have an order, and every record carries the
canonical document of its kind.
-/

import Reproit.Core.Model.Candidate

namespace Reproit

/-- The document that a record carries. -/
def recordPayload (α : Type) [Document α] (record : EventRecord) : Result α := do
  let bytes ← canonicalPayload record
  Canonical.parseStrict α bytes

namespace Candidate

variable [Primitives]

structure Valid (candidate : Candidate) : Prop where
  deployment : candidate.deployment.validate = .ok ()
  reference : candidate.failure.validate = .ok ()
  mode : candidate.processingMode = candidate.deployment.processingMode
  few : 2 ≤ candidate.records.length ∧ candidate.records.length ≤ 1025
  numbered : ∀ (index : Nat) record, candidate.records[index]? = some record →
    record.sequence.toNat = index
  kinds : validRecordKinds candidate.records
  records : ∀ record ∈ candidate.records, ∃ bytes, canonicalPayload record = .ok bytes ∧
    candidate.validateRecord record.kind bytes = .ok ()
  campaign : ∃ record payload, candidate.records.head? = some record ∧
    recordPayload OperationBeginPayload record = .ok payload ∧
    candidate.validateCampaign payload = .ok ()
  discovery : ¬ (candidate.campaignContext.isSome ∧
    candidate.discoverySource = some .production)

theorem validate_eq_ok {candidate : Candidate} :
    candidate.validate = .ok () ↔ candidate.Valid := by
  simp only [validate, bind_eq_ok, rejectIf_eq_ok, forEach_eq_ok, okOr_eq_ok, not_not]
  constructor
  · rintro ⟨_, deployment, _, reference, _, mode, _, few, _, numbered, _, kinds, _, records, first,
      here, bytes, written, payload, read, _, campaign, discovery⟩
    constructor
    case deployment => exact deployment
    case reference => exact reference
    case mode => exact mode
    case few => exact few
    case numbered =>
      exact fun index record there =>
        numbered (record, index) (List.mem_zipIdx_iff_getElem?.mpr there)
    case kinds => exact kinds
    case records => exact records
    case campaign =>
      refine ⟨first, payload, here, ?_, campaign⟩
      rw [recordPayload, written]
      exact read
    case discovery => exact discovery
  · intro valid
    obtain ⟨first, payload, here, carried, campaign⟩ := valid.campaign
    obtain ⟨bytes, written, read⟩ := (bind_eq_ok _ _ _).mp carried
    refine ⟨(), valid.deployment, (), valid.reference, (), valid.mode, (), valid.few, (), ?_, (),
      valid.kinds, (), valid.records, first, here, bytes, written, payload, read, (), campaign,
      valid.discovery⟩
    intro pair listed
    exact valid.numbered pair.2 pair.1 (List.mem_zipIdx_iff_getElem?.mp listed)

/-- The document of a record of a known kind is valid for the kind. -/
theorem Valid.payload_of_kind {candidate : Candidate} (valid : candidate.Valid)
    {record : EventRecord} (member : record ∈ candidate.records) {kind : EventKind}
    (same : record.kind = kind) :
    ∃ bytes, decodeBase64UrlBytes record.payload = .ok bytes ∧
      canonicalPayload record = .ok bytes ∧ candidate.validateRecord kind bytes = .ok () := by
  obtain ⟨bytes, written, checked⟩ := valid.records record member
  have decoded := written
  simp only [canonicalPayload, bind_eq_ok, pure_eq_ok] at decoded
  obtain ⟨_, -, held, read, _, -, _, -, _, -, _, -, rfl⟩ := decoded
  exact ⟨held, read, written, same ▸ checked⟩

end Candidate

end Reproit
