/-
# The identities of valid documents

A document is identified by the digest of its canonical bytes, and these exist only if every
integer is exact.  The validator of recoverable points bounds all integers.  The validators of
observation requests and of components leave one integer each without a bound.
-/

import Reproit.Backend.SealingSample
import Reproit.Core.Model.SemanticObservation

namespace Reproit

section

variable [Primitives] {α : Type} [Document α]

/-- The value has canonical bytes and a digest. -/
structure HasIdentity (value : α) : Prop where
  bytes : ∃ written, Canonical.bytes value = .ok written
  digest : ∃ identity, Canonical.digest value = .ok identity

/-- Exact integers are all that is needed for an identity. -/
theorem hasIdentity_iff_exact (value : α) : HasIdentity value ↔ Document.Exact value := by
  constructor
  · intro identified
    obtain ⟨written, canonical⟩ := identified.bytes
    exact (Canonical.bytes_eq_ok.mp canonical).1
  · intro exact
    exact ⟨⟨_, Canonical.bytes_of_exact exact⟩, ⟨_, Canonical.digest_of_exact exact⟩⟩

end

/-! ## Observation requests -/

namespace SemanticObservationRequest

variable {request : SemanticObservationRequest}

theorem exact_iff : Document.Exact request ↔
    (∀ length ∈ request.length, length.toNat ≤ maxExactInteger) ∧
      ∀ offset ∈ request.offset, offset.toNat ≤ maxExactInteger := by
  change codec.exact request = true ↔ _
  simp only [codec, SemanticObservationOperation.codec, Format.codec, Codec.exact_record,
    Fields.exact_required, Fields.exact_optional, Fields.exact_done, Codec.exact_enumeration,
    Codec.exact_string, Codec.exact_uint64, Option.all_eq_true, decide_eq_true_eq, Bool.and_true,
    Bool.true_and, Bool.and_eq_true, Option.mem_def, implies_true, and_true, maxExactInteger]

theorem length_le_of_validLength {length : Option UInt64} (valid : validLength length = true) :
    ∀ value ∈ length, value.toNat ≤ maxExactInteger := by
  rintro value rfl
  simp only [validLength, Option.any_some, Bool.and_eq_true, decide_eq_true_eq] at valid
  exact valid.2.trans (by decide)

/-- Every validated length is exact. -/
theorem length_le (valid : request.validate = .ok ()) :
    ∀ length ∈ request.length, length.toNat ≤ maxExactInteger := by
  have absent : ∀ {target : Option String}, requireNone target request.offset request.length =
      .ok () → ∀ length ∈ request.length, length.toNat ≤ maxExactInteger := by
    intro target none length held
    simp only [requireNone, rejectIf_eq_ok, not_or] at none
    exact absurd (Option.isSome_iff_exists.mpr ⟨length, held⟩) none.2.2
  unfold validate at valid
  cases operation : request.operation with
  | clockWallTime =>
      rw [operation] at valid
      exact absent valid
  | environmentRead =>
      rw [operation] at valid
      simp only [bind_eq_ok] at valid
      exact absent valid.choose_spec.2
  | filesystemRead =>
      rw [operation] at valid
      simp only [bind_eq_ok, rejectIf_eq_ok, not_or, not_not] at valid
      exact length_le_of_validLength valid.choose_spec.2.2
  | randomBytes =>
      rw [operation] at valid
      simp only [rejectIf_eq_ok, not_or, not_not] at valid
      exact length_le_of_validLength valid.2.2

/-- Offsets have no bound of their own. -/
theorem exact_iff_of_validate (valid : request.validate = .ok ()) :
    Document.Exact request ↔ ∀ offset ∈ request.offset, offset.toNat ≤ maxExactInteger := by
  rw [exact_iff]
  exact and_iff_right (length_le valid)

end SemanticObservationRequest

/-! ## Support bundles -/

namespace SupportBundle

variable {bundle : SupportBundle}

theorem exact_iff : Document.Exact bundle ↔
    ∀ component ∈ bundle.components, component.protocolMax.toNat ≤ maxExactInteger ∧
      component.protocolMin.toNat ≤ maxExactInteger := by
  refine ⟨fun exact => ?_, SupportBundle.exact⟩
  change codec.exact bundle = true at exact
  simpa [codec, ComponentIdentity.codec, ComponentKind.codec, Format.codec, Digest.codec,
    maxExactInteger] using exact

/-- The least version of a protocol is bounded by the greatest one, which has no bound. -/
theorem exact_iff_of_validate (valid : bundle.validate = .ok ()) :
    Document.Exact bundle ↔
      ∀ component ∈ bundle.components, component.protocolMax.toNat ≤ maxExactInteger := by
  simp only [validate, bind_eq_ok, rejectIf_eq_ok, forEach_eq_ok] at valid
  obtain ⟨_, _, _, components, _⟩ := valid
  rw [exact_iff]
  refine forall₂_congr fun component member => and_iff_left_of_imp fun bound => ?_
  have checked := components component member
  simp only [ComponentIdentity.validate, bind_eq_ok, rejectIf_eq_ok, not_or] at checked
  have ordered := UInt64.le_iff_toNat_le.mp (UInt64.not_lt.mp checked.choose_spec.2.2.2.2.2)
  exact ordered.trans bound

end SupportBundle

/-! ## Recoverable points -/

instance : Document RecoverablePoint := ⟨RecoverablePoint.codec, by decide⟩

/-! ## Valid documents -/

/-- A valid request has an identity exactly when its offset is exact, a valid bundle exactly when
the greatest protocol versions of its components are, and every valid point has one. -/
theorem hasIdentity_of_validate_iff [Primitives] {request : SemanticObservationRequest}
    {bundle : SupportBundle} {point : RecoverablePoint}
    (requestValid : request.validate = .ok ()) (bundleValid : bundle.validate = .ok ())
    (pointValid : point.validate = .ok ()) :
    (HasIdentity request ↔ ∀ offset ∈ request.offset, offset.toNat ≤ maxExactInteger) ∧
    (HasIdentity bundle ↔
      ∀ component ∈ bundle.components, component.protocolMax.toNat ≤ maxExactInteger) ∧
    HasIdentity point := by
  rw [hasIdentity_iff_exact, hasIdentity_iff_exact, hasIdentity_iff_exact]
  exact ⟨SemanticObservationRequest.exact_iff_of_validate requestValid,
    SupportBundle.exact_iff_of_validate bundleValid, WorldCheckpoint.exact_of_point pointValid⟩

/-- A read of one byte of the file with the name a. -/
def readAt (offset : UInt64) : SemanticObservationRequest where
  format := .v1
  length := some 1
  offset := some offset
  operation := .filesystemRead
  target := some (encodeBase64Url [97])

/-- Every offset is accepted. -/
theorem validate_readAt (offset : UInt64) : (readAt offset).validate = .ok () := by
  have target : SemanticObservationRequest.validateTarget (some (encodeBase64Url [97])) =
      .ok () := by
    simp only [SemanticObservationRequest.validateTarget, bind_eq_ok, rejectIf_eq_ok, okOr_eq_ok]
    exact ⟨_, rfl, [97], decodeBase64UrlBytes_eq_ok.mpr rfl, by decide⟩
  show (SemanticObservationRequest.validateTarget (some (encodeBase64Url [97])) >>= fun _ =>
    rejectIf ((readAt offset).offset.isNone ∨
      ¬ SemanticObservationRequest.validLength (readAt offset).length) .schemaInvalid) = .ok ()
  rw [target, ok_bind, rejectIf_eq_ok, not_or, not_not]
  exact ⟨Bool.false_ne_true, (by decide : SemanticObservationRequest.validLength (some 1) = true)⟩

open Backend in
theorem hasIdentity_of_validate_iff_sample :
    letI := Sample.primitives
    HasIdentity (readAt 7) ∧ HasIdentity Sample.bundle ∧ HasIdentity (Sample.filePoint []) := by
  let _ := Sample.primitives
  obtain ⟨request, bundle, point⟩ := hasIdentity_of_validate_iff (validate_readAt 7)
    Sample.validate_bundle (@Sample.validate_filePoint _ [] (Nat.zero_le _))
  refine ⟨request.mpr ?_, bundle.mpr ?_, point⟩
  · intro offset held
    rw [← Option.some.inj held]
    decide
  · exact fun component member => (SupportBundle.exact_iff.mp Sample.exact_bundle component member).1

/-- A read behind the exact integers is accepted and has no canonical bytes. -/
theorem hasIdentity_readAt : ¬ ∀ request : SemanticObservationRequest,
    request.validate = .ok () → ∃ written, Canonical.bytes request = .ok written := by
  intro always
  obtain ⟨_, canonical⟩ := always _ (validate_readAt 9007199254740992)
  have exact := SemanticObservationRequest.exact_iff.mp (Canonical.bytes_eq_ok.mp canonical).1
  exact absurd (exact.2 9007199254740992 rfl) (by decide)

end Reproit
