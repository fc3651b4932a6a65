/-
# The summaries of a failure

What leaves a capture in clear about its failure.  In managed mode the summaries depend on the
category and on the kind of the operation alone, and an accepted envelope carries no other
ones.  In private mode they repeat texts of the identity, which the validator of the identity
does not bound: the summaries are accepted exactly when these texts are short.
-/

import Reproit.Backend.SealingSample

namespace Reproit

/-- The managed summaries of every failure of a category in an operation of a kind. -/
def managedSummaries (category : FailureCategory) (kind : OperationKind) :
    FailureSummary × TriggerSummary :=
  ({ category
     operation := "captured-operation"
     stableCode := none
     typeName := category.fixedLabel },
    { kind, operation := "captured-operation" })

namespace FailureIdentity

def typeName : FailureIdentity → String
  | .exception identity => identity.typeName
  | .contract identity => identity.contractId

def stableCode : FailureIdentity → Option String
  | .exception identity => identity.stableCode
  | .contract _ => none

/-- The texts of an identity that its private summaries repeat are within their limits. -/
structure ShortTexts (identity : FailureIdentity) : Prop where
  operation : identity.operation.2.utf8ByteSize ≤ 128
  typeName : identity.typeName.utf8ByteSize ≤ 256
  stableCode : ∀ code ∈ identity.stableCode, code.isEmpty = false ∧ code.utf8ByteSize ≤ 128

theorem safeSummaries_managed (identity : FailureIdentity) :
    identity.safeSummaries .managed = managedSummaries identity.category identity.operation.1 := by
  cases identity <;> rfl

theorem safeSummaries_private (identity : FailureIdentity) :
    identity.safeSummaries .private' =
      ({ category := identity.category
         operation := identity.operation.2
         stableCode := identity.stableCode
         typeName := identity.typeName },
        { kind := identity.operation.1, operation := identity.operation.2 }) := by
  cases identity <;> rfl

/-- A valid identity names its operation and what failed. -/
theorem named_of_validate {identity : FailureIdentity} (valid : identity.validate = .ok ()) :
    identity.operation.2.isEmpty = false ∧ identity.typeName.isEmpty = false := by
  cases identity with
  | exception identity =>
      simp only [validate, ExceptionFailureIdentity.validate, bind_eq_ok, rejectIf_eq_ok,
        not_or] at valid
      obtain ⟨_, ⟨-, operation, -, typeName, -⟩, -⟩ := valid
      exact ⟨Bool.eq_false_iff.mpr operation, Bool.eq_false_iff.mpr typeName⟩
  | contract identity =>
      rw [validate, ContractFailureIdentity.validate, rejectIf_eq_ok] at valid
      simp only [not_or] at valid
      obtain ⟨-, contractId, -, operation, -⟩ := valid
      exact ⟨Bool.eq_false_iff.mpr operation, Bool.eq_false_iff.mpr contractId⟩

end FailureIdentity

/-! ## What the validators accept -/

/-- In managed mode one failure summary is accepted for each category. -/
theorem FailureSummary.validateForMode_managed {summary : FailureSummary} :
    summary.validateForMode .managed = .ok () ↔ summary.operation = "captured-operation" ∧
      summary.stableCode = none ∧ summary.typeName = summary.category.fixedLabel := by
  simp only [validateForMode, bind_eq_ok, rejectIf_eq_ok, true_and, not_or, not_not,
    Bool.not_eq_true, Option.isSome_eq_false_iff, Option.isNone_iff_eq_none]
  constructor
  · intro ⟨_, _, fixed⟩
    exact fixed
  · intro ⟨operation, stableCode, typeName⟩
    have label : ∀ category : FailureCategory, category.fixedLabel.isEmpty = false ∧
        ¬ category.fixedLabel.utf8ByteSize > 256 := by
      intro category
      cases category <;> decide
    refine ⟨(), ?_, operation, stableCode, typeName⟩
    rw [operation, stableCode, typeName]
    exact ⟨by decide, by decide, (label _).1, (label _).2, rfl⟩

theorem TriggerSummary.validateForMode_managed {summary : TriggerSummary} :
    summary.validateForMode .managed = .ok () ↔ summary.operation = "captured-operation" := by
  rw [validateForMode, rejectIf_eq_ok]
  simp only [true_and, not_or, not_not]
  constructor
  · rintro ⟨_, _, operation⟩
    exact operation
  · intro operation
    rw [operation]
    exact ⟨by decide, by decide, rfl⟩

/-- A private summary is accepted when its texts are neither empty nor long. -/
theorem FailureSummary.validateForMode_private {summary : FailureSummary}
    (operation : summary.operation.isEmpty = false) (typeName : summary.typeName.isEmpty = false) :
    summary.validateForMode .private' = .ok () ↔ summary.operation.utf8ByteSize ≤ 128 ∧
      summary.typeName.utf8ByteSize ≤ 256 ∧
        ∀ code ∈ summary.stableCode, code.isEmpty = false ∧ code.utf8ByteSize ≤ 128 := by
  simp only [validateForMode, bind_eq_ok, rejectIf_eq_ok, operation, typeName, Bool.false_eq_true,
    false_or, not_or, not_lt, Bool.not_eq_true, Option.any_eq_false, Bool.or_eq_false_iff,
    decide_eq_false_iff_not, reduceCtorEq, false_and, not_false_eq_true, and_true]
  constructor
  · intro ⟨_, held⟩
    exact held
  · intro held
    exact ⟨(), held⟩

theorem TriggerSummary.validateForMode_private {summary : TriggerSummary}
    (operation : summary.operation.isEmpty = false) :
    summary.validateForMode .private' = .ok () ↔ summary.operation.utf8ByteSize ≤ 128 := by
  rw [validateForMode, rejectIf_eq_ok]
  simp only [operation, Bool.false_eq_true, false_or, reduceCtorEq, false_and, or_false, not_lt]

/-! ## The summaries of an identity -/

namespace FailureIdentity

theorem validate_summaries_managed (identity : FailureIdentity) :
    (identity.safeSummaries .managed).1.validateForMode .managed = .ok () ∧
      (identity.safeSummaries .managed).2.validateForMode .managed = .ok () := by
  rw [safeSummaries_managed]
  constructor
  · exact FailureSummary.validateForMode_managed.mpr ⟨rfl, rfl, rfl⟩
  · exact TriggerSummary.validateForMode_managed.mpr rfl

theorem validate_summaries_private {identity : FailureIdentity}
    (valid : identity.validate = .ok ()) :
    ((identity.safeSummaries .private').1.validateForMode .private' = .ok () ∧
      (identity.safeSummaries .private').2.validateForMode .private' = .ok ()) ↔
        identity.ShortTexts := by
  obtain ⟨operation, typeName⟩ := named_of_validate valid
  rw [safeSummaries_private, FailureSummary.validateForMode_private operation typeName,
    TriggerSummary.validateForMode_private operation]
  constructor
  · intro ⟨⟨first, second, third⟩, _⟩
    exact ⟨first, second, third⟩
  · intro ⟨first, second, third⟩
    exact ⟨⟨first, second, third⟩, first⟩

/-- The summaries of a valid failure are accepted in managed mode, and in private mode when the
texts of the identity are short. -/
theorem validate_safeSummaries {identity : FailureIdentity} (valid : identity.validate = .ok ())
    (mode : ProcessingMode) :
    ((identity.safeSummaries mode).1.validateForMode mode = .ok () ∧
      (identity.safeSummaries mode).2.validateForMode mode = .ok ()) ↔
        (mode = .private' → identity.ShortTexts) := by
  cases mode with
  | managed => exact iff_of_true identity.validate_summaries_managed nofun
  | private' => rw [validate_summaries_private valid, forall_prop_of_true rfl]

/-- The identity of an exception without frames and with an empty code. -/
def emptyCode : FailureIdentity :=
  .exception {
    category := .exception
    causeTypes := []
    frames := []
    operationKind := .requestResponse
    operationName := "run"
    runtimeFamily := "rust"
    schema := "reproit.failure.v1"
    stableCode := some ""
    typeName := "Error" }

theorem validate_safeSummaries_contract :
    (Backend.Sample.identity.safeSummaries .private').1.validateForMode .private' = .ok () ∧
      (Backend.Sample.identity.safeSummaries .private').2.validateForMode .private' = .ok () :=
  (validate_safeSummaries Backend.Sample.validate_identity .private').mpr
    fun _ => ⟨by decide, by decide, nofun⟩

theorem refused_emptyCode :
    emptyCode.validate = .ok () ∧
      (emptyCode.safeSummaries .private').1.validateForMode .private' ≠ .ok () :=
  ⟨rfl, nofun⟩

end FailureIdentity

/-! ## Sealed captures -/

namespace Backend

variable [Primitives] {request : SealRequest} {source : NonceSource} {upload : SealedUpload}

/-- The envelope of a sealed capture carries the summaries of its failure. -/
theorem summaries_of_sealUpload (ran : sealUpload request source = .ok upload) :
    upload.envelope.validate = .ok () ∧
      upload.envelope.processingMode = request.input.capsule.processingMode ∧
      (upload.envelope.failureSummary, upload.envelope.triggerSummary) =
        request.input.expectedFailure.safeSummaries request.input.capsule.processingMode := by
  obtain ⟨plaintext, descriptors, materials, last, seals⟩ := sealUpload_sealed ran
  have valid := seals.validate_envelope
  have mode : upload.manifest.processingMode = request.input.capsule.processingMode := by
    rw [(SealRequest.buildManifest_eq_ok.mp seals.built).1]
    rfl
  obtain ⟨chunk, -, built⟩ := seals.envelope
  simp only [buildEnvelope, bind_eq_ok, pure_eq_ok] at built
  obtain ⟨_, _, _, _, _, _, _, _, _, _, _, _, _, _, _, _, same⟩ := built
  refine ⟨valid, ?_, ?_⟩
  · rw [← same, ← mode]
    rfl
  · rw [← same, ← mode]
    rfl

/-- A private capture is sealed only when the texts of its failure are short. -/
theorem shortTexts_of_sealUpload (ran : sealUpload request source = .ok upload)
    (failure : request.input.expectedFailure.validate = .ok ())
    (mode : request.input.capsule.processingMode = .private') :
    request.input.expectedFailure.ShortTexts := by
  obtain ⟨valid, sameMode, same⟩ := summaries_of_sealUpload ran
  have checked := UploadEnvelope.validate_eq_ok.mp valid
  obtain ⟨sameFailure, sameTrigger⟩ := Prod.mk.inj same
  have first := checked.failureSummary
  have second := checked.triggerSummary
  rw [sameMode, sameFailure, mode] at first
  rw [sameMode, sameTrigger, mode] at second
  exact (FailureIdentity.validate_summaries_private failure).mp ⟨first, second⟩

end Backend

/-! ## What managed mode reveals -/

variable [Primitives]

/-- The managed summaries are those of the category and of the kind, for every failure and in
every envelope that is accepted. -/
theorem managed_summaries :
    Function.FactorsThrough (FailureIdentity.safeSummaries .managed)
      (fun identity => (identity.category, identity.operation.1)) ∧
    ∀ envelope : UploadEnvelope, envelope.validate = .ok () → envelope.processingMode = .managed →
      (envelope.failureSummary, envelope.triggerSummary) =
        managedSummaries envelope.failureSummary.category envelope.triggerSummary.kind ∧
      ∀ identity : FailureIdentity, identity.category = envelope.failureSummary.category →
        identity.operation.1 = envelope.triggerSummary.kind →
          identity.safeSummaries .managed = (envelope.failureSummary, envelope.triggerSummary) := by
  constructor
  · intro first second same
    obtain ⟨category, kind⟩ := Prod.mk.inj same
    rw [FailureIdentity.safeSummaries_managed, FailureIdentity.safeSummaries_managed, category,
      kind]
  · intro envelope valid managed
    have checked := UploadEnvelope.validate_eq_ok.mp valid
    have failure := checked.failureSummary
    have trigger := checked.triggerSummary
    rw [managed] at failure trigger
    have fixed := FailureSummary.validateForMode_managed.mp failure
    have operation := TriggerSummary.validateForMode_managed.mp trigger
    have whole : (envelope.failureSummary, envelope.triggerSummary) =
        managedSummaries envelope.failureSummary.category envelope.triggerSummary.kind := by
      generalize envelope.failureSummary = summary at fixed
      generalize envelope.triggerSummary = started at operation
      obtain ⟨category, name, code, label⟩ := summary
      obtain ⟨kind, started⟩ := started
      obtain ⟨rfl, rfl, same⟩ := fixed
      obtain rfl := operation
      rw [managedSummaries, ← same]
    refine ⟨whole, fun identity category kind => ?_⟩
    rw [FailureIdentity.safeSummaries_managed, category, kind, ← whole]

omit [Primitives] in
theorem managed_summaries_sample :
    letI := Backend.Sample.marked
    ∃ envelope : UploadEnvelope, envelope.validate = .ok () ∧ envelope.processingMode = .managed ∧
      Backend.Sample.identity.safeSummaries .managed =
        (envelope.failureSummary, envelope.triggerSummary) := by
  let _ := Backend.Sample.marked
  have small : ([] : Bytes).length ≤ 536870912 := Nat.zero_le _
  obtain ⟨upload, ran⟩ := Backend.Sample.exists_sealUpload small
  obtain ⟨valid, mode, same⟩ := Backend.summaries_of_sealUpload ran
  obtain ⟨failure, trigger⟩ := Prod.mk.inj same
  have category : Backend.Sample.identity.category = upload.envelope.failureSummary.category := by
    rw [failure]
    rfl
  have kind : Backend.Sample.identity.operation.1 = upload.envelope.triggerSummary.kind := by
    rw [trigger]
    rfl
  exact ⟨upload.envelope, valid, mode,
    (managed_summaries.2 upload.envelope valid mode).2 Backend.Sample.identity category kind⟩

end Reproit
