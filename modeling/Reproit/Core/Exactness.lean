/-
# Valid documents have canonical bytes

A document without large integers has canonical bytes whatever its values are.  For
the others the validator bounds every integer, so a valid document has them.  The
texts of digests and identifiers have fixed sizes.
-/

import Reproit.Data.DocumentSize
import Reproit.Core.Model.Candidate
import Reproit.Core.Model.Profile
import Reproit.Core.Model.SubjectClosure
import Reproit.Core.Model.World
import Reproit.Core.Model.Batch

namespace Reproit

open Document

/-! ## Texts of fixed size -/

theorem plain_of_hexValue {digit : Char} (held : (Radix.hexValue digit).isSome) :
    Json.PlainChar digit ∧ digit.toNat < 128 := by
  have range : (48 ≤ digit.toNat ∧ digit.toNat ≤ 57) ∨ (97 ≤ digit.toNat ∧ digit.toNat ≤ 102) := by
    unfold Radix.hexValue at held
    split_ifs at held with number letter
    · exact .inl ⟨UInt32.le_iff_toNat_le.mp number.1, UInt32.le_iff_toNat_le.mp number.2⟩
    · exact .inr ⟨UInt32.le_iff_toNat_le.mp letter.1, UInt32.le_iff_toNat_le.mp letter.2⟩
    · cases held
  refine ⟨⟨?_, ?_, by omega⟩, by omega⟩
  all_goals
    rintro rfl
    revert range
    decide

/-- Every digest has seventy-one characters. -/
theorem Digest.stringSize_toText (digest : Digest) : Json.stringSize digest.toText = 73 := by
  have front : ∀ c ∈ tag, Json.PlainChar c ∧ c.toNat < 128 := by
    have every : tag.all (fun c => c ≠ Json.quote ∧ c ≠ Json.backslash ∧ 32 ≤ c.toNat ∧
        c.toNat < 128) = true := by decide
    intro c member
    obtain ⟨noQuote, noEscape, printed, ascii⟩ :=
      of_decide_eq_true (List.all_eq_true.mp every c member)
    exact ⟨⟨noQuote, noEscape, printed⟩, ascii⟩
  rw [Json.stringSize_of_plain]
  · simp [toText, tag, Radix.length_hexText]
  · intro c member
    rw [toText, String.toList_ofList, List.mem_append] at member
    rcases member with member | member
    · exact front c member
    · exact plain_of_hexValue (Radix.hexValue_isSome_of_mem_hexText member)

/-- A string is not much longer than its characters. -/
theorem Json.stringSize_le_length (text : String) :
    Json.stringSize text ≤ 2 + 24 * text.toList.length := by
  have each := List.sum_le_card_nsmul (text.toList.map Json.charSize) 24 fun size member => by
    obtain ⟨c, -, rfl⟩ := List.mem_map.mp member
    have bound := Json.charSize_le c
    have width := c.utf8Size_le_four
    omega
  rw [List.length_map, nsmul_eq_mul, Nat.cast_id] at each
  rw [Json.stringSize]
  omega

theorem Timestamp.size_le (time : Timestamp) : Timestamp.codec.size time ≤ 578 := by
  have valid := time.valid
  simp only [timestampShapeIsValid, Bool.and_eq_true, decide_eq_true_eq] at valid
  have bound := Json.stringSize_le_length time.text
  rw [Timestamp.codec, Codec.size_text]
  omega

theorem TypedId.size_le {kind : IdKind} (id : TypedId kind) : TypedId.codec.size id ≤ 1000 := by
  have tag : kind.tag.toList.length ≤ 5 := by cases kind <;> decide
  have bound := Json.stringSize_le_length id.toText
  have length : id.toText.toList.length = kind.tag.toList.length + 36 := by
    simp [TypedId.toText, Uuid.toText, Radix.length_hexText]
  rw [TypedId.codec, Codec.size_text]
  omega

/-- The canonical bytes of a value are as many as its codec counts. -/
theorem Canonical.length_text {α : Type} [Document α] (value : α) :
    (text value).length = (Document.codec : Codec α).size value := by
  rw [text, Json.length_textBytes_render]
  rfl

/-! ## Documents without large integers -/

theorem ClosurePolicy.exact (policy : ClosurePolicy) : Exact policy := by
  change codec.exact policy = true
  simp [codec, ClosureRule.codec, ClosureMechanism.codec, ObservationClass.codec, Format.codec]

theorem DebuggerContract.exact (contract : DebuggerContract) : Exact contract := by
  change codec.exact contract = true
  simp [codec, DebuggerProtocol.codec, DebuggerReadinessRule.codec, DebuggerSourceMapping.codec,
    ProcessorArchitecture.codec, Format.codec, Digest.codec]

theorem ExceptionFailureIdentity.exact (identity : ExceptionFailureIdentity) :
    codec.exact identity = true := by
  simp [codec, ExceptionCategory.codec, FailureFrame.codec, OperationKind.codec]

theorem ContractFailureIdentity.exact (identity : ContractFailureIdentity) :
    codec.exact identity = true := by
  simp [codec, ContractCategory.codec, OperationKind.codec, Digest.codec]

theorem FailureIdentity.exact (identity : FailureIdentity) : Exact identity := by
  change codec.exact identity = true
  cases identity with
  | exception identity => exact identity.exact
  | contract identity => exact identity.exact

theorem FailureReference.exact (reference : FailureReference) :
    codec.exact reference = true := by
  simp [codec, FailureCategory.codec, FailureMatcher.codec, Digest.codec, TypedId.codec]

theorem FailurePayload.exact (payload : FailurePayload) : Exact payload := by
  have identity : FailureIdentity.codec.exact payload.identity = true := payload.identity.exact
  change codec.exact payload = true
  simp [codec, payload.failure.exact, identity, Format.codec]

theorem FailureGrouping.exact (grouping : FailureGrouping) : Exact grouping := by
  change codec.exact grouping = true
  simp [codec, FailureCategory.codec, FailureMatcher.codec, Format.codec, Digest.codec]

theorem Trigger.exact (trigger : Trigger) : Exact trigger := by
  change codec.exact trigger = true
  simp [codec, TriggerInput.codec, InputChannel.codec, TriggerCompletion.codec,
    OperationKind.codec, Format.codec, Digest.codec, TypedId.codec]

theorem FuzzContextIdentity.exact (identity : FuzzContextIdentity) :
    codec.exact identity = true := by
  simp [codec, Digest.codec, TypedId.codec]

theorem OperationBeginPayload.exact (payload : OperationBeginPayload) : Exact payload := by
  have campaign : payload.campaignContext.all FuzzContextIdentity.codec.exact = true := by
    cases payload.campaignContext with
    | none => rfl
    | some identity => exact identity.exact
  change codec.exact payload = true
  simp [codec, campaign, OperationBeginFormat.codec, OperationKind.codec, TypedId.codec]

theorem TerminalPayload.exact (payload : TerminalPayload) : Exact payload := by
  change codec.exact payload = true
  simp [codec, Format.codec]

theorem Proof.exact (proof : Proof) : Exact proof := by
  change codec.exact proof = true
  simp [codec, ProcessingMode.codec, ExecutionResultKind.codec, Format.codec, Digest.codec]

theorem Perturbation.exact (perturbation : Perturbation) : Exact perturbation := by
  change codec.exact perturbation = true
  simp [codec, PerturbationCase.codec, Format.codec, Digest.codec]

theorem ObjectKeyContext.exact (context : ObjectKeyContext) : Exact context := by
  change codec.exact context = true
  simp [codec, ProcessingMode.codec, LogicalObjectRole.codec, Format.codec, TypedId.codec]

/-! ## Documents whose integers are bounded by their validators -/

theorem WorldClosure.exact {closure : WorldClosure} (valid : closure.validate = .ok ()) :
    Exact closure := by
  simp only [validate, bind_eq_ok, rejectIf_eq_ok, not_exists, not_and, not_or, not_lt] at valid
  obtain ⟨-, -, -, -, versions⟩ := valid
  change codec.exact closure = true
  simp only [codec, ClosureReceipt.codec, ClosureMechanism.codec, ObservationClass.codec,
    Format.codec, Digest.codec, Codec.exact_record, Codec.exact_list, Fields.exact_required,
    Fields.exact_done, Codec.exact_enumeration, Codec.exact_text, Codec.exact_string,
    Codec.exact_uint64, Bool.and_true, Bool.true_and, List.all_eq_true, decide_eq_true_eq]
  exact fun receipt member => (versions receipt member).2.2

theorem SupportBundle.exact {bundle : SupportBundle}
    (protocols : ∀ component ∈ bundle.components, component.protocolMax.toNat ≤ maxExactInteger ∧
      component.protocolMin.toNat ≤ maxExactInteger) : Exact bundle := by
  change codec.exact bundle = true
  simp only [codec, ComponentIdentity.codec, ComponentKind.codec, Format.codec, Digest.codec,
    Codec.exact_record, Codec.exact_list, Fields.exact_required, Fields.exact_done,
    Codec.exact_enumeration, Codec.exact_text, Codec.exact_string, Codec.exact_uint64,
    Bool.and_true, Bool.true_and, List.all_eq_true, decide_eq_true_eq, Bool.and_eq_true,
    implies_true, true_and]
  exact protocols

theorem DependencyTranscript.exact {transcript : DependencyTranscript}
    (valid : transcript.validate = .ok ()) : Exact transcript := by
  simp only [validate, bind_eq_ok, forEach_eq_ok, rejectIf_eq_ok, not_or, not_lt] at valid
  obtain ⟨-, -, positions⟩ := valid
  have position : ∀ interaction ∈ transcript.interactions,
      interaction.sessionPosition.toNat ≤ Json.maxExactInteger := by
    intro interaction member
    obtain ⟨index, small, rfl⟩ := List.mem_iff_getElem.mp member
    have found : (transcript.interactions[index], index) ∈ transcript.interactions.zipIdx :=
      List.mk_mem_zipIdx_iff_getElem?.mpr (List.getElem?_eq_getElem small)
    exact (positions _ found).2
  change codec.exact transcript = true
  simp only [codec, DependencyTranscriptInteraction.codec, DependencyOutcome.codec, TypedId.codec,
    Format.codec, Digest.codec, Codec.exact_record, Codec.exact_list, Fields.exact_required,
    Fields.exact_optional, Fields.exact_done, Codec.exact_enumeration, Codec.exact_text,
    Codec.exact_string, Codec.exact_uint16, Codec.exact_uint64, Bool.and_true, Bool.true_and,
    List.all_eq_true, decide_eq_true_eq, Option.all_eq_true, Bool.and_eq_true, implies_true,
    true_and]
  exact position

theorem ChunkKeyContext.exact {context : ChunkKeyContext} (valid : context.validate = .ok ()) :
    Exact context := by
  simp only [validate, rejectIf_eq_ok, not_or] at valid
  obtain ⟨-, -, -, size⟩ := valid
  have bound : context.plainSize.toNat ≤ (8388608 : UInt64).toNat :=
    UInt64.le_iff_toNat_le.mp (UInt64.not_lt.mp size)
  change codec.exact context = true
  simp only [codec, Format.codec, Digest.codec, Codec.exact_record, Fields.exact_required,
    Fields.exact_done, Codec.exact_enumeration, Codec.exact_text, Codec.exact_uint32,
    Codec.exact_uint64, Bool.and_true, Bool.true_and, decide_eq_true_eq]
  exact bound.trans (by decide)

theorem LogicalObject.exact {object : LogicalObject} (valid : object.validate = .ok ()) :
    codec.exact object = true := by
  have bound := (validate_eq_ok.mp valid).size
  simp only [codec, LogicalObjectRole.codec, TypedId.codec, Digest.codec, Codec.exact_record,
    Fields.exact_required, Fields.exact_done, Codec.exact_enumeration, Codec.exact_text,
    Codec.exact_string, Codec.exact_uint64, Bool.and_true, Bool.true_and, decide_eq_true_eq]
  exact bound.trans (by decide)

theorem Subject.exact (subject : Subject) : codec.exact subject = true := by
  simp [codec, Format.codec, Digest.codec]

theorem Deployment.exact (deployment : Deployment) : codec.exact deployment = true := by
  simp [codec, Format.codec, ProcessingMode.codec, TypedId.codec, Timestamp.codec, Subject.exact]

theorem ReplayCapsule.exact {capsule : ReplayCapsule} (valid : capsule.Valid) :
    Exact capsule := by
  have objects : capsule.objects.all LogicalObject.codec.exact = true :=
    List.all_eq_true.mpr fun object member => LogicalObject.exact (valid.objects object member).1
  have format : capsule.profileFormat.toNat ≤ Json.maxExactInteger := valid.profileFormat.2
  change codec.exact capsule = true
  simp [codec, ProcessingMode.codec, Format.codec, Digest.codec, Subject.exact, objects, format]

theorem SubjectClosureManifest.exact {manifest : SubjectClosureManifest}
    (valid : manifest.validate = .ok ()) : Exact manifest := by
  simp only [validate, validateObjects, bind_eq_ok, rejectIf_eq_ok, forEach_eq_ok, not_or,
    not_lt] at valid
  obtain ⟨-, -, -, limits, -, ⟨-, -, -, objects, -⟩, -⟩ := valid
  have total : manifest.totalBytes.toNat ≤ maxObjectBytes := limits.2.2.2.2.2.2.2.2.1
  change codec.exact manifest = true
  simp only [codec, DebugArtifactBinding.codec, DebugArtifactKind.codec, SubjectFile.codec,
    SubjectLaunch.codec, SubjectModule.codec, SubjectClosureObject.codec,
    SubjectObjectKind.codec, SubjectRuntimeFamily.codec, Format.codec, Digest.codec,
    Codec.exact_record, Codec.exact_list, Fields.exact_required, Fields.exact_done,
    Codec.exact_enumeration, Codec.exact_text, Codec.exact_string, Codec.exact_bool,
    Codec.exact_uint64, Bool.and_true, Bool.true_and, Bool.and_eq_true, List.all_eq_true,
    decide_eq_true_eq, implies_true, true_and]
  have small : maxObjectBytes ≤ Json.maxExactInteger := by decide
  exact ⟨fun object member => (objects object member).1.trans small, total.trans small⟩

end Reproit
