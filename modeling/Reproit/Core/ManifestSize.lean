/-
# The sizes of the documents of a capture

A valid trigger or dependency transcript is small: its texts and lists are bounded.  The
size of a closure manifest is counted entry by entry.
-/

import Reproit.Core.WorldArtifacts

namespace Reproit

open Json

/-! ## Sizes -/

/-- The decimal digits of a number. -/
def digits (number : Nat) : Nat := (Nat.toDigits 10 number).length

theorem digits_pos (number : Nat) : 0 < digits number := Nat.length_toDigits_pos

theorem Codec.size_uint64 (value : UInt64) : Codec.uint64.size value = digits value.toNat := by
  simp only [Codec.size, Codec.uint64, Codec.unsigned, Json.size]
  rfl

/-- The bytes of an array with its brackets and commas. -/
def arrayBytes (sizes : List Nat) : Nat := 1 + max 1 (sizes.map (1 + ·)).sum

theorem Codec.size_list_eq {α : Type} (codec : Codec α) (values : List α) :
    codec.list.size values = arrayBytes (values.map codec.size) := by
  rw [Codec.size_list, arrayBytes, List.map_map]
  rfl

/-- The bytes of a truth value. -/
def booleanBytes (value : Bool) : Nat := if value then 4 else 5

theorem Codec.size_bool (value : Bool) : Codec.bool.size value = booleanBytes value := by
  cases value <;> rfl

/-- The bytes of an array of short items. -/
theorem arrayBytes_le {sizes : List Nat} {count bound : Nat} (few : sizes.length ≤ count)
    (short : ∀ size ∈ sizes, size ≤ bound) : arrayBytes sizes ≤ 2 + count * (1 + bound) := by
  have each := List.sum_le_card_nsmul (sizes.map (1 + ·)) (1 + bound) fun size member => by
    obtain ⟨item, listed, rfl⟩ := List.mem_map.mp member
    exact Nat.add_le_add_left (short item listed) 1
  rw [List.length_map, smul_eq_mul] at each
  have whole := each.trans (Nat.mul_le_mul_right (1 + bound) few)
  rw [arrayBytes]
  omega

/-- An identifier is written with its tag, thirty-six characters and quotation marks. -/
theorem TypedId.stringSize_toText {kind : IdKind} (id : TypedId kind) :
    stringSize id.toText = kind.tag.toList.length + 38 := by
  have front : kind.tag.toList.all (fun c => c ≠ Json.quote ∧ c ≠ Json.backslash ∧
      32 ≤ c.toNat ∧ c.toNat < 128) = true := by
    cases kind <;> decide
  have hyphen : PlainChar '-' ∧ ('-' : Char).toNat < 128 :=
    ⟨⟨by decide, by decide, by decide⟩, by decide⟩
  have hex : ∀ {width number : Nat}, ∀ c ∈ Radix.hexText width number,
      PlainChar c ∧ c.toNat < 128 := fun c listed =>
    plain_of_hexValue (Radix.hexValue_isSome_of_mem_hexText listed)
  rw [stringSize_of_plain]
  · simp [toText, Uuid.toText, Radix.length_hexText]
    omega
  · intro c member
    rw [toText, String.toList_ofList, Uuid.toText] at member
    simp only [List.mem_append, List.mem_cons] at member
    rcases member with tag | first | rfl | second | rfl | third | rfl | fourth | rfl | fifth
    · obtain ⟨noQuote, noEscape, printed, ascii⟩ :=
        of_decide_eq_true (List.all_eq_true.mp front c tag)
      exact ⟨⟨noQuote, noEscape, printed⟩, ascii⟩
    · exact hex c first
    · exact hyphen
    · exact hex c second
    · exact hyphen
    · exact hex c third
    · exact hyphen
    · exact hex c fourth
    · exact hyphen
    · exact hex c fifth

/-! ## Triggers and transcripts -/

theorem Codec.size_uint16_le (value : UInt16) : Codec.uint16.size value ≤ 5 :=
  Codec.size_unsigned_le _ (by decide) (by have := value.toNat_lt; omega)

theorem Codec.size_uint64_le (value : UInt64) : Codec.uint64.size value ≤ 20 :=
  Codec.size_unsigned_le _ (by decide) (by have := value.toNat_lt; omega)

theorem TriggerInput.size_le (input : TriggerInput) : TriggerInput.codec.size input ≤ 250 := by
  have names : stringSize "channel" = 9 ∧ stringSize "object_id" = 11 ∧
      stringSize "plain_digest" = 14 ∧ stringSize "sequence" = 10 := by decide
  have channel : InputChannel.codec.size input.channel ≤ 40 := by
    cases input.channel <;> decide
  have tag : IdKind.object.tag.toList.length = 4 := by decide
  have sequence := Codec.size_uint16_le input.sequence
  simp only [TriggerInput.codec, TypedId.codec, Digest.codec, Codec.size_record, Codec.size_text,
    Fields.size_required, Fields.size_done, Digest.stringSize_toText, TypedId.stringSize_toText,
    names, tag]
  omega

/-- A valid trigger is small. -/
theorem Trigger.length_text_le {trigger : Trigger} (valid : trigger.validate = .ok ()) :
    (Canonical.text trigger).length ≤ 270000 := by
  simp only [Trigger.validate, bind_eq_ok, rejectIf_eq_ok, not_or, not_lt, not_not] at valid
  obtain ⟨_, ⟨-, adapterId, -, adapterVersion, -, operationName, parents, -, -, inputs, -⟩, -⟩ :=
    valid
  have names : stringSize "adapter_id" = 12 ∧ stringSize "adapter_version" = 17 ∧
      stringSize "causal_parent_ids" = 19 ∧ stringSize "completion" = 12 ∧
      stringSize "format" = 8 ∧ stringSize "inputs" = 8 ∧ stringSize "operation_id" = 14 ∧
      stringSize "operation_kind" = 16 ∧ stringSize "operation_name" = 16 := by decide
  have tag : IdKind.operation.tag.toList.length = 3 := by decide
  have operation : ∀ id : OperationId, TypedId.codec.size id = 41 := by
    intro id
    rw [TypedId.codec, Codec.size_text, TypedId.stringSize_toText, tag]
  have parentSizes : arrayBytes (trigger.causalParentIds.map TypedId.codec.size) ≤
      2 + 32 * (1 + 41) := by
    apply arrayBytes_le ((List.length_map _).trans_le parents)
    intro size member
    obtain ⟨id, -, rfl⟩ := List.mem_map.mp member
    exact (operation id).le
  have inputSizes : arrayBytes (trigger.inputs.map TriggerInput.codec.size) ≤
      2 + 1024 * (1 + 250) := by
    apply arrayBytes_le ((List.length_map _).trans_le inputs)
    intro size member
    obtain ⟨input, -, rfl⟩ := List.mem_map.mp member
    exact input.size_le
  have completion : TriggerCompletion.codec.size trigger.completion ≤ 40 := by
    cases trigger.completion <;> decide
  have kind : OperationKind.codec.size trigger.operationKind ≤ 40 := by
    cases trigger.operationKind <;> decide
  have format : (Format.codec _).size trigger.format ≤ 60 := by
    cases trigger.format
    decide
  have adapterIdSize := stringSize_le trigger.adapterId
  have adapterVersionSize := stringSize_le trigger.adapterVersion
  have operationSize := stringSize_le trigger.operationName
  rw [Canonical.length_text]
  change Trigger.codec.size trigger ≤ _
  simp only [Trigger.codec, Codec.size_record, Codec.size_list_eq, Fields.size_required,
    Fields.size_done, Codec.size_string, names, operation]
  omega

theorem DependencyTranscriptInteraction.size_le (interaction : DependencyTranscriptInteraction) :
    DependencyTranscriptInteraction.codec.size interaction ≤ 600 := by
  have names : stringSize "causal_parent_id" = 18 ∧ stringSize "operation_id" = 14 ∧
      stringSize "outcome" = 9 ∧ stringSize "request_digest" = 16 ∧
      stringSize "request_object_id" = 19 ∧ stringSize "response_digest" = 17 ∧
      stringSize "response_object_id" = 20 ∧ stringSize "sequence" = 10 ∧
      stringSize "session_position" = 18 := by decide
  have tag : IdKind.object.tag.toList.length = 4 ∧ IdKind.operation.tag.toList.length = 3 := by
    decide
  have operation : ∀ id : OperationId, TypedId.codec.size id = 41 := by
    intro id
    rw [TypedId.codec, Codec.size_text, TypedId.stringSize_toText, tag.2]
  have object : ∀ id : ObjectId, TypedId.codec.size id = 42 := by
    intro id
    rw [TypedId.codec, Codec.size_text, TypedId.stringSize_toText, tag.1]
  have parent : (TypedId.codec.option TypedId.decode_null).size interaction.causalParentId ≤ 41 := by
    cases interaction.causalParentId with
    | none => rw [Codec.size_option_none]; omega
    | some id => rw [Codec.size_option_some, operation]
  have outcome : DependencyOutcome.codec.size interaction.outcome ≤ 40 := by
    cases interaction.outcome <;> decide
  have sequence := Codec.size_uint16_le interaction.sequence
  have position := Codec.size_uint64_le interaction.sessionPosition
  simp only [DependencyTranscriptInteraction.codec, Digest.codec, Codec.size_record,
    Codec.size_text, Fields.size_required, Fields.size_optional, Fields.size_done,
    Digest.stringSize_toText, operation, object, names]
  omega

/-- A valid dependency transcript is small. -/
theorem DependencyTranscript.length_text_le {transcript : DependencyTranscript}
    (valid : transcript.validate = .ok ()) : (Canonical.text transcript).length ≤ 620000 := by
  simp only [DependencyTranscript.validate, bind_eq_ok, rejectIf_eq_ok, not_or, not_lt, not_not,
    validComponent, Bool.and_eq_true, decide_eq_true_eq] at valid
  obtain ⟨_, ⟨adapterId, -, adapterVersion, -, few⟩, -⟩ := valid
  have names : stringSize "adapter_id" = 12 ∧ stringSize "adapter_version" = 17 ∧
      stringSize "format" = 8 ∧ stringSize "interactions" = 14 := by decide
  have interactions : arrayBytes
      (transcript.interactions.map DependencyTranscriptInteraction.codec.size) ≤
        2 + 1024 * (1 + 600) := by
    apply arrayBytes_le ((List.length_map _).trans_le few)
    intro size member
    obtain ⟨interaction, -, rfl⟩ := List.mem_map.mp member
    exact interaction.size_le
  have format : (Format.codec _).size transcript.format ≤ 60 := by
    cases transcript.format
    decide
  have adapterIdSize := stringSize_le transcript.adapterId
  have adapterVersionSize := stringSize_le transcript.adapterVersion
  rw [Canonical.length_text]
  change DependencyTranscript.codec.size transcript ≤ _
  simp only [DependencyTranscript.codec, Codec.size_record, Codec.size_list_eq,
    Fields.size_required, Fields.size_done, Codec.size_string, names]
  omega

namespace SubjectClosureManifest

/-! ## Closure manifests -/

def bindingBytes (binding : DebugArtifactBinding) : Nat :=
  199 + stringSize binding.kind.name + stringSize binding.path

def fileBytes (file : SubjectFile) : Nat :=
  113 + booleanBytes file.executable + stringSize file.path

def moduleBytes (entry : SubjectModule) : Nat :=
  111 + stringSize entry.identity + stringSize entry.path

def objectBytes (object : SubjectClosureObject) : Nat :=
  114 + stringSize object.kind.name + stringSize object.mediaType + digits object.size.toNat

def launchBytes (launch : SubjectLaunch) : Nat :=
  70 + arrayBytes (launch.arguments.map stringSize) +
    arrayBytes (launch.environmentNames.map stringSize) + stringSize launch.executable +
    stringSize launch.workingDirectory

/-- The bytes of the manifest by the texts and numbers in it. -/
def documentBytes (manifest : SubjectClosureManifest) : Nat :=
  168 + stringSize manifest.architecture + arrayBytes (manifest.debugArtifacts.map bindingBytes) +
    arrayBytes (manifest.files.map fileBytes) + launchBytes manifest.launch +
    arrayBytes (manifest.modules.map moduleBytes) + arrayBytes (manifest.objects.map objectBytes) +
    stringSize manifest.operatingSystem + stringSize manifest.runtimeFamily.name +
    digits manifest.totalBytes.toNat

theorem size_binding : DebugArtifactBinding.codec.size = bindingBytes := by
  funext binding
  have names : stringSize "artifact_digest" = 17 ∧ stringSize "kind" = 6 ∧
      stringSize "module_digest" = 15 ∧ stringSize "path" = 6 := by decide
  simp only [DebugArtifactBinding.codec, Digest.codec, DebugArtifactKind.codec,
    Codec.size_record, Codec.size_text, Codec.size_enumeration, Fields.size_required,
    Fields.size_done, Digest.stringSize_toText, Codec.size_string, names, bindingBytes]
  omega

theorem size_file : SubjectFile.codec.size = fileBytes := by
  funext file
  have names : stringSize "executable" = 12 ∧ stringSize "object_digest" = 15 ∧
      stringSize "path" = 6 := by decide
  simp only [SubjectFile.codec, Digest.codec, Codec.size_record, Codec.size_text, Codec.size_bool,
    Fields.size_required, Fields.size_done, Digest.stringSize_toText, Codec.size_string, names,
    fileBytes]
  omega

theorem size_module : SubjectModule.codec.size = moduleBytes := by
  funext entry
  have names : stringSize "identity" = 10 ∧ stringSize "module_digest" = 15 ∧
      stringSize "path" = 6 := by decide
  simp only [SubjectModule.codec, Digest.codec, Codec.size_record, Codec.size_text,
    Fields.size_required, Fields.size_done, Digest.stringSize_toText, Codec.size_string, names,
    moduleBytes]
  omega

theorem size_object : SubjectClosureObject.codec.size = objectBytes := by
  funext object
  have names : stringSize "digest" = 8 ∧ stringSize "kind" = 6 ∧ stringSize "media_type" = 12 ∧
      stringSize "size" = 6 := by decide
  simp only [SubjectClosureObject.codec, Digest.codec, SubjectObjectKind.codec, Codec.size_record,
    Codec.size_text, Codec.size_enumeration, Codec.size_uint64, Fields.size_required,
    Fields.size_done, Digest.stringSize_toText, Codec.size_string, names, objectBytes]
  omega

theorem size_launch : SubjectLaunch.codec.size = launchBytes := by
  funext launch
  have names : stringSize "arguments" = 11 ∧ stringSize "environment_names" = 19 ∧
      stringSize "executable" = 12 ∧ stringSize "working_directory" = 19 := by decide
  have texts : Codec.string.size = stringSize := funext Codec.size_string
  simp only [SubjectLaunch.codec, Codec.size_record, Codec.size_list_eq, Fields.size_required,
    Fields.size_done, texts, names, launchBytes]
  omega

theorem length_text (manifest : SubjectClosureManifest) :
    (Canonical.text manifest).length = manifest.documentBytes := by
  have names : stringSize "architecture" = 14 ∧ stringSize "debug_artifacts" = 17 ∧
      stringSize "files" = 7 ∧ stringSize "format" = 8 ∧ stringSize "launch" = 8 ∧
      stringSize "modules" = 9 ∧ stringSize "objects" = 9 ∧ stringSize "operating_system" = 18 ∧
      stringSize "runtime_family" = 16 ∧ stringSize "total_bytes" = 13 := by decide
  have format : (Format.codec "reproit.subject-closure.v1").size manifest.format = 28 := by
    cases manifest.format
    decide
  rw [Canonical.length_text]
  change codec.size manifest = _
  simp only [codec, SubjectRuntimeFamily.codec, Codec.size_record, Codec.size_list_eq,
    Codec.size_enumeration, Codec.size_uint64, Fields.size_required, Fields.size_done,
    Codec.size_string, size_binding, size_file, size_launch, size_module, size_object, names,
    format, documentBytes]
  omega

end SubjectClosureManifest

end Reproit
