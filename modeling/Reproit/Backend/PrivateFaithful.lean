/-
# Private sealing is faithful

A sealed private capsule holds exactly the bytes that were collected for it.  The resolver
selects objects by what their manifests say of them, so the objects that it selects are
those that were collected for the records of the candidate, for the exchanges and for the
artifacts of the World, each in its order.
-/

import Reproit.Backend.PrivateSample

namespace Reproit.Backend

variable [Primitives]

/-! ## Collected objects -/

/-- The descriptor of a part whose bytes are collected under its identifier. -/
structure Describes (objects : OrderedMap ObjectId Bytes) (part : ObjectPart)
    (object : LogicalObject) : Prop where
  role : object.role = part.role
  mediaType : object.mediaType = part.mediaType
  digest : object.plainDigest = Digest.of part.bytes
  size : object.plainSize.toNat = part.bytes.length
  bytes : objects[object.objectId]? = some part.bytes
  fixed : ∀ objectId ∈ part.fixedId, object.objectId = objectId

namespace ObjectSetBuilder

/-- The parts were collected, in order, and nothing else was. -/
structure Built (parts : List ObjectPart) (builder : ObjectSetBuilder) : Prop where
  each : List.Forall₂ (Describes builder.objects) parts builder.descriptors
  ids : ∀ objectId, objectId ∈ builder.objects ↔
    objectId ∈ builder.descriptors.map LogicalObject.objectId

variable {candidate : Candidate} {builder next : ObjectSetBuilder} {parts more : List ObjectPart}
  {part : ObjectPart}

theorem built_new : ObjectSetBuilder.new.Built [] where
  each := .nil
  ids _ := iff_of_false Std.ExtTreeMap.not_mem_empty List.not_mem_nil

theorem nextId_fixed {objectId : ObjectId} {ordinal : UInt32}
    (ran : builder.nextId candidate part = .ok (objectId, ordinal)) :
    ∀ fixed ∈ part.fixedId, objectId = fixed := by
  intro fixed given
  rw [nextId, given] at ran
  exact (Prod.mk.inj (Except.ok.inj ran)).1.symm

/-- One part is collected behind the others. -/
theorem Built.push (built : builder.Built parts) (ran : builder.push candidate part = .ok next) :
    next.Built (parts ++ [part]) := by
  simp only [ObjectSetBuilder.push, bind_eq_ok, Prod.exists, rejectIf_eq_ok, okOr_eq_ok,
    uint64OfNat_eq_some, pure_eq_ok] at ran
  obtain ⟨objectId, ordinal, named, _, new, plainSize, size, rfl⟩ := ran
  constructor
  case each =>
    apply List.rel_append
    · refine built.each.imp fun earlier object describes => ?_
      have other : objectId ≠ object.objectId := by
        rintro rfl
        exact new (Std.ExtTreeMap.mem_iff_isSome_getElem?.mpr
          (Option.isSome_iff_exists.mpr ⟨_, describes.bytes⟩))
      have kept : (builder.objects.insert objectId part.bytes)[object.objectId]? =
          some earlier.bytes := by
        rw [OrderedMap.getElem?_insert, if_neg other]
        exact describes.bytes
      exact { describes with bytes := kept }
    · refine .cons ⟨rfl, rfl, rfl, size, ?_, nextId_fixed named⟩ .nil
      rw [OrderedMap.getElem?_insert, if_pos rfl]
  case ids =>
    intro wanted
    rw [Std.ExtTreeMap.mem_insert, compare_eq_iff_eq, built.ids, List.map_append,
      List.map_singleton, List.mem_append, List.mem_singleton]
    exact or_comm.trans (or_congr_right eq_comm)

theorem Built.pushAll (built : builder.Built parts)
    (ran : builder.pushAll candidate more = .ok next) : next.Built (parts ++ more) := by
  induction more generalizing builder parts with
  | nil =>
      obtain rfl := Except.ok.inj ran
      rwa [List.append_nil]
  | cons part rest ih =>
      rw [ObjectSetBuilder.pushAll, bind_eq_ok] at ran
      obtain ⟨middle, first, later⟩ := ran
      have whole := ih (built.push first) later
      rwa [List.append_assoc] at whole

theorem Built.pushDocument {α : Type} [Document α] {role : LogicalObjectRole}
    {mediaType : String} {value : α} {fixedId : Option ObjectId} (built : builder.Built parts)
    (ran : builder.pushDocument candidate role mediaType value fixedId = .ok next) :
    next.Built (parts ++ [documentPart role mediaType value fixedId]) := by
  rw [ObjectSetBuilder.pushDocument, bind_eq_ok] at ran
  obtain ⟨bytes, written, pushed⟩ := ran
  obtain ⟨-, rfl⟩ := Canonical.bytes_eq_ok.mp written
  exact built.push pushed

/-- The part of an input is named as its trigger input. -/
structure InputPart (trigger : Trigger) (entry : OperationInputPayload × Bytes)
    (part : ObjectPart) : Prop where
  role : part.role = .trigger
  bytes : part.bytes = entry.2
  fixedId : ∃ input, trigger.inputs[entry.1.inputIndex.toNat]? = some input ∧
    part.fixedId = some input.objectId

theorem Built.pushInputs {trigger : Trigger} {inputs : List (OperationInputPayload × Bytes)}
    (built : builder.Built parts)
    (ran : builder.pushInputs candidate trigger inputs = .ok next) :
    ∃ more, List.Forall₂ (InputPart trigger) inputs more ∧ next.Built (parts ++ more) := by
  induction inputs generalizing builder parts with
  | nil =>
      obtain rfl := Except.ok.inj ran
      exact ⟨[], .nil, by rwa [List.append_nil]⟩
  | cons entry rest ih =>
      obtain ⟨input, bytes⟩ := entry
      simp only [ObjectSetBuilder.pushInputs, bind_eq_ok, okOr_eq_ok] at ran
      obtain ⟨triggerInput, found, middle, first, later⟩ := ran
      obtain ⟨more, each, whole⟩ := ih (built.push first) later
      rw [List.append_assoc] at whole
      exact ⟨_ :: more, .cons ⟨rfl, rfl, triggerInput, found, rfl⟩ each, whole⟩

end ObjectSetBuilder

open ObjectSetBuilder

/-- The parts of a transcript and of its bodies. -/
def dependencyParts : Option DerivedDependency → List ObjectPart
  | none => []
  | some derived =>
      documentPart .dependencyTranscript dependencyTranscriptMediaType derived.transcript none ::
        bodyParts derived.bodies

/-- The parts in the order of construction. -/
def assembledParts (sources : PrivateClosureSources) (records : DecodedRecords)
    (subjectClosure : SubjectClosureManifest) (trigger : Trigger)
    (dependency : Option DerivedDependency) (inputs : List ObjectPart)
    (artifacts : List (String × Bytes)) : List ObjectPart :=
  [documentPart .subject subjectClosureMediaType subjectClosure none,
      { role := .subject, mediaType := singleFileMediaType, bytes := sources.subjectBinary
        fixedId := none },
      { role := .subject, mediaType := singleFileDebugMediaType, bytes := sources.debugArtifact
        fixedId := none }] ++ inputs ++
    [documentPart .failure failureMediaType records.failure
        (some records.failure.failure.objectId),
      documentPart .trigger triggerMediaType trigger none,
      documentPart .worldManifest worldManifestMediaType sources.world none] ++
    artifactParts artifacts ++ dependencyParts dependency

section

variable {sources : PrivateClosureSources} {records : DecodedRecords}
  {subjectClosure : SubjectClosureManifest} {trigger : Trigger}
  {dependency : Option DerivedDependency} {builder : ObjectSetBuilder}

theorem assembleObjectSet_built
    (ran : assembleObjectSet sources records subjectClosure trigger dependency = .ok builder) :
    ∃ inputs artifacts, List.Forall₂ (InputPart trigger) records.inputs inputs ∧
      sources.worldArtifactEntries = .ok artifacts ∧
      builder.Built
        (assembledParts sources records subjectClosure trigger dependency inputs artifacts) := by
  simp only [assembleObjectSet, bind_eq_ok] at ran
  obtain ⟨artifacts, entries, first, manifest, second, files, third, pushedInputs, fourth,
    failure, fifth, pushedTrigger, sixth, world, seventh, pushedArtifacts, last⟩ := ran
  obtain ⟨inputs, each, built⟩ :=
    ((built_new.pushDocument manifest).pushAll files).pushInputs pushedInputs
  have built := (((built.pushDocument failure).pushDocument pushedTrigger).pushDocument
    world).pushAll pushedArtifacts
  refine ⟨inputs, artifacts, each, entries, ?_⟩
  cases dependency with
  | none =>
      obtain rfl := Except.ok.inj last
      simpa [assembledParts, dependencyParts] using built
  | some derived =>
      simp only [bind_eq_ok] at last
      obtain ⟨eighth, transcript, bodies⟩ := last
      have whole := (built.pushDocument transcript).pushAll bodies
      simpa [assembledParts, dependencyParts] using whole

end


/-! ## The records of a candidate -/

/-- The document that a record carries. -/
def recordDocument (α : Type) [Document α] (record : EventRecord) : Result α := do
  let payload ← decodeBase64UrlBytes record.payload
  Canonical.parseStrict α payload

/-- The bytes that an input record carries. -/
def inputValue (record : EventRecord) : Result Bytes := do
  let input ← recordDocument OperationInputPayload record
  decodeBase64UrlBytes input.value

/-- The records of one kind, in order. -/
def recordsOf (records : List EventRecord) (kind : EventKind) : List EventRecord :=
  records.filter fun record => record.kind = kind

/-- The documents were read from the records in their order. -/
structure Collected (records : List EventRecord) (found : FoundRecords) : Prop where
  begins : List.Forall₂ (fun record payload =>
    recordDocument OperationBeginPayload record = .ok payload) (recordsOf records .begin')
      found.begin'.toList
  cursors : List.Forall₂ (fun record cursor =>
    recordDocument DependencyCursorPayload record = .ok cursor) (recordsOf records .dependency)
      found.cursors
  failures : List.Forall₂ (fun record payload =>
    recordDocument FailurePayload record = .ok payload) (recordsOf records .failure)
      found.failure.toList
  inputs : List.Forall₂ (fun record entry => inputValue record = .ok entry.2 ∧
    Digest.of entry.2 = entry.1.valueDigest) (recordsOf records .input) found.inputs
  numbered : ∀ (index : Nat) entry, found.inputs[index]? = some entry →
    entry.1.inputIndex.toNat = index

section

variable {records : List EventRecord} {record : EventRecord} {found next : FoundRecords}

/-- What a decoded record adds. -/
theorem decodeRecord_cases (ran : decodeRecord found record = .ok next) :
    (record.kind = .terminal ∧ next = found) ∨
    (record.kind = .begin' ∧ ∃ payload, recordDocument OperationBeginPayload record = .ok payload ∧
      found.begin' = none ∧ next = { found with begin' := some payload }) ∨
    (record.kind = .input ∧ ∃ input bytes, recordDocument OperationInputPayload record = .ok input ∧
      decodeBase64UrlBytes input.value = .ok bytes ∧ Digest.of bytes = input.valueDigest ∧
        input.inputIndex.toNat = found.inputs.length ∧
          next = { found with inputs := found.inputs ++ [(input, bytes)] }) ∨
    (record.kind = .dependency ∧ ∃ cursor,
      recordDocument DependencyCursorPayload record = .ok cursor ∧
        next = { found with cursors := found.cursors ++ [cursor] }) ∨
    (record.kind = .failure ∧ ∃ payload, recordDocument FailurePayload record = .ok payload ∧
      found.failure = none ∧ next = { found with failure := some payload }) := by
  rw [decodeRecord, bind_eq_ok] at ran
  obtain ⟨payload, decoded, ran⟩ := ran
  have document : ∀ (α : Type) [Document α], recordDocument α record =
      Canonical.parseStrict α payload := by
    intro α _
    rw [recordDocument, decoded, ok_bind]
  cases kind : record.kind with
  | begin' =>
      simp only [kind, bind_eq_ok, rejectIf_eq_ok, pure_eq_ok, Bool.not_eq_true,
        Option.isSome_eq_false_iff, Option.isNone_iff_eq_none] at ran
      obtain ⟨begin', read, _, first, rfl⟩ := ran
      exact .inr (.inl ⟨rfl, begin', (document _).trans read, first, rfl⟩)
  | dependency =>
      simp only [kind, bind_eq_ok, pure_eq_ok] at ran
      obtain ⟨cursor, read, _, -, rfl⟩ := ran
      exact .inr (.inr (.inr (.inl ⟨rfl, cursor, (document _).trans read, rfl⟩)))
  | failure =>
      simp only [kind, bind_eq_ok, rejectIf_eq_ok, pure_eq_ok, Bool.not_eq_true,
        Option.isSome_eq_false_iff, Option.isNone_iff_eq_none] at ran
      obtain ⟨failure, read, _, -, _, first, rfl⟩ := ran
      exact .inr (.inr (.inr (.inr ⟨rfl, failure, (document _).trans read, first, rfl⟩)))
  | input =>
      simp only [kind, bind_eq_ok, rejectIf_eq_ok, pure_eq_ok, not_or, not_not] at ran
      obtain ⟨input, read, bytes, value, _, ⟨digest, index⟩, rfl⟩ := ran
      exact .inr (.inr (.inl ⟨rfl, input, bytes, (document _).trans read, value, digest, index,
        rfl⟩))
  | observation => simp only [kind, reduceCtorEq] at ran
  | observationFence => simp only [kind, reduceCtorEq] at ran
  | terminal =>
      simp only [kind, pure_eq_ok] at ran
      exact .inl ⟨rfl, ran.symm⟩

omit [Primitives] in
/-- The records of a kind with one more record. -/
theorem recordsOf_concat {α : Type} {related : EventRecord → α → Prop} {kind : EventKind}
    {items after : List α} (each : List.Forall₂ related (recordsOf records kind) items)
    (step : (record.kind ≠ kind ∧ after = items) ∨
      (record.kind = kind ∧ ∃ item, related record item ∧ after = items ++ [item])) :
    List.Forall₂ related (recordsOf (records ++ [record]) kind) after := by
  rw [recordsOf, List.filter_append, List.filter_singleton]
  rcases step with ⟨other, rfl⟩ | ⟨here, item, holds, rfl⟩
  · rw [decide_eq_false other, cond_false, List.append_nil]
    exact each
  · rw [decide_eq_true here, cond_true]
    exact List.rel_append each (.cons holds .nil)

theorem collected_empty : Collected [] .empty where
  begins := .nil
  cursors := .nil
  failures := .nil
  inputs := .nil
  numbered := nofun

/-- One record adds its document to those of its kind. -/
theorem Collected.decodeRecord (collected : Collected records found)
    (ran : decodeRecord found record = .ok next) : Collected (records ++ [record]) next := by
  have other : ∀ {here kind : EventKind}, record.kind = here → here ≠ kind → record.kind ≠ kind :=
    fun same differs => same ▸ differs
  rcases decodeRecord_cases ran with ⟨kind, rfl⟩ | ⟨kind, payload, read, none, rfl⟩ |
    ⟨kind, input, bytes, read, value, digest, index, rfl⟩ | ⟨kind, cursor, read, rfl⟩ |
      ⟨kind, payload, read, none, rfl⟩
  · exact {
      begins := recordsOf_concat collected.begins (.inl ⟨other kind nofun, rfl⟩)
      cursors := recordsOf_concat collected.cursors (.inl ⟨other kind nofun, rfl⟩)
      failures := recordsOf_concat collected.failures (.inl ⟨other kind nofun, rfl⟩)
      inputs := recordsOf_concat collected.inputs (.inl ⟨other kind nofun, rfl⟩)
      numbered := collected.numbered }
  · have begins := collected.begins
    rw [none] at begins
    exact {
      begins := recordsOf_concat begins (.inr ⟨kind, payload, read, rfl⟩)
      cursors := recordsOf_concat collected.cursors (.inl ⟨other kind nofun, rfl⟩)
      failures := recordsOf_concat collected.failures (.inl ⟨other kind nofun, rfl⟩)
      inputs := recordsOf_concat collected.inputs (.inl ⟨other kind nofun, rfl⟩)
      numbered := collected.numbered }
  · have carried : inputValue record = .ok bytes := by
      rw [inputValue, read, ok_bind]
      exact value
    refine {
      begins := recordsOf_concat collected.begins (.inl ⟨other kind nofun, rfl⟩)
      cursors := recordsOf_concat collected.cursors (.inl ⟨other kind nofun, rfl⟩)
      failures := recordsOf_concat collected.failures (.inl ⟨other kind nofun, rfl⟩)
      inputs := recordsOf_concat collected.inputs (.inr ⟨kind, (input, bytes), ⟨carried, digest⟩,
        rfl⟩)
      numbered := fun position entry there => ?_ }
    by_cases earlier : position < found.inputs.length
    · rw [List.getElem?_append_left earlier] at there
      exact collected.numbered position entry there
    · rw [List.getElem?_append_right (not_lt.mp earlier), List.getElem?_singleton] at there
      by_cases first : position - found.inputs.length = 0
      · rw [if_pos first] at there
        obtain rfl := Option.some.inj there
        show input.inputIndex.toNat = position
        omega
      · rw [if_neg first] at there
        cases there
  · exact {
      begins := recordsOf_concat collected.begins (.inl ⟨other kind nofun, rfl⟩)
      cursors := recordsOf_concat collected.cursors (.inr ⟨kind, cursor, read, rfl⟩)
      failures := recordsOf_concat collected.failures (.inl ⟨other kind nofun, rfl⟩)
      inputs := recordsOf_concat collected.inputs (.inl ⟨other kind nofun, rfl⟩)
      numbered := collected.numbered }
  · have failures := collected.failures
    rw [none] at failures
    exact {
      begins := recordsOf_concat collected.begins (.inl ⟨other kind nofun, rfl⟩)
      cursors := recordsOf_concat collected.cursors (.inl ⟨other kind nofun, rfl⟩)
      failures := recordsOf_concat failures (.inr ⟨kind, payload, read, rfl⟩)
      inputs := recordsOf_concat collected.inputs (.inl ⟨other kind nofun, rfl⟩)
      numbered := collected.numbered }

/-- All records are collected. -/
theorem Collected.decodeRecords {more : List EventRecord} (collected : Collected records found)
    (ran : decodeRecords found more = .ok next) : Collected (records ++ more) next := by
  induction more generalizing records found with
  | nil =>
      obtain rfl := Except.ok.inj ran
      rwa [List.append_nil]
  | cons record rest ih =>
      rw [Backend.decodeRecords, bind_eq_ok] at ran
      obtain ⟨middle, first, later⟩ := ran
      have whole := ih (collected.decodeRecord first) later
      rwa [List.append_assoc] at whole

end

/-- What the decoded records have of the candidate. -/
structure Decoded (candidate : Candidate) (records : DecodedRecords) : Prop where
  begins : List.Forall₂ (fun record payload =>
    recordDocument OperationBeginPayload record = .ok payload)
      (recordsOf candidate.records .begin') [records.begin']
  cursors : List.Forall₂ (fun record cursor =>
    recordDocument DependencyCursorPayload record = .ok cursor)
      (recordsOf candidate.records .dependency) records.cursors
  failures : List.Forall₂ (fun record payload =>
    recordDocument FailurePayload record = .ok payload)
      (recordsOf candidate.records .failure) [records.failure]
  inputs : List.Forall₂ (fun record entry => inputValue record = .ok entry.2 ∧
    Digest.of entry.2 = entry.1.valueDigest) (recordsOf candidate.records .input) records.inputs
  numbered : ∀ (index : Nat) entry, records.inputs[index]? = some entry →
    entry.1.inputIndex.toNat = index
  failure : records.failure.failure = candidate.failure

theorem decoded_of_decodeCandidateRecords {candidate : Candidate} {records : DecodedRecords}
    (ran : decodeCandidateRecords candidate = .ok records) : Decoded candidate records := by
  simp only [decodeCandidateRecords, bind_eq_ok, okOr_eq_ok, rejectIf_eq_ok, not_not,
    pure_eq_ok] at ran
  obtain ⟨found, all, begin', begins, failure, failures, _, same, _, -, _, -, _, -, rfl⟩ := ran
  have collected := collected_empty.decodeRecords all
  constructor
  case begins =>
    have each := collected.begins
    rwa [begins] at each
  case cursors => exact collected.cursors
  case failures =>
    have each := collected.failures
    rwa [failures] at each
  case inputs => exact collected.inputs
  case numbered => exact collected.numbered
  case failure => exact same

/-! ## What the parts are selected by -/

omit [Primitives] in
/-- Pairings through a common middle compose. -/
theorem pairing_trans {α β γ : Type} {first : α → β → Prop} {second : β → γ → Prop}
    {sources : List α} {middles : List β} {results : List γ}
    (toMiddle : List.Forall₂ first sources middles)
    (fromMiddle : List.Forall₂ second middles results) :
    List.Forall₂ (fun source result => ∃ middle, first source middle ∧ second middle result)
      sources results := by
  induction toMiddle generalizing results with
  | nil =>
      cases fromMiddle
      exact .nil
  | cons here _ ih =>
      cases fromMiddle with
      | cons there others => exact .cons ⟨_, here, there⟩ (ih others)

/-- The objects are described by the parts, and every part describes one of them. -/
structure Carries (objects : List LogicalObject) (held : OrderedMap ObjectId Bytes)
    (parts : List ObjectPart) : Prop where
  objectOf : ∀ part ∈ parts, ∃ object ∈ objects, Describes held part object
  partOf : ∀ object ∈ objects, ∃ part ∈ parts, Describes held part object

theorem ObjectSetBuilder.Built.carries {builder : ObjectSetBuilder} {parts : List ObjectPart}
    (built : builder.Built parts) : Carries builder.descriptors builder.objects parts where
  objectOf _ listed := exists_result built.each listed
  partOf _ listed := exists_source built.each listed

theorem Carries.perm {objects others : List LogicalObject} {held : OrderedMap ObjectId Bytes}
    {parts : List ObjectPart} (carries : Carries objects held parts)
    (same : objects.Perm others) : Carries others held parts where
  objectOf part listed := by
    obtain ⟨object, member, describes⟩ := carries.objectOf part listed
    exact ⟨object, same.mem_iff.mp member, describes⟩
  partOf object listed := carries.partOf object (same.mem_iff.mpr listed)

section

variable {objects : List LogicalObject} {held : OrderedMap ObjectId Bytes}
  {parts : List ObjectPart}

/-- The selected object holds the bytes of a part that is selected. -/
theorem Carries.held_of_unique {select : LogicalObject → Bool} {found : LogicalObject}
    {part : ObjectPart} (carries : Carries objects held parts)
    (unique : UniqueMatch objects select found) (listed : part ∈ parts)
    (selected : ∀ object, Describes held part object → select object = true) :
    held[found.objectId]? = some part.bytes := by
  obtain ⟨object, member, describes⟩ := carries.objectOf part listed
  rw [← unique.eq_of_select member (selected object describes)]
  exact describes.bytes

/-- The selected objects hold the bytes of the parts, in their order. -/
theorem Carries.held_of_matchEach {γ : Type} {select : γ → LogicalObject → Bool}
    {entries : List γ} {chosen : List ObjectPart} {found : List LogicalObject}
    (carries : Carries objects held parts) (matched : MatchEach objects select entries found)
    (within : chosen ⊆ parts)
    (paired : List.Forall₂ (fun entry part => ∀ object, Describes held part object →
      select entry object = true) entries chosen) :
    List.Forall₂ (fun part object => held[LogicalObject.objectId object]? = some part.bytes)
      chosen found := by
  induction paired generalizing found with
  | nil =>
      cases matched
      exact .nil
  | cons selected _ ih =>
      obtain ⟨listed, later⟩ := List.cons_subset.mp within
      cases matched with
      | cons unique others =>
          exact .cons (carries.held_of_unique unique listed selected) (ih others later)

end

/-- What is read from the collected bytes of a document is the document. -/
theorem eq_of_held {α : Type} [Document α] [Validate α] {held : OrderedMap ObjectId Bytes}
    {earlier : List LogicalObject} {object : LogicalObject} {expectedDigest : Digest}
    {value document : α} (reads : Reads (objectReader held) earlier object expectedDigest value)
    (exact : Document.Exact document)
    (found : held[object.objectId]? = some (Canonical.text document)) : value = document := by
  obtain ⟨bytes, answered, -, -, strict⟩ := reads.answer
  rw [objectReader, found] at answered
  obtain rfl := Except.ok.inj answered
  rw [Canonical.parseStrict_bytes (Canonical.bytes_of_exact exact)] at strict
  exact (Except.ok.inj strict).symm

/-! ## What is derived -/

theorem deriveTrigger_spec {candidate : Candidate} {records : DecodedRecords} {trigger : Trigger}
    (ran : deriveTrigger candidate records = .ok trigger) :
    List.Forall₂ (fun entry input => TriggerInput.plainDigest input = entry.1.valueDigest)
        records.inputs trigger.inputs ∧
      (trigger.operationKind, trigger.operationName) =
        (records.begin'.operationKind, records.begin'.operationName) := by
  simp only [deriveTrigger, bind_eq_ok, pure_eq_ok, collect_eq_ok] at ran
  obtain ⟨inputs, each, _, -, rfl⟩ := ran
  refine ⟨each.imp fun entry input derived => ?_, rfl⟩
  simp only [deriveTriggerInput, bind_eq_ok, pure_eq_ok] at derived
  obtain ⟨_, -, rfl⟩ := derived
  rfl

/-- The part of every trigger input is the one of its input record. -/
theorem paired_inputs {inputs : List (OperationInputPayload × Bytes)} {trigger : Trigger}
    {parts : List ObjectPart}
    (derived : List.Forall₂ (fun entry input =>
      TriggerInput.plainDigest input = entry.1.valueDigest) inputs trigger.inputs)
    (each : List.Forall₂ (InputPart trigger) inputs parts)
    (digests : ∀ entry ∈ inputs, Digest.of entry.2 = entry.1.valueDigest)
    (numbered : ∀ (index : Nat) entry, inputs[index]? = some entry →
      entry.1.inputIndex.toNat = index) :
    List.Forall₂ (fun input part => part.role = .trigger ∧
      part.fixedId = some (TriggerInput.objectId input) ∧
        input.plainDigest = Digest.of (ObjectPart.bytes part)) trigger.inputs parts := by
  obtain ⟨derivedLength, derivedEach⟩ := List.forall₂_iff_get.mp derived
  obtain ⟨partsLength, partsEach⟩ := List.forall₂_iff_get.mp each
  apply List.forall₂_iff_get.mpr
  refine ⟨derivedLength.symm.trans partsLength, fun index inputs small => ?_⟩
  have below := derivedLength.trans_gt inputs
  have named := partsEach index below small
  have digest := derivedEach index below inputs
  have entry := List.getElem?_eq_getElem below
  obtain ⟨input, found, fixed⟩ := named.fixedId
  have position := numbered index _ entry
  rw [List.get_eq_getElem, position, List.getElem?_eq_getElem inputs] at found
  refine ⟨named.role, ?_, ?_⟩
  · rw [fixed, ← Option.some.inj found]
    rfl
  · rw [digest, named.bytes]
    exact (digests _ (List.get_mem _ _)).symm

theorem worldArtifactEntries_spec {sources : PrivateClosureSources}
    {artifacts : List (String × Bytes)} (ran : sources.worldArtifactEntries = .ok artifacts) :
    List.Forall₂ (fun artifact entry => entry.1 = ArtifactReference.mediaType artifact ∧
      entry.2.length = artifact.size.toNat ∧ Digest.of entry.2 = artifact.digest)
        sources.world.artifacts artifacts ∧ artifacts.map Prod.snd = sources.worldArtifacts := by
  simp only [PrivateClosureSources.worldArtifactEntries, bind_eq_ok, rejectIf_eq_ok, not_not,
    collect_eq_ok] at ran
  obtain ⟨_, same, each⟩ := ran
  have entries : List.Forall₂ (fun source entry => entry.2 = source.2 ∧
      entry.1 = ArtifactReference.mediaType source.1 ∧
        entry.2.length = source.1.size.toNat ∧ Digest.of entry.2 = source.1.digest)
      ((sources.world.points.flatMap fun point => point.artifacts).zip sources.worldArtifacts)
        artifacts := by
    refine each.imp fun source entry closed => ?_
    obtain ⟨artifact, bytes⟩ := source
    simp only [closeWorldArtifact, bind_eq_ok, rejectIf_eq_ok, okOr_eq_ok, uint64OfNat_eq_some,
      not_or, not_not, pure_eq_ok] at closed
    obtain ⟨_, -, size, length, _, ⟨rfl, digest⟩, rfl⟩ := closed
    exact ⟨rfl, rfl, length.symm, digest⟩
  constructor
  · have artifactsFirst := List.map_fst_zip same.le
    change List.Forall₂ _ (sources.world.points.flatMap fun point => point.artifacts) artifacts
    rw [← artifactsFirst, List.forall₂_map_left_iff]
    exact entries.imp fun _ _ held => held.2
  · rw [map_eq_of_pairing (fun _ _ held => held.1) entries]
    exact List.map_snd_zip same.ge

/-- What the interaction of an exchange says of it. -/
structure RecordsExchange (interaction : DependencyTranscriptInteraction)
    (exchange : ResolvedDependencyExchange) : Prop where
  request : interaction.requestDigest = Digest.of exchange.request
  response : interaction.responseDigest = Digest.of exchange.response

theorem deriveDependencyTranscript_spec {candidate : Candidate} {records : DecodedRecords}
    {resolved : List ResolvedDependencyExchange} {dependency : Option DerivedDependency}
    (ran : deriveDependencyTranscript candidate records resolved = .ok dependency) :
    resolved.map ResolvedDependencyExchange.cursor = records.cursors ∧
      (dependency = none ∧ resolved = [] ∨ ∃ derived, dependency = some derived ∧
        derived.transcript.validate = .ok () ∧
        List.Forall₂ RecordsExchange derived.transcript.interactions resolved ∧
        derived.bodies = (derived.transcript.interactions.zip resolved).flatMap
          fun (interaction, exchange) => exchangeBodies interaction exchange) := by
  rw [deriveDependencyTranscript] at ran
  cases cursors : records.cursors with
  | nil =>
      simp only [cursors, bind_eq_ok, rejectIf_eq_ok, not_not, List.isEmpty_iff,
        pure_eq_ok] at ran
      obtain ⟨_, rfl, rfl⟩ := ran
      exact ⟨rfl, .inl ⟨rfl, rfl⟩⟩
  | cons first rest =>
      simp only [cursors, bind_eq_ok, rejectIf_eq_ok, not_not, collect_eq_ok, pure_eq_ok] at ran
      obtain ⟨_, same, interactions, each, _, valid, rfl⟩ := ran
      have entries : List.Forall₂ (fun entry interaction => entry.1.1.cursor = entry.1.2 ∧
          RecordsExchange interaction entry.1.1) (resolved.zip (first :: rest)).zipIdx
            interactions := by
        refine each.imp fun entry interaction derived => ?_
        obtain ⟨⟨exchange, cursor⟩, index⟩ := entry
        simp only [deriveInteraction, bind_eq_ok, rejectIf_eq_ok, not_or, not_not,
          pure_eq_ok] at derived
        obtain ⟨_, ⟨bound, -⟩, _, -, _, -, _, -, _, -, _, -, _, -, rfl⟩ := derived
        exact ⟨bound, rfl, rfl⟩
      have exchanges : (resolved.zip (first :: rest)).zipIdx.map (fun entry => entry.1.1) =
          resolved :=
        calc (resolved.zip (first :: rest)).zipIdx.map (fun entry => entry.1.1)
            = ((resolved.zip (first :: rest)).zipIdx.map Prod.fst).map Prod.fst := by
              rw [List.map_map]; rfl
          _ = (resolved.zip (first :: rest)).map Prod.fst := by rw [List.zipIdx_map_fst]
          _ = resolved := List.map_fst_zip same.le
      refine ⟨?_, .inr ⟨_, rfl, valid, ?_, rfl⟩⟩
      · have bound : ∀ entry ∈ resolved.zip (first :: rest), entry.1.cursor = entry.2 := by
          intro entry listed
          rw [← List.zipIdx_map_fst 0 (resolved.zip (first :: rest))] at listed
          obtain ⟨numbered, among, rfl⟩ := List.mem_map.mp listed
          obtain ⟨interaction, -, one⟩ := exists_result entries among
          exact one.1
        calc resolved.map ResolvedDependencyExchange.cursor
            = ((resolved.zip (first :: rest)).map Prod.fst).map
                ResolvedDependencyExchange.cursor := by rw [List.map_fst_zip same.le]
          _ = (resolved.zip (first :: rest)).map fun entry => entry.1.cursor := List.map_map
          _ = (resolved.zip (first :: rest)).map Prod.snd := List.map_congr_left bound
          _ = first :: rest := List.map_snd_zip same.ge
      · have flipped : List.Forall₂ RecordsExchange interactions
            ((resolved.zip (first :: rest)).zipIdx.map fun entry => entry.1.1) := by
          rw [List.forall₂_map_right_iff]
          exact entries.flip.imp fun _ _ held => held.2
        rwa [exchanges] at flipped

/-! ## Capabilities -/

theorem filter_lead_besideBound {others : List String} {requirement : ProcessorRequirement}
    (foreign : Foreign others) {kind : CapabilityKind} {suffix : String}
    (named : ∀ other, requirement.NamesSuffix kind other ↔ other = suffix) :
    (besideBound others requirement).filter (fun capability => startsWith capability kind.lead) =
      [kind.lead ++ suffix] := by
  apply List.Pairwise.eq_of_mem_iff ((pairwise_sortDedup _).filter _) (List.pairwise_singleton _ _)
  intro capability
  rw [List.mem_filter, List.mem_singleton]
  constructor
  · intro ⟨listed, begins⟩
    obtain ⟨other, rfl⟩ := startsWith_iff.mp begins
    rcases mem_besideBound.mp listed with outside | bound
    · obtain ⟨architecture, processor⟩ := foreign _ outside
      have either := CapabilityKind.startsWith_processor_or kind other
      rw [architecture, processor] at either
      cases either
    · rw [lead_append_mem_boundCapabilities, named] at bound
      rw [bound]
  · rintro rfl
    refine ⟨mem_besideBound.mpr (.inr ?_), startsWith_append _ _⟩
    exact lead_append_mem_boundCapabilities.mpr ((named suffix).mpr rfl)

/-- A bound capsule names one architecture and one requirement. -/
theorem capabilities_of_bind {capsule bound : ReplayCapsule} {requirement : ProcessorRequirement}
    (ran : bindCapsuleProcessorRequirement capsule requirement = .ok bound) :
    ∀ kind ∈ [CapabilityKind.architecture, .requirement], ∃ suffix,
      (bound.requiredCapabilities.filter fun capability => startsWith capability kind.lead) =
        [kind.lead ++ suffix] := by
  obtain ⟨capabilities, found, rfl⟩ := bindCapsuleProcessorRequirement_eq_ok.mp ran
  obtain ⟨-, -, -, rfl⟩ := processorCapabilities_eq_ok.mp found
  have foreign := foreign_processorless capsule.requiredCapabilities
  obtain ⟨name, architecture⟩ := requirement.architecture.name_eq
  intro kind listed
  rcases List.mem_cons.mp listed with rfl | listed
  · refine ⟨name, filter_lead_besideBound foreign fun other => ?_⟩
    rw [ProcessorRequirement.NamesSuffix, architecture, CapabilityKind.lead_append_inj]
    exact ⟨fun same => same.2.symm, fun same => ⟨rfl, same.symm⟩⟩
  · obtain rfl := List.mem_singleton.mp listed
    exact ⟨_, filter_lead_besideBound foreign fun other => eq_comm⟩

/-! ## Sealing is faithful -/

/-- The interactions of the transcript, if there is one. -/
def interactionsOf (resolved : ResolvedReplayCapsule) : List ResolvedInteraction :=
  match resolved.dependency with
  | none => []
  | some dependency => dependency.interactions

/-- What a sealed private capsule resolves to has of its sources. -/
structure FaithfulSeal (sources : PrivateClosureSources) (sealed : SealedPrivateCapsule)
    (resolved : ResolvedReplayCapsule) : Prop where
  ids : ∀ objectId, objectId ∈ sealed.objects ↔
    objectId ∈ sealed.capsule.objects.map LogicalObject.objectId
  contents : ∀ object ∈ sealed.capsule.objects, ∃ bytes,
    sealed.objects[object.objectId]? = some bytes ∧ object.plainDigest = Digest.of bytes ∧
      object.plainSize.toNat = bytes.length
  inputs : List.Forall₂ (fun record object => ∃ bytes, inputValue record = .ok bytes ∧
    sealed.objects[LogicalObject.objectId object]? = some bytes)
      (recordsOf sources.candidate.records .input) resolved.triggerInputs
  cursors : List.Forall₂ (fun record exchange =>
    recordDocument DependencyCursorPayload record =
      .ok (ResolvedDependencyExchange.cursor exchange))
      (recordsOf sources.candidate.records .dependency) sources.dependencies
  exchanges : List.Forall₂ (fun exchange interaction =>
    sealed.objects[(ResolvedInteraction.request interaction).objectId]? =
        some (ResolvedDependencyExchange.request exchange) ∧
      sealed.objects[interaction.response.objectId]? = some exchange.response)
      sources.dependencies (interactionsOf resolved)
  artifacts : List.Forall₂ (fun bytes artifact =>
    sealed.objects[(ResolvedWorldArtifact.object artifact).objectId]? = some bytes)
      sources.worldArtifacts resolved.worldArtifacts
  manifestOrder : resolved.worldArtifacts.map (fun resolved =>
    (resolved.artifact, resolved.pointIndex)) = worldArtifactEntries sources.world
  world : resolved.world = sources.world
  failure : List.Forall₂ (fun record payload =>
    recordDocument FailurePayload record = .ok payload)
      (recordsOf sources.candidate.records .failure) [resolved.failure]
  operation : ∃ begin', List.Forall₂ (fun record payload =>
      recordDocument OperationBeginPayload record = .ok payload)
        (recordsOf sources.candidate.records .begin') [begin'] ∧
    (resolved.trigger.operationKind, resolved.trigger.operationName) =
      (begin'.operationKind, begin'.operationName) ∧
    resolved.failure.identity.operation = (begin'.operationKind, begin'.operationName)
  architecture : ∃ capability, (sealed.capsule.requiredCapabilities.filter fun capability =>
    startsWith capability "architecture.") = [capability]
  requirement : ∃ capability, (sealed.capsule.requiredCapabilities.filter fun capability =>
    startsWith capability "processor.requirement.") = [capability]

omit [Primitives] in
/-- No part has the role of a candidate, and only a dependency has parts of a transcript. -/
theorem role_of_mem_assembledParts {sources : PrivateClosureSources} {records : DecodedRecords}
    {subjectClosure : SubjectClosureManifest} {trigger : Trigger}
    {dependency : Option DerivedDependency} {inputs : List ObjectPart}
    {artifacts : List (String × Bytes)}
    (each : List.Forall₂ (InputPart trigger) records.inputs inputs) {part : ObjectPart}
    (listed : part ∈ assembledParts sources records subjectClosure trigger dependency inputs
      artifacts) :
    part.role ≠ .candidate ∧ (dependency = none → part.role ≠ .dependencyTranscript) := by
  simp only [assembledParts, List.mem_append, List.mem_cons, List.not_mem_nil, or_false] at listed
  rcases listed with (((((rfl | rfl | rfl) | input) | (rfl | rfl | rfl)) | artifact) | transcript)
  · exact ⟨nofun, nofun⟩
  · exact ⟨nofun, nofun⟩
  · exact ⟨nofun, nofun⟩
  · obtain ⟨entry, -, one⟩ := exists_source each input
    rw [one.role]
    exact ⟨nofun, nofun⟩
  · exact ⟨nofun, nofun⟩
  · exact ⟨nofun, nofun⟩
  · exact ⟨nofun, nofun⟩
  · obtain ⟨entry, -, rfl⟩ := List.mem_map.mp artifact
    exact ⟨nofun, nofun⟩
  · cases dependency with
    | none => cases transcript
    | some derived =>
        refine ⟨?_, nofun⟩
        rcases List.mem_cons.mp transcript with rfl | body
        · nofun
        · obtain ⟨entry, -, rfl⟩ := List.mem_map.mp body
          nofun

/-- What is among the parts that were assembled. -/
structure Among (sources : PrivateClosureSources) (records : DecodedRecords) (trigger : Trigger)
    (dependency : Option DerivedDependency) (inputs : List ObjectPart)
    (artifacts : List (String × Bytes)) (parts : List ObjectPart) : Prop where
  inputs : inputs ⊆ parts
  failure : documentPart .failure failureMediaType records.failure
    (some records.failure.failure.objectId) ∈ parts
  trigger : documentPart .trigger triggerMediaType trigger none ∈ parts
  world : documentPart .worldManifest worldManifestMediaType sources.world none ∈ parts
  artifacts : artifactParts artifacts ⊆ parts
  dependency : dependencyParts dependency ⊆ parts

omit [Primitives] in
theorem among_assembledParts (sources : PrivateClosureSources) (records : DecodedRecords)
    (subjectClosure : SubjectClosureManifest) (trigger : Trigger)
    (dependency : Option DerivedDependency) (inputs : List ObjectPart)
    (artifacts : List (String × Bytes)) :
    Among sources records trigger dependency inputs artifacts
      (assembledParts sources records subjectClosure trigger dependency inputs artifacts) where
  inputs _ listed := by simp [assembledParts, listed]
  failure := by simp [assembledParts]
  trigger := by simp [assembledParts]
  world := by simp [assembledParts]
  artifacts _ listed := by simp [assembledParts, listed]
  dependency _ listed := by simp [assembledParts, listed]

/-- Closing checks that the failure and the trigger are of one operation. -/
theorem operation_of_closeReplayCapsule {request : CandidateClosureRequest}
    {capsule : ReplayCapsule} (closed : closeReplayCapsule request = .ok capsule) :
    request.failure.identity.operation =
      (request.trigger.operationKind, request.trigger.operationName) := by
  simp only [closeReplayCapsule, validateInputs, bind_eq_ok, rejectIf_eq_ok, not_or,
    not_not] at closed
  obtain ⟨_, ⟨_, -, _, -, _, -, _, -, _, -, _, -, _, -, _, -, _, -, _, ⟨-, -, same⟩, -⟩, -⟩ := closed
  exact same

theorem role_of_candidateDescriptor {candidate : Candidate} {object : LogicalObject}
    (ran : candidateDescriptor candidate = .ok object) : object.role = .candidate := by
  simp only [candidateDescriptor, bind_eq_ok, pure_eq_ok] at ran
  obtain ⟨_, -, _, -, _, -, rfl⟩ := ran
  rfl

/-- The candidate is the only object that is not sealed. -/
theorem payloadObjects_of_built {builder : ObjectSetBuilder} {parts : List ObjectPart}
    {request : CandidateClosureRequest} {candidateObject : LogicalObject}
    (built : builder.Built parts) (roles : ∀ part ∈ parts, part.role ≠ .candidate)
    (candidate : candidateObject.role = .candidate)
    (objects : request.candidateObjects = builder.descriptors ++ [candidateObject]) :
    payloadObjects request = builder.descriptors := by
  have kept : ∀ object ∈ builder.descriptors, decide (object.role ≠ .candidate) = true := by
    intro object listed
    obtain ⟨part, member, describes⟩ := exists_source built.each listed
    rw [decide_eq_true_eq, describes.role]
    exact roles part member
  rw [payloadObjects, objects, List.filter_append, List.filter_eq_self.mpr kept,
    List.filter_singleton, candidate]
  exact List.append_nil _

section

variable {capsule : ReplayCapsule} {held : OrderedMap ObjectId Bytes} {parts : List ObjectPart}
  {resolved : ResolvedReplayCapsule}

/-- The objects of the trigger inputs hold the bytes of the parts that are named so. -/
theorem triggerInputs_of_carries {trigger : Trigger} {inputs : List ObjectPart}
    (carries : Carries capsule.objects held parts) (within : inputs ⊆ parts)
    (matched : MatchEach capsule.objects isTriggerInput trigger.inputs resolved.triggerInputs)
    (paired : List.Forall₂ (fun input part => part.role = .trigger ∧
      part.fixedId = some (TriggerInput.objectId input) ∧
        input.plainDigest = Digest.of (ObjectPart.bytes part)) trigger.inputs inputs) :
    List.Forall₂ (fun part object => held[LogicalObject.objectId object]? =
      some (ObjectPart.bytes part)) inputs resolved.triggerInputs := by
  apply carries.held_of_matchEach matched within
  refine paired.imp fun input part same object describes => ?_
  obtain ⟨role, fixed, digest⟩ := same
  simp only [isTriggerInput, Bool.and_eq_true, decide_eq_true_eq]
  exact ⟨⟨describes.fixed _ fixed, describes.role.trans role⟩, describes.digest.trans digest.symm⟩

/-- The objects of the artifacts hold the bytes that were given for them. -/
theorem worldArtifacts_of_carries {world : WorldCheckpoint} {artifacts : List (String × Bytes)}
    (carries : Carries capsule.objects held parts) (within : artifactParts artifacts ⊆ parts)
    (matched : MatchEach capsule.objects (fun entry => isWorldState entry.1)
      (worldArtifactEntries world) (resolved.worldArtifacts.map ResolvedWorldArtifact.object))
    (closed : List.Forall₂ (fun artifact entry => entry.1 = ArtifactReference.mediaType artifact ∧
      entry.2.length = artifact.size.toNat ∧ Digest.of entry.2 = artifact.digest)
        world.artifacts artifacts) :
    List.Forall₂ (fun bytes artifact =>
      held[(ResolvedWorldArtifact.object artifact).objectId]? = some bytes)
        (artifacts.map Prod.snd) resolved.worldArtifacts := by
  have bytes := carries.held_of_matchEach matched within (by
    rw [← map_fst_worldArtifactEntries, List.forall₂_map_left_iff] at closed
    rw [artifactParts, List.forall₂_map_right_iff]
    refine closed.imp fun entry artifact same object describes => ?_
    obtain ⟨mediaType, size, digest⟩ := same
    simp only [isWorldState, Bool.and_eq_true, decide_eq_true_eq]
    exact ⟨⟨⟨describes.role, describes.mediaType.trans mediaType⟩, describes.digest.trans digest⟩,
      UInt64.toNat_inj.mp (describes.size.trans size)⟩)
  rw [artifactParts, List.forall₂_map_left_iff, List.forall₂_map_right_iff] at bytes
  rwa [List.forall₂_map_left_iff]

/-- The body of a transcript is held by the object that its reference selects. -/
theorem body_of_carries {objectId : ObjectId} {bytes : Bytes} {reference : TranscriptReference}
    {found : LogicalObject} (carries : Carries capsule.objects held parts)
    (unique : UniqueMatch capsule.objects (isTranscriptObject reference) found)
    (listed : { role := .dependencyTranscript, mediaType := transcriptBodyMediaType, bytes,
                fixedId := some objectId } ∈ parts)
    (named : objectId = reference.objectId) (digest : Digest.of bytes = reference.digest) :
    held[found.objectId]? = some bytes := by
  refine carries.held_of_unique unique listed fun object describes => ?_
  simp only [isTranscriptObject, Bool.and_eq_true, decide_eq_true_eq]
  exact ⟨⟨(describes.fixed objectId rfl).trans named, describes.role⟩,
    describes.digest.trans digest⟩

/-- The interactions of the resolved transcript hold the exchanges. -/
theorem interactions_of_carries {earlier : List LogicalObject}
    {dependency : Option ResolvedDependencyTranscript} {derived : DerivedDependency}
    {exchanges : List ResolvedDependencyExchange}
    (carries : Carries capsule.objects held parts)
    (within : dependencyParts (some derived) ⊆ parts)
    (valid : derived.transcript.validate = .ok ())
    (recorded : List.Forall₂ RecordsExchange derived.transcript.interactions exchanges)
    (bodies : derived.bodies = (derived.transcript.interactions.zip exchanges).flatMap
      fun (interaction, exchange) => exchangeBodies interaction exchange)
    (right : DependencyResolved capsule (objectReader held) earlier dependency) :
    ∃ found, dependency = some found ∧ List.Forall₂ (fun exchange interaction =>
      held[(ResolvedInteraction.request interaction).objectId]? =
          some (ResolvedDependencyExchange.request exchange) ∧
        held[interaction.response.objectId]? = some exchange.response)
        exchanges found.interactions := by
  obtain ⟨first, later⟩ := List.cons_subset.mp within
  have selected : ∀ object, Describes held (documentPart .dependencyTranscript
      dependencyTranscriptMediaType derived.transcript none) object →
      isTranscriptManifest object = true := by
    intro object describes
    simp only [isTranscriptManifest, Bool.and_eq_true, decide_eq_true_eq]
    exact ⟨describes.role, describes.mediaType⟩
  cases dependency with
  | none =>
      obtain ⟨object, listed, describes⟩ := carries.objectOf _ first
      exact absurd (selected object describes) (List.filter_eq_nil_iff.mp right object listed)
  | some found =>
      obtain ⟨unique, reads, each⟩ := right
      have same := eq_of_held reads (DependencyTranscript.exact valid)
        (carries.held_of_unique unique first selected)
      rw [same] at each
      refine ⟨found, rfl, ?_⟩
      have listed : ∀ interaction exchange,
          (interaction, exchange) ∈ derived.transcript.interactions.zip exchanges →
            bodyParts (exchangeBodies interaction exchange) ⊆ parts := by
        intro interaction exchange paired part body
        obtain ⟨entry, among, rfl⟩ := List.mem_map.mp body
        apply later
        refine List.mem_map.mpr ⟨entry, ?_, rfl⟩
        rw [bodies]
        exact List.mem_flatMap.mpr ⟨_, paired, among⟩
      obtain ⟨length, holds⟩ := List.forall₂_iff_zip.mp recorded
      have flipped : List.Forall₂ (fun exchange interaction =>
          RecordsExchange interaction exchange ∧
            bodyParts (exchangeBodies interaction exchange) ⊆ parts)
          exchanges derived.transcript.interactions :=
        (List.forall₂_iff_zip.mpr
          ⟨length, fun paired => ⟨holds paired, listed _ _ paired⟩⟩).flip
      refine (pairing_trans flipped each).imp fun exchange resolved step => ?_
      obtain ⟨interaction, ⟨recorded, contained⟩, request, response⟩ := step
      exact ⟨body_of_carries carries request (contained List.mem_cons_self) rfl
          recorded.request.symm,
        body_of_carries carries response
          (contained (List.mem_cons_of_mem _ List.mem_cons_self)) rfl recorded.response.symm⟩

end

/-- A sealed private capsule resolves, from the objects it was sealed with, to the records,
the exchanges and the World that it was sealed from. -/
theorem sealPrivateCandidate_faithful {native : Option ProcessorArchitecture}
    {sources : PrivateClosureSources} {sealed : SealedPrivateCapsule}
    (ran : sealPrivateCandidate native sources = .ok sealed) :
    ∃ resolved,
      resolveReplayCapsule sealed.capsule (objectReader sealed.objects) = .ok resolved ∧
        FaithfulSeal sources sealed resolved := by
  simp only [sealPrivateCandidate, bind_eq_ok, rejectIf_eq_ok, not_not, pure_eq_ok] at ran
  obtain ⟨_, -, _, -, worldId, -, _, -, records, decoding, family, -, subjectClosure, -, trigger,
    triggering, dependency, transcribing, builder, assembling, candidateObject, describing,
    dependencyIdentity, -, closure, -, closed, closing, capsule, binding, _, -, resolved,
    resolving, capsuleDigest, -, rfl⟩ := ran
  have decoded := decoded_of_decodeCandidateRecords decoding
  obtain ⟨derived, operation⟩ := deriveTrigger_spec triggering
  obtain ⟨inputs, artifacts, named, entries, built⟩ := assembleObjectSet_built assembling
  obtain ⟨artifactsClosed, sameArtifacts⟩ := worldArtifactEntries_spec entries
  obtain ⟨cursors, exchanges⟩ := deriveDependencyTranscript_spec transcribing
  have shape := closedCapsule closing
  have right := resolveReplayCapsule_eq_ok.mp resolving
  simp only [bindInitialProcessorRequirement, bind_eq_ok] at binding
  obtain ⟨_, -, _, -, requirement, -, binding⟩ := binding
  have capabilities := capabilities_of_bind binding
  obtain ⟨bound, -, rfl⟩ := bindCapsuleProcessorRequirement_eq_ok.mp binding
  have same : closed.objects.Perm builder.descriptors := by
    have payload := shape.objects
    rwa [payloadObjects_of_built built (fun part listed => (role_of_mem_assembledParts named
      listed).1) (role_of_candidateDescriptor describing) rfl] at payload
  have carries := built.carries.perm same.symm
  have among := among_assembledParts sources records subjectClosure trigger dependency inputs
    artifacts
  have triggerDigest := shape.triggerDigest
  rw [Canonical.digest_of_exact trigger.exact] at triggerDigest
  have sameTrigger : resolved.trigger = trigger :=
    eq_of_held right.trigger.reads trigger.exact
      (carries.held_of_unique right.trigger.unique among.trigger fun object describes => by
        simp only [ReplayCapsule.isTriggerDescriptor, Bool.and_eq_true, decide_eq_true_eq]
        exact ⟨⟨describes.role, describes.mediaType⟩,
          describes.digest.trans (Except.ok.inj triggerDigest)⟩)
  have sameFailure : resolved.failure = records.failure :=
    eq_of_held right.failure.reads records.failure.exact
      (carries.held_of_unique right.failure.unique among.failure fun object describes => by
        simp only [isFailureObject, Bool.and_eq_true, decide_eq_true_eq]
        exact ⟨describes.role, describes.mediaType⟩)
  have sameWorld : resolved.world = sources.world :=
    eq_of_held right.world.reads (WorldCheckpoint.exact_of_validate shape.validate_world).1
      (carries.held_of_unique right.world.unique among.world fun object describes => by
        simp only [isWorldManifest, Bool.and_eq_true, decide_eq_true_eq]
        exact ⟨describes.role, describes.mediaType⟩)
  refine ⟨resolved, resolving, ?_⟩
  constructor
  case ids =>
    intro objectId
    exact (built.ids objectId).trans (same.map LogicalObject.objectId).mem_iff.symm
  case contents =>
    intro object listed
    obtain ⟨part, -, describes⟩ := carries.partOf object listed
    exact ⟨part.bytes, describes.bytes, describes.digest, describes.size⟩
  case inputs =>
    have digests : ∀ entry ∈ records.inputs, Digest.of entry.2 = entry.1.valueDigest := by
      intro entry listed
      obtain ⟨record, -, read⟩ := exists_source decoded.inputs listed
      exact read.2
    have matched := right.trigger.inputs
    rw [sameTrigger] at matched
    have values := triggerInputs_of_carries carries among.inputs matched
      (paired_inputs derived named digests decoded.numbered)
    refine (pairing_trans (pairing_trans decoded.inputs named) values).imp fun record object step => ?_
    obtain ⟨part, ⟨entry, ⟨carried, -⟩, input⟩, bytes⟩ := step
    rw [input.bytes] at bytes
    exact ⟨entry.2, carried, bytes⟩
  case cursors =>
    have each := decoded.cursors
    rwa [← cursors, List.forall₂_map_right_iff] at each
  case exchanges =>
    rcases exchanges with ⟨nothing, empty⟩ | ⟨transcript, rfl, valid, recorded, bodies⟩
    · rw [empty, interactionsOf]
      cases transcribed : resolved.dependency with
      | none => exact .nil
      | some found =>
          -- no part has the role of a transcript, so no object is one
          have dependency := right.dependency
          rw [transcribed] at dependency
          obtain ⟨member, selected⟩ := dependency.1.mem
          simp only [isTranscriptManifest, Bool.and_eq_true, decide_eq_true_eq] at selected
          obtain ⟨part, listed, describes⟩ := carries.partOf _ member
          exact absurd (describes.role.symm.trans selected.1)
            ((role_of_mem_assembledParts named listed).2 nothing)
    · obtain ⟨found, transcribed, each⟩ := interactions_of_carries carries among.dependency valid
        recorded bodies right.dependency
      rwa [interactionsOf, transcribed]
  case artifacts =>
    have matched := right.world.objects
    rw [sameWorld] at matched
    rw [← sameArtifacts]
    exact worldArtifacts_of_carries carries among.artifacts matched artifactsClosed
  case manifestOrder =>
    rw [right.world.entries, sameWorld]
  case world => exact sameWorld
  case failure =>
    rw [sameFailure]
    exact decoded.failures
  case operation =>
    refine ⟨records.begin', decoded.begins, ?_, ?_⟩
    · rw [sameTrigger]
      exact operation
    · rw [sameFailure]
      exact (operation_of_closeReplayCapsule closing).trans operation
  case architecture =>
    obtain ⟨suffix, only⟩ := capabilities .architecture List.mem_cons_self
    exact ⟨_, only⟩
  case requirement =>
    obtain ⟨suffix, only⟩ := capabilities .requirement
      (List.mem_cons_of_mem _ List.mem_cons_self)
    exact ⟨_, only⟩

omit [Primitives] in
theorem sealPrivateCandidate_faithful_sample :
    letI := PrivateSample.sized
    ∃ sealed, sealPrivateCandidate (some .x86_64) PrivateSample.sources = .ok sealed ∧
      ∃ resolved,
        resolveReplayCapsule sealed.capsule (objectReader sealed.objects) = .ok resolved ∧
          FaithfulSeal PrivateSample.sources sealed resolved := by
  let _ := PrivateSample.sized
  obtain ⟨sealed, ran⟩ := PrivateSample.exists_sealPrivateCandidate PrivateSample.apart_sized
  exact ⟨sealed, ran, sealPrivateCandidate_faithful ran⟩

end Reproit.Backend
