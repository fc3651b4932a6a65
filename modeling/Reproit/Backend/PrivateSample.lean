/-
# A private candidate that is sealed

What a builder holds after it has collected parts under distinct identifiers, and a small
private candidate whose sources are collected, closed, bound to a processor and resolved.
-/

import Reproit.Backend.PrivateSeal
import Reproit.Core.CandidateShape
import Reproit.Core.CaptureSize
import Reproit.Processor.AcceptanceSample
import Reproit.Processor.Rebinding
import Reproit.Replay.Closure
import Reproit.Staging.Binding

namespace Reproit.Backend

open ObjectSetBuilder

section Sealing

variable [Primitives]

/-! ## Collected parts -/

namespace ObjectSetBuilder

/-- The part of a document. -/
def documentPart {α : Type} [Document α] (role : LogicalObjectRole) (mediaType : String)
    (value : α) (fixedId : Option ObjectId) : ObjectPart where
  role := role
  mediaType := mediaType
  bytes := Canonical.text value
  fixedId := fixedId

/-- The identifier that is derived for an object. -/
def derivedId (candidate : Candidate) (tag : String) (digest : Digest) (ordinal : UInt32) :
    ObjectId where
  uuid := ⟨versioned ((Digest.of (objectPreimage candidate.captureId tag digest ordinal)).number /
    2 ^ 128), versioned_lt (Nat.div_lt_of_lt_mul (by
      rw [← pow_add]
      exact (Digest.of (objectPreimage candidate.captureId tag digest ordinal)).number.isLt))⟩
  version := version_versioned _

theorem deriveObjectId_eq (candidate : Candidate) (tag : String) (digest : Digest)
    (ordinal : UInt32) :
    deriveObjectId candidate tag digest ordinal = .ok (derivedId candidate tag digest ordinal) := by
  obtain ⟨id, derived, bytes⟩ := exists_deriveObjectId candidate tag digest ordinal
  rw [derived]
  apply congrArg
  apply TypedId.uuidBytes_injective
  rw [bytes, truncated, take_asBytes, setVersion_bigEndian, TypedId.uuidBytes_eq]
  rfl

/-- The object of a part under an identifier. -/
def describe (part : ObjectPart) (objectId : ObjectId) : LogicalObject where
  mediaType := part.mediaType
  objectId := objectId
  plainDigest := Digest.of part.bytes
  plainSize := UInt64.ofNat part.bytes.length
  role := part.role

/-- The builder that has collected some parts under their identifiers. -/
def holding (named : List (ObjectPart × ObjectId)) (ordinal : UInt32) : ObjectSetBuilder where
  descriptors := named.map fun (part, objectId) => describe part objectId
  objects := named.foldl (fun objects (part, objectId) => objects.insert objectId part.bytes) ∅
  ordinal := ordinal

/-- The last part is stored behind the others. -/
theorem objects_holding_concat (named : List (ObjectPart × ObjectId))
    (last : ObjectPart × ObjectId) (ordinal : UInt32) :
    (holding (named ++ [last]) ordinal).objects =
      (holding named ordinal).objects.insert last.2 last.1.bytes := by
  rw [holding, List.foldl_append]
  rfl

theorem mem_holding {named : List (ObjectPart × ObjectId)} {ordinal : UInt32}
    {objectId : ObjectId} :
    objectId ∈ (holding named ordinal).objects ↔ objectId ∈ named.map Prod.snd := by
  induction named using List.reverseRecOn with
  | nil => exact iff_of_false Std.ExtTreeMap.not_mem_empty List.not_mem_nil
  | append_singleton named last ih =>
      rw [objects_holding_concat, Std.ExtTreeMap.mem_insert, compare_eq_iff_eq, ih, List.map_append,
        List.mem_append, List.map_singleton, List.mem_singleton]
      exact or_comm.trans (or_congr_right eq_comm)

theorem push_holding {candidate : Candidate} {named : List (ObjectPart × ObjectId)}
    {part : ObjectPart} {objectId : ObjectId} {ordinal next : UInt32}
    (apart : ((named ++ [(part, objectId)]).map Prod.snd).Nodup)
    (short : part.bytes.length < 2 ^ 64)
    (names : (holding named ordinal).nextId candidate part = .ok (objectId, next)) :
    (holding named ordinal).push candidate part =
      .ok (holding (named ++ [(part, objectId)]) next) := by
  rw [List.map_append, List.map_singleton, List.nodup_append] at apart
  have new : objectId ∉ (holding named ordinal).objects := by
    rw [mem_holding]
    exact fun held => apart.2.2 _ held _ (List.mem_singleton_self _) rfl
  simp only [ObjectSetBuilder.push, names, ok_bind, bind_eq_ok, rejectIf_eq_ok, okOr_eq_ok,
    uint64OfNat_eq_some, pure_eq_ok]
  refine ⟨(), new, UInt64.ofNat part.bytes.length, Nat.mod_eq_of_lt short, ?_⟩
  simp [holding, describe]

theorem nextId_derived {candidate : Candidate} {named : List (ObjectPart × ObjectId)}
    {part : ObjectPart} {ordinal next : UInt32} (free : part.fixedId = none)
    (later : uint32OfNat (ordinal.toNat + 1) = some next) :
    (holding named ordinal).nextId candidate part =
      .ok (derivedId candidate (roleTag part.role) (Digest.of part.bytes) ordinal, next) := by
  rw [ObjectSetBuilder.nextId, free]
  show (deriveObjectId candidate (roleTag part.role) (Digest.of part.bytes) ordinal >>= _) = _
  rw [deriveObjectId_eq, ok_bind]
  show (okOr (uint32OfNat (ordinal.toNat + 1)) _ >>= _) = _
  rw [later]
  rfl

theorem getElem?_holding {named : List (ObjectPart × ObjectId)} {ordinal : UInt32}
    (apart : (named.map Prod.snd).Nodup) {entry : ObjectPart × ObjectId} (listed : entry ∈ named) :
    (holding named ordinal).objects[entry.2]? = some entry.1.bytes := by
  induction named using List.reverseRecOn with
  | nil => exact absurd listed List.not_mem_nil
  | append_singleton named last ih =>
      rw [List.map_append, List.map_singleton, List.nodup_append] at apart
      rw [objects_holding_concat, OrderedMap.getElem?_insert]
      rcases List.mem_append.mp listed with earlier | here
      · have other : entry.2 ≠ last.2 := apart.2.2 _ (List.mem_map_of_mem earlier) _
          (List.mem_singleton_self _)
        rw [if_neg (Ne.symm other), ih apart.1 earlier]
      · obtain rfl := List.mem_singleton.mp here
        rw [if_pos rfl]

end ObjectSetBuilder

namespace PrivateSample

/-! ## The sources -/

def subjectBinary : Bytes := [0]

def debugArtifact : Bytes := [0, 0]

def inputBytes : Bytes := [0]

def launch : SubjectLaunch where
  arguments := []
  environmentNames := []
  executable := singleFileExecutablePath
  workingDirectory := "/reproit/subject/work"

/-- The closure of the subject and its debug artifact. -/
def subjectClosure : SubjectClosureManifest where
  architecture := "architecture.x86-64"
  debugArtifacts := [{ artifactDigest := Digest.of debugArtifact, kind := .dwarf,
                       moduleDigest := Digest.of subjectBinary, path := singleFileDebugPath }]
  files := [
    { executable := true, objectDigest := Digest.of subjectBinary
      path := singleFileExecutablePath },
    { executable := false, objectDigest := Digest.of debugArtifact, path := singleFileDebugPath }]
  format := .v1
  launch := launch
  modules := [{ identity := (Digest.of subjectBinary).toText
                moduleDigest := Digest.of subjectBinary, path := singleFileExecutablePath }]
  objects := [
    { digest := Digest.of subjectBinary, kind := .application, mediaType := singleFileMediaType
      size := 1 },
    { digest := Digest.of debugArtifact, kind := .debugArtifact
      mediaType := singleFileDebugMediaType, size := 2 }]
  operatingSystem := "linux"
  runtimeFamily := .rust
  totalBytes := 3

def subject : Subject :=
  { Sample.subject with
    architecture := "architecture.x86-64"
    artifactDigest := Digest.of (Canonical.text subjectClosure)
    executable := singleFileExecutablePath }

def deployment : Deployment :=
  { Sample.deployment with
    runtimeCapabilities := Sample.captured ++ ["sdk.rust"]
    subject }

def input : OperationInputPayload where
  channel := .input
  contentType := "application/octet-stream"
  format := .v1
  inputIndex := 0
  value := encodeBase64Url inputBytes
  valueDigest := Digest.of inputBytes

def terminal : TerminalPayload where
  complete := true
  eventCount := 3
  format := .v1

def candidate : Candidate :=
  { Sample.candidate (Digest.of (Canonical.text Sample.single)) with
    deployment
    records := [Sample.record .begin' 0 Sample.beginPayload, Sample.record .input 1 input,
      Sample.record .failure 2 Sample.failure, Sample.record .terminal 3 terminal] }

def sources : PrivateClosureSources where
  candidate := candidate
  debugArtifact := debugArtifact
  dependencies := []
  evidence := { executorIdentity := ⟨0⟩, isolationIdentity := ⟨0⟩ }
  subjectBinary := subjectBinary
  support := Sample.support
  world := Sample.single
  worldArtifacts := [[]]

/-! ## The candidate -/

omit [Primitives] in
theorem texts :
    (validComponent "architecture.x86-64" ∧ validComponent "linux") ∧
      validAbsoluteSubjectPath singleFileExecutablePath ∧
      validAbsoluteSubjectPath singleFileDebugPath ∧
      (singleFileExecutablePath.isEmpty = false ∧
        singleFileExecutablePath.utf8ByteSize ≤ 4096) ∧
      (singleFileMediaType.utf8ByteSize ≤ 128 ∧ singleFileDebugMediaType.utf8ByteSize ≤ 128) := by
  decide

theorem validate_subject : subject.validate = .ok () := by
  obtain ⟨⟨native, linux⟩, -, -, executable, -⟩ := texts
  obtain ⟨-, mediaType, -, others, -⟩ := Sample.subject_texts
  simp only [validComponent, Bool.and_eq_true, decide_eq_true_eq] at native linux
  simp only [Subject.validate, validateCapabilities, requireStrictOrder, bind_eq_ok,
    rejectIf_eq_ok, not_not]
  simp [subject, Sample.subject, native, linux, mediaType, executable, others]

theorem validate_deployment : deployment.validate = .ok () := by
  have valid := Sample.validate_deployment
  simp only [Deployment.validate, bind_eq_ok, rejectIf_eq_ok, pure_eq_ok] at valid ⊢
  obtain ⟨_, texts, _, -, _, -, signed⟩ := valid
  exact ⟨(), texts, (), by rfl, (), validate_subject, signed⟩

theorem input_exact : Document.Exact input := by
  change OperationInputPayload.codec.exact input = true
  simp [OperationInputPayload.codec, InputChannel.codec, Format.codec, Digest.codec]

theorem length_text_input : (Canonical.text input).length ≤ 65536 := by
  rw [Canonical.length_text]
  change OperationInputPayload.codec.size input ≤ 65536
  simp only [OperationInputPayload.codec, Digest.codec, input, Codec.size_record, Codec.size_text,
    Fields.size_required, Fields.size_done, Digest.stringSize_toText]
  decide

omit [Primitives] in
theorem length_text_terminal : (Canonical.text terminal).length ≤ 65536 := by
  rw [Canonical.length_text]
  decide

theorem decode_input : decodeBase64UrlBytes input.value = .ok inputBytes :=
  decodeBase64UrlBytes_eq_ok.mpr rfl

omit [Primitives] in
/-- A record of the sample holds its document, whatever its number is. -/
theorem decode_record {α : Type} [Document α] {kind : EventKind} {sequence : UInt16} {value : α} :
    decodeBase64UrlBytes (Sample.record kind sequence value).payload =
      .ok (Canonical.text value) :=
  decodeBase64UrlBytes_eq_ok.mpr rfl

theorem valid_record {α : Type} [Document α] {kind : EventKind} {sequence : UInt16} {value : α}
    (exact : Document.Exact value) (short : (Canonical.text value).length ≤ 65536)
    (checked : candidate.validateRecord kind (Canonical.text value) = .ok ()) :
    ∃ bytes, canonicalPayload (Sample.record kind sequence value) = .ok bytes ∧
      candidate.validateRecord kind bytes = .ok () :=
  ⟨_, Sample.canonicalPayload_record exact short, checked⟩

omit [Primitives] in
/-- Documents that are read back. -/
theorem parsed {α : Type} [Document α] {value : α} (exact : Document.Exact value) :
    Canonical.parseStrict α (Canonical.text value) = .ok value :=
  Canonical.parseStrict_bytes (Canonical.bytes_of_exact exact)

theorem validate_candidate : candidate.validate = .ok () := by
  have shape := Candidate.validate_eq_ok.mp
    (Sample.validate_candidate (Digest.of (Canonical.text Sample.single)))
  have beginChecked : candidate.validateRecord .begin' (Canonical.text Sample.beginPayload) =
      .ok () := by
    rw [Candidate.validateRecord, parsed Sample.beginPayload.exact]
    rfl
  have inputChecked : candidate.validateRecord .input (Canonical.text input) = .ok () := by
    simp only [Candidate.validateRecord, bind_eq_ok, rejectIf_eq_ok, not_or, not_not]
    exact ⟨_, parsed input_exact, (), ⟨by simp [input], by simp [input]⟩, _, decode_input,
      by simp [inputBytes], rfl⟩
  have failureChecked : candidate.validateRecord .failure (Canonical.text Sample.failure) =
      .ok () := by
    simp only [Candidate.validateRecord, bind_eq_ok, rejectIf_eq_ok, not_not]
    exact ⟨_, parsed Sample.failure.exact, (), Sample.validate_identity, (), rfl, (), rfl, _,
      Canonical.digest_of_exact Sample.identity.exact, rfl⟩
  have terminalChecked : candidate.validateRecord .terminal (Canonical.text terminal) =
      .ok () := by
    rw [Candidate.validateRecord, parsed terminal.exact]
    rfl
  apply Candidate.validate_eq_ok.mpr
  constructor
  case deployment => exact validate_deployment
  case reference => exact shape.reference
  case mode => exact shape.mode
  case few => exact ⟨by simp [candidate], by simp [candidate]⟩
  case numbered =>
    intro index record there
    rcases index with _ | _ | _ | _ | index
    all_goals
      cases there
      try rfl
  case kinds => simp [candidate, Sample.record, Candidate.validRecordKinds]
  case records =>
    simp only [candidate, List.forall_mem_cons, List.not_mem_nil, false_implies, implies_true,
      and_true]
    exact ⟨valid_record Sample.beginPayload.exact Sample.length_text_begin beginChecked,
      valid_record input_exact length_text_input inputChecked,
      valid_record Sample.failure.exact Sample.length_text_failure failureChecked,
      valid_record terminal.exact length_text_terminal terminalChecked⟩
  case campaign => exact shape.campaign
  case discovery => exact shape.discovery

/-! ## What is derived from the records -/

def records : DecodedRecords where
  begin' := Sample.beginPayload
  cursors := []
  failure := Sample.failure
  inputs := [(input, inputBytes)]

theorem decodeCandidateRecords_candidate : decodeCandidateRecords candidate = .ok records := by
  have begins : decodeRecord .empty (Sample.record .begin' 0 Sample.beginPayload) =
      .ok { FoundRecords.empty with begin' := some Sample.beginPayload } := by
    rw [decodeRecord, decode_record, ok_bind]
    show (Canonical.parseStrict OperationBeginPayload _ >>= _) = _
    rw [parsed Sample.beginPayload.exact]
    rfl
  have carries : decodeRecord { FoundRecords.empty with begin' := some Sample.beginPayload }
      (Sample.record .input 1 input) =
        .ok { FoundRecords.empty with
          begin' := some Sample.beginPayload, inputs := [(input, inputBytes)] } := by
    rw [decodeRecord, decode_record, ok_bind]
    show (Canonical.parseStrict OperationInputPayload _ >>= _) = _
    rw [parsed input_exact, ok_bind, decode_input, ok_bind]
    rw [rejectIf_of_not]
    · rfl
    · simp [input, FoundRecords.empty]
  have fails : decodeRecord { FoundRecords.empty with
      begin' := some Sample.beginPayload, inputs := [(input, inputBytes)] }
      (Sample.record .failure 2 Sample.failure) =
        .ok { FoundRecords.empty with
          begin' := some Sample.beginPayload, inputs := [(input, inputBytes)]
          failure := some Sample.failure } := by
    rw [decodeRecord, decode_record, ok_bind]
    show (Canonical.parseStrict FailurePayload _ >>= _) = _
    rw [parsed Sample.failure.exact, ok_bind, Sample.validate_failure]
    rfl
  have ends (found : FoundRecords) : decodeRecord found (Sample.record .terminal 3 terminal) =
      .ok found := by
    rw [decodeRecord, decode_record, ok_bind]
    rfl
  have all : decodeRecords .empty candidate.records = .ok { FoundRecords.empty with
      begin' := some Sample.beginPayload, inputs := [(input, inputBytes)]
      failure := some Sample.failure } := by
    simp only [candidate, decodeRecords, begins, carries, fails, ends, ok_bind]
  rw [decodeCandidateRecords, all, ok_bind]
  simp only [bind_eq_ok, okOr_eq_ok, rejectIf_eq_ok, pure_eq_ok, not_not]
  exact ⟨_, rfl, _, rfl, (), rfl, _, Canonical.digest_of_exact Sample.identity.exact, (), rfl, (),
    Bool.false_ne_true, rfl⟩

theorem runtimeFamily_candidate : runtimeFamily candidate = .ok .rust := by
  have families : candidate.deployment.runtimeCapabilities.filterMap sdkFamily = [.rust] := by
    show (Sample.captured ++ ["sdk.rust"]).filterMap sdkFamily = [.rust]
    decide
  rw [runtimeFamily, families]

omit [Primitives] in
theorem size_toText (digest : Digest) :
    digest.toText ≠ "" ∧ digest.toText.utf8ByteSize ≤ 512 := by
  have quoted := Json.utf8ByteSize_add_two_le_stringSize digest.toText
  have length := length_textBytes_digest digest
  rw [Digest.stringSize_toText] at quoted
  refine ⟨fun empty => ?_, by omega⟩
  rw [empty] at length
  exact absurd length (by decide)

/-- The digests of the two files tell them apart, in the order of the closure. -/
theorem validate_subjectClosure (files : Digest.of subjectBinary < Digest.of debugArtifact) :
    subjectClosure.validate = .ok () := by
  obtain ⟨⟨native, linux⟩, executable, debug, -, binaryType, debugType⟩ := texts
  have apart : (Digest.of debugArtifact == Digest.of subjectBinary) = false :=
    beq_false_of_ne (ne_of_lt files).symm
  have paths : singleFileExecutablePath < singleFileDebugPath ∧
      (singleFileDebugPath == singleFileExecutablePath) = false ∧ singleFileMediaType ≠ "" ∧
        singleFileDebugMediaType ≠ "" := by decide
  have valid : launch.validate = .ok () := by decide
  have name := size_toText (Digest.of subjectBinary)
  simp only [SubjectClosureManifest.validate, SubjectClosureManifest.validateObjects,
    SubjectClosureManifest.validateFiles, SubjectClosureManifest.validateModules,
    SubjectClosureManifest.validateDebugArtifacts, bind_eq_ok, rejectIf_eq_ok, forEach_eq_ok,
    okOr_eq_ok, pure_eq_ok, not_not]
  refine ⟨(), valid, (), by simp [subjectClosure, native, linux, maxObjectBytes], _,
    ⟨(), by simp [subjectClosure, files], (), ?_, 3, rfl, (), rfl, rfl⟩, (),
    ⟨(), .cons_cons paths.1 (.singleton _), ?_⟩, _, ⟨(), .singleton _, (), ?_, rfl⟩, (),
    ⟨(), .singleton _, ?_⟩, ?_⟩
  · simp [subjectClosure, binaryType, debugType, paths, maxObjectBytes]
  · simp [subjectClosure, executable, debug, apart, List.lookup_cons]
  · simp [subjectClosure, executable, name, SubjectClosureManifest.fileDigests]
  · simp [subjectClosure, debug, apart, paths, List.lookup_cons, SubjectClosureManifest.fileDigests,
      SubjectClosureManifest.validArtifactKind]
  · simp [subjectClosure, launch]

theorem verifySingleFileSubject_candidate
    (files : Digest.of subjectBinary < Digest.of debugArtifact) :
    verifySingleFileSubject candidate.deployment.subject subjectBinary debugArtifact .rust =
      .ok subjectClosure := by
  have valid := validate_subjectClosure files
  have closed : singleFileSubjectClosure candidate.deployment.subject subjectBinary debugArtifact
      .rust = .ok subjectClosure := by
    have sorted : subjectClosure.objects.insertionSort (·.digest ≤ ·.digest) =
        subjectClosure.objects := by
      apply List.Pairwise.insertionSort_eq
      simp [subjectClosure, files.le]
    have written : { subjectClosure with
        objects := subjectClosure.objects.insertionSort (·.digest ≤ ·.digest) } =
          subjectClosure := by rw [sorted]
    simp only [singleFileSubjectClosure, bind_eq_ok, okOr_eq_ok, pure_eq_ok]
    exact ⟨1, rfl, 2, rfl, 3, rfl, (), (congrArg _ written).trans valid, written⟩
  simp only [verifySingleFileSubject, closed, ok_bind, bind_eq_ok, rejectIf_eq_ok, pure_eq_ok,
    not_not]
  exact ⟨_, Canonical.digest_of_exact (SubjectClosureManifest.exact valid), (), rfl, trivial⟩

/-! ## Identifiers -/

def inputId : ObjectId := derivedId candidate "trigger-input" (Digest.of inputBytes) 0

def trigger : Trigger :=
  { Sample.trigger with
    inputs := [{ channel := .input, objectId := inputId, plainDigest := Digest.of inputBytes
                 sequence := 0 }] }

theorem validate_trigger : trigger.validate = .ok () := rfl

theorem deriveTrigger_candidate : deriveTrigger candidate records = .ok trigger := by
  simp only [deriveTrigger, records, collect, deriveTriggerInput, bind_eq_ok, pure_eq_ok]
  exact ⟨_, ⟨_, ⟨_, deriveObjectId_eq _ _ _ _, rfl⟩, _, rfl, rfl⟩, (), validate_trigger, rfl⟩

/-! ## Collecting -/

/-- The parts with the identifiers that they are given, in the order of construction. -/
def namedParts : List (ObjectPart × ObjectId) :=
  [(documentPart .subject subjectClosureMediaType subjectClosure none,
      derivedId candidate "subject" (Digest.of (Canonical.text subjectClosure)) 0),
    ({ role := .subject, mediaType := singleFileMediaType, bytes := subjectBinary
       fixedId := none }, derivedId candidate "subject" (Digest.of subjectBinary) 1),
    ({ role := .subject, mediaType := singleFileDebugMediaType, bytes := debugArtifact
       fixedId := none }, derivedId candidate "subject" (Digest.of debugArtifact) 2),
    ({ role := .trigger, mediaType := "application/octet-stream", bytes := inputBytes
       fixedId := some inputId }, inputId),
    (documentPart .failure failureMediaType Sample.failure (some (Sample.id 1)), Sample.id 1),
    (documentPart .trigger triggerMediaType trigger none,
      derivedId candidate "trigger" (Digest.of (Canonical.text trigger)) 3),
    (documentPart .worldManifest worldManifestMediaType Sample.single none,
      derivedId candidate "world-manifest" (Digest.of (Canonical.text Sample.single)) 4),
    ({ role := .worldState, mediaType := "application/octet-stream", bytes := []
       fixedId := none }, derivedId candidate "world-state" (Digest.of []) 5)]

/-- The digests tell apart what the sample needs to be told apart. -/
structure Apart : Prop where
  empty : Digest.of [] = ⟨0⟩
  files : Digest.of subjectBinary < Digest.of debugArtifact
  ids : (namedParts.map Prod.snd).Nodup

theorem length_text_subjectClosure : (Canonical.text subjectClosure).length ≤ 65536 := by
  rw [Canonical.length_text]
  change SubjectClosureManifest.codec.size subjectClosure ≤ 65536
  have size : ∀ digest : Digest, Json.stringSize digest.toText = 73 := Digest.stringSize_toText
  simp only [SubjectClosureManifest.codec, DebugArtifactBinding.codec, SubjectFile.codec,
    SubjectModule.codec, SubjectClosureObject.codec, Digest.codec, subjectClosure,
    Codec.size_record, Codec.size_list, Codec.size_text, Codec.size_string, Fields.size_required,
    Fields.size_done, size, List.map_cons, List.map_nil]
  decide

theorem worldArtifactEntries_sources (apart : Apart) :
    sources.worldArtifactEntries = .ok [("application/octet-stream", [])] := by
  have closed : closeWorldArtifact (Sample.artifact "file:a", []) =
      .ok ("application/octet-stream", []) := by
    simp only [closeWorldArtifact, bind_eq_ok, okOr_eq_ok, rejectIf_eq_ok, pure_eq_ok, not_or,
      not_not]
    exact ⟨(), by decide, 0, rfl, (), ⟨rfl, apart.empty⟩, rfl⟩
  show (do rejectIf _ _; collect [(Sample.artifact "file:a", [])] closeWorldArtifact) = _
  simp only [collect, closed, ok_bind]
  rfl

/-- The first parts. -/
def held (count : Nat) (ordinal : UInt32) : ObjectSetBuilder :=
  holding (namedParts.take count) ordinal

theorem push_held (apart : Apart) {count : Nat} {part : ObjectPart} {objectId : ObjectId}
    {ordinal next : UInt32} (listed : namedParts[count]? = some (part, objectId))
    (short : part.bytes.length < 2 ^ 64)
    (names : (held count ordinal).nextId candidate part = .ok (objectId, next)) :
    (held count ordinal).push candidate part = .ok (held (count + 1) next) := by
  have first : namedParts.take (count + 1) = namedParts.take count ++ [(part, objectId)] := by
    rw [List.take_add_one, listed]
    rfl
  rw [held, held, first]
  apply push_holding _ short names
  rw [← first]
  exact apart.ids.sublist ((List.take_sublist _ _).map _)

theorem pushDocument_held {α : Type} [Document α] {value : α} (apart : Apart) {count : Nat}
    {role : LogicalObjectRole} {mediaType : String} {fixedId : Option ObjectId}
    {objectId : ObjectId} {ordinal next : UInt32} (exact : Document.Exact value)
    (listed : namedParts[count]? = some (documentPart role mediaType value fixedId, objectId))
    (short : (Canonical.text value).length < 2 ^ 64)
    (names : (held count ordinal).nextId candidate
      (documentPart role mediaType value fixedId) = .ok (objectId, next)) :
    (held count ordinal).pushDocument candidate role mediaType value fixedId =
      .ok (held (count + 1) next) := by
  rw [ObjectSetBuilder.pushDocument, Canonical.bytes_of_exact exact, ok_bind]
  exact push_held apart listed short names

theorem assembleObjectSet_candidate (apart : Apart) :
    assembleObjectSet sources records subjectClosure trigger none = .ok (held 8 6) := by
  have closure := validate_subjectClosure apart.files
  have closureShort := length_text_subjectClosure
  have failureShort := Sample.length_text_failure
  have triggerShort := Trigger.length_text_le validate_trigger
  obtain ⟨worldExact, worldShort⟩ := WorldCheckpoint.exact_of_validate Sample.validate_single
  rw [maxWorldManifestBytes] at worldShort
  have inputShort : inputBytes.length < 2 ^ 64 := by decide
  have files : (held 1 1).pushAll candidate
      [{ role := .subject, mediaType := singleFileMediaType, bytes := subjectBinary
         fixedId := none },
       { role := .subject, mediaType := singleFileDebugMediaType, bytes := debugArtifact
         fixedId := none }] = .ok (held 3 3) := by
    simp only [pushAll, bind_eq_ok]
    exact ⟨held 2 2, push_held apart rfl (by decide) (nextId_derived rfl rfl), held 3 3,
      push_held apart rfl (by decide) (nextId_derived rfl rfl), rfl⟩
  have inputs : (held 3 3).pushInputs candidate trigger records.inputs = .ok (held 4 3) := by
    simp only [pushInputs, records, bind_eq_ok, okOr_eq_ok]
    exact ⟨_, rfl, held 4 3, push_held apart rfl inputShort rfl, rfl⟩
  have states : (held 7 5).pushAll candidate
      (artifactParts [("application/octet-stream", [])]) = .ok (held 8 6) := by
    simp only [artifactParts, List.map_cons, List.map_nil, pushAll, bind_eq_ok]
    exact ⟨held 8 6, push_held apart rfl (by decide) (nextId_derived rfl rfl), rfl⟩
  have builds : ObjectSetBuilder.new = held 0 0 := rfl
  simp only [assembleObjectSet, bind_eq_ok, builds]
  exact ⟨_, worldArtifactEntries_sources apart, held 1 1,
    pushDocument_held apart (SubjectClosureManifest.exact closure) rfl (by omega)
      (nextId_derived rfl rfl), held 3 3, files, held 4 3, inputs, held 5 3,
    pushDocument_held apart Sample.failure.exact rfl (failureShort.trans_lt (by decide)) rfl,
    held 6 4,
    pushDocument_held apart trigger.exact rfl (by omega) (nextId_derived rfl rfl), held 7 5,
    pushDocument_held apart worldExact rfl (worldShort.trans_lt (by decide))
      (nextId_derived rfl rfl), held 8 6, states, rfl⟩

/-! ## Closing -/

def candidateObject : LogicalObject where
  mediaType := "application/vnd.reproit.candidate.v1+json"
  objectId := derivedId candidate "candidate" (Digest.of (Canonical.text candidate)) 0
  plainDigest := Digest.of (Canonical.text candidate)
  plainSize := UInt64.ofNat (Canonical.text candidate).length
  role := .candidate

theorem length_text_candidate : (Canonical.text candidate).length < 2 ^ 64 := by
  have first := StagingSample.size_record_le .begin' 0 _ Sample.length_text_begin
  have second := StagingSample.size_record_le .input 1 _ length_text_input
  have third := StagingSample.size_record_le .failure 2 _ Sample.length_text_failure
  have fourth := StagingSample.size_record_le .terminal 3 _ length_text_terminal
  have records : (Codec.list EventRecord.codec).size candidate.records ≤ 10000000 := by
    rw [Codec.size_list]
    simp only [candidate, List.map_cons, List.map_nil, List.sum_cons, List.sum_nil]
    omega
  have deployed : Deployment.codec.size candidate.deployment ≤ 5000000 := by
    have described := Subject.size_le validate_subject
    have organization := (Sample.id 0 : OrganizationId).size_le
    have project := (Sample.id 0 : ProjectId).size_le
    have service := (Sample.id 0 : ServiceId).size_le
    have time := Sample.time.size_le
    have valid : validateCapabilities deployment.runtimeCapabilities = .ok () := rfl
    have capabilities := size_capabilities_le valid
    have signature : Json.stringSize (encodeBase64Url (List.replicate 64 0)) ≤ 1000 := by decide
    have texts : (Format.codec "reproit.deployment.v1").size .v1 ≤ 100 ∧
        ProcessingMode.codec.size .managed ≤ 100 ∧
        (["format", "organization_id", "processing_mode", "project_id", "repository_id",
          "repository", "runtime_capabilities", "runtime_endpoint", "endpoint", "service_id",
          "service_path", "service", "signature", "signed_at", "signer_key_id", "key",
          "source_revision", "revision", "subject"].map Json.stringSize).sum ≤ 1000 := by decide
    simp only [List.map_cons, List.map_nil, List.sum_cons, List.sum_nil] at texts
    show Deployment.codec.size deployment ≤ 5000000
    simp only [Deployment.codec, Codec.size_record, Codec.size_string, Fields.size_required,
      Fields.size_done]
    simp only [deployment, Sample.deployment] at capabilities ⊢
    omega
  have reference : FailureReference.codec.size candidate.failure ≤ 1000 := Sample.size_reference _
  have whole := @StagingSample.size_candidate_le candidate rfl rfl
  rw [Canonical.length_text]
  change Candidate.codec.size candidate < _
  omega

theorem candidateDescriptor_candidate : candidateDescriptor candidate = .ok candidateObject := by
  have size : uint64OfNat (Canonical.text candidate).length =
      some (UInt64.ofNat (Canonical.text candidate).length) :=
    uint64OfNat_eq_some.mpr (UInt64.toNat_ofNat_of_lt' length_text_candidate)
  rw [candidateDescriptor, Canonical.bytes_of_exact candidate.exact, ok_bind,
    deriveObjectId_eq, ok_bind, size]
  rfl

/-- The objects in the order of construction. -/
def objects : List LogicalObject := namedParts.map fun (part, objectId) => describe part objectId

theorem dependencyIdentity_objects :
    dependencyIdentity (objects ++ [candidateObject]) = .ok none := by
  rfl

def binding : ClosureEvidenceBinding where
  boundaryId := "clock"
  evidenceIdentity := ⟨0⟩
  mechanism := .blocked
  observationClass := .clockRandomIdentity

def receipt : ClosureReceipt where
  boundaryId := "clock"
  evidenceDigest := Digest.of (Canonical.text binding)
  mechanism := .blocked
  observationClass := .clockRandomIdentity
  version := 1

def closure : WorldClosure where
  format := .v1
  policyDigest := Digest.of (Canonical.text Sample.policy)
  receipts := [receipt]

omit [Primitives] in
theorem binding_exact : Document.Exact binding := by
  change ClosureEvidenceBinding.codec.exact binding = true
  simp [ClosureEvidenceBinding.codec, Digest.codec, ClosureMechanism.codec, ObservationClass.codec]

theorem validate_closure : closure.validate = .ok () := by
  have plain := WorldClosure.validate_eq_ok.mp Sample.validate_closure
  apply WorldClosure.validate_eq_ok.mpr
  constructor
  case nonempty => exact List.cons_ne_nil _ _
  case few => exact plain.few
  case ordered => exact List.pairwise_singleton _ _
  case boundary =>
    exact List.forall_mem_singleton.mpr (show validBoundaryId "clock" by decide)
  case version =>
    exact List.forall_mem_singleton.mpr
      (show WorldClosure.VersionInRange 1 from ⟨by decide, by decide⟩)

theorem validateWorldClosure_closure :
    validateWorldClosure Sample.policy closure = .ok () := by
  simp only [validateWorldClosure, Sample.validate_policy, validate_closure,
    Canonical.digest_of_exact Sample.policy.exact, ok_bind, bind_eq_ok, rejectIf_eq_ok,
    forEach_eq_ok, not_or, not_not]
  refine ⟨(), ⟨rfl, rfl⟩, fun pair member => ?_⟩
  obtain rfl := List.mem_singleton.mp member
  exact ⟨rfl, rfl, List.mem_singleton_self _⟩

theorem closeRule_policy {evidence : ManagedClosureEvidence}
    (isolated : evidence.isolationIdentity = ⟨0⟩) :
    ∀ rule ∈ Sample.policy.rules, closeRule evidence rule = .ok receipt := by
  intro rule listed
  obtain rfl := List.mem_singleton.mp listed
  have selected : selectEvidence .clockRandomIdentity evidence [.blocked] =
      .ok (.blocked, binding.evidenceIdentity) := by
    rw [selectEvidence, evidenceFor, isolated]
    rfl
  rw [closeRule, selected, ok_bind]
  show (Canonical.digest binding >>= _) = _
  rw [Canonical.digest_of_exact binding_exact, ok_bind]
  rfl

theorem closeManagedWorld_policy {evidence : ManagedClosureEvidence}
    (isolated : evidence.isolationIdentity = ⟨0⟩) :
    closeManagedWorld Sample.policy evidence = .ok closure := by
  have receipts : collect Sample.policy.rules (closeRule evidence) = .ok [receipt] :=
    (collect_eq_ok _ _ _).mpr
      (.cons (closeRule_policy isolated _ (List.mem_singleton_self _)) .nil)
  rw [closeManagedWorld, Sample.validate_policy, ok_bind, receipts, ok_bind,
    Canonical.digest_of_exact Sample.policy.exact, ok_bind]
  show (validateWorldClosure Sample.policy closure >>= _) = _
  rw [validateWorldClosure_closure, ok_bind]
  rfl

def request : CandidateClosureRequest where
  candidate := candidate
  candidateObjects := objects ++ [candidateObject]
  closure := closure
  failure := Sample.failure
  support := Sample.support
  trigger := trigger
  world := Sample.single

theorem validateInputs_request : validateInputs request = .ok () := by
  simp only [validateInputs, bind_eq_ok, rejectIf_eq_ok, not_or, not_not]
  exact ⟨(), validate_candidate, (), Sample.validate_identity, (), validate_trigger, (),
    Sample.validate_single, (), validate_closure, (), Sample.validate_support, (),
    validateWorldClosure_closure, (), rfl, _, Canonical.digest_of_exact Sample.identity.exact, (),
    ⟨rfl, rfl, rfl⟩, _, WorldCheckpoint.worldId_of_validate Sample.validate_single, rfl⟩

theorem nodup_objects (apart : Apart) : (objects.map LogicalObject.objectId).Nodup := apart.ids

theorem payload_objects : ∀ object ∈ objects, Resolver.isPayloadRole object.role = true := by
  simp [objects, namedParts, describe, documentPart, Resolver.isPayloadRole]

theorem payloadObjects_request : payloadObjects request = objects := by
  show (objects ++ [candidateObject]).filter _ = objects
  rw [List.filter_append, List.filter_eq_self.mpr]
  · exact List.append_nil _
  · intro object listed
    exact decide_eq_true (Sample.ne_of_isPayloadRole (payload_objects object listed)).2.2.1

/-- The objects in the order of their identifiers. -/
@[irreducible]
def sorted : List LogicalObject := sortObjects objects

theorem sorted_eq : sorted = sortObjects objects := by
  delta sorted
  exact Eq.refl (sortObjects objects)

theorem perm_sorted : sorted.Perm objects := by
  rw [sorted_eq, sortObjects]
  exact List.perm_insertionSort _ _

theorem nodup_sorted (apart : Apart) : (sorted.map LogicalObject.objectId).Nodup := by
  rw [(perm_sorted.map LogicalObject.objectId).nodup_iff]
  exact nodup_objects apart

theorem replayObjects_request (apart : Apart) :
    replayObjects request.candidateObjects = .ok sorted := by
  have kept : request.candidateObjects.filter (fun object => object.role ≠ .candidate) = objects :=
    payloadObjects_request
  simp only [replayObjects, bind_eq_ok, rejectIf_eq_ok, not_or, not_not, kept, pure_eq_ok,
    ← sorted_eq]
  refine ⟨(), ⟨by simp [request, objects, namedParts], by simp [request, objects, namedParts]⟩, (),
    ⟨nodup_sorted apart, ?_⟩, trivial⟩
  rw [perm_sorted.length_eq]
  rfl

theorem ordered_sorted (apart : Apart) :
    (sorted.map LogicalObject.objectId).Pairwise (· < ·) := by
  have distinct := List.pairwise_map.mp (nodup_sorted apart)
  have ordered : sorted.Pairwise fun first second => first.objectId ≤ second.objectId := by
    rw [sorted_eq]
    exact List.pairwise_insertionSort _ _
  rw [List.pairwise_map]
  exact (ordered.and distinct).imp fun both => lt_of_le_of_ne both.1 both.2

/-- What selects one of the objects selects it among the sorted ones. -/
theorem countP_sorted {select : LogicalObject → Bool} (one : objects.countP select = 1) :
    sorted.countP select = 1 :=
  (perm_sorted.countP_eq _).trans one

/-- The capsule before it is bound to the processor. -/
def closedCapsule : ReplayCapsule where
  closureManifestDigest := Digest.of (Canonical.text closure)
  failureDigest := Digest.of (Canonical.text Sample.identity)
  format := .v1
  objects := sorted
  perturbationSuite := "reproit.controlled-perturbation.v1"
  processingMode := .managed
  profile := "backend"
  profileFormat := 1
  requiredCapabilities := "debugger.gdb-remote" :: (Sample.captured ++ ["sdk.rust"])
  subject := subject
  subjectDigest := Digest.of (Canonical.text subjectClosure)
  supportBundleDigest := Digest.of (Canonical.text Sample.bundle)
  triggerDigest := Digest.of (Canonical.text trigger)
  worldDigest := Digest.of (Canonical.text Sample.single)

theorem one_failure : objects.countP
    (isManifest .failure failureMediaType (Digest.of (Canonical.text Sample.failure))) = 1 := by
  simp [objects, namedParts, describe, documentPart, isManifest]

theorem one_subject : objects.countP
    (isManifest .subject subjectClosureMediaType (Digest.of (Canonical.text subjectClosure))) =
      1 := by
  have types : singleFileMediaType ≠ subjectClosureMediaType ∧
      singleFileDebugMediaType ≠ subjectClosureMediaType := by decide
  simp [objects, namedParts, describe, documentPart, isManifest, types]

theorem one_trigger : objects.countP
    (isManifest .trigger triggerMediaType (Digest.of (Canonical.text trigger))) = 1 := by
  have other : "application/octet-stream" ≠ triggerMediaType := by decide
  simp [objects, namedParts, describe, documentPart, isManifest, other]

theorem one_world : objects.countP
    (isManifest .worldManifest worldManifestMediaType
      (Digest.of (Canonical.text Sample.single))) = 1 := by
  simp [objects, namedParts, describe, documentPart, isManifest]

theorem union_capabilities :
    replayCapabilityUnion Sample.bundle deployment.runtimeCapabilities =
      .ok closedCapsule.requiredCapabilities := by
  rfl

theorem small_parts : ∀ entry ∈ namedParts,
    (entry.1.mediaType.isEmpty = false ∧ entry.1.mediaType.utf8ByteSize ≤ 128) ∧
      entry.1.bytes.length ≤ 270000 := by
  have texts : ∀ mediaType ∈ [subjectClosureMediaType, singleFileMediaType,
      singleFileDebugMediaType, "application/octet-stream", failureMediaType, triggerMediaType,
      worldManifestMediaType], mediaType.isEmpty = false ∧ mediaType.utf8ByteSize ≤ 128 := by
    decide
  have closure := length_text_subjectClosure
  have failure := Sample.length_text_failure
  have trigger := Trigger.length_text_le validate_trigger
  have world := (WorldCheckpoint.exact_of_validate Sample.validate_single).2
  rw [maxWorldManifestBytes] at world
  have files : subjectBinary.length ≤ 270000 ∧ debugArtifact.length ≤ 270000 ∧
      inputBytes.length ≤ 270000 := by decide
  simp only [List.forall_mem_cons, List.not_mem_nil, false_implies, implies_true,
    and_true] at texts
  obtain ⟨closureType, binaryType, debugType, octets, failureType, triggerType, worldType⟩ := texts
  simp only [namedParts, documentPart, List.forall_mem_cons, List.not_mem_nil, false_implies,
    implies_true, and_true]
  exact ⟨⟨closureType, by omega⟩, ⟨binaryType, files.1⟩, ⟨debugType, files.2.1⟩,
    ⟨octets, files.2.2⟩, ⟨failureType, by omega⟩, ⟨triggerType, trigger⟩, ⟨worldType, by omega⟩,
    octets, Nat.zero_le _⟩

theorem validate_object {object : LogicalObject} (listed : object ∈ objects) :
    object.validate = .ok () ∧ object.plainSize.toNat ≤ 270000 := by
  obtain ⟨entry, named, rfl⟩ := List.mem_map.mp listed
  obtain ⟨⟨filled, typed⟩, small⟩ := small_parts entry named
  have size : (UInt64.ofNat entry.1.bytes.length).toNat ≤ 270000 :=
    (Nat.mod_le _ _).trans small
  rw [LogicalObject.validate_eq_ok]
  exact ⟨⟨filled, typed, size.trans (by decide),
    (Sample.ne_of_isPayloadRole (payload_objects _ listed)).1⟩, size⟩

theorem valid_closedCapsule (apart : Apart) : closedCapsule.Valid := by
  constructor
  case nonempty =>
    show sorted ≠ []
    rw [← List.length_pos_iff, perm_sorted.length_eq]
    exact Nat.succ_pos 7
  case count =>
    show sorted.length ≤ 32767
    rw [perm_sorted.length_eq]
    exact (by decide : 8 ≤ 32767)
  case suite => rfl
  case profile =>
    exact (by decide : validLowerIdentity "backend" = true ∧ "backend".utf8ByteSize ≤ 128)
  case profileFormat =>
    exact (by decide : 1 ≤ (1 : UInt64).toNat ∧ (1 : UInt64).toNat ≤ maxExactInteger)
  case objects =>
    intro object listed
    have member := perm_sorted.mem_iff.mp listed
    exact ⟨(validate_object member).1, (Sample.ne_of_isPayloadRole (payload_objects _ member)).2⟩
  case shape =>
    have failure : objects.countP (fun object =>
        object.role = .failure && object.mediaType = failureMediaType) = 1 := by
      simp [objects, namedParts, describe, documentPart]
    have world : objects.countP (fun object =>
        object.role = .worldManifest && object.mediaType = worldManifestMediaType) = 1 := by
      simp [objects, namedParts, describe, documentPart]
    have transcript : objects.countP (fun object => object.role = .dependencyTranscript &&
        object.mediaType = dependencyTranscriptMediaType) = 0 := by
      simp [objects, namedParts, describe, documentPart]
    simp only [ReplayCapsule.validateClosureShape, rejectIf_eq_ok, not_or, not_not, not_lt]
    exact ⟨countP_sorted one_subject, countP_sorted one_trigger, countP_sorted failure,
      countP_sorted world, ((perm_sorted.countP_eq _).trans transcript).le.trans (Nat.zero_le 1)⟩
  case subject => exact validate_subject
  case artifactDigest => rfl
  case artifactMediaType => rfl
  case ordered => exact ordered_sorted apart
  case capabilities => rfl

theorem requirePayloadClosure_request (apart : Apart) :
    requirePayloadClosure sorted request = .ok () := by
  have present : ∀ objectId role digest, (∃ object ∈ objects, object.objectId = objectId ∧
      object.role = role ∧ object.plainDigest = digest) →
        requireObject sorted objectId role digest = .ok () := by
    intro objectId role digest ⟨object, listed, same⟩
    rw [requireObject, rejectIf_eq_ok, not_not]
    exact ⟨object, perm_sorted.mem_iff.mpr listed, same⟩
  have state : objects.countP (isArtifact (Sample.artifact "file:a")) = 1 := by
    simp [objects, namedParts, describe, documentPart, isArtifact, Sample.artifact, apart.empty]
  simp only [requirePayloadClosure, bind_eq_ok, forEach_eq_ok, rejectIf_eq_ok, not_not]
  refine ⟨_, Canonical.digest_of_exact Sample.failure.exact, (), present _ _ _ ?_, (), ?_, ?_⟩
  · exact ⟨describe (documentPart .failure failureMediaType Sample.failure
      (some (Sample.id 1))) (Sample.id 1), by simp [objects, namedParts], rfl, rfl, rfl⟩
  · intro held listed
    obtain rfl := List.mem_singleton.mp listed
    apply present
    exact ⟨describe { role := .trigger, mediaType := "application/octet-stream"
                      bytes := inputBytes, fixedId := some inputId } inputId,
      by simp [objects, namedParts], rfl, rfl, rfl⟩
  · intro artifact listed
    obtain rfl := List.mem_singleton.mp listed
    exact countP_sorted state

theorem closeReplayCapsule_request (apart : Apart) :
    closeReplayCapsule request = .ok closedCapsule := by
  have manifest : ∀ {role mediaType digest},
      objects.countP (isManifest role mediaType digest) = 1 →
        requireManifest sorted role mediaType digest = .ok () := by
    intro role mediaType digest one
    rw [requireManifest, rejectIf_eq_ok, not_not]
    exact countP_sorted one
  simp only [closeReplayCapsule, bind_eq_ok, pure_eq_ok]
  exact ⟨(), validateInputs_request, _, replayObjects_request apart, _,
    Canonical.digest_of_exact Sample.failure.exact, (), manifest one_failure, (),
    manifest one_subject, _, Canonical.digest_of_exact trigger.exact, (), manifest one_trigger, _,
    Canonical.digest_of_exact (WorldCheckpoint.exact_of_validate Sample.validate_single).1, (),
    manifest one_world, (), requirePayloadClosure_request apart, _,
    Canonical.digest_of_exact (WorldClosure.exact validate_closure), _,
    Canonical.digest_of_exact Sample.identity.exact, _, union_capabilities, _,
    Canonical.digest_of_exact Sample.exact_bundle, (),
    ReplayCapsule.validate_eq_ok.mpr (valid_closedCapsule apart), rfl⟩

/-! ## Binding -/

/-- The capabilities of the capsule that belong to no processor. -/
def ownCapabilities : List String := ["debugger.gdb-remote", "sdk.rust"]

def boundCapsule : ReplayCapsule :=
  { closedCapsule with requiredCapabilities := besideBound ownCapabilities Sample.requirement }

omit [Primitives] in
theorem grammatical_ownCapabilities : ∀ capability ∈ ownCapabilities, Grammatical capability := by
  unfold Grammatical
  decide

theorem valid_besideBound :
    ValidCapabilities (besideBound ownCapabilities Sample.requirement) := by
  have few : (besideBound ownCapabilities Sample.requirement).length ≤ 64 := by
    have bound : (boundCapabilities Sample.requirement).length ≤ 4 := length_sortDedup_le _
    refine (length_sortDedup_le _).trans ?_
    rw [List.length_append]
    exact (Nat.add_le_add_left bound 2).trans (by decide)
  refine ⟨few, pairwise_sortDedup _, fun capability listed => ?_⟩
  rcases mem_besideBound.mp listed with own | bound
  · exact grammatical_ownCapabilities capability own
  · exact grammatical_of_mem_boundCapabilities Sample.nameable_requirement
      (fun _ named => absurd named (Option.not_mem_none _)) bound

theorem valid_boundCapsule (apart : Apart) : boundCapsule.Valid :=
  (valid_closedCapsule apart).withCapabilities valid_besideBound

omit [Primitives] in
theorem observes_deployment :
    observationFromCapturedCapabilities .x86_64 (Sample.captured ++ ["sdk.rust"]) =
      .ok Sample.observation := by
  have beside : ∀ lead ∈ ["processor.feature.", "processor.os-state.", "processor.identity."],
      (Sample.captured ++ ["sdk.rust"]).filterMap (fun capability => stripStart capability lead) =
        Sample.captured.filterMap fun capability => stripStart capability lead := by
    decide
  simp only [List.forall_mem_cons] at beside
  obtain ⟨features, states, tokens, -⟩ := beside
  have observes := Sample.observes
  rw [observationFromCapturedCapabilities] at observes ⊢
  rw [features, states, tokens]
  exact observes

theorem bindInitialProcessorRequirement_closedCapsule :
    bindInitialProcessorRequirement (some .x86_64) closedCapsule candidate = .ok boundCapsule := by
  have own : processorless closedCapsule.requiredCapabilities = ownCapabilities := by
    show processorless ("debugger.gdb-remote" :: (Sample.captured ++ ["sdk.rust"])) = _
    decide
  have architecture : capturedProcessorArchitecture (some .x86_64) "architecture.x86-64" =
      .ok .x86_64 := rfl
  have bound : bindCapsuleProcessorRequirement closedCapsule Sample.requirement =
      .ok boundCapsule := by
    apply bindCapsuleProcessorRequirement_eq_ok.mpr
    refine ⟨besideBound ownCapabilities Sample.requirement, ?_, rfl⟩
    rw [processorCapabilities_eq_ok, own]
    exact ⟨ProcessorRequirement.validate_eq_ok.mp Sample.validate_requirement,
      Sample.nameable_requirement, valid_besideBound.length_le, rfl⟩
  rw [bindInitialProcessorRequirement]
  show (capturedProcessorArchitecture _ "architecture.x86-64" >>= _) = _
  rw [architecture, ok_bind]
  show (observationFromCapturedCapabilities _ (Sample.captured ++ ["sdk.rust"]) >>= _) = _
  rw [observes_deployment, ok_bind, Sample.initial, ok_bind, bound]

/-! ## Resolving -/

def reader : ManifestReader := objectReader (held 8 6).objects

/-- The only object of a selector is answered with its bytes. -/
theorem answers_of_one (apart : Apart) {select : LogicalObject → Bool}
    (one : objects.countP select = 1) {part : ObjectPart} {objectId : ObjectId}
    (named : (part, objectId) ∈ namedParts) (selected : select (describe part objectId) = true) :
    ∀ object ∈ payloadObjects request, select object = true →
      Answers reader object part.bytes := by
  intro object listed chosen
  rw [payloadObjects_request] at listed
  obtain ⟨found, unique⟩ := exists_uniqueMatch.mpr one
  have present : describe part objectId ∈ objects := List.mem_map_of_mem named
  obtain rfl : object = describe part objectId :=
    (unique.eq_of_select listed chosen).trans (unique.eq_of_select present selected).symm
  have small := (small_parts _ named).2
  refine ⟨fun earlier => ?_, ?_, rfl⟩
  · rw [reader, objectReader]
    have stored : (held 8 6).objects[objectId]? = some part.bytes :=
      @getElem?_holding _ namedParts 6 apart.ids (part, objectId) named
    show okOr (held 8 6).objects[objectId]? _ = _
    rw [stored]
    rfl
  · exact (UInt64.toNat_ofNat_of_lt' (small.trans_lt (by decide))).symm

theorem honestReader (apart : Apart) : HonestReader request reader subjectClosure none := by
  have failure : objects.countP isFailureObject = 1 := by
    simp [objects, namedParts, describe, documentPart, isFailureObject]
  have world : objects.countP isWorldManifest = 1 := by
    simp [objects, namedParts, describe, documentPart, isWorldManifest]
  constructor
  case subjectBytes =>
    exact answers_of_one apart one_subject (List.mem_cons_self) (by
      simp [describe, documentPart, isManifest])
  case triggerBytes =>
    exact @answers_of_one _ apart _ one_trigger
      (documentPart .trigger triggerMediaType trigger none)
      (derivedId candidate "trigger" (Digest.of (Canonical.text trigger)) 3) (by simp [namedParts])
      (by simp [describe, documentPart, isManifest])
  case failureBytes =>
    exact @answers_of_one _ apart _ failure
      (documentPart .failure failureMediaType Sample.failure (some (Sample.id 1))) (Sample.id 1)
      (by simp [namedParts]) (by simp [describe, documentPart, isFailureObject])
  case worldBytes =>
    exact @answers_of_one _ apart _ world
      (documentPart .worldManifest worldManifestMediaType Sample.single none)
      (derivedId candidate "world-manifest" (Digest.of (Canonical.text Sample.single)) 4)
      (by simp [namedParts]) (by simp [describe, documentPart, isWorldManifest])
  case transcriptBytes =>
    intro object listed selected
    rw [payloadObjects_request] at listed
    have absent : objects.countP isTranscriptManifest = 0 := by
      simp [objects, namedParts, describe, documentPart, isTranscriptManifest]
    exact absurd selected (List.countP_eq_zero.mp absent object listed)
  case transcriptObject => exact fun _ held => absurd held (Option.not_mem_none _)
  case manifestValid => exact validate_subjectClosure apart.files
  case binds => exact ⟨rfl, rfl, rfl, rfl, rfl, rfl⟩

/-- What selects the parts in the order of construction. -/
def selectors : List (LogicalObject → Bool) :=
  [isManifest .subject subjectClosureMediaType (Digest.of (Canonical.text subjectClosure)),
    isSubjectMember { digest := Digest.of subjectBinary, kind := .application
                      mediaType := singleFileMediaType, size := 1 },
    isSubjectMember { digest := Digest.of debugArtifact, kind := .debugArtifact
                      mediaType := singleFileDebugMediaType, size := 2 },
    isManifest .trigger triggerMediaType (Digest.of (Canonical.text trigger)),
    isTriggerInput { channel := .input, objectId := inputId, plainDigest := Digest.of inputBytes
                     sequence := 0 },
    isFailureObject, isWorldManifest, isWorldState (Sample.artifact "file:a")]

theorem requestReferences_request :
    requestReferences request subjectClosure none = selectors := rfl

theorem derivedId_trigger_ne (apart : Apart) :
    derivedId candidate "trigger" (Digest.of (Canonical.text trigger)) 3 ≠ inputId := by
  have distinct := apart.ids.sublist (show [inputId, derivedId candidate "trigger"
      (Digest.of (Canonical.text trigger)) 3].Sublist (namedParts.map Prod.snd) from
    .cons _ (.cons _ (.cons _ (.cons_cons _ (.cons _ (.cons_cons _ (List.nil_sublist _)))))))
  rw [List.nodup_cons, List.mem_singleton] at distinct
  exact fun same => distinct.1 same.symm

theorem exactCover (apart : Apart) :
    ExactCover (payloadObjects request) (requestReferences request subjectClosure none) := by
  have types : singleFileMediaType ≠ subjectClosureMediaType ∧
      singleFileDebugMediaType ≠ subjectClosureMediaType ∧
      subjectClosureMediaType ≠ singleFileMediaType ∧
      subjectClosureMediaType ≠ singleFileDebugMediaType ∧
      singleFileMediaType ≠ singleFileDebugMediaType ∧
      singleFileDebugMediaType ≠ singleFileMediaType ∧
      "application/octet-stream" ≠ triggerMediaType := by decide
  have other := derivedId_trigger_ne apart
  have sizes : UInt64.ofNat subjectBinary.length = 1 ∧ UInt64.ofNat debugArtifact.length = 2 := by
    decide
  rw [payloadObjects_request, requestReferences_request]
  constructor
  case selects =>
    simp only [selectors, List.forall_mem_cons, List.not_mem_nil, false_implies, implies_true,
      and_true]
    simp [objects, namedParts, describe, documentPart, isManifest, isSubjectMember, isTriggerInput,
      isFailureObject, isWorldManifest, isWorldState, Sample.artifact, types, other, sizes,
      apart.empty]
  case selected =>
    simp only [objects, namedParts, List.map_cons, List.map_nil, List.forall_mem_cons,
      List.not_mem_nil, false_implies, implies_true, and_true]
    simp [selectors, describe, documentPart, isManifest, isSubjectMember, isTriggerInput,
      isFailureObject, isWorldManifest, isWorldState, Sample.artifact, types, other, sizes,
      apart.empty]

theorem exists_resolves (apart : Apart) :
    ∃ resolved, resolveReplayCapsule boundCapsule reader = .ok resolved := by
  have closed := Reproit.closedCapsule (closeReplayCapsule_request apart)
  have bound : ClosedCapsule request boundCapsule :=
    { closed with valid := ReplayCapsule.validate_eq_ok.mpr (valid_boundCapsule apart) }
  have fit : ManifestsFit request := by
    intro object listed named
    rw [payloadObjects_request] at listed
    exact (validate_object listed).2.trans (by decide)
  obtain ⟨resolved, right⟩ := bound.exists_resolves (honestReader apart) fit (exactCover apart)
  exact ⟨resolved, resolveReplayCapsule_eq_ok.mpr right⟩

/-- The sample is sealed. -/
theorem exists_sealPrivateCandidate (apart : Apart) :
    ∃ sealed, sealPrivateCandidate (some .x86_64) sources = .ok sealed := by
  obtain ⟨resolved, resolves⟩ := exists_resolves apart
  have worldId := WorldCheckpoint.worldId_of_validate Sample.validate_single
  simp only [sealPrivateCandidate, bind_eq_ok, rejectIf_eq_ok, not_not, pure_eq_ok]
  exact ⟨_, (), validate_candidate, (), Sample.validate_support, _, worldId, (), rfl, _,
    decodeCandidateRecords_candidate, _, runtimeFamily_candidate, _,
    verifySingleFileSubject_candidate apart.files, _, deriveTrigger_candidate, _, rfl, _,
    assembleObjectSet_candidate apart, _, candidateDescriptor_candidate, _,
    dependencyIdentity_objects, _, closeManagedWorld_policy rfl, _,
    closeReplayCapsule_request apart, _, bindInitialProcessorRequirement_closedCapsule, (),
    ReplayCapsule.validate_eq_ok.mpr (valid_boundCapsule apart), _, resolves, _,
    Canonical.digest_of_exact (ReplayCapsule.exact (valid_boundCapsule apart)), rfl⟩

end PrivateSample

end Sealing

namespace PrivateSample

/-! ## The digests of the sample -/

/-- A digest of the length and the last byte. -/
def measure (bytes : Bytes) : Nat := bytes.length % 2 ^ 32 * 256 + (bytes.getLast?.getD 0).toNat

theorem measure_lt (bytes : Bytes) : measure bytes < 2 ^ 40 := by
  have length := Nat.mod_lt bytes.length (show 2 ^ 32 > 0 by decide)
  have last := (bytes.getLast?.getD 0).toNat_lt
  rw [measure]
  omega

/-- The functions of the sample. -/
@[reducible] def sized : Primitives :=
  { Sample.primitives with
    sha256 := fun bytes => ⟨measure bytes * 2 ^ 128,
      (Nat.mul_lt_mul_of_pos_right (measure_lt bytes) (by decide)).trans (by decide)⟩ }

theorem measure_objectPreimage {captureId : CaptureId} {tag : String} {digest : Digest}
    {ordinal : UInt32} {last : UInt8} (ends : (bigEndian 4 ordinal.toNat).getLast? = some last) :
    measure (objectPreimage captureId tag digest ordinal) =
      (126 + (Json.textBytes tag.toList).length) % 2 ^ 32 * 256 + last.toNat := by
  have lead : (Json.textBytes "reproit.private-closure-object.v1\x00".toList).length = 34 := by
    decide
  have length : (objectPreimage captureId tag digest ordinal).length =
      126 + (Json.textBytes tag.toList).length := by
    simp only [objectPreimage, List.length_append, List.length_cons, lead, TypedId.uuidBytes_eq,
      length_bigEndian, length_textBytes_digest]
    omega
  have final : (objectPreimage captureId tag digest ordinal).getLast? = some last := by
    simp only [objectPreimage, ← List.append_assoc, ← List.cons_append]
    rw [List.getLast?_append, ends]
    rfl
  rw [measure, length, final]
  rfl

/-- The number of an identifier of the sample. -/
def numberOf (entry : String × UInt32) : Nat :=
  versioned ((126 + (Json.textBytes entry.1.toList).length) % 2 ^ 32 * 256 +
    (UInt8.ofNat entry.2.toNat).toNat)

theorem uuid_derivedId {candidate : Candidate} {tag : String} {digest : Digest} {ordinal : UInt32}
    (ends : (bigEndian 4 ordinal.toNat).getLast? = some (UInt8.ofNat ordinal.toNat)) :
    letI := sized
    (derivedId candidate tag digest ordinal).uuid.val = numberOf (tag, ordinal) := by
  let _ := sized
  show versioned (measure _ * 2 ^ 128 / 2 ^ 128) = _
  rw [Nat.mul_div_cancel _ (by decide), measure_objectPreimage ends]
  rfl

theorem apart_sized : @Apart sized := by
  let _ := sized
  constructor
  case empty => rfl
  case files =>
    show (⟨measure subjectBinary * 2 ^ 128, _⟩ : Fin (2 ^ 256)) <
      ⟨measure debugArtifact * 2 ^ 128, _⟩
    decide
  case ids =>
    apply List.Nodup.of_map fun objectId : ObjectId => objectId.uuid.val
    have named : ∀ entry ∈ [("subject", 0), ("subject", 1), ("subject", 2), ("trigger-input", 0),
        ("trigger", 3), ("world-manifest", 4), ("world-state", 5)], ∀ digest : Digest,
          (derivedId candidate entry.1 digest entry.2).uuid.val = numberOf entry := by
      simp only [List.forall_mem_cons, List.not_mem_nil, false_implies, implies_true, and_true]
      exact ⟨fun _ => uuid_derivedId rfl, fun _ => uuid_derivedId rfl, fun _ => uuid_derivedId rfl,
        fun _ => uuid_derivedId rfl, fun _ => uuid_derivedId rfl, fun _ => uuid_derivedId rfl,
        fun _ => uuid_derivedId rfl⟩
    simp only [List.forall_mem_cons] at named
    obtain ⟨closure, binary, debug, input, trigger, world, state, -⟩ := named
    simp only [namedParts, List.map_cons, List.map_nil, inputId, closure, binary, debug, input,
      trigger, world, state]
    show [_, _, _, _, 7 * 2 ^ 76 + 1, _, _, _].Nodup
    decide

end PrivateSample

end Reproit.Backend
