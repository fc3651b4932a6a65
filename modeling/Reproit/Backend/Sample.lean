/-
# An honest capture of any World

A small program failed once: its candidate, its failure, its trigger, its subject and
its closed boundary are fixed, and its World is any World.  The documents name each
other by their digests, whatever digests are, so that every check of a capture can be
passed for every World that deserves it.
-/

import Reproit.Backend.Closure
import Reproit.Core.WorldArtifacts

namespace Reproit.Backend.Sample

/-! ## Identifiers -/

/-- The identifier of an index. -/
def id {kind : IdKind} (index : Nat) : TypedId kind where
  uuid := ⟨7 * 2 ^ 76 + index % 2 ^ 64, by omega⟩
  version := by
    simp only [Uuid.version]
    omega

theorem id_lt_id {kind : IdKind} {first second : Nat} (below : first < second)
    (small : second < 2 ^ 64) : (id first : TypedId kind) < id second := by
  change (id first : TypedId kind).uuid.val < (id second : TypedId kind).uuid.val
  simp only [id]
  omega

theorem id_injective {kind : IdKind} {first second : Nat} (hfirst : first < 2 ^ 64)
    (hsecond : second < 2 ^ 64) (same : (id first : TypedId kind) = id second) :
    first = second := by
  rcases Nat.lt_trichotomy first second with below | equal | above
  · exact absurd same (ne_of_lt (id_lt_id below hsecond))
  · exact equal
  · exact absurd same.symm (ne_of_lt (id_lt_id above hfirst))

def time : Timestamp := ⟨"2025-01-01T00:00:00.000Z", by decide⟩

variable [Primitives]

/-! ## The closed boundary and the release -/

def policy : ClosurePolicy where
  format := .v1
  rules := [{ allowedMechanisms := [.blocked], boundaryId := "clock",
              observationClass := .clockRandomIdentity }]

def closure : WorldClosure where
  format := .v1
  policyDigest := Digest.of (Canonical.text policy)
  receipts := [{ boundaryId := "clock", evidenceDigest := ⟨0⟩, mechanism := .blocked,
                 observationClass := .clockRandomIdentity, version := 1 }]

def debugger : DebuggerContract where
  artifactDigest := ⟨0⟩
  artifactName := "gdbserver"
  debuggerId := "gdbserver"
  format := .v1
  launchArguments := ["--once"]
  protocol := .gdbRemoteSerial
  readinessRule := .gdbServerListening
  sourceMappings := [{ developerRoot := "/source", replayRoot := "/replay" }]
  supportedArchitectures := [.arm64]
  version := "1"

def component (componentKind : ComponentKind) (componentId : String) : ComponentIdentity where
  identityDigest := ⟨0⟩
  capabilities := []
  componentId := componentId
  componentKind := componentKind
  conformanceDigest := ⟨0⟩
  protocolMax := 1
  protocolMin := 1
  version := "1"

def bundle : SupportBundle where
  closurePolicyDigest := Digest.of (Canonical.text policy)
  components :=
    [component .architecture "arm64", component .boundaryAdapter "rust-request-response",
      component .core "core",
      { component .debugger "gdbserver" with
        identityDigest := Digest.of (Canonical.text debugger)
        capabilities := ["debugger.gdb-remote"] },
      component .dependencyAdapter "http", component .executor "executor",
      component .operatingSystem "linux", component .profile "backend", component .sdk "rust",
      component .stateProvider "file", component .subjectRuntime "rust-native"]
  format := .v1

def support : BackendSupportPackage where
  bundle := bundle
  closurePolicy := policy
  debugger := debugger

omit [Primitives] in
theorem validate_policy : policy.validate = .ok () := rfl

theorem validate_closure : closure.validate = .ok () := rfl

theorem validateWorldClosure_sample : validateWorldClosure policy closure = .ok () := by
  simp only [validateWorldClosure, validate_policy, validate_closure,
    Canonical.digest_of_exact policy.exact, ok_bind, bind_eq_ok, rejectIf_eq_ok, forEach_eq_ok,
    not_or, not_not]
  refine ⟨(), ⟨rfl, rfl⟩, fun pair member => ?_⟩
  obtain rfl := List.mem_singleton.mp member
  exact ⟨rfl, rfl, List.mem_singleton_self _⟩

theorem digest_closure : Canonical.digest closure = .ok (Digest.of (Canonical.text closure)) :=
  Canonical.digest_of_exact (WorldClosure.exact validate_closure)

theorem exact_bundle : Document.Exact bundle := by
  have protocols : ∀ component ∈ bundle.components,
      component.protocolMax = 1 ∧ component.protocolMin = 1 := by
    simp [bundle, component]
  refine SupportBundle.exact fun component member => ?_
  rw [(protocols component member).1, (protocols component member).2]
  exact ⟨by decide, by decide⟩

omit [Primitives] in
theorem validate_component {componentKind : ComponentKind} {componentId : String}
    {identityDigest : Digest} {capabilities : List String}
    (named : validLowerIdentity componentId = true)
    (capable : validateCapabilities capabilities = .ok ()) :
    ({ component componentKind componentId with identityDigest, capabilities } :
      ComponentIdentity).validate = .ok () := by
  have nonempty : componentId.isEmpty = false := by
    rw [Bool.eq_false_iff, Ne, String.isEmpty_iff]
    rintro rfl
    exact absurd named (by decide)
  simp only [ComponentIdentity.validate, bind_eq_ok, rejectIf_eq_ok, capable]
  simp [component, named, nonempty]

theorem validate_bundle : bundle.validate = .ok () := by
  simp only [SupportBundle.validate, bind_eq_ok, rejectIf_eq_ok, forEach_eq_ok, not_not]
  refine ⟨(), by simp [bundle], (), ?_, ?_⟩
  · simp only [bundle, List.forall_mem_cons, List.not_mem_nil, false_implies, implies_true,
      and_true]
    exact ⟨rfl, rfl, rfl, validate_component (by decide) rfl, rfl, rfl, rfl, rfl, rfl, rfl, rfl⟩
  · simp [bundle, component, ComponentIdentity.precedes, ComponentKind.all]

theorem validate_support : validateBackendSupportPackage support = .ok () := by
  have contract : debugger.validate = .ok () := rfl
  have single : ∀ kind ∈ singleKinds, (componentsOf bundle kind).length = 1 := by
    simp [singleKinds, componentsOf, bundle, component]
  simp only [validateBackendSupportPackage, validateBackendSupportBundle, mapError_eq_ok,
    validateBackendSupportBundleInner, bind_eq_ok, rejectIf_eq_ok, okOr_eq_ok, not_or, not_not,
    not_exists, not_and]
  exact ⟨(), validate_policy, _, Canonical.digest_of_exact policy.exact, (), rfl, (),
    validate_bundle, (), contract, (), single, (), by simp [support, componentsOf, bundle, component], _, rfl, (),
    ⟨rfl, rfl⟩, _, Canonical.digest_of_exact debugger.exact, (), ⟨rfl, rfl⟩, _, rfl, _, rfl, (),
    List.mem_singleton_self _, rfl⟩

/-! ## The failure, the trigger and the subject -/

/-- The digest of every stored content but a document: the contents are empty. -/
def emptyDigest : Digest := Digest.of []

def identity : FailureIdentity :=
  .contract {
    category := .explicit
    contractId := "total"
    contractVersion := "1"
    expectedDigest := ⟨0⟩
    observedDigest := ⟨0⟩
    operationKind := .requestResponse
    operationName := "run"
    runtimeFamily := "rust"
    schema := "reproit.failure.v1" }

def reference : FailureReference where
  category := .explicit
  identity := Digest.of (Canonical.text identity)
  matcher := .contractDigestV1
  objectId := id 1
  schema := "reproit.failure.v1"

def failure : FailurePayload where
  failure := reference
  format := .v1
  identity := identity

def trigger : Trigger where
  adapterId := "http"
  adapterVersion := "1"
  causalParentIds := []
  completion := .return'
  format := .v1
  inputs := [{ channel := .input, objectId := id 5, plainDigest := emptyDigest, sequence := 0 }]
  operationId := id 0
  operationKind := .requestResponse
  operationName := "run"

def program : String := "/reproit/subject/app"

def launch : SubjectLaunch where
  arguments := []
  environmentNames := []
  executable := program
  workingDirectory := "/reproit/subject/work"

def subjectManifest : SubjectClosureManifest where
  architecture := "arm64"
  debugArtifacts := [{ artifactDigest := emptyDigest, kind := .interpretedSourceIdentity,
                       moduleDigest := emptyDigest, path := program }]
  files := [{ executable := true, objectDigest := emptyDigest, path := program }]
  format := .v1
  launch := launch
  modules := [{ identity := "app", moduleDigest := emptyDigest, path := program }]
  objects := [{ digest := emptyDigest, kind := .application,
                mediaType := "application/octet-stream", size := 0 }]
  operatingSystem := "linux"
  runtimeFamily := .rust
  totalBytes := 0

def subject : Subject where
  architecture := "arm64"
  arguments := []
  artifactDigest := Digest.of (Canonical.text subjectManifest)
  artifactMediaType := subjectClosureMediaType
  artifactUri := "reproit:subject"
  environmentNames := []
  executable := program
  format := .v1
  operatingSystem := "linux"
  workingDirectory := "/reproit/subject/work"

omit [Primitives] in
theorem validate_identity : identity.validate = .ok () := rfl

theorem validate_failure : failure.validate = .ok () := by
  simp only [FailurePayload.validate, bind_eq_ok, rejectIf_eq_ok, not_not]
  exact ⟨(), rfl, (), validate_identity, _, Canonical.digest_of_exact identity.exact, rfl⟩

theorem validate_trigger : trigger.validate = .ok () := rfl

omit [Primitives] in
/-- The texts of the subject have the shapes that the validators ask for. -/
theorem subject_texts :
    (validComponent "arm64" ∧ validComponent "linux" ∧ validAbsoluteSubjectPath program) ∧
      (subjectClosureMediaType.isEmpty = false ∧ subjectClosureMediaType.utf8ByteSize ≤ 128) ∧
      (program.isEmpty = false ∧ program.utf8ByteSize ≤ 4096) ∧
      ("/reproit/subject/work".utf8ByteSize ≤ 4096 ∧ "reproit:subject".utf8ByteSize ≤ 2048) ∧
      ("app".utf8ByteSize ≤ 512 ∧ "application/octet-stream".utf8ByteSize ≤ 128) := by
  decide

theorem validate_subject : subject.validate = .ok () := by
  obtain ⟨⟨arm64, linux, -⟩, mediaType, executable, texts, -⟩ := subject_texts
  simp only [validComponent, Bool.and_eq_true, decide_eq_true_eq] at arm64 linux
  simp only [Subject.validate, validateCapabilities, requireStrictOrder, bind_eq_ok,
    rejectIf_eq_ok, not_not]
  simp [subject, arm64, linux, mediaType, executable, texts]

omit [Primitives] in
theorem validate_launch : launch.validate = .ok () := by
  decide

theorem validate_subjectManifest : subjectManifest.validate = .ok () := by
  obtain ⟨⟨arm64, linux, path⟩, -, -, -, name, mediaType⟩ := subject_texts
  simp only [SubjectClosureManifest.validate, SubjectClosureManifest.validateObjects,
    SubjectClosureManifest.validateFiles, SubjectClosureManifest.validateModules,
    SubjectClosureManifest.validateDebugArtifacts, bind_eq_ok, rejectIf_eq_ok, forEach_eq_ok,
    okOr_eq_ok, pure_eq_ok, not_not]
  refine ⟨(), validate_launch, (), by simp [subjectManifest, arm64, linux], _,
    ⟨(), .singleton _, (), by simp [subjectManifest, mediaType], 0, by rfl, (), rfl, rfl⟩, (),
    ⟨(), .singleton _, by simp [subjectManifest, path]⟩, _,
    ⟨(), .singleton _, (), ?_, rfl⟩, (), ⟨(), .singleton _, ?_⟩, ?_⟩
  · simp [subjectManifest, SubjectClosureManifest.fileDigests, path, name]
  · simp [subjectManifest, SubjectClosureManifest.fileDigests, path,
      SubjectClosureManifest.validArtifactKind]
  · simp [subjectManifest, launch]

theorem exact_subjectManifest : Document.Exact subjectManifest :=
  SubjectClosureManifest.exact validate_subjectManifest

/-! ## The candidate -/

def deployment : Deployment where
  format := .v1
  organizationId := id 0
  processingMode := .managed
  projectId := id 0
  repositoryId := "repository"
  runtimeCapabilities := []
  runtimeEndpoint := "endpoint"
  serviceId := id 0
  servicePath := "service"
  signature := encodeBase64Url (List.replicate 64 0)
  signedAt := time
  signerKeyId := "key"
  sourceRevision := "revision"
  subject := subject

def beginPayload : OperationBeginPayload where
  adapterId := "http"
  adapterVersion := "1"
  campaignContext := none
  causalParentIds := []
  format := .v1
  operationKind := .requestResponse
  operationName := "run"

def terminalPayload : TerminalPayload where
  complete := true
  eventCount := 2
  format := .v1

/-- The record of a document. -/
def record {α : Type} [Document α] (kind : EventKind) (sequence : UInt16) (value : α) :
    EventRecord where
  kind := kind
  payload := encodeBase64Url (Canonical.text value)
  sequence := sequence

def candidate (worldId : Digest) : Candidate where
  campaignContext := none
  captureId := id 0
  deployment := deployment
  discoverySource := none
  failure := reference
  format := .v1
  operationId := id 0
  processingMode := .managed
  records := [record .begin' 0 beginPayload, record .failure 1 failure,
    record .terminal 2 terminalPayload]
  worldId := worldId

omit [Primitives] in
/-- The record of a short document holds the document. -/
theorem canonicalPayload_record {α : Type} [Document α] {kind : EventKind} {sequence : UInt16}
    {value : α} (exact : Document.Exact value) (short : (Canonical.text value).length ≤ 65536) :
    canonicalPayload (record kind sequence value) = .ok (Canonical.text value) := by
  have strict : Canonical.parseStrictValue (Canonical.text value) = .ok (Document.encode value) := by
    rw [Canonical.text, Canonical.parseStrictValue_textBytes, if_pos exact]
  have written : Canonical.valueBytes (Document.encode value) = .ok (Canonical.text value) :=
    Canonical.bytes_of_exact exact
  simp only [canonicalPayload, record, utf8ByteSize_encodeBase64Url, bind_eq_ok, rejectIf_eq_ok,
    decodeBase64UrlBytes_eq_ok, not_not, not_lt, pure_eq_ok]
  exact ⟨(), by omega, _, rfl, (), short, _, strict, _, written, (), rfl, rfl⟩

theorem validate_deployment : deployment.validate = .ok () := by
  have path : ['.', '.'] ∉ ['s', 'e', 'r', 'v', 'i', 'c', 'e'].splitOn '/' := by decide
  have texts : "repository".isEmpty = false ∧ "repository".utf8ByteSize ≤ 256 ∧
      "endpoint".isEmpty = false ∧ "endpoint".utf8ByteSize ≤ 2048 ∧ "key".isEmpty = false ∧
      "key".utf8ByteSize ≤ 256 ∧ "revision".isEmpty = false ∧
      "revision".utf8ByteSize ≤ 256 := by decide
  simp only [Deployment.validate, bind_eq_ok, rejectIf_eq_ok, pure_eq_ok]
  exact ⟨(), by simp [deployment, path, texts], (), rfl, (), validate_subject,
    ⟨(List.replicate 64 0).toArray, by simp⟩,
    decodeBase64Url_eq_ok.mpr (by simp [deployment]), trivial⟩

omit [Primitives] in
/-- Whatever the digests are, the identity is short. -/
theorem size_contract (expected observed : Digest) :
    FailureIdentity.codec.size (.contract { category := .explicit
                                            contractId := "total"
                                            contractVersion := "1"
                                            expectedDigest := expected
                                            observedDigest := observed
                                            operationKind := .requestResponse
                                            operationName := "run"
                                            runtimeFamily := "rust"
                                            schema := "reproit.failure.v1" }) ≤ 1000 := by
  show ContractFailureIdentity.codec.size _ ≤ 1000
  simp only [ContractFailureIdentity.codec, Codec.size_record, Digest.codec, Codec.size_text,
    Fields.size_required, Fields.size_done, Digest.stringSize_toText]
  decide

omit [Primitives] in
theorem size_reference (digest : Digest) :
    FailureReference.codec.size { category := .explicit
                                  identity := digest
                                  matcher := .contractDigestV1
                                  objectId := id 1
                                  schema := "reproit.failure.v1" } ≤ 1000 := by
  simp only [FailureReference.codec, Codec.size_record, Digest.codec, Codec.size_text,
    Fields.size_required, Fields.size_done, Digest.stringSize_toText]
  decide

theorem length_text_failure : (Canonical.text failure).length ≤ 65536 := by
  rw [Canonical.length_text]
  change FailurePayload.codec.size failure ≤ 65536
  have short_identity : FailureIdentity.codec.size identity ≤ 1000 := size_contract _ _
  have short_reference : FailureReference.codec.size reference ≤ 1000 := size_reference _
  have names : Json.stringSize "failure" = 9 ∧ Json.stringSize "format" = 8 ∧
      Json.stringSize "identity" = 10 ∧
      (Format.codec "reproit.failure-payload.v1").size .v1 ≤ 100 := by decide
  simp only [FailurePayload.codec, failure, Codec.size_record, Fields.size_required,
    Fields.size_done]
  omega

theorem length_text_trigger : (Canonical.text trigger).length ≤ 65536 := by
  rw [Canonical.length_text]
  change Trigger.codec.size trigger ≤ 65536
  simp only [Trigger.codec, TriggerInput.codec, Digest.codec, trigger, Codec.size_record,
    Codec.size_list, Codec.size_text, Fields.size_required, Fields.size_done,
    Digest.stringSize_toText, List.map_cons, List.map_nil]
  decide

theorem length_text_subjectManifest : (Canonical.text subjectManifest).length ≤ 65536 := by
  rw [Canonical.length_text]
  change SubjectClosureManifest.codec.size subjectManifest ≤ 65536
  simp only [SubjectClosureManifest.codec, DebugArtifactBinding.codec, SubjectFile.codec,
    SubjectModule.codec, SubjectClosureObject.codec, Digest.codec, subjectManifest,
    Codec.size_record, Codec.size_list, Codec.size_text, Fields.size_required, Fields.size_done,
    Digest.stringSize_toText, List.map_cons, List.map_nil]
  decide

omit [Primitives] in
theorem length_text_begin : (Canonical.text beginPayload).length ≤ 65536 := by
  rw [Canonical.length_text]
  decide

omit [Primitives] in
theorem length_text_terminal : (Canonical.text terminalPayload).length ≤ 65536 := by
  rw [Canonical.length_text]
  decide

theorem validate_candidate (worldId : Digest) : (candidate worldId).validate = .ok () := by
  have failureExact := failure.exact
  have beginRead : canonicalPayload (record .begin' 0 beginPayload) =
      .ok (Canonical.text beginPayload) :=
    canonicalPayload_record beginPayload.exact length_text_begin
  have failureRead : canonicalPayload (record .failure 1 failure) =
      .ok (Canonical.text failure) :=
    canonicalPayload_record failureExact length_text_failure
  have terminalRead : canonicalPayload (record .terminal 2 terminalPayload) =
      .ok (Canonical.text terminalPayload) :=
    canonicalPayload_record terminalPayload.exact length_text_terminal
  have beginParsed := Canonical.parseStrict_bytes (Canonical.bytes_of_exact beginPayload.exact)
  have failureParsed := Canonical.parseStrict_bytes (Canonical.bytes_of_exact failureExact)
  have terminalParsed :=
    Canonical.parseStrict_bytes (Canonical.bytes_of_exact terminalPayload.exact)
  simp only [Candidate.validate, bind_eq_ok, rejectIf_eq_ok, forEach_eq_ok, okOr_eq_ok, not_not,
    not_and]
  refine ⟨(), validate_deployment, (), rfl, (), rfl, (), by simp [candidate], (), ?_, (), ?_, (),
    ?_, _, rfl, _, beginRead, _, beginParsed, (), rfl,
    fun campaign => absurd campaign Bool.false_ne_true⟩
  · simp [candidate, record]
  · simp [candidate, record, Candidate.validRecordKinds]
  · simp only [candidate, List.forall_mem_cons, List.not_mem_nil, false_implies, implies_true,
      and_true]
    refine ⟨⟨_, beginRead, ?_⟩, ⟨_, failureRead, ?_⟩, ⟨_, terminalRead, ?_⟩⟩
    · simp only [record, Candidate.validateRecord, bind_eq_ok]
      exact ⟨_, beginParsed, rfl⟩
    · simp only [record, Candidate.validateRecord, bind_eq_ok, rejectIf_eq_ok, not_not]
      exact ⟨_, failureParsed, (), validate_identity, (), rfl, (), rfl, _,
        Canonical.digest_of_exact identity.exact, rfl⟩
    · simp only [record, Candidate.validateRecord, bind_eq_ok, rejectIf_eq_ok]
      exact ⟨_, terminalParsed, by simp [terminalPayload]⟩

/-! ## The objects -/

/-- The object of a document. -/
def documentObject {α : Type} [Document α] (index : Nat) (role : LogicalObjectRole)
    (mediaType : String) (value : α) : LogicalObject where
  mediaType := mediaType
  objectId := id index
  plainDigest := Digest.of (Canonical.text value)
  plainSize := UInt64.ofNat (Canonical.text value).length
  role := role

/-- An object without content. -/
def emptyObject (index : Nat) (role : LogicalObjectRole) (mediaType : String) :
    LogicalObject where
  mediaType := mediaType
  objectId := id index
  plainDigest := emptyDigest
  plainSize := 0
  role := role

/-- The object of a state artifact. -/
def stateObject (artifact : ArtifactReference) (index : Nat) : LogicalObject where
  mediaType := artifact.mediaType
  objectId := id index
  plainDigest := artifact.digest
  plainSize := artifact.size
  role := .worldState

def failureObject : LogicalObject := documentObject 1 .failure failureMediaType failure

def subjectManifestObject : LogicalObject :=
  documentObject 2 .subject subjectClosureMediaType subjectManifest

def subjectMember : LogicalObject := emptyObject 3 .subject "application/octet-stream"

def triggerObject : LogicalObject := documentObject 4 .trigger triggerMediaType trigger

def triggerInput : LogicalObject := emptyObject 5 .trigger "application/octet-stream"

def worldObject (world : WorldCheckpoint) : LogicalObject :=
  documentObject 6 .worldManifest worldManifestMediaType world

/-- One object for every state artifact. -/
def stateObjects (world : WorldCheckpoint) : List LogicalObject :=
  (world.artifacts.zipIdx 7).map fun (artifact, index) => stateObject artifact index

/-- Objects that no document names. -/
def spareObjects (first count : Nat) : List LogicalObject :=
  (List.range' first count).map fun index => emptyObject index .subject "application/spare"

/-- The objects that are there for every World. -/
def fixedObjects (world : WorldCheckpoint) : List LogicalObject :=
  [failureObject, subjectManifestObject, subjectMember, triggerObject, triggerInput,
    worldObject world]

/-- The objects of a capture of the World, with a number of spare objects. -/
def objects (world : WorldCheckpoint) (spare : Nat) : List LogicalObject :=
  fixedObjects world ++
    (stateObjects world ++ spareObjects (7 + world.artifacts.length) spare)

def candidateObject : LogicalObject := emptyObject 0 .candidate "application/octet-stream"

/-- The request to close the capture of a World. -/
def request (world : WorldCheckpoint) (spare : Nat) : CandidateClosureRequest where
  candidate := candidate (Digest.of (Canonical.text world))
  candidateObjects := candidateObject :: objects world spare
  closure := closure
  failure := failure
  support := support
  trigger := trigger
  world := world

/-- The capsule of the capture of a World. -/
def capsule (world : WorldCheckpoint) (spare : Nat) : ReplayCapsule where
  closureManifestDigest := Digest.of (Canonical.text closure)
  failureDigest := Digest.of (Canonical.text identity)
  format := .v1
  objects := objects world spare
  perturbationSuite := "reproit.controlled-perturbation.v1"
  processingMode := .managed
  profile := "backend"
  profileFormat := 1
  requiredCapabilities := ["debugger.gdb-remote"]
  subject := subject
  subjectDigest := Digest.of (Canonical.text subjectManifest)
  supportBundleDigest := Digest.of (Canonical.text bundle)
  triggerDigest := Digest.of (Canonical.text trigger)
  worldDigest := Digest.of (Canonical.text world)

theorem map_objectId_objects (world : WorldCheckpoint) (spare : Nat) :
    (objects world spare).map LogicalObject.objectId =
      (List.range' 1 (6 + (world.artifacts.length + spare))).map id := by
  have states : (stateObjects world).map LogicalObject.objectId =
      (List.range' 7 world.artifacts.length).map id := by
    rw [← List.zipIdx_map_snd 7 world.artifacts, stateObjects, List.map_map, List.map_map]
    rfl
  have spares : (spareObjects (7 + world.artifacts.length) spare).map LogicalObject.objectId =
      (List.range' (7 + world.artifacts.length) spare).map id := by
    rw [spareObjects, List.map_map]
    rfl
  have joined := @List.range'_append_1 1 6 (world.artifacts.length + spare)
  rw [← joined, ← List.range'_append_1, List.map_append, List.map_append, objects,
    List.map_append, List.map_append, states, spares]
  rfl

theorem length_objects (world : WorldCheckpoint) (spare : Nat) :
    (objects world spare).length = 6 + (world.artifacts.length + spare) := by
  have same := congrArg List.length (map_objectId_objects world spare)
  rwa [List.length_map, List.length_map, List.length_range'] at same

theorem pairwise_objectId (world : WorldCheckpoint) (spare : Nat)
    (small : world.artifacts.length + spare < 32000) :
    ((objects world spare).map LogicalObject.objectId).Pairwise (· < ·) := by
  rw [map_objectId_objects, List.pairwise_map]
  refine List.Pairwise.imp_of_mem (fun _ member below => id_lt_id below ?_)
    (List.pairwise_lt_range' 1)
  have bound := List.mem_range'_1.mp member
  omega

/-! ## What the objects match -/

/-- What selects neither a state object nor a spare object selects among the others. -/
theorem uniqueMatch_objects {world : WorldCheckpoint} {spare : Nat}
    {select : LogicalObject → Bool} {object : LogicalObject}
    (states : ∀ artifact index, select (stateObject artifact index) = false)
    (spares : ∀ index, select (emptyObject index .subject "application/spare") = false)
    (fixed : UniqueMatch (fixedObjects world) select object) :
    UniqueMatch (objects world spare) select object := by
  have noState : (stateObjects world).filter select = [] := by
    rw [stateObjects, List.filter_map, List.map_eq_nil_iff, List.filter_eq_nil_iff]
    exact fun entry _ => by simp [states]
  have noSpare : (spareObjects (7 + world.artifacts.length) spare).filter select = [] := by
    rw [spareObjects, List.filter_map, List.map_eq_nil_iff, List.filter_eq_nil_iff]
    exact fun index _ => by simp [spares]
  rw [UniqueMatch, objects, List.filter_append, List.filter_append, noState, noSpare,
    List.append_nil, List.append_nil]
  exact fixed

variable (world : WorldCheckpoint) (spare : Nat)

theorem unique_failure : UniqueMatch (objects world spare) isFailureObject failureObject := by
  refine uniqueMatch_objects (fun _ _ => rfl) (fun _ => rfl) ?_
  simp [UniqueMatch, fixedObjects, isFailureObject, failureObject,
    subjectManifestObject, subjectMember, triggerObject, triggerInput, worldObject,
    documentObject, emptyObject]

theorem unique_subjectManifest :
    UniqueMatch (objects world spare) (capsule world spare).isSubjectManifest
      subjectManifestObject := by
  refine uniqueMatch_objects (fun _ _ => rfl) (fun _ => rfl) ?_
  simp [UniqueMatch, fixedObjects, ReplayCapsule.isSubjectManifest,
    failureObject, subjectManifestObject, subjectMember, triggerObject, triggerInput,
    worldObject, documentObject, emptyObject, subjectClosureMediaType, capsule]

theorem unique_member {member : SubjectClosureObject} (listed : member ∈ subjectManifest.objects) :
    UniqueMatch (objects world spare) (isSubjectMember member) subjectMember := by
  obtain rfl := List.mem_singleton.mp listed
  refine uniqueMatch_objects (fun _ _ => rfl) (fun _ => rfl) ?_
  simp [UniqueMatch, fixedObjects, isSubjectMember, failureObject,
    subjectManifestObject, subjectMember, triggerObject, triggerInput, worldObject,
    documentObject, emptyObject, subjectClosureMediaType]

theorem unique_trigger :
    UniqueMatch (objects world spare) (capsule world spare).isTriggerDescriptor
      triggerObject := by
  refine uniqueMatch_objects (fun _ _ => rfl) (fun _ => rfl) ?_
  simp [UniqueMatch, fixedObjects, ReplayCapsule.isTriggerDescriptor,
    failureObject, subjectManifestObject, subjectMember, triggerObject, triggerInput,
    worldObject, documentObject, emptyObject, triggerMediaType, capsule]

theorem unique_input {input : TriggerInput} (listed : input ∈ trigger.inputs) :
    UniqueMatch (objects world spare) (isTriggerInput input) triggerInput := by
  obtain rfl := List.mem_singleton.mp listed
  refine uniqueMatch_objects (fun _ _ => ?_) (fun _ => ?_) ?_
  · simp [isTriggerInput, stateObject]
  · simp [isTriggerInput, emptyObject]
  have different : (id 4 : ObjectId) ≠ id 5 := by decide
  simp [UniqueMatch, fixedObjects, isTriggerInput, failureObject, subjectManifestObject,
    subjectMember, triggerObject, triggerInput, worldObject, documentObject, emptyObject,
    different]

theorem unique_world :
    UniqueMatch (objects world spare) isWorldManifest (worldObject world) := by
  refine uniqueMatch_objects (fun _ _ => rfl) (fun _ => rfl) ?_
  simp [UniqueMatch, fixedObjects, isWorldManifest, failureObject,
    subjectManifestObject, subjectMember, triggerObject, triggerInput, worldObject,
    documentObject, emptyObject]

theorem no_transcript : (objects world spare).filter isTranscriptManifest = [] := by
  rw [List.filter_eq_nil_iff]
  intro object member
  have role : object.role ≠ .dependencyTranscript := by
    simp only [objects, fixedObjects, stateObjects, spareObjects, List.mem_append, List.mem_cons,
      List.not_mem_nil, or_false, List.mem_map] at member
    rcases member with (rfl | rfl | rfl | rfl | rfl | rfl) | ⟨_, _, rfl⟩ | ⟨_, _, rfl⟩ <;> nofun
  simp [isTranscriptManifest, role]

/-- What an object holds. -/
def objectContent (object : LogicalObject) : String × Digest × UInt64 :=
  (object.mediaType, object.plainDigest, object.plainSize)

/-- One state object holds the content of an artifact that occurs once. -/
theorem unique_state {world : WorldCheckpoint} (storable : world.Storable) (spare : Nat)
    {artifact : ArtifactReference} {index : Nat}
    (member : (artifact, index) ∈ world.artifacts.zipIdx 7) :
    UniqueMatch (objects world spare) (isWorldState artifact) (stateObject artifact index) := by
  have distinct : ((stateObjects world).map objectContent).Nodup := by
    have contents : (stateObjects world).map objectContent =
        world.artifacts.map ArtifactReference.content := by
      rw [stateObjects, List.map_map]
      conv_rhs => rw [← List.zipIdx_map_fst 7 world.artifacts, List.map_map]
      rfl
    rw [contents]
    exact storable.distinct
  have state : UniqueMatch (stateObjects world) (isWorldState artifact)
      (stateObject artifact index) := by
    refine uniqueMatch_of_nodup objectContent distinct (List.mem_map.mpr ⟨_, member, rfl⟩) ?_
    intro other held
    obtain ⟨_, _, rfl⟩ := List.mem_map.mp held
    simp only [isWorldState, objectContent, Bool.and_eq_true, decide_eq_true_eq,
      Prod.mk.injEq, and_assoc]
    exact ⟨fun selected => selected.2, fun same => ⟨rfl, same⟩⟩
  have noSpare : (spareObjects (7 + world.artifacts.length) spare).filter
      (isWorldState artifact) = [] := by
    rw [spareObjects, List.filter_map, List.map_eq_nil_iff, List.filter_eq_nil_iff]
    exact fun _ _ => nofun
  have noFixed : (fixedObjects world).filter (isWorldState artifact) = [] := rfl
  rw [UniqueMatch, objects, List.filter_append, List.filter_append, noFixed, noSpare,
    List.nil_append, List.append_nil]
  exact state

/-- The state objects match the artifacts of a World without repeated content. -/
theorem matchEach_states {world : WorldCheckpoint} (storable : world.Storable) (spare : Nat) :
    MatchEach (objects world spare) (fun entry => isWorldState entry.1)
      (worldArtifactEntries world) (stateObjects world) := by
  have each : List.Forall₂ (fun artifact object =>
      UniqueMatch (objects world spare) (isWorldState artifact) object) world.artifacts
        (stateObjects world) := by
    conv => arg 2; rw [← List.zipIdx_map_fst 7 world.artifacts]
    rw [stateObjects, List.forall₂_map_left_iff, List.forall₂_map_right_iff, List.forall₂_same]
    exact fun _ member => unique_state storable spare member
  rw [← map_fst_worldArtifactEntries, List.forall₂_map_left_iff] at each
  exact each

/-! ## Closing and resolving -/

omit [Primitives] in
theorem mediaType_texts : ∀ mediaType ∈ [failureMediaType, subjectClosureMediaType,
    triggerMediaType, worldManifestMediaType, "application/octet-stream", "application/spare"],
    mediaType.isEmpty = false ∧ mediaType.utf8ByteSize ≤ 128 := by
  decide

omit [Primitives] in
theorem ne_of_isPayloadRole {role : LogicalObjectRole}
    (payload : Resolver.isPayloadRole role = true) :
    role ≠ .captureBatchManifest ∧ role ≠ .admissionProof ∧ role ≠ .candidate ∧
      role ≠ .debugSymbols ∧ role ≠ .replayCapsuleManifest := by
  cases role <;> first | decide | cases payload

/-- Every object but the candidate is one that a capsule may hold. -/
theorem validate_object {world : WorldCheckpoint} {spare : Nat}
    (valid : world.validate = .ok ())
    (mediaTypes : ∀ artifact ∈ world.artifacts, artifact.mediaType.utf8ByteSize ≤ 128)
    {object : LogicalObject} (member : object ∈ objects world spare) :
    object.validate = .ok () ∧ object.role ≠ .admissionProof ∧ object.role ≠ .candidate ∧
      object.role ≠ .debugSymbols ∧ object.role ≠ .replayCapsuleManifest := by
  have listed := mediaType_texts
  simp only [List.forall_mem_cons, List.not_mem_nil, false_implies, implies_true,
    and_true] at listed
  obtain ⟨failureText, subjectText, triggerText, worldText, octets, spares⟩ := listed
  have fits : ∀ length : Nat, length ≤ 274878824448 → (UInt64.ofNat length).toNat ≤ maxObjectBytes := by
    intro length short
    exact (Nat.mod_le _ _).trans short
  have failureLength := length_text_failure
  have subjectLength := length_text_subjectManifest
  have triggerLength := length_text_trigger
  have worldLength := (WorldCheckpoint.exact_of_validate valid).2
  rw [maxWorldManifestBytes] at worldLength
  rw [LogicalObject.validate_eq_ok]
  simp only [objects, fixedObjects, stateObjects, spareObjects, List.mem_append, List.mem_cons,
    List.not_mem_nil, or_false, List.mem_map] at member
  have payload : Resolver.isPayloadRole object.role = true := by
    rcases member with (rfl | rfl | rfl | rfl | rfl | rfl) | ⟨_, _, rfl⟩ | ⟨_, _, rfl⟩ <;> rfl
  obtain ⟨batch, others⟩ := ne_of_isPayloadRole payload
  refine ⟨?_, others⟩
  rcases member with (rfl | rfl | rfl | rfl | rfl | rfl) | ⟨⟨artifact, index⟩, held, rfl⟩ |
    ⟨index, held, rfl⟩
  · exact ⟨failureText.1, failureText.2, fits _ (by omega), batch⟩
  · exact ⟨subjectText.1, subjectText.2, fits _ (by omega), batch⟩
  · exact ⟨octets.1, octets.2, fits 0 (by omega), batch⟩
  · exact ⟨triggerText.1, triggerText.2, fits _ (by omega), batch⟩
  · exact ⟨octets.1, octets.2, fits 0 (by omega), batch⟩
  · exact ⟨worldText.1, worldText.2, fits _ (by omega), batch⟩
  · have stored := List.fst_mem_of_mem_zipIdx held
    have checked := WorldCheckpoint.validate_of_mem_artifacts valid stored
    simp only [ArtifactReference.validate, rejectIf_eq_ok, not_or, not_lt,
      Bool.not_eq_true] at checked
    exact ⟨checked.1, mediaTypes artifact stored, checked.2.2.2.2.1, batch⟩
  · exact ⟨spares.1, spares.2, fits 0 (by omega), batch⟩

theorem validate_capsule {world : WorldCheckpoint} {spare : Nat}
    (valid : world.validate = .ok ())
    (mediaTypes : ∀ artifact ∈ world.artifacts, artifact.mediaType.utf8ByteSize ≤ 128)
    (small : spare ≤ 24000) : (capsule world spare).validate = .ok () := by
  have few := WorldCheckpoint.length_artifacts_lt valid
  rw [ReplayCapsule.validate_eq_ok]
  constructor
  case nonempty => exact List.cons_ne_nil _ _
  case count =>
    change (objects world spare).length ≤ 32767
    rw [length_objects]
    omega
  case suite => rfl
  case profile =>
    exact (by decide : validLowerIdentity "backend" = true ∧ "backend".utf8ByteSize ≤ 128)
  case profileFormat =>
    exact (by decide : 1 ≤ (1 : UInt64).toNat ∧ (1 : UInt64).toNat ≤ maxExactInteger)
  case objects => exact fun object member => validate_object valid mediaTypes member
  case shape =>
    simp only [ReplayCapsule.validateClosureShape, rejectIf_eq_ok, not_or, not_not, not_lt]
    refine ⟨exists_uniqueMatch.mp ⟨_, unique_subjectManifest world spare⟩,
      exists_uniqueMatch.mp ⟨_, unique_trigger world spare⟩,
      exists_uniqueMatch.mp ⟨_, unique_failure world spare⟩,
      exists_uniqueMatch.mp ⟨_, unique_world world spare⟩, ?_⟩
    have none := no_transcript world spare
    rw [← List.length_eq_zero_iff, ← List.countP_eq_length_filter] at none
    exact none.le.trans (Nat.zero_le 1)
  case subject => exact validate_subject
  case artifactDigest => rfl
  case artifactMediaType => rfl
  case ordered => exact pairwise_objectId world spare (by omega)
  case capabilities =>
    exact (by decide : validateCapabilities ["debugger.gdb-remote"] = .ok ())

theorem validateInputs_request {world : WorldCheckpoint} (spare : Nat)
    (valid : world.validate = .ok ()) : validateInputs (request world spare) = .ok () := by
  simp only [validateInputs, bind_eq_ok, rejectIf_eq_ok, not_or, not_not]
  exact ⟨(), validate_candidate _, (), validate_identity, (), validate_trigger, (), valid, (),
    validate_closure, (), validate_support, (), validateWorldClosure_sample, (), rfl, _,
    Canonical.digest_of_exact identity.exact, (), ⟨rfl, rfl, rfl⟩, _, WorldCheckpoint.worldId_of_validate valid, rfl⟩

theorem replayObjects_request {world : WorldCheckpoint} {spare : Nat}
    (valid : world.validate = .ok ())
    (mediaTypes : ∀ artifact ∈ world.artifacts, artifact.mediaType.utf8ByteSize ≤ 128)
    (small : spare ≤ 24000) :
    replayObjects (request world spare).candidateObjects = .ok (objects world spare) := by
  have few := WorldCheckpoint.length_artifacts_lt valid
  have ordered := pairwise_objectId world spare (by omega)
  have kept : (request world spare).candidateObjects.filter (fun object => object.role ≠ .candidate) =
      objects world spare := by
    change (candidateObject :: objects world spare).filter _ = _
    rw [List.filter_cons, if_neg (by simp [candidateObject, emptyObject]), List.filter_eq_self]
    intro object member
    have role := (validate_object valid mediaTypes member).2.2.1
    simp [role]
  have sorted : sortObjects (objects world spare) = objects world spare := by
    rw [sortObjects]
    apply List.Pairwise.insertionSort_eq
    exact (List.pairwise_map.mp ordered).imp le_of_lt
  have count : (request world spare).candidateObjects.length =
      6 + (world.artifacts.length + spare) + 1 := by
    rw [← length_objects world spare]
    rfl
  simp only [replayObjects, bind_eq_ok, rejectIf_eq_ok, not_or, not_not, kept, sorted, pure_eq_ok]
  refine ⟨(), ⟨Bool.false_ne_true, by omega⟩, (), ⟨ordered.imp ne_of_lt, ?_⟩, trivial⟩
  rw [count, length_objects]

omit [Primitives] in
theorem requireManifest_of_unique {objects : List LogicalObject} {role : LogicalObjectRole}
    {mediaType : String} {digest : Digest} {object : LogicalObject}
    (unique : UniqueMatch objects (isManifest role mediaType digest) object) :
    requireManifest objects role mediaType digest = .ok () := by
  rw [requireManifest, rejectIf_eq_ok, not_not]
  exact exists_uniqueMatch.mp ⟨object, unique⟩

theorem unique_failureManifest : UniqueMatch (objects world spare)
    (isManifest .failure failureMediaType (Digest.of (Canonical.text failure))) failureObject := by
  refine (unique_failure world spare).narrow (fun other selected => ?_) ?_
  · simp only [isManifest, Bool.and_eq_true] at selected
    simp only [isFailureObject, Bool.and_eq_true]
    exact selected.1
  · simp [isManifest, failureObject, documentObject]

theorem unique_worldManifest : UniqueMatch (objects world spare)
    (isManifest .worldManifest worldManifestMediaType (Digest.of (Canonical.text world)))
      (worldObject world) := by
  refine (unique_world world spare).narrow (fun other selected => ?_) ?_
  · simp only [isManifest, Bool.and_eq_true] at selected
    simp only [isWorldManifest, Bool.and_eq_true]
    exact selected.1
  · simp [isManifest, worldObject, documentObject]

theorem requirePayloadClosure_request {world : WorldCheckpoint} (storable : world.Storable)
    (spare : Nat) :
    requirePayloadClosure (objects world spare) (request world spare) = .ok () := by
  simp only [requirePayloadClosure, requireObject, bind_eq_ok, forEach_eq_ok, rejectIf_eq_ok,
    not_not]
  refine ⟨_, Canonical.digest_of_exact failure.exact, (), ?_, (), ?_, ?_⟩
  · exact ⟨failureObject, (unique_failure world spare).mem.1, rfl, rfl, rfl⟩
  · intro input listed
    obtain ⟨member, selected⟩ := (unique_input world spare listed).mem
    simp only [isTriggerInput, Bool.and_eq_true, decide_eq_true_eq, and_assoc] at selected
    exact ⟨triggerInput, member, selected⟩
  · intro artifact member
    rw [← WorldCheckpoint.artifacts, ← map_fst_worldArtifactEntries] at member
    obtain ⟨entry, listed, rfl⟩ := List.mem_map.mp member
    obtain ⟨object, -, unique⟩ := (matchEach_states storable spare).exists_of_mem listed
    exact exists_uniqueMatch.mp ⟨object, unique⟩

/-- The capture of a storable World is closed. -/
theorem closeReplayCapsule_request {world : WorldCheckpoint} {spare : Nat}
    (valid : world.validate = .ok ()) (storable : world.Storable) (small : spare ≤ 24000) :
    closeReplayCapsule (request world spare) = .ok (capsule world spare) := by
  simp only [closeReplayCapsule, bind_eq_ok, pure_eq_ok]
  exact ⟨(), validateInputs_request spare valid, _,
    replayObjects_request valid storable.mediaTypes small, _,
    Canonical.digest_of_exact failure.exact, (),
    requireManifest_of_unique (unique_failureManifest world spare), (),
    requireManifest_of_unique (unique_subjectManifest world spare), _,
    Canonical.digest_of_exact trigger.exact, (),
    requireManifest_of_unique (unique_trigger world spare), _,
    Canonical.digest_of_exact (WorldCheckpoint.exact_of_validate valid).1, (),
    requireManifest_of_unique (unique_worldManifest world spare), (),
    requirePayloadClosure_request storable spare, _, digest_closure, _,
    Canonical.digest_of_exact identity.exact, _, rfl, _,
    Canonical.digest_of_exact exact_bundle, (),
    validate_capsule valid storable.mediaTypes small, rfl⟩

/-- The documents of the manifests, by their media types. -/
def reader (world : WorldCheckpoint) : ManifestReader := fun _ object =>
  if object.mediaType = subjectClosureMediaType then .ok (Canonical.text subjectManifest)
  else if object.mediaType = triggerMediaType then .ok (Canonical.text trigger)
  else if object.mediaType = failureMediaType then .ok (Canonical.text failure)
  else if object.mediaType = worldManifestMediaType then .ok (Canonical.text world)
  else .ok []

/-- What the capsule of a World resolves to. -/
def resolved (world : WorldCheckpoint) : ResolvedReplayCapsule where
  dependency := none
  failure := failure
  failureObject := failureObject
  subjectClosure := subjectManifest
  subjectManifestObject := subjectManifestObject
  subjectObjects := [subjectMember]
  trigger := trigger
  triggerInputs := [triggerInput]
  triggerObject := triggerObject
  world := world
  worldArtifacts := ((worldArtifactEntries world).zip (stateObjects world)).map
    fun ((artifact, pointIndex), object) => { artifact, object, pointIndex }
  worldObject := worldObject world

/-- A short document is read from its object. -/
theorem reads_document {α : Type} [Document α] [Validate α] {read : ManifestReader}
    {earlier : List LogicalObject} {index : Nat} {role : LogicalObjectRole} {mediaType : String}
    {value : α} (exact : Document.Exact value) (valid : validate value = .ok ())
    (short : (Canonical.text value).length ≤ maxManifestObjectBytes)
    (answer : read earlier (documentObject index role mediaType value) =
      .ok (Canonical.text value)) :
    Reads read earlier (documentObject index role mediaType value)
      (Digest.of (Canonical.text value)) value := by
  have size : (documentObject index role mediaType value).plainSize.toNat =
      (Canonical.text value).length := by
    rw [maxManifestObjectBytes] at short
    exact Nat.mod_eq_of_lt (by omega)
  constructor
  case bounded => rwa [size]
  case bound => rfl
  case valid => exact valid
  case canonical => exact Canonical.digest_of_exact exact
  case answer =>
    exact ⟨_, answer, size.symm, rfl,
      Canonical.parseStrict_bytes (Canonical.bytes_of_exact exact)⟩

/-- The capsule of a storable World resolves to its documents. -/
theorem resolves {world : WorldCheckpoint} (valid : world.validate = .ok ())
    (storable : world.Storable) :
    Resolves (capsule world 0) (reader world) (resolved world) := by
  have each := matchEach_states storable 0
  obtain ⟨entries, states⟩ :=
    (resolvedArtifacts_eq each.length_eq (resolved world).worldArtifacts).mp rfl
  have failureLength := length_text_failure
  have subjectLength := length_text_subjectManifest
  have triggerLength := length_text_trigger
  obtain ⟨worldExact, worldLength⟩ := WorldCheckpoint.exact_of_validate valid
  rw [maxWorldManifestBytes] at worldLength
  constructor
  case valid => exact validate_capsule valid storable.mediaTypes (Nat.zero_le _)
  case subject =>
    constructor
    case mediaType => rfl
    case unique => exact unique_subjectManifest world 0
    case reads =>
      exact reads_document exact_subjectManifest validate_subjectManifest
        (by rw [maxManifestObjectBytes]; omega) rfl
    case binds => exact ⟨rfl, rfl, rfl, rfl, rfl, rfl⟩
    case members => exact .cons (unique_member world 0 (List.mem_singleton_self _)) .nil
  case trigger =>
    constructor
    case unique => exact unique_trigger world 0
    case reads =>
      exact reads_document trigger.exact validate_trigger
        (by rw [maxManifestObjectBytes]; omega) rfl
    case inputs => exact .cons (unique_input world 0 (List.mem_singleton_self _)) .nil
  case failure =>
    constructor
    case unique => exact unique_failure world 0
    case reads =>
      exact reads_document failure.exact validate_failure
        (by rw [maxManifestObjectBytes]; omega) rfl
    case objectId => rfl
    case identity => exact Canonical.digest_of_exact identity.exact
  case world =>
    constructor
    case unique => exact unique_world world 0
    case reads =>
      exact reads_document worldExact valid (by rw [maxManifestObjectBytes]; omega) rfl
    case identity => exact WorldCheckpoint.worldId_of_validate valid
    case entries => exact entries
    case objects => rwa [states]
  case dependency => exact no_transcript world 0
  case exact =>
    rw [ResolvedReplayCapsule.descriptors, states]
    exact @List.perm_middle _ failureObject
      [subjectManifestObject, subjectMember, triggerObject, triggerInput] _

/-- The reader answers with the bytes of every manifest. -/
theorem reader_answers {world : WorldCheckpoint} {spare : Nat}
    (valid : world.validate = .ok ()) (earlier : List LogicalObject) {object : LogicalObject}
    (member : object ∈ (capsule world spare).objects)
    (manifest : isManifestClass object = true) :
    ∃ bytes, reader world earlier object = .ok bytes ∧ bytes.length = object.plainSize.toNat ∧
      Digest.of bytes = object.plainDigest := by
  have failureLength := length_text_failure
  have subjectLength := length_text_subjectManifest
  have triggerLength := length_text_trigger
  have worldLength := (WorldCheckpoint.exact_of_validate valid).2
  rw [maxWorldManifestBytes] at worldLength
  have size : ∀ length : Nat, length ≤ 262144 → length = (UInt64.ofNat length).toNat :=
    fun length short => (Nat.mod_eq_of_lt (by omega)).symm
  change object ∈ objects world spare at member
  simp only [objects, fixedObjects, stateObjects, spareObjects, List.mem_append, List.mem_cons,
    List.not_mem_nil, or_false, List.mem_map] at member
  rcases member with (rfl | rfl | rfl | rfl | rfl | rfl) | ⟨⟨artifact, index⟩, -, rfl⟩ |
    ⟨index, -, rfl⟩
  · exact ⟨_, rfl, size _ (by omega), rfl⟩
  · exact ⟨_, rfl, size _ (by omega), rfl⟩
  · exact absurd manifest Bool.false_ne_true
  · exact ⟨_, rfl, size _ (by omega), rfl⟩
  · exact absurd manifest Bool.false_ne_true
  · exact ⟨_, rfl, size _ (by omega), rfl⟩
  · exact absurd manifest Bool.false_ne_true
  · exact absurd manifest Bool.false_ne_true

theorem resolveReplayCapsule_capsule {world : WorldCheckpoint} (valid : world.validate = .ok ())
    (storable : world.Storable) :
    resolveReplayCapsule (capsule world 0) (reader world) = .ok (resolved world) :=
  resolveReplayCapsule_eq_ok.mpr (resolves valid storable)

/-! ## Worlds with few artifacts -/

/-- An artifact of an empty state, wherever it was found. -/
def artifact (uri : String) : ArtifactReference where
  digest := ⟨0⟩
  mediaType := "application/octet-stream"
  size := 0
  uri := uri

def point (artifacts : List ArtifactReference) : RecoverablePoint where
  artifacts := artifacts
  capabilities := []
  configurationDigest := ⟨0⟩
  engineIdentity := "file"
  engineVersion := "1"
  format := .v1
  generation := 1
  point := "AA"
  providerId := "file"
  publishedAt := time
  recoverableUntil := time
  resourceClaim := { materializedBytes := 0, objects := 2, pinnedBytes := 0, temporaryBytes := 0 }
  scope := { kind := .full, rules := [] }

def worldOf (artifacts : List ArtifactReference) : WorldCheckpoint where
  createdAt := time
  format := .v1
  points := [point artifacts]

/-- One read of a state. -/
def single : WorldCheckpoint := worldOf [artifact "file:a"]

/-- Two reads of a state. -/
def repeated : WorldCheckpoint := worldOf [artifact "file:a", artifact "file:b"]

omit [Primitives] in
theorem validate_worldOf {artifacts : List ArtifactReference}
    (valid : (point artifacts).validate = .ok ()) (few : artifacts.length ≤ 4) :
    (worldOf artifacts).validate = .ok () :=
  WorldCheckpoint.validate_of_point valid (le_refl time) few (Nat.zero_le _) rfl

set_option maxRecDepth 2000 in
omit [Primitives] in
theorem validate_single : single.validate = .ok () :=
  validate_worldOf (by decide) (by decide)

set_option maxRecDepth 2000 in
omit [Primitives] in
theorem validate_repeated : repeated.validate = .ok () :=
  validate_worldOf (by decide) (by decide)

omit [Primitives] in
theorem storable_single : single.Storable := by
  constructor
  · simp [single, worldOf, WorldCheckpoint.artifacts, point]
  · decide

/-! ## Functions to compute with -/

/-- A number that depends on every byte and on its position. -/
def checksum (bytes : Bytes) : Nat :=
  bytes.foldl (fun sum byte => (sum * 257 + byte.toNat + 1) % 2 ^ 256) 0

/-- The bytes of a number, the lowest first. -/
def numberBytes (width number : Nat) : Vector UInt8 width :=
  Vector.ofFn fun index => UInt8.ofNat (number / 256 ^ index.val)

def tag (key : SecretKey) (nonce : Nonce) (message aad : Bytes) : Bytes :=
  (numberBytes 16 (checksum (key.toList ++ nonce.toList ++ aad ++ message))).toList

/-- A checksum for every digest, key and tag, and plaintext for ciphertext. -/
@[reducible] def primitives : Primitives where
  sha256 bytes := ⟨checksum bytes % 2 ^ 256, Nat.mod_lt _ (by decide)⟩
  hmacSha256 key message := ⟨checksum (key.toList ++ message) % 2 ^ 256, Nat.mod_lt _ (by decide)⟩
  hkdfExtract salt material := numberBytes 32 (checksum (salt ++ material.toList))
  hkdfExpand key info := numberBytes 32 (checksum (key.toList ++ info))
  aesGcmEncrypt key nonce message aad := some (message ++ tag key nonce message aad)
  aesGcmDecrypt key nonce message aad :=
    let plain := message.take (message.length - 16)
    if message.drop (message.length - 16) = tag key nonce plain aad then some plain else none
  ed25519PublicKey _ := true
  ed25519Verify publicKey message signature :=
    signature = numberBytes 64 (checksum (publicKey.toList ++ message))

end Reproit.Backend.Sample
