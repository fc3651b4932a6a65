/-
# Closing and resolving agree up to exact covers

Closing a candidate checks that what its documents name is there, but not that the
rest is named.  A closed capsule resolves exactly when the documents cover its
objects, each object once.
-/

import Reproit.Replay.Resolution

namespace Reproit

open Backend

variable [Primitives]

/-! ## What the documents of a capsule name -/

def transcriptReferences : Option DependencyTranscript → List (LogicalObject → Bool)
  | none => []
  | some transcript => isTranscriptManifest ::
      transcript.interactions.flatMap fun interaction =>
        [isTranscriptObject interaction.request, isTranscriptObject interaction.response]

/-- One selector for every object that the documents of a capsule name. -/
def references (subjectDigest triggerDigest : Digest) (manifest : SubjectClosureManifest)
    (trigger : Trigger) (world : WorldCheckpoint) (transcript : Option DependencyTranscript) :
    List (LogicalObject → Bool) :=
  Backend.isManifest .subject subjectClosureMediaType subjectDigest ::
      manifest.objects.map isSubjectMember ++
    (Backend.isManifest .trigger triggerMediaType triggerDigest ::
        trigger.inputs.map isTriggerInput ++
      ([isFailureObject] ++
        (isWorldManifest :: (worldArtifactEntries world).map (fun entry => isWorldState entry.1) ++
          transcriptReferences transcript)))

omit [Primitives] in
theorem matchEach_map {γ : Type} {items : List LogicalObject}
    {select : γ → LogicalObject → Bool} {entries : List γ} {found : List LogicalObject} :
    MatchEach items id (entries.map select) found ↔ MatchEach items select entries found := by
  rw [MatchEach, List.forall₂_map_left_iff]
  rfl

omit [Primitives] in
theorem InteractionsResolved.matchEach {objects : List LogicalObject}
    {recorded : List DependencyTranscriptInteraction} {resolved : List ResolvedInteraction}
    (each : InteractionsResolved objects recorded resolved) :
    MatchEach objects id (recorded.flatMap fun interaction =>
      [isTranscriptObject interaction.request, isTranscriptObject interaction.response])
        (interactionObjects resolved) := by
  induction each with
  | nil => exact .nil
  | cons first _ ih => exact .cons first.1 (.cons first.2 ih)

omit [Primitives] in
theorem exists_interactionsResolved {objects : List LogicalObject}
    {recorded : List DependencyTranscriptInteraction}
    (named : ∀ interaction ∈ recorded,
      objects.countP (isTranscriptObject interaction.request) = 1 ∧
        objects.countP (isTranscriptObject interaction.response) = 1) :
    ∃ resolved, InteractionsResolved objects recorded resolved := by
  induction recorded with
  | nil => exact ⟨[], .nil⟩
  | cons interaction recorded ih =>
      obtain ⟨first, others⟩ := List.forall_mem_cons.mp named
      obtain ⟨request, uniqueRequest⟩ := exists_uniqueMatch.mpr first.1
      obtain ⟨response, uniqueResponse⟩ := exists_uniqueMatch.mpr first.2
      obtain ⟨resolved, each⟩ := ih others
      exact ⟨⟨request, response⟩ :: resolved, .cons ⟨uniqueRequest, uniqueResponse⟩ each⟩

/-- The descriptors of right stages are what the documents name, one by one. -/
theorem matchEach_descriptors {capsule : ReplayCapsule} {read : ManifestReader}
    {resolved : ResolvedReplayCapsule}
    {subjectEarlier triggerEarlier failureEarlier worldEarlier dependencyEarlier :
      List LogicalObject}
    (subject : SubjectResolved capsule read subjectEarlier resolved.subjectManifestObject
      resolved.subjectClosure resolved.subjectObjects)
    (trigger : TriggerResolved capsule read triggerEarlier resolved.triggerObject
      resolved.trigger resolved.triggerInputs)
    (failure : FailureResolved capsule read failureEarlier resolved.failureObject
      resolved.failure)
    (world : WorldResolved capsule read worldEarlier resolved.worldObject resolved.world
      resolved.worldArtifacts)
    (dependency : DependencyResolved capsule read dependencyEarlier resolved.dependency) :
    MatchEach capsule.objects id
      (references capsule.subjectDigest capsule.triggerDigest resolved.subjectClosure
        resolved.trigger resolved.world
        (resolved.dependency.map ResolvedDependencyTranscript.transcript))
      resolved.descriptors := by
  have transcript : MatchEach capsule.objects id
      (transcriptReferences (resolved.dependency.map ResolvedDependencyTranscript.transcript))
      (dependencyObjects resolved.dependency) := by
    cases held : resolved.dependency with
    | none => exact .nil
    | some found =>
        rw [held] at dependency
        obtain ⟨unique, -, each⟩ := dependency
        exact .cons unique each.matchEach
  exact List.rel_append (.cons subject.unique (matchEach_map.mpr subject.members))
    (List.rel_append (.cons trigger.unique (matchEach_map.mpr trigger.inputs))
      (List.rel_append (.cons failure.unique .nil)
        (List.rel_append (.cons world.unique (matchEach_map.mpr world.objects)) transcript)))

/-! ## What closing establishes -/

/-- The objects of a request that its capsule holds. -/
def payloadObjects (request : CandidateClosureRequest) : List LogicalObject :=
  request.candidateObjects.filter fun object => object.role ≠ .candidate

/-- What a closed capsule has of its request. -/
structure ClosedCapsule (request : CandidateClosureRequest) (capsule : ReplayCapsule) : Prop where
  valid : capsule.validate = .ok ()
  objects : capsule.objects.Perm (payloadObjects request)
  subject : capsule.subject = request.candidate.deployment.subject
  subjectDigest : capsule.subjectDigest = request.candidate.deployment.subject.artifactDigest
  trigger : request.trigger.validate = .ok ()
  triggerDigest : Canonical.digest request.trigger = .ok capsule.triggerDigest
  failure : request.failure.validate = .ok ()
  failureIdentity : Canonical.digest request.failure.identity = .ok capsule.failureDigest
  failureObject : ∃ object ∈ capsule.objects,
    object.objectId = request.failure.failure.objectId ∧ object.role = .failure
  world : request.world.worldId = .ok capsule.worldDigest

omit [Primitives] in
theorem replayObjects_perm {candidateObjects objects : List LogicalObject}
    (replay : replayObjects candidateObjects = .ok objects) :
    objects.Perm (candidateObjects.filter fun object => object.role ≠ .candidate) := by
  simp only [replayObjects, bind_eq_ok, pure_eq_ok] at replay
  obtain ⟨_, -, _, -, rfl⟩ := replay
  exact List.perm_insertionSort _ _

theorem closedCapsule {request : CandidateClosureRequest} {capsule : ReplayCapsule}
    (closed : closeReplayCapsule request = .ok capsule) : ClosedCapsule request capsule := by
  simp only [closeReplayCapsule, validateInputs, requirePayloadClosure, requireObject,
    bind_eq_ok, rejectIf_eq_ok, not_or, not_not, pure_eq_ok] at closed
  obtain ⟨_, ⟨_, candidate, _, identity, _, trigger, _, _, _, _, _, _, _, _, _, reference, _,
    inputIdentity, _, ⟨referenceIdentity, _⟩, _, worldId, sameWorld⟩, objects, replay, _, _, _, _,
    _, _, _, triggerDigest, _, _, _, _, _, _, _, ⟨_, _, _, ⟨object, member, named⟩, _⟩, _, _, _,
    failureIdentity, _, _, _, _, _, valid, rfl⟩ := closed
  constructor
  case valid => exact valid
  case objects => exact replayObjects_perm replay
  case subject => rfl
  case subjectDigest => rfl
  case trigger => exact trigger
  case triggerDigest => exact triggerDigest
  case failure =>
    simp only [Candidate.validate, bind_eq_ok] at candidate
    obtain ⟨_, -, _, failure, -⟩ := candidate
    rw [reference] at failure referenceIdentity
    simp only [FailurePayload.validate, bind_eq_ok, rejectIf_eq_ok, not_not]
    exact ⟨(), failure, (), identity, _, inputIdentity, referenceIdentity⟩
  case failureIdentity => exact failureIdentity
  case failureObject => exact ⟨object, member, named.1, named.2.1⟩
  case world => rw [worldId, sameWorld]

/-! ## When a closed capsule resolves -/

/-- The reader answers with the bytes, which have the size and digest of the object. -/
def Answers (read : ManifestReader) (object : LogicalObject) (bytes : Bytes) : Prop :=
  (∀ earlier, read earlier object = .ok bytes) ∧ bytes.length = object.plainSize.toNat ∧
    Digest.of bytes = object.plainDigest

/-- The objects that hold the manifests of a request. -/
def isNamedManifest (request : CandidateClosureRequest) (object : LogicalObject) : Bool :=
  Backend.isManifest .subject subjectClosureMediaType
      request.candidate.deployment.subject.artifactDigest object ||
    Backend.isManifest .trigger triggerMediaType (Digest.of (Canonical.text request.trigger))
      object ||
    isFailureObject object || isWorldManifest object || isTranscriptManifest object

/-- The reader has the documents of the request in canonical form, a valid manifest of
the subject and a valid transcript for a transcript object. -/
structure HonestReader (request : CandidateClosureRequest) (read : ManifestReader)
    (manifest : SubjectClosureManifest) (transcript : Option DependencyTranscript) : Prop where
  subjectBytes : ∀ object ∈ payloadObjects request,
    Backend.isManifest .subject subjectClosureMediaType
      request.candidate.deployment.subject.artifactDigest object = true →
      Answers read object (Canonical.text manifest)
  triggerBytes : ∀ object ∈ payloadObjects request,
    Backend.isManifest .trigger triggerMediaType (Digest.of (Canonical.text request.trigger))
      object =
      true → Answers read object (Canonical.text request.trigger)
  failureBytes : ∀ object ∈ payloadObjects request, isFailureObject object = true →
    Answers read object (Canonical.text request.failure)
  worldBytes : ∀ object ∈ payloadObjects request, isWorldManifest object = true →
    Answers read object (Canonical.text request.world)
  transcriptBytes : ∀ object ∈ payloadObjects request, isTranscriptManifest object = true →
    ∃ held ∈ transcript, Answers read object (Canonical.text held)
  transcriptObject : ∀ held ∈ transcript, held.validate = .ok () ∧
    ∃ object ∈ payloadObjects request, isTranscriptManifest object = true
  manifestValid : manifest.validate = .ok ()
  binds : bindsSubject manifest request.candidate.deployment.subject

/-- One selector for every object that the documents of a request name. -/
def requestReferences (request : CandidateClosureRequest) (manifest : SubjectClosureManifest)
    (transcript : Option DependencyTranscript) : List (LogicalObject → Bool) :=
  references request.candidate.deployment.subject.artifactDigest
    (Digest.of (Canonical.text request.trigger)) manifest request.trigger request.world transcript

/-- What is read from the bytes of a document is the document. -/
theorem Reads.eq_of_answers {α : Type} [Document α] [Validate α] {read : ManifestReader}
    {earlier : List LogicalObject} {object : LogicalObject} {expectedDigest : Digest}
    {value document : α} (reads : Reads read earlier object expectedDigest value)
    (exact : Document.Exact document)
    (answers : Answers read object (Canonical.text document)) : value = document := by
  obtain ⟨bytes, answered, -, -, strict⟩ := reads.answer
  rw [answers.1 earlier] at answered
  obtain rfl := Except.ok.inj answered
  rw [Canonical.parseStrict_bytes (Canonical.bytes_of_exact exact)] at strict
  exact (Except.ok.inj strict).symm

theorem reads_of_answers {α : Type} [Document α] [Validate α] {read : ManifestReader}
    {earlier : List LogicalObject} {object : LogicalObject} {document : α}
    (exact : Document.Exact document) (valid : validate document = .ok ())
    (bounded : object.plainSize.toNat ≤ maxManifestObjectBytes)
    (answers : Answers read object (Canonical.text document)) :
    Reads read earlier object object.plainDigest document := by
  obtain ⟨answered, size, content⟩ := answers
  constructor
  case bounded => exact bounded
  case bound => rfl
  case valid => exact valid
  case canonical => rw [Canonical.digest_of_exact exact, content]
  case answer =>
    exact ⟨_, answered earlier, size, content,
      Canonical.parseStrict_bytes (Canonical.bytes_of_exact exact)⟩

theorem ClosedCapsule.isSubjectManifest_iff {request : CandidateClosureRequest}
    {capsule : ReplayCapsule} (closed : ClosedCapsule request capsule) :
    capsule.isSubjectManifest = Backend.isManifest .subject subjectClosureMediaType
      request.candidate.deployment.subject.artifactDigest := by
  rw [← closed.subjectDigest]
  rfl

theorem ClosedCapsule.isTriggerDescriptor_iff {request : CandidateClosureRequest}
    {capsule : ReplayCapsule} (closed : ClosedCapsule request capsule) :
    capsule.isTriggerDescriptor = Backend.isManifest .trigger triggerMediaType
      (Digest.of (Canonical.text request.trigger)) := by
  have digest := closed.triggerDigest
  rw [Canonical.digest_of_exact request.trigger.exact] at digest
  rw [Except.ok.inj digest]
  rfl

theorem ClosedCapsule.validate_world {request : CandidateClosureRequest}
    {capsule : ReplayCapsule} (closed : ClosedCapsule request capsule) :
    request.world.validate = .ok () := by
  have identity := closed.world
  simp only [WorldCheckpoint.worldId, bind_eq_ok] at identity
  obtain ⟨_, valid, -⟩ := identity
  exact valid

/-- What a closed capsule resolves to has the documents of its request. -/
theorem ClosedCapsule.documents {request : CandidateClosureRequest} {capsule : ReplayCapsule}
    {read : ManifestReader} {manifest : SubjectClosureManifest}
    {transcript : Option DependencyTranscript} {resolved : ResolvedReplayCapsule}
    (closed : ClosedCapsule request capsule)
    (honest : HonestReader request read manifest transcript)
    (right : Resolves capsule read resolved) :
    resolved.subjectClosure = manifest ∧ resolved.trigger = request.trigger ∧
      resolved.failure = request.failure ∧ resolved.world = request.world ∧
      resolved.dependency.map ResolvedDependencyTranscript.transcript = transcript := by
  have payload : ∀ {object}, object ∈ capsule.objects → object ∈ payloadObjects request :=
    closed.objects.mem_iff.mp
  refine ⟨?_, ?_, ?_, ?_, ?_⟩
  · have unique := right.subject.unique
    rw [closed.isSubjectManifest_iff] at unique
    exact right.subject.reads.eq_of_answers (SubjectClosureManifest.exact honest.manifestValid)
      (honest.subjectBytes _ (payload unique.mem.1) unique.mem.2)
  · have unique := right.trigger.unique
    rw [closed.isTriggerDescriptor_iff] at unique
    exact right.trigger.reads.eq_of_answers request.trigger.exact
      (honest.triggerBytes _ (payload unique.mem.1) unique.mem.2)
  · have unique := right.failure.unique
    exact right.failure.reads.eq_of_answers request.failure.exact
      (honest.failureBytes _ (payload unique.mem.1) unique.mem.2)
  · have unique := right.world.unique
    exact right.world.reads.eq_of_answers
      (WorldCheckpoint.exact_of_validate closed.validate_world).1
      (honest.worldBytes _ (payload unique.mem.1) unique.mem.2)
  · have dependency := right.dependency
    cases resolvedTranscript : resolved.dependency with
    | none =>
        rw [resolvedTranscript, DependencyResolved, List.filter_eq_nil_iff] at dependency
        cases transcript with
        | none => rfl
        | some held =>
            obtain ⟨-, object, member, selected⟩ := honest.transcriptObject held rfl
            exact absurd selected (dependency object (closed.objects.mem_iff.mpr member))
    | some found =>
        rw [resolvedTranscript] at dependency
        obtain ⟨unique, reads, -⟩ := dependency
        obtain ⟨held, rfl, answers⟩ :=
          honest.transcriptBytes _ (payload unique.mem.1) unique.mem.2
        obtain ⟨valid, -⟩ := honest.transcriptObject held rfl
        rw [Option.map_some, reads.eq_of_answers (DependencyTranscript.exact valid) answers]

omit [Primitives] in
/-- Only the failure selector selects an object with the failure role. -/
theorem isFailureObject_of_references {subjectDigest triggerDigest : Digest}
    {manifest : SubjectClosureManifest} {trigger : Trigger} {world : WorldCheckpoint}
    {transcript : Option DependencyTranscript} {select : LogicalObject → Bool}
    {object : LogicalObject}
    (listed : select ∈ references subjectDigest triggerDigest manifest trigger world transcript)
    (selected : select object = true) (role : object.role = .failure) :
    isFailureObject object = true := by
  simp only [references, List.mem_append, List.mem_cons, List.mem_map, List.not_mem_nil,
    or_false] at listed
  rcases listed with (rfl | ⟨entry, -, rfl⟩) | (rfl | ⟨input, -, rfl⟩) | rfl |
    (rfl | ⟨entry, -, rfl⟩) | transcripts
  · simp [Backend.isManifest, role] at selected
  · simp [isSubjectMember, role] at selected
  · simp [Backend.isManifest, role] at selected
  · simp [isTriggerInput, role] at selected
  · exact selected
  · simp [isWorldManifest, role] at selected
  · simp [isWorldState, role] at selected
  · cases transcript with
    | none => cases transcripts
    | some transcript =>
        simp only [transcriptReferences, List.mem_cons, List.mem_flatMap, List.not_mem_nil,
          or_false] at transcripts
        rcases transcripts with rfl | ⟨interaction, -, rfl | rfl⟩
        · simp [isTranscriptManifest, role] at selected
        · simp [isTranscriptObject, role] at selected
        · simp [isTranscriptObject, role] at selected

/-- No manifest that the request names is larger than what the resolver parses. -/
def ManifestsFit (request : CandidateClosureRequest) : Prop :=
  ∀ object ∈ payloadObjects request, isNamedManifest request object = true →
    object.plainSize.toNat ≤ maxManifestObjectBytes

section Stages

variable {request : CandidateClosureRequest} {capsule : ReplayCapsule} {read : ManifestReader}
  {manifest : SubjectClosureManifest} {transcript : Option DependencyTranscript}

theorem ClosedCapsule.subjectResolved (closed : ClosedCapsule request capsule)
    (honest : HonestReader request read manifest transcript) (fit : ManifestsFit request)
    (one : capsule.objects.countP (Backend.isManifest .subject subjectClosureMediaType
      request.candidate.deployment.subject.artifactDigest) = 1)
    (each : ∀ entry ∈ manifest.objects, capsule.objects.countP (isSubjectMember entry) = 1) :
    ∃ manifestObject members, ∀ earlier,
      SubjectResolved capsule read earlier manifestObject manifest members := by
  obtain ⟨manifestObject, unique⟩ := exists_uniqueMatch.mpr one
  obtain ⟨members, matched⟩ := exists_matchEach each
  have member := closed.objects.mem_iff.mp unique.mem.1
  have selected := unique.mem.2
  have digest := selected
  simp only [Backend.isManifest, Bool.and_eq_true, decide_eq_true_eq] at digest
  have reads : ∀ earlier, Reads read earlier manifestObject manifestObject.plainDigest manifest :=
    fun earlier => reads_of_answers (SubjectClosureManifest.exact honest.manifestValid)
      honest.manifestValid (fit _ member (by simp [isNamedManifest, selected]))
      (honest.subjectBytes _ member selected)
  refine ⟨manifestObject, members, fun earlier => ?_⟩
  constructor
  case mediaType => exact (ReplayCapsule.validate_eq_ok.mp closed.valid).artifactMediaType
  case unique => rwa [closed.isSubjectManifest_iff]
  case reads =>
    rw [closed.subjectDigest, ← digest.2]
    exact reads earlier
  case binds =>
    rw [closed.subject]
    exact honest.binds
  case members => exact matched

theorem ClosedCapsule.triggerResolved (closed : ClosedCapsule request capsule)
    (honest : HonestReader request read manifest transcript) (fit : ManifestsFit request)
    (one : capsule.objects.countP (Backend.isManifest .trigger triggerMediaType
      (Digest.of (Canonical.text request.trigger))) = 1)
    (each : ∀ input ∈ request.trigger.inputs, capsule.objects.countP (isTriggerInput input) = 1) :
    ∃ triggerObject inputs, ∀ earlier,
      TriggerResolved capsule read earlier triggerObject request.trigger inputs := by
  obtain ⟨triggerObject, unique⟩ := exists_uniqueMatch.mpr one
  obtain ⟨inputs, matched⟩ := exists_matchEach each
  have member := closed.objects.mem_iff.mp unique.mem.1
  have selected := unique.mem.2
  have digest := closed.triggerDigest
  have answers := honest.triggerBytes _ member selected
  rw [Canonical.digest_of_exact request.trigger.exact, answers.2.2] at digest
  refine ⟨triggerObject, inputs, fun earlier => ?_⟩
  constructor
  case unique => rwa [closed.isTriggerDescriptor_iff]
  case reads =>
    rw [← Except.ok.inj digest]
    exact reads_of_answers request.trigger.exact closed.trigger
      (fit _ member (by simp [isNamedManifest, selected])) answers
  case inputs => exact matched

theorem ClosedCapsule.failureResolved (closed : ClosedCapsule request capsule)
    (honest : HonestReader request read manifest transcript) (fit : ManifestsFit request)
    (cover : ExactCover capsule.objects (requestReferences request manifest transcript))
    (one : capsule.objects.countP isFailureObject = 1) :
    ∃ failureObject, ∀ earlier,
      FailureResolved capsule read earlier failureObject request.failure := by
  obtain ⟨failureObject, unique⟩ := exists_uniqueMatch.mpr one
  have member := closed.objects.mem_iff.mp unique.mem.1
  have selected := unique.mem.2
  refine ⟨failureObject, fun earlier => ?_⟩
  constructor
  case unique => exact unique
  case reads =>
    exact reads_of_answers request.failure.exact closed.failure
      (fit _ member (by simp [isNamedManifest, selected])) (honest.failureBytes _ member selected)
  case objectId =>
    -- the object that the payload names is covered, and only by the failure selector
    obtain ⟨object, stored, sameId, role⟩ := closed.failureObject
    have once := cover.selected object stored
    obtain ⟨select, listed, chosen⟩ := List.countP_pos_iff.mp (once ▸ Nat.one_pos)
    have same := unique.eq_of_select stored (isFailureObject_of_references listed chosen role)
    rw [← sameId, same]
  case identity => exact closed.failureIdentity

theorem ClosedCapsule.worldResolved (closed : ClosedCapsule request capsule)
    (honest : HonestReader request read manifest transcript) (fit : ManifestsFit request)
    (one : capsule.objects.countP isWorldManifest = 1)
    (each : ∀ entry ∈ worldArtifactEntries request.world,
      capsule.objects.countP (isWorldState entry.1) = 1) :
    ∃ worldObject artifacts, ∀ earlier,
      WorldResolved capsule read earlier worldObject request.world artifacts := by
  obtain ⟨worldObject, unique⟩ := exists_uniqueMatch.mpr one
  obtain ⟨states, matched⟩ := @exists_matchEach _ _ _
    (fun entry : ArtifactReference × Nat => isWorldState entry.1) _ each
  have member := closed.objects.mem_iff.mp unique.mem.1
  have selected := unique.mem.2
  obtain ⟨artifacts, entries, sameStates⟩ := exists_resolvedArtifacts matched.length_eq
  refine ⟨worldObject, artifacts, fun earlier => ?_⟩
  constructor
  case unique => exact unique
  case reads =>
    exact reads_of_answers (WorldCheckpoint.exact_of_validate closed.validate_world).1
      closed.validate_world (fit _ member (by simp [isNamedManifest, selected]))
      (honest.worldBytes _ member selected)
  case identity => exact closed.world
  case entries => exact entries
  case objects => rwa [sameStates]

/-- A transcript that is named resolves. -/
theorem ClosedCapsule.dependencyResolved (closed : ClosedCapsule request capsule)
    (honest : HonestReader request read manifest transcript) (fit : ManifestsFit request)
    (selects : ∀ select ∈ transcriptReferences transcript, capsule.objects.countP select = 1) :
    ∃ dependency, (∀ earlier, DependencyResolved capsule read earlier dependency) ∧
      dependency.map ResolvedDependencyTranscript.transcript = transcript := by
  cases transcript with
  | none =>
      refine ⟨none, fun _ => List.filter_eq_nil_iff.mpr fun object member selected => ?_, rfl⟩
      obtain ⟨held, nothing, -⟩ :=
        honest.transcriptBytes object (closed.objects.mem_iff.mp member) selected
      cases nothing
  | some held =>
      simp only [transcriptReferences, List.forall_mem_cons, List.forall_mem_flatMap,
        List.not_mem_nil, false_implies, implies_true, and_true] at selects
      obtain ⟨manifestObject, unique⟩ := exists_uniqueMatch.mpr selects.1
      obtain ⟨interactions, each⟩ := exists_interactionsResolved selects.2
      have member := closed.objects.mem_iff.mp unique.mem.1
      have selected := unique.mem.2
      obtain ⟨valid, -⟩ := honest.transcriptObject held rfl
      obtain ⟨other, same, answers⟩ := honest.transcriptBytes _ member selected
      obtain rfl := Option.some.inj same
      exact ⟨some ⟨interactions, manifestObject, held⟩, fun _ => ⟨unique,
        reads_of_answers (DependencyTranscript.exact valid) valid
          (fit _ member (by simp [isNamedManifest, selected])) answers, each⟩, rfl⟩

/-- A closed capsule resolves when the documents cover its objects. -/
theorem ClosedCapsule.exists_resolves (closed : ClosedCapsule request capsule)
    (honest : HonestReader request read manifest transcript) (fit : ManifestsFit request)
    (cover : ExactCover (payloadObjects request)
      (requestReferences request manifest transcript)) :
    ∃ resolved, Resolves capsule read resolved := by
  have holds := ReplayCapsule.validate_eq_ok.mp closed.valid
  replace cover := cover.perm closed.objects.symm
  have selects := cover.selects
  simp only [requestReferences, references, List.forall_mem_append, List.forall_mem_cons,
    List.forall_mem_map, List.not_mem_nil, false_implies, implies_true, and_true] at selects
  obtain ⟨⟨subjectOne, memberOne⟩, ⟨triggerOne, inputOne⟩, failureOne, ⟨worldOne, stateOne⟩,
    transcriptOne⟩ := selects
  obtain ⟨subjectManifestObject, subjectObjects, subject⟩ :=
    closed.subjectResolved honest fit subjectOne memberOne
  obtain ⟨triggerObject, triggerInputs, trigger⟩ :=
    closed.triggerResolved honest fit triggerOne inputOne
  obtain ⟨failureObject, failure⟩ := closed.failureResolved honest fit cover failureOne
  obtain ⟨worldObject, worldArtifacts, world⟩ := closed.worldResolved honest fit worldOne stateOne
  obtain ⟨dependency, transcripts, sameTranscript⟩ :=
    closed.dependencyResolved honest fit transcriptOne
  let resolved : ResolvedReplayCapsule := {
    dependency, failureObject, subjectManifestObject, subjectObjects, triggerInputs,
    triggerObject, worldArtifacts, worldObject
    failure := request.failure
    subjectClosure := manifest
    trigger := request.trigger
    world := request.world }
  have each : MatchEach capsule.objects id (requestReferences request manifest transcript)
      resolved.descriptors := by
    have digest := closed.triggerDigest
    rw [Canonical.digest_of_exact request.trigger.exact] at digest
    rw [requestReferences, Except.ok.inj digest, ← closed.subjectDigest, ← sameTranscript]
    exact @matchEach_descriptors _ capsule read resolved [] [] [] [] [] (subject _) (trigger _)
      (failure _) (world _) (transcripts _)
  obtain ⟨found, others, exact⟩ := (exactCover_iff (holds.nodup.of_map _)).mp cover
  rw [others.unique each] at exact
  exact ⟨resolved, closed.valid, subject _, trigger _, failure _, world _, transcripts _, exact⟩

/-- What a closed capsule resolves to shows that its documents name every object once. -/
theorem ClosedCapsule.matchEach_of_resolves (closed : ClosedCapsule request capsule)
    (honest : HonestReader request read manifest transcript) {resolved : ResolvedReplayCapsule}
    (right : Resolves capsule read resolved) :
    MatchEach capsule.objects id (requestReferences request manifest transcript)
      resolved.descriptors := by
  obtain ⟨sameManifest, sameTrigger, -, sameWorld, sameTranscript⟩ :=
    closed.documents honest right
  have each := matchEach_descriptors right.subject right.trigger right.failure right.world
    right.dependency
  have digest := closed.triggerDigest
  rw [Canonical.digest_of_exact request.trigger.exact] at digest
  rwa [sameManifest, sameTrigger, sameWorld, sameTranscript, closed.subjectDigest,
    ← Except.ok.inj digest] at each

theorem ClosedCapsule.manifestsFit_of_resolves (closed : ClosedCapsule request capsule)
    {resolved : ResolvedReplayCapsule} (right : Resolves capsule read resolved) :
    ManifestsFit request := by
  intro object member named
  have stored := closed.objects.mem_iff.mpr member
  simp only [isNamedManifest, Bool.or_eq_true, ← closed.isSubjectManifest_iff,
    ← closed.isTriggerDescriptor_iff] at named
  rcases named with (((subject | trigger) | failure) | world) | transcripts
  · rw [right.subject.unique.eq_of_select stored subject]
    exact right.subject.reads.bounded
  · rw [right.trigger.unique.eq_of_select stored trigger]
    exact right.trigger.reads.bounded
  · rw [right.failure.unique.eq_of_select stored failure]
    exact right.failure.reads.bounded
  · rw [right.world.unique.eq_of_select stored world]
    exact right.world.reads.bounded
  · have dependency := right.dependency
    cases held : resolved.dependency with
    | none =>
        rw [held, DependencyResolved, List.filter_eq_nil_iff] at dependency
        exact absurd transcripts (dependency object stored)
    | some found =>
        rw [held] at dependency
        obtain ⟨unique, reads, -⟩ := dependency
        rw [unique.eq_of_select stored transcripts]
        exact reads.bounded

end Stages

/-- A closed capsule resolves to the documents of its request exactly when its manifests
are small and the documents name every object once. -/
theorem closeReplayCapsule_resolves_iff {request : CandidateClosureRequest}
    {capsule : ReplayCapsule} {read : ManifestReader} {manifest : SubjectClosureManifest}
    {transcript : Option DependencyTranscript}
    (closed : closeReplayCapsule request = .ok capsule)
    (honest : HonestReader request read manifest transcript) :
    (∃ resolved, resolveReplayCapsule capsule read = .ok resolved ∧
        resolved.trigger = request.trigger ∧ resolved.failure = request.failure ∧
        resolved.world = request.world) ↔
      ManifestsFit request ∧
        ExactCover (payloadObjects request) (requestReferences request manifest transcript) := by
  have shape := closedCapsule closed
  simp only [resolveReplayCapsule_eq_ok]
  constructor
  · rintro ⟨resolved, right, -⟩
    have distinct := (ReplayCapsule.validate_eq_ok.mp right.valid).nodup.of_map LogicalObject.objectId
    exact ⟨shape.manifestsFit_of_resolves right, ((exactCover_iff distinct).mpr
      ⟨_, shape.matchEach_of_resolves honest right, right.exact⟩).perm shape.objects⟩
  · rintro ⟨fit, cover⟩
    obtain ⟨resolved, right⟩ := shape.exists_resolves honest fit cover
    obtain ⟨-, sameTrigger, sameFailure, sameWorld, -⟩ := shape.documents honest right
    exact ⟨resolved, right, sameTrigger, sameFailure, sameWorld⟩

/-- The reader of a small capture is honest, whatever spare objects there are. -/
theorem honestReader_sample {world : WorldCheckpoint} (valid : world.validate = .ok ())
    (spare : Nat) :
    HonestReader (Sample.request world spare) (Sample.reader world) Sample.subjectManifest
      none := by
  have stored : ∀ object ∈ payloadObjects (Sample.request world spare),
      object ∈ Sample.objects world spare := by
    intro object member
    obtain ⟨listed, role⟩ := List.mem_filter.mp member
    rcases List.mem_cons.mp listed with rfl | held
    · exact absurd role Bool.false_ne_true
    · exact held
  have answers : ∀ object ∈ Sample.objects world spare, isManifestClass object = true →
      ∀ bytes, (∀ earlier, Sample.reader world earlier object = .ok bytes) →
        Answers (Sample.reader world) object bytes := by
    intro object member manifest bytes answered
    obtain ⟨found, read, size, content⟩ := Sample.reader_answers valid [] member manifest
    rw [answered []] at read
    obtain rfl := Except.ok.inj read
    exact ⟨answered, size, content⟩
  constructor
  case subjectBytes =>
    intro object member selected
    obtain rfl := (Sample.unique_subjectManifest world spare).eq_of_select (stored _ member) selected
    exact answers _ (stored _ member) rfl _ fun _ => rfl
  case triggerBytes =>
    intro object member selected
    obtain rfl := (Sample.unique_trigger world spare).eq_of_select (stored _ member) selected
    exact answers _ (stored _ member) rfl _ fun _ => rfl
  case failureBytes =>
    intro object member selected
    obtain rfl := (Sample.unique_failure world spare).eq_of_select (stored _ member) selected
    exact answers _ (stored _ member) rfl _ fun _ => rfl
  case worldBytes =>
    intro object member selected
    obtain rfl := (Sample.unique_world world spare).eq_of_select (stored _ member) selected
    exact answers _ (stored _ member) rfl _ fun _ => rfl
  case transcriptBytes =>
    intro object member selected
    have none := Sample.no_transcript world spare
    rw [List.filter_eq_nil_iff] at none
    exact absurd selected (none object (stored _ member))
  case transcriptObject => exact nofun
  case manifestValid => exact Sample.validate_subjectManifest
  case binds => exact ⟨rfl, rfl, rfl, rfl, rfl, rfl⟩

omit [Primitives] in
theorem closeReplayCapsule_resolves_iff_single :
    letI := Sample.primitives
    closeReplayCapsule (Sample.request Sample.single 0) = .ok (Sample.capsule Sample.single 0) ∧
      HonestReader (Sample.request Sample.single 0) (Sample.reader Sample.single)
        Sample.subjectManifest none ∧
      ((∃ resolved, resolveReplayCapsule (Sample.capsule Sample.single 0)
            (Sample.reader Sample.single) = .ok resolved ∧
          resolved.trigger = Sample.trigger ∧ resolved.failure = Sample.failure ∧
          resolved.world = Sample.single) ↔
        ManifestsFit (Sample.request Sample.single 0) ∧
          ExactCover (payloadObjects (Sample.request Sample.single 0))
            (requestReferences (Sample.request Sample.single 0) Sample.subjectManifest none)) := by
  let _ := Sample.primitives
  have closed := Sample.closeReplayCapsule_request Sample.validate_single Sample.storable_single
    (Nat.zero_le 24000)
  have honest := honestReader_sample Sample.validate_single 0
  exact ⟨closed, honest, closeReplayCapsule_resolves_iff closed honest⟩

omit [Primitives] in
/-- A capsule with an object that no document names is closed and does not resolve. -/
theorem not_resolves_with_spare :
    letI := Sample.primitives
    ¬ ∀ (request : CandidateClosureRequest) (capsule : ReplayCapsule) (read : ManifestReader)
        (manifest : SubjectClosureManifest) (transcript : Option DependencyTranscript),
      closeReplayCapsule request = .ok capsule →
        HonestReader request read manifest transcript →
        ∃ resolved, resolveReplayCapsule capsule read = .ok resolved ∧
          resolved.trigger = request.trigger ∧ resolved.failure = request.failure ∧
          resolved.world = request.world := by
  let _ := Sample.primitives
  intro agrees
  have closed := Sample.closeReplayCapsule_request Sample.validate_single Sample.storable_single
    (by decide : 1 ≤ 24000)
  have honest := honestReader_sample Sample.validate_single 1
  obtain ⟨resolved, success, -⟩ := agrees _ _ _ _ _ closed honest
  have right := resolveReplayCapsule_eq_ok.mp success
  -- the documents name seven objects, and the capsule has eight
  have named := ((closedCapsule closed).matchEach_of_resolves honest right).length_eq
  rw [right.exact.length_eq] at named
  exact absurd named (by decide)

end Reproit
