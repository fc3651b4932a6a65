/-
# What a resolution accounts for

A resolved capsule accounts for every object once, and every object is what its
manifest entry demands.  So a World can be captured only when no two of its artifacts
have one content, although a valid World may read one state twice.
-/

import Reproit.Backend.Sample

namespace Reproit

open Backend

variable [Primitives]

/-! ## A resolution accounts for every object -/

/-- Every descriptor of the resolution has what the entry that names it demands, and
lists are in the order of their entries. -/
structure Demanded (capsule : ReplayCapsule) (resolved : ResolvedReplayCapsule) : Prop where
  subjectManifest : resolved.subjectManifestObject.role = .subject ∧
    resolved.subjectManifestObject.mediaType = subjectClosureMediaType ∧
    resolved.subjectManifestObject.plainDigest = capsule.subjectDigest
  subjectObjects : List.Forall₂ (fun (entry : SubjectClosureObject) (object : LogicalObject) =>
      object.role = .subject ∧ object.mediaType = entry.mediaType ∧
        object.plainDigest = entry.digest ∧ object.plainSize = entry.size)
    resolved.subjectClosure.objects resolved.subjectObjects
  trigger : resolved.triggerObject.role = .trigger ∧
    resolved.triggerObject.mediaType = triggerMediaType ∧
    resolved.triggerObject.plainDigest = capsule.triggerDigest
  triggerInputs : List.Forall₂ (fun (input : TriggerInput) (object : LogicalObject) =>
      object.objectId = input.objectId ∧ object.role = .trigger ∧
        object.plainDigest = input.plainDigest)
    resolved.trigger.inputs resolved.triggerInputs
  failure : resolved.failureObject.role = .failure ∧
    resolved.failureObject.mediaType = failureMediaType ∧
    resolved.failureObject.objectId = resolved.failure.failure.objectId ∧
    Canonical.digest resolved.failure = .ok resolved.failureObject.plainDigest
  world : resolved.worldObject.role = .worldManifest ∧
    resolved.worldObject.mediaType = worldManifestMediaType ∧
    resolved.world.worldId = .ok capsule.worldDigest ∧
    resolved.worldObject.plainDigest = capsule.worldDigest
  worldEntries : resolved.worldArtifacts.map (fun found => (found.artifact, found.pointIndex)) =
    worldArtifactEntries resolved.world
  worldArtifacts : ∀ found ∈ resolved.worldArtifacts, found.object.role = .worldState ∧
    found.object.mediaType = found.artifact.mediaType ∧
    found.object.plainDigest = found.artifact.digest ∧
    found.object.plainSize = found.artifact.size
  transcript : ∀ dependency ∈ resolved.dependency,
    (dependency.manifestObject.role = .dependencyTranscript ∧
      dependency.manifestObject.mediaType = dependencyTranscriptMediaType ∧
      Canonical.digest dependency.transcript = .ok dependency.manifestObject.plainDigest) ∧
    List.Forall₂ (fun (interaction : DependencyTranscriptInteraction)
        (found : ResolvedInteraction) =>
      (found.request.objectId = interaction.requestObjectId ∧
        found.request.role = .dependencyTranscript ∧
        found.request.plainDigest = interaction.requestDigest) ∧
      (found.response.objectId = interaction.responseObjectId ∧
        found.response.role = .dependencyTranscript ∧
        found.response.plainDigest = interaction.responseDigest))
      dependency.transcript.interactions dependency.interactions

theorem Resolves.demanded {capsule : ReplayCapsule} {read : ManifestReader}
    {resolved : ResolvedReplayCapsule} (right : Resolves capsule read resolved) :
    Demanded capsule resolved := by
  constructor
  case subjectManifest =>
    simpa [ReplayCapsule.isSubjectManifest, and_assoc] using right.subject.unique.mem.2
  case subjectObjects =>
    refine right.subject.members.imp fun entry object unique => ?_
    simpa [isSubjectMember, and_assoc] using unique.mem.2
  case trigger =>
    simpa [ReplayCapsule.isTriggerDescriptor, and_assoc] using right.trigger.unique.mem.2
  case triggerInputs =>
    refine right.trigger.inputs.imp fun input object unique => ?_
    simpa [isTriggerInput, and_assoc] using unique.mem.2
  case failure =>
    have selected := right.failure.unique.mem.2
    simp only [isFailureObject, Bool.and_eq_true, decide_eq_true_eq] at selected
    exact ⟨selected.1, selected.2, right.failure.objectId.symm, right.failure.reads.canonical⟩
  case world =>
    have selected := right.world.unique.mem.2
    simp only [isWorldManifest, Bool.and_eq_true, decide_eq_true_eq] at selected
    have identity := right.world.identity
    simp only [WorldCheckpoint.worldId, bind_eq_ok] at identity
    obtain ⟨_, -, identity⟩ := identity
    rw [right.world.reads.canonical] at identity
    exact ⟨selected.1, selected.2, right.world.identity, Except.ok.inj identity⟩
  case worldEntries => exact right.world.entries
  case worldArtifacts =>
    have each := right.world.objects
    rw [← right.world.entries, MatchEach, List.forall₂_map_left_iff, List.forall₂_map_right_iff,
      List.forall₂_same] at each
    intro found member
    simpa [isWorldState, and_assoc] using (each found member).mem.2
  case transcript =>
    intro dependency held
    have resolvedDependency := right.dependency
    rw [Option.mem_def.mp held] at resolvedDependency
    obtain ⟨unique, reads, each⟩ := resolvedDependency
    have selected := unique.mem.2
    simp only [isTranscriptManifest, Bool.and_eq_true, decide_eq_true_eq] at selected
    refine ⟨⟨selected.1, selected.2, reads.canonical⟩, each.imp ?_⟩
    rintro interaction found ⟨request, response⟩
    have requested := request.mem.2
    have responded := response.mem.2
    simp only [isTranscriptObject, Bool.and_eq_true, decide_eq_true_eq, and_assoc] at requested
    simp only [isTranscriptObject, Bool.and_eq_true, decide_eq_true_eq, and_assoc] at responded
    exact ⟨requested, responded⟩

/-- The resolver reads manifests only. -/
theorem Resolves.manifests {capsule : ReplayCapsule} {read : ManifestReader}
    {resolved : ResolvedReplayCapsule} (right : Resolves capsule read resolved) :
    (∀ call ∈ resolved.manifests, call ∈ capsule.objects ∧ isManifestClass call = true) ∧
      resolved.manifests.length ≤ 5 := by
  have demanded := right.demanded
  constructor
  · intro call member
    simp only [ResolvedReplayCapsule.manifests, dependencyManifests, List.mem_append,
      List.mem_singleton, Option.mem_toList, Option.map_eq_some_iff] at member
    rcases member with rfl | rfl | rfl | rfl | ⟨dependency, held, rfl⟩
    · exact ⟨right.subject.unique.mem.1, by simp [isManifestClass, demanded.subjectManifest]⟩
    · exact ⟨right.trigger.unique.mem.1, by simp [isManifestClass, demanded.trigger]⟩
    · exact ⟨right.failure.unique.mem.1, by
        simp [isManifestClass, isFailureObject, demanded.failure]⟩
    · exact ⟨right.world.unique.mem.1, by
        simp [isManifestClass, isWorldManifest, demanded.world]⟩
    · have resolvedDependency := right.dependency
      rw [held] at resolvedDependency
      exact ⟨resolvedDependency.1.mem.1, by
        simp [isManifestClass, resolvedDependency.1.mem.2]⟩
  · cases held : resolved.dependency <;>
      simp [ResolvedReplayCapsule.manifests, dependencyManifests, held]

/-- Replay closure is exact: the descriptors of a resolution are the objects of the
capsule, each once, and each is what its manifest entry demands. -/
theorem resolveReplayCapsule_exact {capsule : ReplayCapsule} {read : ManifestReader}
    {resolved : ResolvedReplayCapsule}
    (success : resolveReplayCapsule capsule read = .ok resolved) :
    resolved.descriptors.Perm capsule.objects ∧ resolved.descriptors.Nodup ∧
      Demanded capsule resolved ∧
      ∃ calls, resolveWithCalls capsule read = .ok (resolved, calls) ∧
        (∀ call ∈ calls, call ∈ capsule.objects ∧ isManifestClass call = true) ∧
        calls.length ≤ 5 := by
  rw [resolveReplayCapsule, map_eq_ok] at success
  obtain ⟨⟨_, calls⟩, run, rfl⟩ := success
  obtain ⟨right, rfl⟩ := resolveWithCalls_eq_ok.mp run
  have distinct : capsule.objects.Nodup :=
    (ReplayCapsule.validate_eq_ok.mp right.valid).nodup.of_map _
  exact ⟨right.exact, right.exact.nodup_iff.mpr distinct, right.demanded, _, run,
    right.manifests⟩

omit [Primitives] in
/-- The capture of one state resolves, and every object of it is accounted for. -/
theorem resolveReplayCapsule_exact_single :
    letI := Sample.primitives
    resolveReplayCapsule (Sample.capsule Sample.single 0) (Sample.reader Sample.single) =
        .ok (Sample.resolved Sample.single) ∧
      (Sample.resolved Sample.single).descriptors.Perm
        (Sample.capsule Sample.single 0).objects := by
  let _ := Sample.primitives
  have success := Sample.resolveReplayCapsule_capsule Sample.validate_single
    Sample.storable_single
  exact ⟨success, (resolveReplayCapsule_exact success).1⟩

/-! ## Which Worlds can be captured -/

/-- Some candidate of the World is closed, and its capsule resolves to the World from
manifests that have the digests and sizes of their objects. -/
def Captured (world : WorldCheckpoint) : Prop :=
  ∃ (request : CandidateClosureRequest) (capsule : ReplayCapsule) (read : ManifestReader)
    (resolved : ResolvedReplayCapsule),
    request.world = world ∧ closeReplayCapsule request = .ok capsule ∧
      (∀ earlier, ∀ object ∈ capsule.objects, isManifestClass object = true →
        ∃ bytes, read earlier object = .ok bytes ∧ bytes.length = object.plainSize.toNat ∧
          Digest.of bytes = object.plainDigest) ∧
      resolveReplayCapsule capsule read = .ok resolved ∧ resolved.world = world

/-- The objects of a resolution store the artifacts of its World, one object each. -/
theorem Resolves.storable {capsule : ReplayCapsule} {read : ManifestReader}
    {resolved : ResolvedReplayCapsule} (right : Resolves capsule read resolved) :
    resolved.world.Storable := by
  have holds := ReplayCapsule.validate_eq_ok.mp right.valid
  have distinct : (resolved.worldArtifacts.map ResolvedWorldArtifact.object).Nodup := by
    have all : resolved.descriptors.Nodup := right.exact.nodup_iff.mpr (holds.nodup.of_map _)
    refine all.sublist ?_
    rw [ResolvedReplayCapsule.descriptors]
    exact ((((List.sublist_append_left _ _).cons _).trans (List.sublist_append_right _ _)).trans
      (List.sublist_append_right _ _)).trans (List.sublist_append_right _ _)
  constructor
  case distinct =>
    have each : MatchEach capsule.objects isWorldState resolved.world.artifacts
        (resolved.worldArtifacts.map ResolvedWorldArtifact.object) := by
      rw [← map_fst_worldArtifactEntries, MatchEach, List.forall₂_map_left_iff]
      exact right.world.objects
    rw [List.nodup_iff_pairwise_ne, List.pairwise_map]
    refine (each.pairwise_ne distinct).imp fun different same => different ?_
    simp only [ArtifactReference.content, Prod.mk.injEq] at same
    obtain ⟨mediaType, digest, size⟩ := same
    funext object
    simp only [isWorldState, mediaType, digest, size]
  case mediaTypes =>
    intro artifact member
    rw [← map_fst_worldArtifactEntries] at member
    obtain ⟨entry, listed, rfl⟩ := List.mem_map.mp member
    obtain ⟨object, -, unique⟩ := right.world.objects.exists_of_mem listed
    obtain ⟨stored, selected⟩ := unique.mem
    simp only [isWorldState, Bool.and_eq_true, decide_eq_true_eq] at selected
    rw [← selected.1.1.2]
    exact (LogicalObject.validate_eq_ok.mp (holds.objects object stored).1).length

/-- A World can be captured exactly when no content occurs twice in it and every media
type fits an object descriptor. -/
theorem captured_iff {world : WorldCheckpoint} (valid : world.validate = .ok ()) :
    Captured world ↔ world.Storable := by
  constructor
  · rintro ⟨_, capsule, read, resolved, -, -, -, success, rfl⟩
    exact (resolveReplayCapsule_eq_ok.mp success).storable
  · intro storable
    exact ⟨Sample.request world 0, Sample.capsule world 0, Sample.reader world,
      Sample.resolved world, rfl,
      Sample.closeReplayCapsule_request valid storable (Nat.zero_le _),
      fun earlier _ member manifest => Sample.reader_answers valid earlier member manifest,
      Sample.resolveReplayCapsule_capsule valid storable, rfl⟩

omit [Primitives] in
theorem captured_iff_single :
    letI := Sample.primitives
    Sample.single.validate = .ok () ∧ (Captured Sample.single ↔ Sample.single.Storable) :=
  let _ := Sample.primitives
  ⟨Sample.validate_single, captured_iff Sample.validate_single⟩

omit [Primitives] in
/-- A World that read one state twice is valid and cannot be captured. -/
theorem not_captured_repeated :
    letI := Sample.primitives
    ¬ ∀ world : WorldCheckpoint, world.validate = .ok () → Captured world := by
  let _ := Sample.primitives
  intro captured
  obtain ⟨_, capsule, read, resolved, -, -, -, success, same⟩ :=
    captured Sample.repeated Sample.validate_repeated
  have storable := (resolveReplayCapsule_eq_ok.mp success).storable
  rw [same] at storable
  exact absurd storable.distinct (by decide)

end Reproit
