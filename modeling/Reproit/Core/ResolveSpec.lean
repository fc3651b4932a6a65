/-
# What resolving establishes

`Resolves` says in terms of the capsule alone when a resolution is right: every
manifest is the one object of its class and was read from its bytes, every entry is
matched by exactly one object, and the matched objects are a permutation of the
capsule's objects.  The resolver returns exactly the resolutions that are right.

Each stage has one lemma that separates what it selects and reads from how it
advances the resolver: the objects it uses and the objects it reads.
-/

import Reproit.Data.Cover
import Reproit.Core.Resolve

namespace Reproit

/-! ## Advancing the resolver -/

namespace Resolver

/-- Going on from one state uses the objects of `used` and reads those of `read`. -/
def Advances (state : Resolver) (used read : List LogicalObject) (next : Resolver) : Prop :=
  state.consumed.consumeAll (used.map LogicalObject.objectId) = some next.consumed ∧
    next.calls = state.calls ++ read

theorem Advances.refl (state : Resolver) : state.Advances [] [] state :=
  ⟨rfl, (List.append_nil _).symm⟩

theorem advances_nil {state next : Resolver} : state.Advances [] [] next ↔ state = next := by
  constructor
  · rintro ⟨consumed, calls⟩
    obtain ⟨nextConsumed, nextCalls⟩ := next
    rw [List.append_nil] at calls
    have same : state.consumed = nextConsumed := Option.some.inj consumed
    cases state
    simp_all
  · rintro rfl
    exact .refl state

/-- Advancing by two sequences is advancing by one and then by the other. -/
theorem advances_append {state next : Resolver} {firstUsed firstRead used read : List LogicalObject} :
    state.Advances (firstUsed ++ used) (firstRead ++ read) next ↔
      ∃ middle, state.Advances firstUsed firstRead middle ∧ middle.Advances used read next := by
  simp only [Advances, Ledger.consumeAll, List.map_append, List.foldlM_append,
    Option.bind_eq_bind, Option.bind_eq_some_iff]
  constructor
  · rintro ⟨⟨middle, first, rest⟩, calls⟩
    exact ⟨⟨middle, state.calls ++ firstRead⟩, ⟨first, rfl⟩, rest, by rw [calls, List.append_assoc]⟩
  · rintro ⟨middle, ⟨first, firstCalls⟩, rest, calls⟩
    exact ⟨⟨_, first, rest⟩, by rw [calls, firstCalls, List.append_assoc]⟩

theorem advances_cons {state next : Resolver} {object : LogicalObject}
    {used read : List LogicalObject} :
    state.Advances (object :: used) read next ↔
      ∃ middle, state.Advances [object] [] middle ∧ middle.Advances used read next := by
  rw [← advances_append, List.singleton_append, List.nil_append]

theorem consume_eq_ok {state next : Resolver} {object : LogicalObject} :
    state.consume object = .ok next ↔ state.Advances [object] [] next := by
  obtain ⟨nextConsumed, nextCalls⟩ := next
  have single : state.consumed.consumeAll [object.objectId] =
      state.consumed.consume object.objectId := by
    rw [Ledger.consumeAll, List.foldlM_cons]
    cases state.consumed.consume object.objectId <;> rfl
  simp only [consume, Advances, List.map_cons, List.map_nil, single, bind_eq_ok, okOr_eq_ok,
    pure_eq_ok, Resolver.mk.injEq, List.append_nil]
  constructor
  · rintro ⟨consumed, used, rfl, rfl⟩
    exact ⟨used, rfl⟩
  · rintro ⟨used, rfl⟩
    exact ⟨_, used, rfl, rfl⟩

/-- Reading leaves the use of objects as it is. -/
theorem advances_read {state next : Resolver} {object : LogicalObject} :
    { state with calls := state.calls ++ [object] } = next ↔ state.Advances [] [object] next := by
  obtain ⟨nextConsumed, nextCalls⟩ := next
  simp [Advances, Ledger.consumeAll, eq_comm]

/-- Without a reading the objects that were read stay the same. -/
theorem Advances.calls_eq {state next : Resolver} {used : List LogicalObject}
    (advanced : state.Advances used [] next) : next.calls = state.calls := by
  rw [advanced.2, List.append_nil]

theorem Advances.calls_eq_append {state next : Resolver} {used read earlier : List LogicalObject}
    (advanced : state.Advances used read next) (calls : state.calls = earlier) :
    next.calls = earlier ++ read := by
  rw [advanced.2, calls]

/-- A stage uses one manifest, reads it and then uses what it names. -/
theorem advances_stage {state next : Resolver} {manifest : LogicalObject}
    {members : List LogicalObject} :
    state.Advances (manifest :: members) [manifest] next ↔
      ∃ used, state.Advances [manifest] [] used ∧ ∃ parsed, used.Advances [] [manifest] parsed ∧
        parsed.Advances members [] next := by
  rw [advances_cons]
  refine exists_congr fun used => and_congr_right fun _ => ?_
  rw [← advances_append, List.nil_append, List.append_nil]

end Resolver

theorem oneObject_eq_ok {objects : List LogicalObject} {select : LogicalObject → Bool}
    {object : LogicalObject} :
    oneObject objects select = .ok object ↔ UniqueMatch objects select object := by
  unfold oneObject UniqueMatch
  split
  · rename_i found single
    simp [single]
  · rename_i notSingle
    simp only [reduceCtorEq, false_iff]
    exact notSingle object

/-- A loop of matches selects the one object of every entry and uses them in order. -/
theorem consumeMatches_eq_ok {γ : Type} {objects : List LogicalObject}
    {select : γ → LogicalObject → Bool} {mismatch : Error} {entries : List γ}
    {state next : Resolver} {found : List LogicalObject} :
    consumeMatches objects select mismatch entries state = .ok (found, next) ↔
      MatchEach objects select entries found ∧ state.Advances found [] next := by
  induction entries generalizing state found next with
  | nil =>
      simp only [consumeMatches, Except.ok.injEq, Prod.mk.injEq, MatchEach]
      constructor
      · rintro ⟨rfl, rfl⟩
        exact ⟨.nil, .refl state⟩
      · rintro ⟨each, advanced⟩
        cases each
        exact ⟨rfl, Resolver.advances_nil.mp advanced⟩
  | cons entry entries ih =>
      simp only [consumeMatches, bind_eq_ok, mapError_eq_ok, oneObject_eq_ok,
        Resolver.consume_eq_ok, pure_eq_ok, Prod.exists, Prod.mk.injEq, ih, MatchEach]
      constructor
      · rintro ⟨object, unique, middle, used, others, last, ⟨each, advanced⟩, rfl, rfl⟩
        exact ⟨.cons unique each, Resolver.advances_cons.mpr ⟨middle, used, advanced⟩⟩
      · rintro ⟨each, advanced⟩
        cases each with
        | cons unique each =>
            obtain ⟨middle, used, rest⟩ := Resolver.advances_cons.mp advanced
            exact ⟨_, unique, middle, used, _, _, ⟨each, rest⟩, rfl, rfl⟩

/-! ## Reading -/

variable [Primitives]

/-- The manifest reads as the value: its bytes have the size and digest that the
descriptor and the capsule name, and they are the canonical bytes of a valid value. -/
structure Reads {α : Type} [Document α] [Validate α] (read : ManifestReader)
    (earlier : List LogicalObject) (object : LogicalObject) (expectedDigest : Digest)
    (value : α) : Prop where
  bounded : object.plainSize.toNat ≤ maxManifestObjectBytes
  bound : object.plainDigest = expectedDigest
  valid : validate value = .ok ()
  canonical : Canonical.digest value = .ok object.plainDigest
  answer : ∃ bytes, read earlier object = .ok bytes ∧ bytes.length = object.plainSize.toNat ∧
    Digest.of bytes = object.plainDigest ∧ Canonical.parseStrict α bytes = .ok value

theorem parseManifest_eq_ok {α : Type} [Document α] [Validate α] {object : LogicalObject}
    {read : ManifestReader} {expectedDigest : Digest} {state next : Resolver} {value : α} :
    parseManifest α object read expectedDigest state = .ok (value, next) ↔
      Reads read state.calls object expectedDigest value ∧ state.Advances [] [object] next := by
  simp only [parseManifest, bind_eq_ok, rejectIf_eq_ok, pure_eq_ok, not_or, not_not, not_lt,
    Prod.mk.injEq, ← Resolver.advances_read]
  constructor
  · rintro ⟨_, ⟨bounded, bound⟩, bytes, answered, _, ⟨size, content⟩, parsed, strict, _, valid,
      _, canonical, _, rfl, rfl, advanced⟩
    exact ⟨⟨bounded, bound, valid, canonical, bytes, answered, size, content, strict⟩, advanced⟩
  · rintro ⟨⟨bounded, bound, valid, canonical, bytes, answered, size, content, strict⟩, advanced⟩
    exact ⟨(), ⟨bounded, bound⟩, bytes, answered, (), ⟨size, content⟩, value, strict, (), valid,
      _, canonical, (), rfl, rfl, advanced⟩

/-! ## The stages -/

structure SubjectResolved (capsule : ReplayCapsule) (read : ManifestReader)
    (earlier : List LogicalObject) (manifestObject : LogicalObject)
    (manifest : SubjectClosureManifest) (members : List LogicalObject) : Prop where
  mediaType : capsule.subject.artifactMediaType = subjectClosureMediaType
  unique : UniqueMatch capsule.objects capsule.isSubjectManifest manifestObject
  reads : Reads read earlier manifestObject capsule.subjectDigest manifest
  binds : bindsSubject manifest capsule.subject
  members : MatchEach capsule.objects isSubjectMember manifest.objects members

structure TriggerResolved (capsule : ReplayCapsule) (read : ManifestReader)
    (earlier : List LogicalObject) (triggerObject : LogicalObject) (trigger : Trigger)
    (inputs : List LogicalObject) : Prop where
  unique : UniqueMatch capsule.objects capsule.isTriggerDescriptor triggerObject
  reads : Reads read earlier triggerObject capsule.triggerDigest trigger
  inputs : MatchEach capsule.objects isTriggerInput trigger.inputs inputs

structure FailureResolved (capsule : ReplayCapsule) (read : ManifestReader)
    (earlier : List LogicalObject) (failureObject : LogicalObject) (failure : FailurePayload) :
    Prop where
  unique : UniqueMatch capsule.objects isFailureObject failureObject
  reads : Reads read earlier failureObject failureObject.plainDigest failure
  objectId : failure.failure.objectId = failureObject.objectId
  identity : Canonical.digest failure.identity = .ok capsule.failureDigest

structure WorldResolved (capsule : ReplayCapsule) (read : ManifestReader)
    (earlier : List LogicalObject) (worldObject : LogicalObject) (world : WorldCheckpoint)
    (artifacts : List ResolvedWorldArtifact) : Prop where
  unique : UniqueMatch capsule.objects isWorldManifest worldObject
  reads : Reads read earlier worldObject worldObject.plainDigest world
  identity : world.worldId = .ok capsule.worldDigest
  entries : artifacts.map (fun resolved => (resolved.artifact, resolved.pointIndex)) =
    worldArtifactEntries world
  objects : MatchEach capsule.objects (fun entry => isWorldState entry.1)
    (worldArtifactEntries world) (artifacts.map ResolvedWorldArtifact.object)

/-- The request and the response of every interaction are the objects it names. -/
def InteractionsResolved (objects : List LogicalObject)
    (recorded : List DependencyTranscriptInteraction) (resolved : List ResolvedInteraction) :
    Prop :=
  List.Forall₂ (fun interaction found =>
    UniqueMatch objects (isTranscriptObject interaction.request) found.request ∧
      UniqueMatch objects (isTranscriptObject interaction.response) found.response)
    recorded resolved

/-- The objects of the interactions, every request before its response. -/
def interactionObjects (interactions : List ResolvedInteraction) : List LogicalObject :=
  interactions.flatMap fun interaction => [interaction.request, interaction.response]

omit [Primitives] in
theorem InteractionsResolved.subset {objects : List LogicalObject}
    {recorded : List DependencyTranscriptInteraction} {resolved : List ResolvedInteraction}
    (each : InteractionsResolved objects recorded resolved) :
    interactionObjects resolved ⊆ objects := by
  induction each with
  | nil => exact List.nil_subset _
  | cons first _ ih =>
      exact List.cons_subset.mpr ⟨first.1.mem.1, List.cons_subset.mpr ⟨first.2.mem.1, ih⟩⟩

def DependencyResolved (capsule : ReplayCapsule) (read : ManifestReader)
    (earlier : List LogicalObject) : Option ResolvedDependencyTranscript → Prop
  | none => capsule.objects.filter isTranscriptManifest = []
  | some dependency =>
      UniqueMatch capsule.objects isTranscriptManifest dependency.manifestObject ∧
        Reads read earlier dependency.manifestObject dependency.manifestObject.plainDigest
          dependency.transcript ∧
        InteractionsResolved capsule.objects dependency.transcript.interactions
          dependency.interactions

/-- The manifest of a resolved transcript, if there is one. -/
def dependencyManifests (dependency : Option ResolvedDependencyTranscript) : List LogicalObject :=
  (dependency.map ResolvedDependencyTranscript.manifestObject).toList

/-- The objects of a resolved transcript. -/
def dependencyObjects : Option ResolvedDependencyTranscript → List LogicalObject
  | none => []
  | some dependency => dependency.manifestObject :: interactionObjects dependency.interactions

/-! ## One lemma for every stage -/

theorem resolveSubject_eq_ok {capsule : ReplayCapsule} {read : ManifestReader}
    {state next : Resolver} {manifestObject : LogicalObject} {manifest : SubjectClosureManifest}
    {members : List LogicalObject} :
    resolveSubject capsule read state = .ok ((manifestObject, manifest, members), next) ↔
      SubjectResolved capsule read state.calls manifestObject manifest members ∧
        state.Advances (manifestObject :: members) [manifestObject] next := by
  simp only [resolveSubject, bind_eq_ok, rejectIf_eq_ok, not_not, mapError_eq_ok,
    oneObject_eq_ok, Resolver.consume_eq_ok, Prod.exists, parseManifest_eq_ok,
    consumeMatches_eq_ok, pure_eq_ok, Prod.mk.injEq, Resolver.advances_stage]
  constructor
  · rintro ⟨_, mediaType, _, unique, used, consumed, _, parsed, ⟨reads, parsing⟩, _, binds,
      _, _, ⟨each, rest⟩, ⟨rfl, rfl, rfl⟩, rfl⟩
    rw [consumed.calls_eq] at reads
    exact ⟨⟨mediaType, unique, reads, binds, each⟩, used, consumed, parsed, parsing, rest⟩
  · rintro ⟨⟨mediaType, unique, reads, binds, each⟩, used, consumed, parsed, parsing, rest⟩
    rw [← consumed.calls_eq] at reads
    exact ⟨(), mediaType, _, unique, used, consumed, _, parsed, ⟨reads, parsing⟩, (), binds,
      _, _, ⟨each, rest⟩, ⟨rfl, rfl, rfl⟩, rfl⟩

theorem resolveTrigger_eq_ok {capsule : ReplayCapsule} {read : ManifestReader}
    {state next : Resolver} {triggerObject : LogicalObject} {trigger : Trigger}
    {inputs : List LogicalObject} :
    resolveTrigger capsule read state = .ok ((triggerObject, trigger, inputs), next) ↔
      TriggerResolved capsule read state.calls triggerObject trigger inputs ∧
        state.Advances (triggerObject :: inputs) [triggerObject] next := by
  simp only [resolveTrigger, bind_eq_ok, oneObject_eq_ok, Resolver.consume_eq_ok, Prod.exists,
    parseManifest_eq_ok, consumeMatches_eq_ok, pure_eq_ok, Prod.mk.injEq,
    Resolver.advances_stage]
  constructor
  · rintro ⟨_, unique, used, consumed, _, parsed, ⟨reads, parsing⟩, _, _, ⟨each, rest⟩,
      ⟨rfl, rfl, rfl⟩, rfl⟩
    rw [consumed.calls_eq] at reads
    exact ⟨⟨unique, reads, each⟩, used, consumed, parsed, parsing, rest⟩
  · rintro ⟨⟨unique, reads, each⟩, used, consumed, parsed, parsing, rest⟩
    rw [← consumed.calls_eq] at reads
    exact ⟨_, unique, used, consumed, _, parsed, ⟨reads, parsing⟩, _, _, ⟨each, rest⟩,
      ⟨rfl, rfl, rfl⟩, rfl⟩

theorem resolveFailure_eq_ok {capsule : ReplayCapsule} {read : ManifestReader}
    {state next : Resolver} {failureObject : LogicalObject} {failure : FailurePayload} :
    resolveFailure capsule read state = .ok ((failureObject, failure), next) ↔
      FailureResolved capsule read state.calls failureObject failure ∧
        state.Advances [failureObject] [failureObject] next := by
  simp only [resolveFailure, bind_eq_ok, oneObject_eq_ok, Resolver.consume_eq_ok, Prod.exists,
    parseManifest_eq_ok, rejectIf_eq_ok, not_or, not_not, pure_eq_ok, Prod.mk.injEq,
    Resolver.advances_stage, Resolver.advances_nil]
  constructor
  · rintro ⟨_, unique, used, consumed, _, parsed, ⟨reads, parsing⟩, _, identity, _,
      ⟨objectId, rfl⟩, ⟨rfl, rfl⟩, rfl⟩
    rw [consumed.calls_eq] at reads
    exact ⟨⟨unique, reads, objectId, identity⟩, used, consumed, parsed, parsing, rfl⟩
  · rintro ⟨⟨unique, reads, objectId, identity⟩, used, consumed, parsed, parsing, rfl⟩
    rw [← consumed.calls_eq] at reads
    exact ⟨_, unique, used, consumed, _, parsed, ⟨reads, parsing⟩, _, identity, (),
      ⟨objectId, rfl⟩, ⟨rfl, rfl⟩, rfl⟩

omit [Primitives] in
/-- Pairing entries with objects loses neither. -/
theorem resolvedArtifacts_eq {entries : List (ArtifactReference × Nat)}
    {objects : List LogicalObject} (same : entries.length = objects.length)
    (artifacts : List ResolvedWorldArtifact) :
    ((entries.zip objects).map fun ((artifact, pointIndex), object) =>
        ({ artifact, object, pointIndex } : ResolvedWorldArtifact)) = artifacts ↔
      artifacts.map (fun resolved => (resolved.artifact, resolved.pointIndex)) = entries ∧
        artifacts.map ResolvedWorldArtifact.object = objects := by
  constructor
  · rintro rfl
    constructor
    · rw [List.map_map]
      exact List.map_fst_zip same.le
    · rw [List.map_map]
      exact List.map_snd_zip same.ge
  · rintro ⟨rfl, rfl⟩
    rw [List.zip_map', List.map_map]
    exact List.map_id artifacts

omit [Primitives] in
theorem exists_resolvedArtifacts {entries : List (ArtifactReference × Nat)}
    {objects : List LogicalObject} (same : entries.length = objects.length) :
    ∃ artifacts : List ResolvedWorldArtifact,
      artifacts.map (fun resolved => (resolved.artifact, resolved.pointIndex)) = entries ∧
        artifacts.map ResolvedWorldArtifact.object = objects :=
  ⟨_, (resolvedArtifacts_eq same _).mp rfl⟩

theorem resolveWorld_eq_ok {capsule : ReplayCapsule} {read : ManifestReader}
    {state next : Resolver} {worldObject : LogicalObject} {world : WorldCheckpoint}
    {artifacts : List ResolvedWorldArtifact} :
    resolveWorld capsule read state = .ok ((worldObject, world, artifacts), next) ↔
      WorldResolved capsule read state.calls worldObject world artifacts ∧
        state.Advances (worldObject :: artifacts.map ResolvedWorldArtifact.object)
          [worldObject] next := by
  simp only [resolveWorld, bind_eq_ok, oneObject_eq_ok, Resolver.consume_eq_ok, Prod.exists,
    parseManifest_eq_ok, rejectIf_eq_ok, not_not, consumeMatches_eq_ok, pure_eq_ok,
    Prod.mk.injEq, Resolver.advances_stage]
  constructor
  · rintro ⟨_, unique, used, consumed, _, parsed, ⟨reads, parsing⟩, _, identity, _, rfl,
      objects, _, ⟨each, rest⟩, ⟨rfl, rfl, paired⟩, rfl⟩
    rw [consumed.calls_eq] at reads
    obtain ⟨entries, rfl⟩ := (resolvedArtifacts_eq each.length_eq artifacts).mp paired
    exact ⟨⟨unique, reads, identity, entries, each⟩, used, consumed, parsed, parsing, rest⟩
  · rintro ⟨⟨unique, reads, identity, entries, each⟩, used, consumed, parsed, parsing, rest⟩
    rw [← consumed.calls_eq] at reads
    have paired := (resolvedArtifacts_eq each.length_eq artifacts).mpr ⟨entries, rfl⟩
    exact ⟨_, unique, used, consumed, _, parsed, ⟨reads, parsing⟩, _, identity, (), rfl,
      _, _, ⟨each, rest⟩, ⟨rfl, rfl, paired⟩, rfl⟩

omit [Primitives] in
theorem resolveInteractions_eq_ok {objects : List LogicalObject}
    {recorded : List DependencyTranscriptInteraction} {state next : Resolver}
    {resolved : List ResolvedInteraction} :
    resolveInteractions objects recorded state = .ok (resolved, next) ↔
      InteractionsResolved objects recorded resolved ∧
        state.Advances (interactionObjects resolved) [] next := by
  induction recorded generalizing state next resolved with
  | nil =>
      simp only [resolveInteractions, Except.ok.injEq, Prod.mk.injEq, InteractionsResolved]
      constructor
      · rintro ⟨rfl, rfl⟩
        exact ⟨.nil, .refl state⟩
      · rintro ⟨each, advanced⟩
        cases each
        exact ⟨rfl, Resolver.advances_nil.mp advanced⟩
  | cons interaction recorded ih =>
      simp only [resolveInteractions, bind_eq_ok, mapError_eq_ok, oneObject_eq_ok,
        Resolver.consume_eq_ok, pure_eq_ok, Prod.exists, Prod.mk.injEq, ih, InteractionsResolved]
      have split : ∀ (found : ResolvedInteraction) (others : List ResolvedInteraction),
          interactionObjects (found :: others) =
            found.request :: found.response :: interactionObjects others := fun _ _ => rfl
      constructor
      · rintro ⟨request, uniqueRequest, first, usedRequest, response, uniqueResponse, second,
          usedResponse, others, _, ⟨each, rest⟩, rfl, rfl⟩
        refine ⟨.cons ⟨uniqueRequest, uniqueResponse⟩ each, ?_⟩
        rw [split]
        exact Resolver.advances_cons.mpr ⟨first, usedRequest,
          Resolver.advances_cons.mpr ⟨second, usedResponse, rest⟩⟩
      · rintro ⟨each, advanced⟩
        cases each with
        | cons unique each =>
            rw [split] at advanced
            obtain ⟨first, usedRequest, advanced⟩ := Resolver.advances_cons.mp advanced
            obtain ⟨second, usedResponse, rest⟩ := Resolver.advances_cons.mp advanced
            exact ⟨_, unique.1, first, usedRequest, _, unique.2, second, usedResponse, _, _,
              ⟨each, rest⟩, rfl, rfl⟩

theorem resolveDependency_eq_ok {capsule : ReplayCapsule} {read : ManifestReader}
    {state next : Resolver} {dependency : Option ResolvedDependencyTranscript} :
    resolveDependency capsule read state = .ok (dependency, next) ↔
      DependencyResolved capsule read state.calls dependency ∧
        state.Advances (dependencyObjects dependency) (dependencyManifests dependency) next := by
  unfold resolveDependency
  split
  · rename_i nothing
    simp only [Except.ok.injEq, Prod.mk.injEq]
    constructor
    · rintro ⟨rfl, rfl⟩
      exact ⟨nothing, .refl state⟩
    · rintro ⟨resolved, advanced⟩
      cases dependency with
      | none => exact ⟨rfl, Resolver.advances_nil.mp advanced⟩
      | some found =>
          have single := resolved.1
          rw [UniqueMatch, nothing] at single
          cases single
  · rename_i manifestObject single
    simp only [bind_eq_ok, Resolver.consume_eq_ok, Prod.exists, parseManifest_eq_ok,
      resolveInteractions_eq_ok, pure_eq_ok, Prod.mk.injEq]
    constructor
    · rintro ⟨used, consumed, transcript, parsed, ⟨reads, parsing⟩, interactions, last,
        ⟨each, rest⟩, rfl, rfl⟩
      rw [consumed.calls_eq] at reads
      exact ⟨⟨single, reads, each⟩,
        Resolver.advances_stage.mpr ⟨used, consumed, parsed, parsing, rest⟩⟩
    · rintro ⟨resolved, advanced⟩
      cases dependency with
      | none =>
          rw [DependencyResolved, single] at resolved
          cases resolved
      | some found =>
          obtain ⟨unique, reads, each⟩ := resolved
          rw [UniqueMatch, single, List.singleton_inj] at unique
          subst unique
          obtain ⟨used, consumed, parsed, parsing, rest⟩ :=
            Resolver.advances_stage.mp (advanced : state.Advances
              (found.manifestObject :: interactionObjects found.interactions) _ next)
          rw [← consumed.calls_eq] at reads
          exact ⟨used, consumed, _, parsed, ⟨reads, parsing⟩, _, _, ⟨each, rest⟩, rfl, rfl⟩
  · rename_i notNone notSingle
    simp only [reduceCtorEq, false_iff, not_and]
    intro resolved
    cases dependency with
    | none => exact absurd resolved notNone
    | some found => exact absurd resolved.1 (notSingle found.manifestObject)

/-! ## The whole resolution -/

/-- The classes of objects that hold a manifest. -/
def isManifestClass (object : LogicalObject) : Bool :=
  (object.role = .subject && object.mediaType = subjectClosureMediaType) ||
    (object.role = .trigger && object.mediaType = triggerMediaType) ||
    isFailureObject object || isWorldManifest object || isTranscriptManifest object

namespace ResolvedReplayCapsule

/-- Every descriptor of the resolution, stage by stage. -/
def descriptors (resolved : ResolvedReplayCapsule) : List LogicalObject :=
  resolved.subjectManifestObject :: resolved.subjectObjects ++
    (resolved.triggerObject :: resolved.triggerInputs ++
      ([resolved.failureObject] ++
        (resolved.worldObject :: resolved.worldArtifacts.map ResolvedWorldArtifact.object ++
          dependencyObjects resolved.dependency)))

/-- The manifest-class objects of the resolution. -/
def manifests (resolved : ResolvedReplayCapsule) : List LogicalObject :=
  [resolved.subjectManifestObject] ++ ([resolved.triggerObject] ++ ([resolved.failureObject] ++
    ([resolved.worldObject] ++ dependencyManifests resolved.dependency)))

end ResolvedReplayCapsule

/-- When a resolution of a capsule is right. -/
structure Resolves (capsule : ReplayCapsule) (read : ManifestReader)
    (resolved : ResolvedReplayCapsule) : Prop where
  valid : capsule.validate = .ok ()
  subject : SubjectResolved capsule read [] resolved.subjectManifestObject
    resolved.subjectClosure resolved.subjectObjects
  trigger : TriggerResolved capsule read [resolved.subjectManifestObject] resolved.triggerObject
    resolved.trigger resolved.triggerInputs
  failure : FailureResolved capsule read
    [resolved.subjectManifestObject, resolved.triggerObject] resolved.failureObject
    resolved.failure
  world : WorldResolved capsule read
    [resolved.subjectManifestObject, resolved.triggerObject, resolved.failureObject]
    resolved.worldObject resolved.world resolved.worldArtifacts
  dependency : DependencyResolved capsule read
    [resolved.subjectManifestObject, resolved.triggerObject, resolved.failureObject,
      resolved.worldObject] resolved.dependency
  exact : resolved.descriptors.Perm capsule.objects

/-- Every descriptor of right stages is an object of the capsule. -/
theorem descriptors_subset {capsule : ReplayCapsule} {read : ManifestReader}
    {resolved : ResolvedReplayCapsule}
    {subjectEarlier triggerEarlier failureEarlier worldEarlier dependencyEarlier :
      List LogicalObject}
    (subject : SubjectResolved capsule read subjectEarlier resolved.subjectManifestObject
      resolved.subjectClosure resolved.subjectObjects)
    (trigger : TriggerResolved capsule read triggerEarlier resolved.triggerObject
      resolved.trigger resolved.triggerInputs)
    (failure : FailureResolved capsule read failureEarlier resolved.failureObject
      resolved.failure)
    (world : WorldResolved capsule read worldEarlier resolved.worldObject resolved.world
      resolved.worldArtifacts)
    (dependency : DependencyResolved capsule read dependencyEarlier resolved.dependency) :
    resolved.descriptors ⊆ capsule.objects := by
  have transcript : dependencyObjects resolved.dependency ⊆ capsule.objects := by
    cases held : resolved.dependency with
    | none => exact List.nil_subset _
    | some found =>
        rw [held] at dependency
        obtain ⟨unique, -, each⟩ := dependency
        exact List.cons_subset.mpr ⟨unique.mem.1, each.subset⟩
  simp only [ResolvedReplayCapsule.descriptors, List.append_subset, List.cons_subset]
  exact ⟨⟨subject.unique.mem.1, subject.members.subset⟩,
    ⟨trigger.unique.mem.1, trigger.inputs.subset⟩,
    ⟨failure.unique.mem.1, List.nil_subset _⟩,
    ⟨world.unique.mem.1, world.objects.subset⟩, transcript⟩

omit [Primitives] in
/-- Part of a list with distinct keys is a permutation of it when its keys are. -/
theorem perm_of_map_perm {found objects : List LogicalObject}
    (distinct : (objects.map LogicalObject.objectId).Nodup) (subset : found ⊆ objects)
    (ids : (found.map LogicalObject.objectId).Perm (objects.map LogicalObject.objectId)) :
    found.Perm objects := by
  have nodup : found.Nodup := (ids.nodup_iff.mpr distinct).of_map _
  refine (List.subperm_of_subset nodup subset).perm_of_length_le ?_
  have length := ids.length_eq
  rw [List.length_map, List.length_map] at length
  exact length.ge

omit [Primitives] in
theorem new_eq_ok {objects : List LogicalObject} {state : Resolver} :
    Resolver.new objects = .ok state ↔
      (∀ object ∈ objects, Resolver.isPayloadRole object.role) ∧
        Ledger.opened (objects.map LogicalObject.objectId) = some state.consumed ∧
        state.calls = [] := by
  obtain ⟨consumed, calls⟩ := state
  simp only [Resolver.new, bind_eq_ok, forEach_eq_ok, rejectIf_eq_ok, not_not, okOr_eq_ok,
    pure_eq_ok, Resolver.mk.injEq]
  constructor
  · rintro ⟨_, roles, _, fresh, rfl, rfl⟩
    exact ⟨roles, fresh, rfl⟩
  · rintro ⟨roles, fresh, rfl⟩
    exact ⟨(), roles, consumed, fresh, rfl, rfl⟩

omit [Primitives] in
/-- A fresh resolver exists for every valid capsule. -/
theorem exists_new {capsule : ReplayCapsule} (valid : capsule.validate = .ok ()) :
    ∃ state, Resolver.new capsule.objects = .ok state := by
  have holds := ReplayCapsule.validate_eq_ok.mp valid
  obtain ⟨ledger, fresh⟩ := Ledger.exists_opened holds.nodup
  refine ⟨⟨ledger, []⟩, new_eq_ok.mpr ⟨fun object member => ?_, fresh, rfl⟩⟩
  obtain ⟨checked, noProof, noCandidate, noSymbols, noManifest⟩ := holds.objects object member
  have noBatch := (LogicalObject.validate_eq_ok.mp checked).role
  cases role : object.role <;> simp_all [Resolver.isPayloadRole]

omit [Primitives] in
/-- A resolver that started fresh is complete exactly when it used a permutation of
the objects. -/
theorem exists_complete_iff {capsule : ReplayCapsule} {start : Resolver}
    {used read : List LogicalObject} (valid : capsule.validate = .ok ())
    (fresh : Resolver.new capsule.objects = .ok start) (subset : used ⊆ capsule.objects) :
    (∃ last, start.Advances used read last ∧ last.consumed.complete) ↔
      used.Perm capsule.objects := by
  obtain ⟨-, opened, -⟩ := new_eq_ok.mp fresh
  have cover := @Ledger.consumeAll_complete_iff_perm _ _ _ (used.map LogicalObject.objectId)
    _ opened
  constructor
  · rintro ⟨last, advanced, complete⟩
    exact perm_of_map_perm (ReplayCapsule.validate_eq_ok.mp valid).nodup subset
      (cover.mp ⟨last.consumed, advanced.1, complete⟩)
  · intro perm
    obtain ⟨ledger, run, complete⟩ := cover.mpr (perm.map _)
    exact ⟨⟨ledger, start.calls ++ read⟩, ⟨run, rfl⟩, complete⟩

/-- The resolver returns exactly the right resolutions, and it reads exactly the
manifest-class objects of the resolution. -/
theorem resolveWithCalls_eq_ok {capsule : ReplayCapsule} {read : ManifestReader}
    {resolved : ResolvedReplayCapsule} {calls : List LogicalObject} :
    resolveWithCalls capsule read = .ok (resolved, calls) ↔
      Resolves capsule read resolved ∧ calls = resolved.manifests := by
  simp only [resolveWithCalls, bind_eq_ok, Prod.exists, resolveSubject_eq_ok,
    resolveTrigger_eq_ok, resolveFailure_eq_ok, resolveWorld_eq_ok, resolveDependency_eq_ok,
    Resolver.requireComplete, rejectIf_eq_ok, not_not, pure_eq_ok, Prod.mk.injEq]
  constructor
  · rintro ⟨_, valid, start, fresh, subjectManifestObject, subjectClosure, subjectObjects,
      afterSubject, ⟨subject, subjectStep⟩, triggerObject, trigger, triggerInputs, afterTrigger,
      ⟨triggerResolved, triggerStep⟩, failureObject, failure, afterFailure,
      ⟨failureResolved, failureStep⟩, worldObject, world, worldArtifacts, afterWorld,
      ⟨worldResolved, worldStep⟩, dependency, last, ⟨dependencyResolved, dependencyStep⟩, _,
      complete, rfl, rfl⟩
    have noCalls : start.calls = [] := (new_eq_ok.mp fresh).2.2
    have subjectCalls := subjectStep.calls_eq_append noCalls
    have triggerCalls := triggerStep.calls_eq_append subjectCalls
    have failureCalls := failureStep.calls_eq_append triggerCalls
    have worldCalls := worldStep.calls_eq_append failureCalls
    rw [noCalls] at subject
    rw [subjectCalls] at triggerResolved
    rw [triggerCalls] at failureResolved
    rw [failureCalls] at worldResolved
    rw [worldCalls] at dependencyResolved
    have advanced := Resolver.advances_append.mpr ⟨_, subjectStep, Resolver.advances_append.mpr
      ⟨_, triggerStep, Resolver.advances_append.mpr ⟨_, failureStep,
        Resolver.advances_append.mpr ⟨_, worldStep, dependencyStep⟩⟩⟩⟩
    refine ⟨⟨valid, subject, triggerResolved, failureResolved, worldResolved,
      dependencyResolved, ?_⟩, ?_⟩
    · exact (exists_complete_iff valid fresh (descriptors_subset subject triggerResolved
        failureResolved worldResolved dependencyResolved)).mp ⟨last, advanced, complete⟩
    · rw [advanced.2, noCalls, List.nil_append]
      rfl
  · rintro ⟨right, rfl⟩
    obtain ⟨start, fresh⟩ := exists_new right.valid
    have noCalls : start.calls = [] := (new_eq_ok.mp fresh).2.2
    have subset := descriptors_subset right.subject right.trigger right.failure right.world
      right.dependency
    obtain ⟨last, (advanced : start.Advances _ resolved.manifests last), complete⟩ :=
      (exists_complete_iff right.valid fresh subset).mpr
      right.exact
    have calls := advanced.2
    obtain ⟨afterSubject, subjectStep, advanced⟩ := Resolver.advances_append.mp advanced
    obtain ⟨afterTrigger, triggerStep, advanced⟩ := Resolver.advances_append.mp advanced
    obtain ⟨afterFailure, failureStep, advanced⟩ := Resolver.advances_append.mp advanced
    obtain ⟨afterWorld, worldStep, dependencyStep⟩ := Resolver.advances_append.mp advanced
    have subjectCalls := subjectStep.calls_eq_append noCalls
    have triggerCalls := triggerStep.calls_eq_append subjectCalls
    have failureCalls := failureStep.calls_eq_append triggerCalls
    have worldCalls := worldStep.calls_eq_append failureCalls
    exact ⟨(), right.valid, start, fresh, _, _, _, afterSubject,
      ⟨noCalls.symm ▸ right.subject, subjectStep⟩, _, _, _, afterTrigger,
      ⟨subjectCalls.symm ▸ right.trigger, triggerStep⟩, _, _, afterFailure,
      ⟨triggerCalls.symm ▸ right.failure, failureStep⟩, _, _, _, afterWorld,
      ⟨failureCalls.symm ▸ right.world, worldStep⟩, _, last,
      ⟨worldCalls.symm ▸ right.dependency, dependencyStep⟩, (), complete, rfl, by
        rw [calls, noCalls, List.nil_append]⟩

theorem resolveReplayCapsule_eq_ok {capsule : ReplayCapsule} {read : ManifestReader}
    {resolved : ResolvedReplayCapsule} :
    resolveReplayCapsule capsule read = .ok resolved ↔ Resolves capsule read resolved := by
  rw [resolveReplayCapsule, map_eq_ok]
  constructor
  · rintro ⟨⟨_, calls⟩, run, rfl⟩
    exact (resolveWithCalls_eq_ok.mp run).1
  · intro right
    exact ⟨_, resolveWithCalls_eq_ok.mpr ⟨right, rfl⟩, rfl⟩

end Reproit
