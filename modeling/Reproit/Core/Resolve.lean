/-
# Resolving a sealed replay capsule

The resolver binds every object of a sealed capsule to the manifest entry that names
it.  It reads the manifest-class objects through a reader, parses them, selects for
every entry the one object that matches it, and uses each object once.  An object
that no entry names is refused at the end.

The reader may answer differently from call to call, so a reader here also sees the
objects that were read before.
-/

import Reproit.Data.Ledger
import Reproit.Core.Model.World
import Reproit.Core.Model.SubjectClosure
import Reproit.Core.Model.Failure

namespace Reproit

variable [Primitives]

/-! ## Results -/

structure ResolvedWorldArtifact where
  artifact : ArtifactReference
  object : LogicalObject
  /-- Index into the points of the World for this artifact's recoverable point. -/
  pointIndex : Nat
  deriving DecidableEq

structure ResolvedInteraction where
  request : LogicalObject
  response : LogicalObject
  deriving DecidableEq

structure ResolvedDependencyTranscript where
  /-- One entry per interaction of the transcript, in the same order. -/
  interactions : List ResolvedInteraction
  manifestObject : LogicalObject
  transcript : DependencyTranscript
  deriving DecidableEq

/-- A capsule with every object bound to the manifest entry that names it. -/
structure ResolvedReplayCapsule where
  dependency : Option ResolvedDependencyTranscript
  failure : FailurePayload
  failureObject : LogicalObject
  subjectClosure : SubjectClosureManifest
  subjectManifestObject : LogicalObject
  /-- One descriptor per object of the subject closure, in the same order. -/
  subjectObjects : List LogicalObject
  trigger : Trigger
  /-- One descriptor per input of the trigger, in the same order. -/
  triggerInputs : List LogicalObject
  triggerObject : LogicalObject
  world : WorldCheckpoint
  worldArtifacts : List ResolvedWorldArtifact
  worldObject : LogicalObject
  deriving DecidableEq

/-! ## The resolver -/

/-- Plaintext bytes for one descriptor, given the descriptors that were read before. -/
abbrev ManifestReader := (earlier : List LogicalObject) → LogicalObject → Result Bytes

/-- The greatest size of a manifest that the resolver parses. -/
def maxManifestObjectBytes : Nat := 1048576

/-- The use of every capsule object, and the objects that were read so far. -/
structure Resolver where
  consumed : Ledger ObjectId
  calls : List LogicalObject

namespace Resolver

/-- The roles of replayable payload objects. -/
def isPayloadRole : LogicalObjectRole → Bool
  | .subject | .trigger | .failure | .worldManifest | .worldState | .dependencyTranscript => true
  | .admissionProof | .candidate | .captureBatchManifest | .debugSymbols
  | .replayCapsuleManifest => false

def new (objects : List LogicalObject) : Result Resolver := do
  forEach objects fun object => rejectIf (¬ isPayloadRole object.role) .schemaInvalid
  let consumed ← okOr (Ledger.opened (objects.map LogicalObject.objectId)) .schemaInvalid
  return { consumed, calls := [] }

def consume (state : Resolver) (object : LogicalObject) : Result Resolver := do
  let consumed ← okOr (state.consumed.consume object.objectId) .schemaInvalid
  return { state with consumed }

def requireComplete (state : Resolver) : Result Unit :=
  rejectIf (¬ state.consumed.complete) .schemaInvalid

end Resolver

/-- The only object that is selected. -/
def oneObject (objects : List LogicalObject) (select : LogicalObject → Bool) :
    Result LogicalObject :=
  match objects.filter select with
  | [object] => .ok object
  | _ => .error .schemaInvalid

/-- Read and parse one manifest. The bytes must have the size and digest of the
descriptor, and the document must be valid and canonical. -/
def parseManifest (α : Type) [Document α] [Validate α] (object : LogicalObject)
    (read : ManifestReader) (expectedDigest : Digest) (state : Resolver) :
    Result (α × Resolver) := do
  rejectIf (object.plainSize.toNat > maxManifestObjectBytes ∨
    object.plainDigest ≠ expectedDigest) .objectDigestMismatch
  let bytes ← read state.calls object
  rejectIf (bytes.length ≠ object.plainSize.toNat ∨ Digest.of bytes ≠ object.plainDigest)
    .objectDigestMismatch
  let value ← Canonical.parseStrict α bytes
  validate value
  let identity ← Canonical.digest value
  rejectIf (identity ≠ object.plainDigest) .objectDigestMismatch
  return (value, { state with calls := state.calls ++ [object] })

/-- For every entry in order, select its one object and use it. -/
def consumeMatches {γ : Type} (objects : List LogicalObject)
    (select : γ → LogicalObject → Bool) (mismatch : Error) :
    List γ → Resolver → Result (List LogicalObject × Resolver)
  | [], state => .ok ([], state)
  | entry :: rest, state => do
      let object ← (oneObject objects (select entry)).mapError fun _ => mismatch
      let state ← state.consume object
      let (others, state) ← consumeMatches objects select mismatch rest state
      return (object :: others, state)

def subjectBindingMismatch : Error :=
  .new .subjectDigestMismatch "The subject artifact does not match the sealed capsule."

/-- The launch record of the closure is the subject of the capsule. -/
def bindsSubject (manifest : SubjectClosureManifest) (subject : Subject) : Prop :=
  manifest.architecture = subject.architecture ∧
    manifest.operatingSystem = subject.operatingSystem ∧
    manifest.launch.executable = subject.executable ∧
    manifest.launch.arguments = subject.arguments ∧
    manifest.launch.workingDirectory = subject.workingDirectory ∧
    manifest.launch.environmentNames = subject.environmentNames

instance (manifest : SubjectClosureManifest) (subject : Subject) :
    Decidable (bindsSubject manifest subject) :=
  inferInstanceAs (Decidable (_ ∧ _))

def isSubjectMember (expected : SubjectClosureObject) (object : LogicalObject) : Bool :=
  object.role = .subject && object.mediaType = expected.mediaType &&
    object.plainDigest = expected.digest && object.plainSize = expected.size

def resolveSubject (capsule : ReplayCapsule) (read : ManifestReader) (state : Resolver) :
    Result ((LogicalObject × SubjectClosureManifest × List LogicalObject) × Resolver) := do
  rejectIf (capsule.subject.artifactMediaType ≠ subjectClosureMediaType) subjectBindingMismatch
  let manifestObject ← (oneObject capsule.objects capsule.isSubjectManifest).mapError
    fun _ => subjectBindingMismatch
  let state ← state.consume manifestObject
  let (manifest, state) ← parseManifest SubjectClosureManifest manifestObject read
    capsule.subjectDigest state
  rejectIf (¬ bindsSubject manifest capsule.subject) subjectBindingMismatch
  let (members, state) ← consumeMatches capsule.objects isSubjectMember subjectBindingMismatch
    manifest.objects state
  return ((manifestObject, manifest, members), state)

def isTriggerInput (input : TriggerInput) (object : LogicalObject) : Bool :=
  object.objectId = input.objectId && object.role = .trigger &&
    object.plainDigest = input.plainDigest

def resolveTrigger (capsule : ReplayCapsule) (read : ManifestReader) (state : Resolver) :
    Result ((LogicalObject × Trigger × List LogicalObject) × Resolver) := do
  let triggerObject ← oneObject capsule.objects capsule.isTriggerDescriptor
  let state ← state.consume triggerObject
  let (trigger, state) ← parseManifest Trigger triggerObject read
    capsule.triggerDigest state
  let (inputs, state) ← consumeMatches capsule.objects isTriggerInput .objectDigestMismatch
    trigger.inputs state
  return ((triggerObject, trigger, inputs), state)

def isFailureObject (object : LogicalObject) : Bool :=
  object.role = .failure && object.mediaType = failureMediaType

def resolveFailure (capsule : ReplayCapsule) (read : ManifestReader) (state : Resolver) :
    Result ((LogicalObject × FailurePayload) × Resolver) := do
  let failureObject ← oneObject capsule.objects isFailureObject
  let state ← state.consume failureObject
  let (failure, state) ← parseManifest FailurePayload failureObject read
    failureObject.plainDigest state
  let identity ← Canonical.digest failure.identity
  rejectIf (failure.failure.objectId ≠ failureObject.objectId ∨ identity ≠ capsule.failureDigest)
    .objectDigestMismatch
  return ((failureObject, failure), state)

def isWorldManifest (object : LogicalObject) : Bool :=
  object.role = .worldManifest && object.mediaType = worldManifestMediaType

def isWorldState (artifact : ArtifactReference) (object : LogicalObject) : Bool :=
  object.role = .worldState && object.mediaType = artifact.mediaType &&
    object.plainDigest = artifact.digest && object.plainSize = artifact.size

/-- Every artifact of every point in order, with the index of its point. -/
def worldArtifactEntries (world : WorldCheckpoint) : List (ArtifactReference × Nat) :=
  world.points.zipIdx.flatMap fun (point, pointIndex) =>
    point.artifacts.map fun artifact => (artifact, pointIndex)

def resolveWorld (capsule : ReplayCapsule) (read : ManifestReader) (state : Resolver) :
    Result ((LogicalObject × WorldCheckpoint × List ResolvedWorldArtifact) × Resolver) := do
  let worldObject ← oneObject capsule.objects isWorldManifest
  let state ← state.consume worldObject
  let (world, state) ← parseManifest WorldCheckpoint worldObject read
    worldObject.plainDigest state
  let worldId ← world.worldId
  rejectIf (worldId ≠ capsule.worldDigest) .objectDigestMismatch
  let entries := worldArtifactEntries world
  let (objects, state) ← consumeMatches capsule.objects (fun entry => isWorldState entry.1)
    .objectDigestMismatch entries state
  let artifacts := (entries.zip objects).map fun ((artifact, pointIndex), object) =>
    { artifact, object, pointIndex }
  return ((worldObject, world, artifacts), state)

def isTranscriptManifest (object : LogicalObject) : Bool :=
  object.role = .dependencyTranscript && object.mediaType = dependencyTranscriptMediaType

/-- A recorded request or response: its object and its digest. -/
structure TranscriptReference where
  objectId : ObjectId
  digest : Digest

def isTranscriptObject (reference : TranscriptReference) (object : LogicalObject) : Bool :=
  object.objectId = reference.objectId && object.role = .dependencyTranscript &&
    object.plainDigest = reference.digest

def DependencyTranscriptInteraction.request (interaction : DependencyTranscriptInteraction) :
    TranscriptReference := ⟨interaction.requestObjectId, interaction.requestDigest⟩

def DependencyTranscriptInteraction.response (interaction : DependencyTranscriptInteraction) :
    TranscriptReference := ⟨interaction.responseObjectId, interaction.responseDigest⟩

/-- For every interaction in order, select and use its request and then its response. -/
def resolveInteractions (objects : List LogicalObject) :
    List DependencyTranscriptInteraction → Resolver → Result (List ResolvedInteraction × Resolver)
  | [], state => .ok ([], state)
  | interaction :: rest, state => do
      let request ← (oneObject objects (isTranscriptObject interaction.request)).mapError
        fun _ => .objectDigestMismatch
      let state ← state.consume request
      let response ← (oneObject objects (isTranscriptObject interaction.response)).mapError
        fun _ => .objectDigestMismatch
      let state ← state.consume response
      let (others, state) ← resolveInteractions objects rest state
      return ({ request, response } :: others, state)

def resolveDependency (capsule : ReplayCapsule) (read : ManifestReader) (state : Resolver) :
    Result (Option ResolvedDependencyTranscript × Resolver) :=
  match capsule.objects.filter isTranscriptManifest with
  | [] => .ok (none, state)
  | [manifestObject] => do
      let state ← state.consume manifestObject
      let (transcript, state) ← parseManifest DependencyTranscript manifestObject read
        manifestObject.plainDigest state
      let (interactions, state) ← resolveInteractions capsule.objects transcript.interactions state
      return (some { interactions, manifestObject, transcript }, state)
  | _ => .error .schemaInvalid

/-- Resolve a capsule and record the objects that were read. -/
def resolveWithCalls (capsule : ReplayCapsule) (read : ManifestReader) :
    Result (ResolvedReplayCapsule × List LogicalObject) := do
  capsule.validate
  let state ← Resolver.new capsule.objects
  let ((subjectManifestObject, subjectClosure, subjectObjects), state) ←
    resolveSubject capsule read state
  let ((triggerObject, trigger, triggerInputs), state) ← resolveTrigger capsule read state
  let ((failureObject, failure), state) ← resolveFailure capsule read state
  let ((worldObject, world, worldArtifacts), state) ← resolveWorld capsule read state
  let (dependency, state) ← resolveDependency capsule read state
  state.requireComplete
  return ({ dependency, failure, failureObject, subjectClosure, subjectManifestObject,
            subjectObjects, trigger, triggerInputs, triggerObject, world, worldArtifacts,
            worldObject }, state.calls)

def resolveReplayCapsule (capsule : ReplayCapsule) (read : ManifestReader) :
    Result ResolvedReplayCapsule :=
  Prod.fst <$> resolveWithCalls capsule read

end Reproit
