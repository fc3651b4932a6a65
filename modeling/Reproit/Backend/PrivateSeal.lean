/-
# Sealing a private candidate

The Runtime closes one private candidate from the bytes that its providers hold.  The
trigger and the dependency transcript are derived from the records, the objects are named
and collected in one order, and the capsule that closes them is bound to the captured
processor and resolved before it is returned.
-/

import Reproit.Backend.DerivedId
import Reproit.Backend.Managed
import Reproit.Backend.PrivateClosure
import Reproit.Backend.Processor
import Reproit.Core.Resolve
import Reproit.Subject.Names

namespace Reproit.Backend

/-! ## Sources -/

def maxExchangeBytes : Nat := 1024 * 1024

def maxWorldArtifactBytes : Nat := 4 * 1024 * 1024 * 1024

def transcriptBodyMediaType : String := "application/octet-stream"

/-- A dependency exchange that the Runtime found for a cursor of the candidate. -/
structure ResolvedDependencyExchange where
  cursor : DependencyCursorPayload
  request : Bytes
  response : Bytes

/-- What the executor and its isolation are identified by. -/
structure PrivateClosureEvidence where
  executorIdentity : Digest
  isolationIdentity : Digest

structure PrivateClosureSources where
  candidate : Candidate
  debugArtifact : Bytes
  dependencies : List ResolvedDependencyExchange
  evidence : PrivateClosureEvidence
  subjectBinary : Bytes
  support : BackendSupportPackage
  world : WorldCheckpoint
  /-- One entry for every artifact of the World, in the order of the manifest. -/
  worldArtifacts : List Bytes

structure SealedPrivateCapsule where
  capsule : ReplayCapsule
  capsuleDigest : Digest
  closure : WorldClosure
  failure : FailurePayload
  objects : OrderedMap ObjectId Bytes

variable [Primitives]

/-! ## The subject -/

def singleFileExecutablePath : String := "/reproit/subject/bin/subject"

def singleFileDebugPath : String := "/reproit/subject/debug/subject.debug"

def singleFileMediaType : String := "application/vnd.reproit.subject-file.v1"

def singleFileDebugMediaType : String := "application/vnd.reproit.dwarf.v1"

/-- The closure of a subject that is one file with its debug artifact. -/
def singleFileSubjectClosure (subject : Subject) (binary debugArtifact : Bytes)
    (family : SubjectRuntimeFamily) : Result SubjectClosureManifest := do
  let binarySize ← okOr (uint64OfNat binary.length) subjectIncomplete
  let debugSize ← okOr (uint64OfNat debugArtifact.length) subjectIncomplete
  let binaryDigest := Digest.of binary
  let debugDigest := Digest.of debugArtifact
  let objects : List SubjectClosureObject :=
    [{ digest := binaryDigest
       kind := .application
       mediaType := singleFileMediaType
       size := binarySize },
     { digest := debugDigest
       kind := .debugArtifact
       mediaType := singleFileDebugMediaType
       size := debugSize }]
  let totalBytes ← okOr (checkedAdd binarySize debugSize) subjectIncomplete
  let manifest : SubjectClosureManifest := {
    architecture := subject.architecture
    debugArtifacts := [{ artifactDigest := debugDigest
                         kind := .dwarf
                         moduleDigest := binaryDigest
                         path := singleFileDebugPath }]
    files := [
      { executable := true, objectDigest := binaryDigest, path := singleFileExecutablePath },
      { executable := false, objectDigest := debugDigest, path := singleFileDebugPath }]
    format := .v1
    launch := {
      arguments := subject.arguments
      environmentNames := subject.environmentNames
      executable := subject.executable
      workingDirectory := subject.workingDirectory }
    modules := [{ identity := binaryDigest.toText
                  moduleDigest := binaryDigest
                  path := singleFileExecutablePath }]
    objects := objects.insertionSort (·.digest ≤ ·.digest)
    operatingSystem := subject.operatingSystem
    runtimeFamily := family
    totalBytes }
  manifest.validate
  return manifest

/-- The closure of the bytes is the one that the deployment is bound to. -/
def verifySingleFileSubject (subject : Subject) (binary debugArtifact : Bytes)
    (family : SubjectRuntimeFamily) : Result SubjectClosureManifest := do
  let manifest ← singleFileSubjectClosure subject binary debugArtifact family
  let digest ← Canonical.digest manifest
  rejectIf (digest ≠ subject.artifactDigest) subjectBindingMismatch
  return manifest

def sdkFamily (capability : String) : Option SubjectRuntimeFamily :=
  [("sdk.dotnet", SubjectRuntimeFamily.dotnet), ("sdk.go", .go), ("sdk.node", .node),
    ("sdk.python", .python), ("sdk.rust", .rust)].lookup capability

omit [Primitives] in
/-- The family of the only SDK capability. -/
def runtimeFamily (candidate : Candidate) : Result SubjectRuntimeFamily :=
  match candidate.deployment.runtimeCapabilities.filterMap sdkFamily with
  | [family] => .ok family
  | [] => .error (.new .unsupportedCapabilitySet
      "The candidate does not declare one supported SDK capability.")
  | _ => .error (incomplete "one SDK capability")

/-! ## The trigger -/

def deriveTriggerInput (candidate : Candidate) (entry : OperationInputPayload × Bytes) :
    Result TriggerInput := do
  let objectId ← deriveObjectId candidate "trigger-input" (Digest.of entry.2)
    entry.1.inputIndex.toUInt32
  return {
    channel := entry.1.channel
    objectId
    plainDigest := entry.1.valueDigest
    sequence := entry.1.inputIndex }

/-- How an operation of a kind would have completed. -/
def derivedCompletion : OperationKind → TriggerCompletion
  | .deliveredWork => .taskEnd
  | .requestResponse => .return'
  | .stream => .streamEnd

def deriveTrigger (candidate : Candidate) (records : DecodedRecords) : Result Trigger := do
  let inputs ← collect records.inputs (deriveTriggerInput candidate)
  let trigger : Trigger := {
    adapterId := records.begin'.adapterId
    adapterVersion := records.begin'.adapterVersion
    causalParentIds := records.begin'.causalParentIds
    completion := derivedCompletion records.begin'.operationKind
    format := .v1
    inputs
    operationId := candidate.operationId
    operationKind := records.begin'.operationKind
    operationName := records.begin'.operationName }
  trigger.validate
  return trigger

/-! ## The dependency transcript -/

structure DerivedDependency where
  bodies : List (ObjectId × Bytes)
  transcript : DependencyTranscript

/-- The interaction of one exchange.  Every exchange comes from the adapter of the first. -/
def deriveInteraction (candidate : Candidate) (first : DependencyCursorPayload)
    (entry : (ResolvedDependencyExchange × DependencyCursorPayload) × Nat) :
    Result DependencyTranscriptInteraction := do
  let ((exchange, cursor), index) := entry
  rejectIf (exchange.cursor ≠ cursor ∨ cursor.adapterId ≠ first.adapterId ∨
    cursor.adapterVersion ≠ first.adapterVersion) (incomplete "one dependency cursor binding")
  rejectIf (exchange.request.isEmpty ∨ exchange.request.length > maxExchangeBytes ∨
    exchange.response.isEmpty ∨ exchange.response.length > maxExchangeBytes)
    (incomplete "one bounded dependency exchange")
  let ordinal ← okOr (uint32OfNat index) .schemaInvalid
  let requestObjectId ← deriveObjectId candidate "dependency-request"
    (Digest.of exchange.request) ordinal
  let responseObjectId ← deriveObjectId candidate "dependency-response"
    (Digest.of exchange.response) ordinal
  let sequence ← okOr (uint16OfNat index) .schemaInvalid
  let sessionPosition ← okOr (uint64OfNat index) .schemaInvalid
  return {
    causalParentId := cursor.causalParentId
    operationId := candidate.operationId
    outcome := .response
    requestDigest := Digest.of exchange.request
    requestObjectId
    responseDigest := Digest.of exchange.response
    responseObjectId
    sequence
    sessionPosition }

/-- The bodies of an exchange under the identifiers of its interaction. -/
def exchangeBodies (interaction : DependencyTranscriptInteraction)
    (exchange : ResolvedDependencyExchange) : List (ObjectId × Bytes) :=
  [(interaction.requestObjectId, exchange.request),
    (interaction.responseObjectId, exchange.response)]

def deriveDependencyTranscript (candidate : Candidate) (records : DecodedRecords)
    (resolved : List ResolvedDependencyExchange) : Result (Option DerivedDependency) :=
  match records.cursors with
  | [] => do
      rejectIf (¬ resolved.isEmpty) (incomplete "the dependency record set")
      return none
  | first :: _ => do
      rejectIf (resolved.length ≠ records.cursors.length) (incomplete "one dependency exchange")
      let interactions ← collect (resolved.zip records.cursors).zipIdx
        (deriveInteraction candidate first)
      let transcript : DependencyTranscript := {
        adapterId := first.adapterId
        adapterVersion := first.adapterVersion
        format := .v1
        interactions }
      transcript.validate
      return some {
        bodies := (interactions.zip resolved).flatMap fun (interaction, exchange) =>
          exchangeBodies interaction exchange
        transcript }

/-! ## The artifacts of the World -/

def closeWorldArtifact (entry : ArtifactReference × Bytes) : Result (String × Bytes) := do
  let (artifact, bytes) := entry
  rejectIf (artifact.size.toNat > maxWorldArtifactBytes) .objectDigestMismatch
  let size ← okOr (uint64OfNat bytes.length) .schemaInvalid
  rejectIf (size ≠ artifact.size ∨ Digest.of bytes ≠ artifact.digest) .objectDigestMismatch
  return (artifact.mediaType, bytes)

/-- The media type and the bytes of every artifact of the World. -/
def PrivateClosureSources.worldArtifactEntries (sources : PrivateClosureSources) :
    Result (List (String × Bytes)) := do
  let declared := sources.world.points.flatMap fun point => point.artifacts
  rejectIf (declared.length ≠ sources.worldArtifacts.length) (incomplete "one World artifact")
  collect (declared.zip sources.worldArtifacts) closeWorldArtifact

/-! ## The set of objects -/

structure ObjectSetBuilder where
  descriptors : List LogicalObject
  objects : OrderedMap ObjectId Bytes
  ordinal : UInt32

/-- An object to be collected, and its identifier if it has one. -/
structure ObjectPart where
  role : LogicalObjectRole
  mediaType : String
  bytes : Bytes
  fixedId : Option ObjectId

namespace ObjectSetBuilder

def new : ObjectSetBuilder where
  descriptors := []
  objects := ∅
  ordinal := 0

/-- The identifier of the next object: its own, or the next one that is derived. -/
def nextId (candidate : Candidate) (builder : ObjectSetBuilder) (part : ObjectPart) :
    Result (ObjectId × UInt32) :=
  match part.fixedId with
  | some objectId => .ok (objectId, builder.ordinal)
  | none => do
      let objectId ← deriveObjectId candidate (roleTag part.role) (Digest.of part.bytes)
        builder.ordinal
      let ordinal ← okOr (uint32OfNat (builder.ordinal.toNat + 1)) .schemaInvalid
      return (objectId, ordinal)

def push (candidate : Candidate) (builder : ObjectSetBuilder) (part : ObjectPart) :
    Result ObjectSetBuilder := do
  let (objectId, ordinal) ← builder.nextId candidate part
  rejectIf (objectId ∈ builder.objects) (incomplete "one unique object identity")
  let plainSize ← okOr (uint64OfNat part.bytes.length) .schemaInvalid
  let descriptor : LogicalObject := {
    mediaType := part.mediaType
    objectId
    plainDigest := Digest.of part.bytes
    plainSize
    role := part.role }
  return {
    descriptors := builder.descriptors ++ [descriptor]
    objects := builder.objects.insert objectId part.bytes
    ordinal }

/-- Collect parts in turn. -/
def pushAll (candidate : Candidate) (builder : ObjectSetBuilder) :
    List ObjectPart → Result ObjectSetBuilder
  | [] => .ok builder
  | part :: rest => do
      let next ← builder.push candidate part
      next.pushAll candidate rest

/-- Collect a document. -/
def pushDocument {α : Type} [Document α] (candidate : Candidate) (builder : ObjectSetBuilder)
    (role : LogicalObjectRole) (mediaType : String) (value : α) (fixedId : Option ObjectId) :
    Result ObjectSetBuilder := do
  let bytes ← Canonical.bytes value
  builder.push candidate { role, mediaType, bytes, fixedId }

/-- Collect the bytes of every input under the identifier of its trigger input. -/
def pushInputs (candidate : Candidate) (trigger : Trigger) (builder : ObjectSetBuilder) :
    List (OperationInputPayload × Bytes) → Result ObjectSetBuilder
  | [] => .ok builder
  | (input, bytes) :: rest => do
      let triggerInput ← okOr trigger.inputs[input.inputIndex.toNat]?
        (incomplete "one Trigger input")
      let next ← builder.push candidate
        { role := .trigger, mediaType := input.contentType, bytes
          fixedId := some triggerInput.objectId }
      next.pushInputs candidate trigger rest

end ObjectSetBuilder

/-- The parts of the artifacts of the World. -/
def artifactParts (entries : List (String × Bytes)) : List ObjectPart :=
  entries.map fun (mediaType, bytes) =>
    { role := .worldState, mediaType, bytes, fixedId := none }

/-- The parts of the bodies of a transcript. -/
def bodyParts (bodies : List (ObjectId × Bytes)) : List ObjectPart :=
  bodies.map fun (objectId, bytes) =>
    { role := .dependencyTranscript, mediaType := transcriptBodyMediaType, bytes
      fixedId := some objectId }

/-- Every byte that the sealed capsule references, in the order of construction. -/
def assembleObjectSet (sources : PrivateClosureSources) (records : DecodedRecords)
    (subjectClosure : SubjectClosureManifest) (trigger : Trigger)
    (dependency : Option DerivedDependency) : Result ObjectSetBuilder := do
  let candidate := sources.candidate
  let artifactEntries ← sources.worldArtifactEntries
  let builder ← ObjectSetBuilder.new.pushDocument candidate .subject subjectClosureMediaType
    subjectClosure none
  let builder ← builder.pushAll candidate
    [{ role := .subject, mediaType := singleFileMediaType, bytes := sources.subjectBinary
       fixedId := none },
     { role := .subject, mediaType := singleFileDebugMediaType, bytes := sources.debugArtifact
       fixedId := none }]
  let builder ← builder.pushInputs candidate trigger records.inputs
  let builder ← builder.pushDocument candidate .failure failureMediaType records.failure
    (some records.failure.failure.objectId)
  let builder ← builder.pushDocument candidate .trigger triggerMediaType trigger none
  let builder ← builder.pushDocument candidate .worldManifest worldManifestMediaType sources.world
    none
  let builder ← builder.pushAll candidate (artifactParts artifactEntries)
  match dependency with
  | none => return builder
  | some derived => do
      let builder ← builder.pushDocument candidate .dependencyTranscript
        dependencyTranscriptMediaType derived.transcript none
      builder.pushAll candidate (bodyParts derived.bodies)

/-! ## Sealing -/

/-- The one candidate among the objects to close. -/
def candidateDescriptor (candidate : Candidate) : Result LogicalObject := do
  let bytes ← Canonical.bytes candidate
  let objectId ← deriveObjectId candidate "candidate" (Digest.of bytes) 0
  let plainSize ← okOr (uint64OfNat bytes.length) .schemaInvalid
  return {
    mediaType := "application/vnd.reproit.candidate.v1+json"
    objectId
    plainDigest := Digest.of bytes
    plainSize
    role := .candidate }

instance : Document (List LogicalObject) := ⟨.list LogicalObject.codec, by decide⟩

/-- The digest of the descriptors of the transcript, if there are any. -/
def dependencyIdentity (descriptors : List LogicalObject) : Result (Option Digest) :=
  match descriptors.filter fun object => object.role = .dependencyTranscript with
  | [] => .ok none
  | dependencies => some <$> Canonical.digest dependencies

/-- The architecture that a subject was captured on.  The native one is that of the Runtime,
where it is a supported one. -/
def capturedProcessorArchitecture (native : Option ProcessorArchitecture)
    (subjectArchitecture : String) : Result ProcessorArchitecture := do
  let native ← okOr native Error.schemaInvalid
  okOr ([("architecture.arm64", ProcessorArchitecture.arm64),
    ("architecture.x86-64", .x86_64), ("architecture.native", native)].lookup
      subjectArchitecture) .schemaInvalid

/-- The capsule with the requirement of the whole captured processor. -/
def bindInitialProcessorRequirement (native : Option ProcessorArchitecture)
    (capsule : ReplayCapsule) (candidate : Candidate) : Result ReplayCapsule := do
  let architecture ← capturedProcessorArchitecture native
    candidate.deployment.subject.architecture
  let observation ← observationFromCapturedCapabilities architecture
    candidate.deployment.runtimeCapabilities
  let requirement ← initialProcessorRequirement observation
  bindCapsuleProcessorRequirement capsule requirement

/-- The bytes of the objects by their identifiers. -/
def objectReader (objects : OrderedMap ObjectId Bytes) : ManifestReader := fun _ descriptor =>
  okOr objects[descriptor.objectId]? .objectDigestMismatch

/-- Close one accepted private candidate into the sealed capsule. -/
def sealPrivateCandidate (native : Option ProcessorArchitecture)
    (sources : PrivateClosureSources) : Result SealedPrivateCapsule := do
  let candidate := sources.candidate
  candidate.validate
  validateBackendSupportPackage sources.support
  let worldId ← sources.world.worldId
  rejectIf (candidate.worldId ≠ worldId) (incomplete "the World manifest identity")
  let records ← decodeCandidateRecords candidate
  let family ← runtimeFamily candidate
  let subjectClosure ← verifySingleFileSubject candidate.deployment.subject
    sources.subjectBinary sources.debugArtifact family
  let trigger ← deriveTrigger candidate records
  let dependency ← deriveDependencyTranscript candidate records sources.dependencies
  let builder ← assembleObjectSet sources records subjectClosure trigger dependency
  let candidateObject ← candidateDescriptor candidate
  let descriptors := builder.descriptors ++ [candidateObject]
  let dependencyIdentity ← dependencyIdentity descriptors
  let closure ← closeManagedWorld sources.support.closurePolicy {
    dependencyIdentity
    executorIdentity := sources.evidence.executorIdentity
    isolationIdentity := sources.evidence.isolationIdentity
    subjectIdentity := candidate.deployment.subject.artifactDigest
    worldIdentity := candidate.worldId }
  let closed ← closeReplayCapsule {
    candidate
    candidateObjects := descriptors
    closure
    failure := records.failure
    support := sources.support
    trigger
    world := sources.world }
  let capsule ← bindInitialProcessorRequirement native closed candidate
  capsule.validate
  let _ ← resolveReplayCapsule capsule (objectReader builder.objects)
  let capsuleDigest ← Canonical.digest capsule
  return { capsule, capsuleDigest, closure, failure := records.failure
           objects := builder.objects }

end Reproit.Backend
