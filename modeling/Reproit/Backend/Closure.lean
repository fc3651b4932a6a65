/-
# Closing a candidate into a capsule

The Runtime closes a captured candidate: it checks that the candidate, its failure,
its trigger and its World belong together, that the candidate's objects hold every
manifest and every referenced payload, and seals the objects into a replay capsule.
-/

import Reproit.Core.Admission
import Reproit.Core.Model.Candidate
import Reproit.Core.Model.World
import Reproit.Backend.Support

namespace Reproit.Backend

variable [Primitives]

/-- What is closed into one capsule. -/
structure CandidateClosureRequest where
  candidate : Candidate
  candidateObjects : List LogicalObject
  closure : WorldClosure
  failure : FailurePayload
  support : BackendSupportPackage
  trigger : Trigger
  world : WorldCheckpoint

def incompleteClosure : Error :=
  .new .incompleteCandidate "The Runtime could not close the candidate into one replay capsule."

def validateInputs (request : CandidateClosureRequest) : Result Unit := do
  request.candidate.validate
  request.failure.identity.validate
  request.trigger.validate
  request.world.validate
  request.closure.validate
  validateBackendSupportPackage request.support
  validateWorldClosure request.support.closurePolicy request.closure
  rejectIf (request.candidate.failure ≠ request.failure.failure) incompleteClosure
  let identityDigest ← Canonical.digest request.failure.identity
  rejectIf (request.candidate.failure.identity ≠ identityDigest ∨
    request.candidate.operationId ≠ request.trigger.operationId ∨
    request.failure.identity.operation ≠
      (request.trigger.operationKind, request.trigger.operationName)) incompleteClosure
  let worldId ← request.world.worldId
  rejectIf (worldId ≠ request.candidate.worldId) incompleteClosure

/-- The objects in the order of their ids. -/
def sortObjects (objects : List LogicalObject) : List LogicalObject :=
  objects.insertionSort fun first second => first.objectId ≤ second.objectId

/-- Every object but the one candidate, in the order of their ids. -/
def replayObjects (candidateObjects : List LogicalObject) : Result (List LogicalObject) := do
  rejectIf (candidateObjects.isEmpty ∨ candidateObjects.length > 32767) incompleteClosure
  let objects := sortObjects (candidateObjects.filter fun object => object.role ≠ .candidate)
  rejectIf (¬ (objects.map LogicalObject.objectId).Nodup ∨
    objects.length + 1 ≠ candidateObjects.length) incompleteClosure
  return objects

/-- The objects that hold a manifest. -/
def isManifest (role : LogicalObjectRole) (mediaType : String) (digest : Digest)
    (object : LogicalObject) : Bool :=
  object.role = role && object.mediaType = mediaType && object.plainDigest = digest

def requireManifest (objects : List LogicalObject) (role : LogicalObjectRole)
    (mediaType : String) (digest : Digest) : Result Unit :=
  rejectIf (objects.countP (isManifest role mediaType digest) ≠ 1) incompleteClosure

/-- Some object has the id, the role and the digest. -/
def requireObject (objects : List LogicalObject) (objectId : ObjectId)
    (role : LogicalObjectRole) (digest : Digest) : Result Unit :=
  rejectIf (¬ ∃ object ∈ objects, object.objectId = objectId ∧ object.role = role ∧
    object.plainDigest = digest) incompleteClosure

/-- The objects that hold the content of an artifact. -/
def isArtifact (artifact : ArtifactReference) (object : LogicalObject) : Bool :=
  object.role = .worldState && object.mediaType = artifact.mediaType &&
    object.plainDigest = artifact.digest && object.plainSize = artifact.size

def requirePayloadClosure (objects : List LogicalObject) (request : CandidateClosureRequest) :
    Result Unit := do
  let failureDigest ← Canonical.digest request.failure
  requireObject objects request.failure.failure.objectId .failure failureDigest
  forEach request.trigger.inputs fun input =>
    requireObject objects input.objectId .trigger input.plainDigest
  forEach (request.world.points.flatMap RecoverablePoint.artifacts) fun artifact =>
    rejectIf (objects.countP (isArtifact artifact) ≠ 1) incompleteClosure

/-- The sorted union of the capabilities of the components and of the deployment. -/
def replayCapabilityUnion (bundle : SupportBundle) (runtimeCapabilities : List String) :
    Result (List String) := do
  let capabilities := bundle.components.flatMap ComponentIdentity.capabilities ++
    runtimeCapabilities
  let union := (capabilities.insertionSort (· ≤ ·)).destutter (· ≠ ·)
  rejectIf (union.length > 64) .schemaInvalid
  return union

def closeReplayCapsule (request : CandidateClosureRequest) : Result ReplayCapsule := do
  validateInputs request
  let objects ← replayObjects request.candidateObjects
  let failureDigest ← Canonical.digest request.failure
  requireManifest objects .failure failureMediaType failureDigest
  requireManifest objects .subject subjectClosureMediaType
    request.candidate.deployment.subject.artifactDigest
  let triggerDigest ← Canonical.digest request.trigger
  requireManifest objects .trigger triggerMediaType triggerDigest
  let worldManifestDigest ← Canonical.digest request.world
  requireManifest objects .worldManifest worldManifestMediaType worldManifestDigest
  requirePayloadClosure objects request
  let closureManifestDigest ← Canonical.digest request.closure
  let identityDigest ← Canonical.digest request.failure.identity
  let requiredCapabilities ← replayCapabilityUnion request.support.bundle
    request.candidate.deployment.runtimeCapabilities
  let supportBundleDigest ← request.support.digest
  let capsule : ReplayCapsule := {
    closureManifestDigest
    failureDigest := identityDigest
    format := .v1
    objects
    perturbationSuite := "reproit.controlled-perturbation.v1"
    processingMode := request.candidate.processingMode
    profile := "backend"
    profileFormat := 1
    requiredCapabilities
    subject := request.candidate.deployment.subject
    subjectDigest := request.candidate.deployment.subject.artifactDigest
    supportBundleDigest
    triggerDigest
    worldDigest := request.candidate.worldId }
  capsule.validate
  return capsule

end Reproit.Backend
