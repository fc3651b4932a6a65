/-
# Automatic replay

An automatic World is replayed from recorded observations.  Resolving it reads every
payload of the capsule, takes the two observations of the operation's boundary apart and
keeps the others; a replay hands out each of them once, for the request that it was
recorded for.
-/

import Mathlib.Data.Prod.Lex
import Reproit.Core.Model.SemanticDependency
import Reproit.Core.Resolve
import Reproit.Data.Text
import Reproit.Data.Update

namespace Reproit.Backend

def maxReplayObservations : Nat := 1024
def maxRecordBytes : Nat := 65536
def maxEnvironmentObjectBytes : Nat := 1048576
def maxEnvironmentBytes : Nat := 524288
def maxEnvironmentEntries : Nat := 4096

def replayMismatch : Error :=
  .new .worldNotClosed "The automatic replay observations do not match the capture."

def unsupported : Error :=
  .new .unsupportedCapabilitySet "The automatic replay provider or version is unsupported."

/-! ## Recorded observations -/

/-- The place of an observation among those of its class, ordered by class first. -/
structure ObservationKey where
  observationClass : AutomaticObservationClass
  position : UInt64
  deriving DecidableEq

namespace ObservationKey

/-- The number of the class and the position. -/
def place (key : ObservationKey) : Nat ×ₗ Nat :=
  toLex (AutomaticObservationClass.all.idxOf key.observationClass, key.position.toNat)

theorem place_injective : Function.Injective place := by
  rintro ⟨first, position⟩ ⟨second, other⟩ same
  obtain ⟨sameClass, samePosition⟩ := Prod.mk.inj (toLex.injective same)
  have classes : first = second := by
    cases first <;> cases second <;> first | rfl | cases sameClass
  have positions : position = other := UInt64.toNat_inj.mp samePosition
  rw [classes, positions]

instance : LinearOrder ObservationKey := LinearOrder.lift' place place_injective

end ObservationKey

structure RecordedObservation where
  outcome : DependencyOutcome
  response : Bytes
  requestDigest : Digest
  deriving DecidableEq

abbrev Observations := OrderedMap ObservationKey RecordedObservation

/-- What a resolved automatic World replays: the environment, the time at the boundary and
the observations that are still pending. -/
structure AutomaticReplay where
  environment : List (Bytes × Bytes)
  boundaryClock : Timestamp
  observations : Observations

def observationClass : SemanticObservationOperation → AutomaticObservationClass
  | .clockWallTime => .clock
  | .environmentRead => .environment
  | .filesystemRead => .filesystem
  | .randomBytes => .randomness

def dependencyOutcome : SemanticObservationOutcome → DependencyOutcome
  | .error => .error
  | .response => .response

/-! ## Pairs of requests and responses -/

/-- Read a value from its canonical bytes. -/
def parseCanonical (α : Type) [Document α] (bytes : Bytes) : Result α := do
  let value ← Canonical.parseStrict α bytes
  let canonical ← Canonical.bytes value
  rejectIf (canonical ≠ bytes) .schemaInvalid
  return value

/-- The format that a document names. -/
def formatOf : Json.Value → Option String
  | .object members =>
      match members.lookup "format" with
      | some (.string format) => some format
      | _ => none
  | _ => none

variable [Primitives]

/-- The format of the request selects the contract of the pair. -/
def validatePair (request response : Bytes) :
    Result (AutomaticObservationClass × DependencyOutcome) := do
  let value ← Canonical.parseStrictValue request
  match formatOf value with
  | some "reproit.semantic-observation-request.v1" => do
      let request ← parseCanonical SemanticObservationRequest request
      let response ← parseCanonical SemanticObservationResponse response
      validateSemanticObservationPair request response
      return (observationClass request.operation, dependencyOutcome response.outcome)
  | some "reproit.semantic-dependency-request.v1" => do
      let request ← parseCanonical SemanticDependencyRequest request
      let response ← parseCanonical SemanticDependencyResponse response
      validateSemanticDependencyPair request response
      return (request.observationClass, dependencyOutcome response.outcome)
  | _ => .error .schemaInvalid

/-! ## Taking responses -/

namespace AutomaticReplay

omit [Primitives] in
/-- Position zero of the clock and of the environment is taken before the application runs. -/
def firstPosition : AutomaticObservationClass → Nat
  | .clock | .environment => 1
  | _ => 0

def takeResponse (observed : AutomaticObservationClass) (position : UInt64) (request : Bytes) :
    Update Error AutomaticReplay RecordedObservation := do
  let replay ← get
  let key : ObservationKey := ⟨observed, position⟩
  let recorded ← Update.attempt (okOr replay.observations[key]? replayMismatch)
  Update.attempt (rejectIf (request.length > maxRecordBytes ∨
    Digest.of request ≠ recorded.requestDigest) replayMismatch)
  let (observedClass, outcome) ← Update.attempt (validatePair request recorded.response)
  Update.attempt (rejectIf (observedClass ≠ observed ∨ outcome ≠ recorded.outcome)
    replayMismatch)
  set { replay with observations := replay.observations.erase key }
  return recorded

omit [Primitives] in
def requireComplete (replay : AutomaticReplay) : Result Unit :=
  rejectIf (¬ replay.observations.isEmpty) replayMismatch

end AutomaticReplay

/-! ## Reading the payloads -/

/-- A computation that reads payloads; its state is what was read so far. -/
abbrev Reading (α : Type) := Update Error (List LogicalObject) α

def readPayload (object : LogicalObject) (limit : Nat) (read : ManifestReader) :
    Reading Bytes := do
  Update.attempt (rejectIf (object.mediaType ≠ "application/octet-stream" ∨
    object.plainSize.toNat > limit) .schemaInvalid)
  let earlier ← get
  set (earlier ++ [object])
  let bytes ← Update.attempt (read earlier object)
  Update.attempt (rejectIf (bytes.length ≠ object.plainSize.toNat ∨
    Digest.of bytes ≠ object.plainDigest) .objectDigestMismatch)
  return bytes

omit [Primitives] in
/-- Insert an observation; its place must be free. -/
def insertObservation (observations : Observations) (key : ObservationKey)
    (recorded : RecordedObservation) : Result Observations :=
  okOr (OrderedMap.insertNew observations key recorded) replayMismatch

/-! ## State artifacts -/

omit [Primitives] in
def stateScheme : String := "reproit-managed://automatic-world/"

omit [Primitives] in
/-- A position in its one spelling, and within the number of observations. -/
def parsePosition (text : List Char) : Result UInt64 := do
  let position ← okOr (parseUInt64 text) replayMismatch
  rejectIf (Nat.toDigits 10 position.toNat ≠ text ∨ position.toNat ≥ maxReplayObservations)
    replayMismatch
  return position

omit [Primitives] in
def nextField : List String → Result (String × List String)
  | [] => .error replayMismatch
  | field :: rest => .ok (field, rest)

omit [Primitives] in
def stateClass : Option String → Result AutomaticObservationClass
  | some "automatic.environment" => .ok .environment
  | some "automatic.filesystem" => .ok .filesystem
  | _ => .error replayMismatch

omit [Primitives] in
def stateOutcome : Option String → Result DependencyOutcome
  | some "response" => .ok .response
  | some "error" => .ok .error
  | _ => .error replayMismatch

omit [Primitives] in
/-- What the address of a state artifact says about its observation. -/
def stateIdentity (uri : String) : Result (ObservationKey × Digest × DependencyOutcome) := do
  let suffix ← okOr (stripStart uri stateScheme) replayMismatch
  let fields := (suffix.toList.splitOn '/').map String.ofList
  let observed ← stateClass fields.head?
  let (digestText, fields) ← nextField fields.tail
  let requestDigest ← okOr (Digest.ofText digestText) .schemaInvalid
  let (positionText, fields) ← nextField fields
  let position ← parsePosition positionText.toList
  let outcome ← stateOutcome fields.head?
  rejectIf (fields.tail ≠ []) replayMismatch
  return (⟨observed, position⟩, requestDigest, outcome)

/-- The observation of a state artifact. The environment at the boundary is no semantic
response. -/
def readArtifact (read : ManifestReader) (artifact : ResolvedWorldArtifact) :
    Reading (ObservationKey × RecordedObservation) := do
  Update.attempt (rejectIf (artifact.pointIndex ≠ 0) replayMismatch)
  let (key, requestDigest, outcome) ← Update.attempt (stateIdentity artifact.artifact.uri)
  let baseline : Bool := key = ⟨.environment, 0⟩
  let response ← readPayload artifact.object
    (if baseline then maxEnvironmentObjectBytes else maxRecordBytes) read
  if ¬ baseline then
    let value ← Update.attempt (parseCanonical SemanticObservationResponse response)
    Update.attempt value.validate
    Update.attempt (rejectIf (observationClass value.operation ≠ key.observationClass ∨
      value.requestDigest ≠ requestDigest ∨ dependencyOutcome value.outcome ≠ outcome)
      replayMismatch)
  return (key, { outcome, response, requestDigest })

def readArtifacts (read : ManifestReader) : List ResolvedWorldArtifact → Observations →
    Reading Observations
  | [], observations => return observations
  | artifact :: rest, observations => do
      let (key, recorded) ← readArtifact read artifact
      let observations ← Update.attempt (insertObservation observations key recorded)
      readArtifacts read rest observations

/-! ## Interactions -/

omit [Primitives] in
def wallClock : Bytes := Json.textBytes "wall-clock".toList

omit [Primitives] in
def processEnvironment : Bytes := Json.textBytes "process-environment".toList

/-- The class of an interaction: the time at the boundary, or that of the semantic pair. -/
def interactionClass (interaction : DependencyTranscriptInteraction) (request response : Bytes) :
    Result AutomaticObservationClass :=
  if request = wallClock then do
    rejectIf (interaction.sessionPosition ≠ 0 ∨ interaction.outcome ≠ .response) replayMismatch
    return .clock
  else do
    let (observed, outcome) ← validatePair request response
    rejectIf (observed = .environment ∨ observed = .filesystem ∨ outcome ≠ interaction.outcome)
      replayMismatch
    return observed

/-- The observation of an interaction. -/
def readInteraction (read : ManifestReader) (operationId : OperationId)
    (interaction : DependencyTranscriptInteraction) (objects : ResolvedInteraction) :
    Reading (ObservationKey × RecordedObservation) := do
  Update.attempt (rejectIf (interaction.operationId ≠ operationId) replayMismatch)
  let request ← readPayload objects.request maxRecordBytes read
  let response ← readPayload objects.response maxRecordBytes read
  Update.attempt (rejectIf (Digest.of request ≠ interaction.requestDigest ∨
    Digest.of response ≠ interaction.responseDigest) .objectDigestMismatch)
  let observed ← Update.attempt (interactionClass interaction request response)
  return (⟨observed, interaction.sessionPosition⟩,
    { outcome := interaction.outcome, response, requestDigest := interaction.requestDigest })

def readDependencies (read : ManifestReader) (operationId : OperationId) :
    List (DependencyTranscriptInteraction × ResolvedInteraction) → Observations →
    Reading Observations
  | [], observations => return observations
  | (interaction, objects) :: rest, observations => do
      let (key, recorded) ← readInteraction read operationId interaction objects
      let observations ← Update.attempt (insertObservation observations key recorded)
      readDependencies read operationId rest observations

/-! ## Positions and baselines -/

omit [Primitives] in
/-- Every observation, in order, has the next position of its class. -/
def requireContiguous : (next : AutomaticObservationClass → UInt64) → List ObservationKey →
    Result Unit
  | _, [] => .ok ()
  | next, key :: rest => do
      rejectIf (key.position ≠ next key.observationClass) replayMismatch
      requireContiguous (Function.update next key.observationClass
        (next key.observationClass + 1)) rest

omit [Primitives] in
def requireContiguousPositions (observations : Observations) : Result Unit :=
  requireContiguous (fun _ => 0) observations.keys

/-- Take the observation at position zero of a class, which must be the response to a fixed
request. -/
def takeBaseline (observations : Observations) (observed : AutomaticObservationClass)
    (request : Bytes) : Result (Bytes × Observations) := do
  let record ← okOr observations[(⟨observed, 0⟩ : ObservationKey)]? replayMismatch
  rejectIf (record.requestDigest ≠ Digest.of request ∨ record.outcome ≠ .response) replayMismatch
  return (record.response, observations.erase ⟨observed, 0⟩)

omit [Primitives] in
/-- Decode every name and value; a name may not repeat. -/
def decodeEntries : (total : Nat) → (environment : List (Bytes × Bytes)) →
    List (String × String) → Result (List (Bytes × Bytes))
  | _, environment, [] => return environment
  | total, environment, (name, value) :: rest => do
      let name ← decodeBase64UrlBytes name
      let value ← decodeBase64UrlBytes value
      let total := total + (name.length + value.length)
      rejectIf (name.isEmpty ∨ 0 ∈ name ∨ 61 ∈ name ∨ 0 ∈ value ∨ total > maxEnvironmentBytes ∨
        name ∈ environment.map Prod.fst) .schemaInvalid
      decodeEntries total (environment ++ [(name, value)]) rest

omit [Primitives] in
def textMember : String × Json.Value → Option (String × String)
  | (name, .string text) => some (name, text)
  | _ => none

omit [Primitives] in
/-- The members of an object of texts. -/
def textMembers : Json.Value → Option (List (String × String))
  | .object members => members.mapM textMember
  | _ => none

omit [Primitives] in
/-- A map of texts from its canonical bytes, in key order. -/
def parseTexts (bytes : Bytes) : Result (List (String × String)) := do
  let value ← Canonical.parseStrictValue bytes
  let texts ← okOr (textMembers value) .schemaInvalid
  let canonical ← Canonical.valueBytes
    (.object (texts.map fun (name, text) => (name, .string text)))
  rejectIf (canonical ≠ bytes) .schemaInvalid
  return texts

omit [Primitives] in
def decodeEnvironment (bytes : Bytes) : Result (List (Bytes × Bytes)) := do
  let encoded ← parseTexts bytes
  rejectIf (encoded.length > maxEnvironmentEntries) .schemaInvalid
  decodeEntries 0 [] encoded

omit [Primitives] in
/-- The time that bytes spell. -/
def decodeClock (bytes : Bytes) : Result Timestamp := do
  let text ← okOr (Json.bytesText bytes) .schemaInvalid
  okOr (Timestamp.ofText (String.ofList text)) .schemaInvalid

/-! ## Resolving -/

omit [Primitives] in
/-- The one point of an automatic World. -/
def automaticPoint (world : WorldCheckpoint) : Result Reproit.RecoverablePoint :=
  match world.points with
  | [point] => do
      rejectIf (point.providerId ≠ "automatic-world" ∨ point.engineIdentity ≠ "reproit-native" ∨
        point.engineVersion ≠ "1.0.0" ∨ point.capabilities ≠ ["capture.automatic-world.v1"])
        unsupported
      return point
  | _ => .error unsupported

/-- Everything that the capsule recorded. -/
def readObservations (resolved : ResolvedReplayCapsule) (read : ManifestReader) :
    Reading Observations := do
  Update.attempt resolved.world.validate
  let point ← Update.attempt (automaticPoint resolved.world)
  let dependency ← Update.attempt (okOr resolved.dependency replayMismatch)
  Update.attempt dependency.transcript.validate
  Update.attempt (rejectIf (dependency.transcript.adapterId ≠ "reproit-native" ∨
    dependency.transcript.adapterVersion ≠ "1.0.0") unsupported)
  Update.attempt (rejectIf (resolved.worldArtifacts.length ≠ point.artifacts.length ∨
    dependency.interactions.length ≠ dependency.transcript.interactions.length ∨
    resolved.worldArtifacts.length + dependency.interactions.length > maxReplayObservations)
    replayMismatch)
  let observations ← readArtifacts read resolved.worldArtifacts ∅
  readDependencies read resolved.trigger.operationId
    (dependency.transcript.interactions.zip dependency.interactions) observations

/-- Split the observations at the boundary off the others. -/
def boundary (observations : Observations) : Result AutomaticReplay := do
  requireContiguousPositions observations
  let (environment, observations) ← takeBaseline observations .environment processEnvironment
  let (clock, observations) ← takeBaseline observations .clock wallClock
  let environment ← decodeEnvironment environment
  let boundaryClock ← decodeClock clock
  return { environment, boundaryClock, observations }

def resolveAutomaticReplay (resolved : ResolvedReplayCapsule) (read : ManifestReader) :
    Reading AutomaticReplay := do
  let observations ← readObservations resolved read
  Update.attempt (boundary observations)

end Reproit.Backend
