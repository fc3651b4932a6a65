/-
# Object descriptors and replay capsules

The descriptors that a capture is made of: the subject, the logical objects and the
sealed replay capsule, with the checks their validators make.  A validator stops at
its first failed check and returns that check's error.
-/

import Reproit.Core.Canonical

namespace Reproit

/-- A type with a validator. -/
class Validate (α : Type) where
  validate : α → Result Unit

export Validate (validate)

/-! ## Shared checks -/

/-- The parts of a path are compared as they are written. -/
instance lawfulParts : LawfulBEq (List Char) := inferInstance

/-- Every text is strictly greater than the one before it. -/
def requireStrictOrder (values : List String) : Result Unit :=
  rejectIf (¬ values.IsChain (· < ·)) .schemaInvalid

theorem requireStrictOrder_eq_ok (values : List String) :
    requireStrictOrder values = .ok () ↔ values.Pairwise (· < ·) := by
  rw [requireStrictOrder, rejectIf_eq_ok, not_not, List.isChain_iff_pairwise]

/-- A nonempty text of lowercase letters, digits, points and hyphens that starts with
a letter. -/
def validLowerIdentity (value : String) : Bool :=
  value.toList.head?.any Char.isLower &&
    value.toList.all fun c => c.isLower || c.isDigit || c = '.' || c = '-'

def validateCapabilities (capabilities : List String) : Result Unit := do
  rejectIf (capabilities.length > 64) .schemaInvalid
  requireStrictOrder capabilities
  rejectIf (∃ capability ∈ capabilities, capability.isEmpty ∨ capability.utf8ByteSize > 128 ∨
    ¬ validLowerIdentity capability) .schemaInvalid

/-- A printable ASCII name without an equals sign. -/
def validEnvironmentName (name : String) : Bool :=
  !name.isEmpty && name.utf8ByteSize ≤ 256 &&
    name.toList.all fun c => 0x21 ≤ c.toNat && c.toNat ≤ 0x7e && c ≠ '='

/-- A component name: a lower identity of bounded length. -/
def validComponent (value : String) : Bool :=
  value.utf8ByteSize ≤ 128 && validLowerIdentity value

/-- The characters of the URL-safe base 64 alphabet. -/
def validBase64Url (value : String) : Bool :=
  value.toList.all fun c => c.isAlphanum || c = '_' || c = '-'

/-- The largest exact integer of a document. -/
def maxExactInteger : Nat := Json.maxExactInteger

/-- The greatest total size of stored bytes. -/
def maxObjectBytes : Nat := 274878824448

/-! ## Enumerations -/

/-- A format marker, whose one variant is written as the format's name. -/
inductive Format (name : String)
  | v1
  deriving DecidableEq

def Format.codec (name : String) : Codec (Format name) :=
  .enumeration [.v1] (fun _ => name) fun value => by cases value; simp

inductive ProcessingMode
  | managed | private'
  deriving DecidableEq

def ProcessingMode.name : ProcessingMode → String
  | .managed => "managed"
  | .private' => "private"

def ProcessingMode.codec : Codec ProcessingMode :=
  .enumeration [.managed, .private'] name fun value => by cases value <;> decide

/-- What an object is for. -/
inductive LogicalObjectRole
  | admissionProof | candidate | captureBatchManifest | debugSymbols | dependencyTranscript
  | failure | replayCapsuleManifest | subject | trigger | worldManifest | worldState
  deriving DecidableEq

def LogicalObjectRole.name : LogicalObjectRole → String
  | .admissionProof => "admission-proof"
  | .candidate => "candidate"
  | .captureBatchManifest => "capture-batch-manifest"
  | .debugSymbols => "debug-symbols"
  | .dependencyTranscript => "dependency-transcript"
  | .failure => "failure"
  | .replayCapsuleManifest => "replay-capsule-manifest"
  | .subject => "subject"
  | .trigger => "trigger"
  | .worldManifest => "world-manifest"
  | .worldState => "world-state"

def LogicalObjectRole.codec : Codec LogicalObjectRole :=
  .enumeration [.admissionProof, .candidate, .captureBatchManifest, .debugSymbols,
    .dependencyTranscript, .failure, .replayCapsuleManifest, .subject, .trigger, .worldManifest,
    .worldState] name fun value => by cases value <;> decide

/-! ## Subjects -/

abbrev SubjectFormat := Format "reproit.subject.v1"

/-- How the captured program was started. -/
structure Subject where
  architecture : String
  arguments : List String
  artifactDigest : Digest
  artifactMediaType : String
  artifactUri : String
  environmentNames : List String
  executable : String
  format : SubjectFormat
  operatingSystem : String
  workingDirectory : String
  deriving DecidableEq

namespace Subject

def codec : Codec Subject :=
  .record
    (.required "architecture" .string <| .required "arguments" (.list .string) <|
      .required "artifact_digest" Digest.codec <| .required "artifact_media_type" .string <|
      .required "artifact_uri" .string <| .required "environment_names" (.list .string) <|
      .required "executable" .string <| .required "format" (Format.codec _) <|
      .required "operating_system" .string <| .required "working_directory" .string .done)
    (fun s => (s.architecture, s.arguments, s.artifactDigest, s.artifactMediaType, s.artifactUri,
      s.environmentNames, s.executable, s.format, s.operatingSystem, s.workingDirectory, ()))
    (fun (architecture, arguments, artifactDigest, artifactMediaType, artifactUri,
      environmentNames, executable, format, operatingSystem, workingDirectory, ()) =>
      { architecture, arguments, artifactDigest, artifactMediaType, artifactUri,
        environmentNames, executable, format, operatingSystem, workingDirectory })
    (fun _ => rfl) (by decide)

instance : Document Subject := ⟨codec, by decide⟩

def validate (subject : Subject) : Result Unit := do
  rejectIf (subject.arguments.length > 128 ∨
    (∃ argument ∈ subject.arguments, argument.utf8ByteSize > 4096) ∨
    subject.environmentNames.length > 256 ∨ subject.architecture.isEmpty ∨
    subject.artifactMediaType.isEmpty ∨ subject.artifactMediaType.utf8ByteSize > 128 ∨
    subject.artifactUri.isEmpty ∨ subject.artifactUri.utf8ByteSize > 2048 ∨
    subject.executable.isEmpty ∨ subject.executable.utf8ByteSize > 4096 ∨
    subject.operatingSystem.isEmpty ∨ subject.workingDirectory.isEmpty ∨
    subject.workingDirectory.utf8ByteSize > 4096) .schemaInvalid
  validateCapabilities [subject.architecture]
  validateCapabilities [subject.operatingSystem]
  requireStrictOrder subject.environmentNames
  rejectIf (∃ name ∈ subject.environmentNames, ¬ validEnvironmentName name) .schemaInvalid

instance : Validate Subject := ⟨validate⟩

end Subject

/-! ## Logical objects -/

/-- The descriptor of one stored object. -/
structure LogicalObject where
  mediaType : String
  objectId : ObjectId
  plainDigest : Digest
  plainSize : UInt64
  role : LogicalObjectRole
  deriving DecidableEq

namespace LogicalObject

def codec : Codec LogicalObject :=
  .record
    (.required "media_type" .string <| .required "object_id" TypedId.codec <|
      .required "plain_digest" Digest.codec <| .required "plain_size" .uint64 <|
      .required "role" LogicalObjectRole.codec .done)
    (fun o => (o.mediaType, o.objectId, o.plainDigest, o.plainSize, o.role, ()))
    (fun (mediaType, objectId, plainDigest, plainSize, role, ()) =>
      { mediaType, objectId, plainDigest, plainSize, role })
    (fun _ => rfl) (by decide)

def validate (object : LogicalObject) : Result Unit :=
  rejectIf (object.mediaType.isEmpty ∨ object.mediaType.utf8ByteSize > 128 ∨
    object.plainSize.toNat > maxObjectBytes ∨ object.role = .captureBatchManifest) .schemaInvalid

instance : Validate LogicalObject := ⟨validate⟩

/-- What the validator establishes. -/
structure Valid (object : LogicalObject) : Prop where
  nonempty : object.mediaType.isEmpty = false
  length : object.mediaType.utf8ByteSize ≤ 128
  size : object.plainSize.toNat ≤ maxObjectBytes
  role : object.role ≠ .captureBatchManifest

theorem validate_eq_ok {object : LogicalObject} : object.validate = .ok () ↔ object.Valid := by
  simp only [validate, rejectIf_eq_ok, not_or, not_lt, Bool.not_eq_true]
  exact ⟨fun checks => ⟨checks.1, checks.2.1, checks.2.2.1, checks.2.2.2⟩,
    fun valid => ⟨valid.nonempty, valid.length, valid.size, valid.role⟩⟩

end LogicalObject

/-! ## Replay capsules -/

def subjectClosureMediaType : String := "application/vnd.reproit.subject-closure.v1+json"
def triggerMediaType : String := "application/vnd.reproit.trigger.v1+json"
def failureMediaType : String := "application/vnd.reproit.failure.v1+json"
def worldManifestMediaType : String := "application/vnd.reproit.world-manifest.v1+json"
def dependencyTranscriptMediaType : String :=
  "application/vnd.reproit.dependency-transcript.v1+json"

abbrev ReplayCapsuleFormat := Format "reproit.replay-capsule.v1"

/-- A sealed capsule: its objects and the identities of its manifests. -/
structure ReplayCapsule where
  closureManifestDigest : Digest
  failureDigest : Digest
  format : ReplayCapsuleFormat
  objects : List LogicalObject
  perturbationSuite : String
  processingMode : ProcessingMode
  profile : String
  profileFormat : UInt64
  requiredCapabilities : List String
  subject : Subject
  subjectDigest : Digest
  supportBundleDigest : Digest
  triggerDigest : Digest
  worldDigest : Digest
  deriving DecidableEq

namespace ReplayCapsule

def codec : Codec ReplayCapsule :=
  .record
    (.required "closure_manifest_digest" Digest.codec <|
      .required "failure_digest" Digest.codec <| .required "format" (Format.codec _) <|
      .required "objects" (.list LogicalObject.codec) <|
      .required "perturbation_suite" .string <|
      .required "processing_mode" ProcessingMode.codec <| .required "profile" .string <|
      .required "profile_format" .uint64 <|
      .required "required_capabilities" (.list .string) <| .required "subject" Subject.codec <|
      .required "subject_digest" Digest.codec <|
      .required "support_bundle_digest" Digest.codec <|
      .required "trigger_digest" Digest.codec <| .required "world_digest" Digest.codec .done)
    (fun c => (c.closureManifestDigest, c.failureDigest, c.format, c.objects,
      c.perturbationSuite, c.processingMode, c.profile, c.profileFormat, c.requiredCapabilities,
      c.subject, c.subjectDigest, c.supportBundleDigest, c.triggerDigest, c.worldDigest, ()))
    (fun (closureManifestDigest, failureDigest, format, objects, perturbationSuite,
      processingMode, profile, profileFormat, requiredCapabilities, subject, subjectDigest,
      supportBundleDigest, triggerDigest, worldDigest, ()) =>
      { closureManifestDigest, failureDigest, format, objects, perturbationSuite,
        processingMode, profile, profileFormat, requiredCapabilities, subject, subjectDigest,
        supportBundleDigest, triggerDigest, worldDigest })
    (fun _ => rfl) (by decide)

instance : Document ReplayCapsule := ⟨codec, by decide⟩

def isSubjectManifest (capsule : ReplayCapsule) (object : LogicalObject) : Bool :=
  object.role = .subject && object.mediaType = subjectClosureMediaType &&
    object.plainDigest = capsule.subjectDigest

def isTriggerDescriptor (capsule : ReplayCapsule) (object : LogicalObject) : Bool :=
  object.role = .trigger && object.mediaType = triggerMediaType &&
    object.plainDigest = capsule.triggerDigest

/-- One subject manifest, one Trigger descriptor, one Failure, one World manifest and
at most one transcript manifest. -/
def validateClosureShape (capsule : ReplayCapsule) : Result Unit :=
  let count (select : LogicalObject → Bool) := capsule.objects.countP select
  let subjectManifests := count capsule.isSubjectManifest
  let triggerDescriptors := count capsule.isTriggerDescriptor
  let failures := count fun object =>
    object.role = .failure && object.mediaType = failureMediaType
  let worldManifests := count fun object =>
    object.role = .worldManifest && object.mediaType = worldManifestMediaType
  let transcriptManifests := count fun object =>
    object.role = .dependencyTranscript && object.mediaType = dependencyTranscriptMediaType
  rejectIf (subjectManifests ≠ 1 ∨ triggerDescriptors ≠ 1 ∨ failures ≠ 1 ∨ worldManifests ≠ 1 ∨
    transcriptManifests > 1) .schemaInvalid

def validate (capsule : ReplayCapsule) : Result Unit := do
  rejectIf (capsule.objects.isEmpty ∨ capsule.objects.length > 32767 ∨
    capsule.perturbationSuite ≠ "reproit.controlled-perturbation.v1" ∨
    ¬ validLowerIdentity capsule.profile ∨ capsule.profile.utf8ByteSize > 128 ∨
    ¬ (1 ≤ capsule.profileFormat.toNat ∧ capsule.profileFormat.toNat ≤ maxExactInteger))
    .schemaInvalid
  forEach capsule.objects fun object => do
    object.validate
    -- only replayable payload objects are sealed into a capsule
    rejectIf (object.role = .admissionProof ∨ object.role = .candidate ∨
      object.role = .debugSymbols ∨ object.role = .replayCapsuleManifest) .schemaInvalid
  capsule.validateClosureShape
  capsule.subject.validate
  rejectIf (capsule.subject.artifactDigest ≠ capsule.subjectDigest ∨
    capsule.subject.artifactMediaType ≠ subjectClosureMediaType)
    (.new .subjectDigestMismatch "The subject descriptor does not match the replay capsule.")
  requireStrictOrder (capsule.objects.map fun object => object.objectId.toText)
  validateCapabilities capsule.requiredCapabilities

instance : Validate ReplayCapsule := ⟨validate⟩

/-- What the validator establishes. -/
structure Valid (capsule : ReplayCapsule) : Prop where
  nonempty : capsule.objects ≠ []
  count : capsule.objects.length ≤ 32767
  suite : capsule.perturbationSuite = "reproit.controlled-perturbation.v1"
  profile : validLowerIdentity capsule.profile = true ∧ capsule.profile.utf8ByteSize ≤ 128
  profileFormat : 1 ≤ capsule.profileFormat.toNat ∧ capsule.profileFormat.toNat ≤ maxExactInteger
  objects : ∀ object ∈ capsule.objects, object.validate = .ok () ∧
    object.role ≠ .admissionProof ∧ object.role ≠ .candidate ∧ object.role ≠ .debugSymbols ∧
      object.role ≠ .replayCapsuleManifest
  shape : capsule.validateClosureShape = .ok ()
  subject : capsule.subject.validate = .ok ()
  artifactDigest : capsule.subject.artifactDigest = capsule.subjectDigest
  artifactMediaType : capsule.subject.artifactMediaType = subjectClosureMediaType
  ordered : (capsule.objects.map LogicalObject.objectId).Pairwise (· < ·)
  capabilities : validateCapabilities capsule.requiredCapabilities = .ok ()

theorem validate_eq_ok {capsule : ReplayCapsule} : capsule.validate = .ok () ↔ capsule.Valid := by
  have order : requireStrictOrder (capsule.objects.map fun object => object.objectId.toText) =
      .ok () ↔ (capsule.objects.map LogicalObject.objectId).Pairwise (· < ·) := by
    rw [requireStrictOrder_eq_ok, List.pairwise_map, List.pairwise_map]
    simp only [TypedId.toText_lt_iff]
  simp only [validate, bind_eq_ok, rejectIf_eq_ok, forEach_eq_ok, order, not_or, not_not,
    not_lt, List.isEmpty_iff]
  constructor
  · rintro ⟨_, ⟨nonempty, count, suite, identity, length, format⟩, _, objects, _, shape, _,
      subject, _, ⟨digest, mediaType⟩, _, ordered, capabilities⟩
    refine ⟨nonempty, count, suite, ⟨identity, length⟩, format, fun object member => ?_, shape,
      subject, digest, mediaType, ordered, capabilities⟩
    obtain ⟨_, valid, roles⟩ := objects object member
    exact ⟨valid, roles⟩
  · intro valid
    exact ⟨(), ⟨valid.nonempty, valid.count, valid.suite, valid.profile.1, valid.profile.2,
      valid.profileFormat⟩, (), fun object member => ⟨(), valid.objects object member⟩, (),
      valid.shape, (), valid.subject, (), ⟨valid.artifactDigest, valid.artifactMediaType⟩, (),
      valid.ordered, valid.capabilities⟩

theorem Valid.nodup {capsule : ReplayCapsule} (valid : capsule.Valid) :
    (capsule.objects.map LogicalObject.objectId).Nodup :=
  valid.ordered.imp fun below => ne_of_lt below

end ReplayCapsule

end Reproit
