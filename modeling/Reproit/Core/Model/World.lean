/-
# World checkpoints

A World names, for every provider, a recoverable point with the state artifacts that
rebuild it.  The identity of a World is the canonical digest of its checkpoint.
-/

import Reproit.Data.Checked
import Reproit.Core.Model.Object

namespace Reproit

/-! ## Limits -/

/-- Every integer can be written exactly. -/
def validateExact (values : List UInt64) : Result Unit :=
  rejectIf (∃ value ∈ values, value.toNat > maxExactInteger) .schemaInvalid

/-- The resources that a provider may use to hold and to rebuild a point. -/
structure ProviderResourceClaim where
  materializedBytes : UInt64
  objects : UInt64
  pinnedBytes : UInt64
  temporaryBytes : UInt64
  deriving DecidableEq

namespace ProviderResourceClaim

def codec : Codec ProviderResourceClaim :=
  .record
    (.required "materialized_bytes" .uint64 <| .required "objects" .uint64 <|
      .required "pinned_bytes" .uint64 <| .required "temporary_bytes" .uint64 .done)
    (fun r => (r.materializedBytes, r.objects, r.pinnedBytes, r.temporaryBytes, ()))
    (fun (materializedBytes, objects, pinnedBytes, temporaryBytes, ()) =>
      { materializedBytes, objects, pinnedBytes, temporaryBytes })
    (fun _ => rfl) (by decide)

def validate (claim : ProviderResourceClaim) : Result Unit :=
  validateExact [claim.materializedBytes, claim.objects, claim.pinnedBytes, claim.temporaryBytes]

instance : Validate ProviderResourceClaim := ⟨validate⟩

end ProviderResourceClaim

/-- The greatest canonical size of a World checkpoint. -/
def maxWorldManifestBytes : Nat := 262144

/-! ## State artifacts and scopes -/

/-- A reference to the stored content of one state artifact. -/
structure ArtifactReference where
  digest : Digest
  mediaType : String
  size : UInt64
  uri : String
  deriving DecidableEq

namespace ArtifactReference

def codec : Codec ArtifactReference :=
  .record
    (.required "digest" Digest.codec <| .required "media_type" .string <|
      .required "size" .uint64 <| .required "uri" .string .done)
    (fun r => (r.digest, r.mediaType, r.size, r.uri, ()))
    (fun (digest, mediaType, size, uri, ()) => { digest, mediaType, size, uri })
    (fun _ => rfl) (by decide)

def isControl (c : Char) : Bool := c.toNat < 32 || c.toNat = 127

def validate (artifact : ArtifactReference) : Result Unit :=
  rejectIf (artifact.mediaType.isEmpty ∨ artifact.mediaType.utf8ByteSize > 256 ∨
    artifact.uri.isEmpty ∨ artifact.uri.utf8ByteSize > 2048 ∨
    artifact.size.toNat > maxObjectBytes ∨
    (artifact.mediaType.toList ++ artifact.uri.toList).any isControl) .schemaInvalid

instance : Validate ArtifactReference := ⟨validate⟩

end ArtifactReference

/-- A range of keys in one namespace. -/
structure ScopeRule where
  boundarySchemaDigest : Digest
  endInclusive : Option String
  nameSpace : String
  startInclusive : Option String
  deriving DecidableEq

namespace ScopeRule

def codec : Codec ScopeRule :=
  .record
    (.required "boundary_schema_digest" Digest.codec <|
      .optional "end_inclusive" .string Codec.decode_null_string <| .required "namespace" .string <|
      .optional "start_inclusive" .string Codec.decode_null_string .done)
    (fun r => (r.boundarySchemaDigest, r.endInclusive, r.nameSpace, r.startInclusive, ()))
    (fun (boundarySchemaDigest, endInclusive, nameSpace, startInclusive, ()) =>
      { boundarySchemaDigest, endInclusive, nameSpace, startInclusive })
    (fun _ => rfl) (by decide)

def validOptionalBase64Url (value : Option String) : Bool :=
  value.all fun text => !text.isEmpty && validBase64Url text

def validate (rule : ScopeRule) : Result Unit :=
  rejectIf (rule.nameSpace.isEmpty ∨ rule.nameSpace.utf8ByteSize > 512 ∨
    ¬ validOptionalBase64Url rule.endInclusive ∨ ¬ validOptionalBase64Url rule.startInclusive)
    .schemaInvalid

instance : Validate ScopeRule := ⟨validate⟩

end ScopeRule

inductive CheckpointScopeKind
  | full | scoped
  deriving DecidableEq

def CheckpointScopeKind.name : CheckpointScopeKind → String
  | .full => "full"
  | .scoped => "scoped"

def CheckpointScopeKind.codec : Codec CheckpointScopeKind :=
  .enumeration [.full, .scoped] name fun value => by cases value <;> decide

/-- The part of a provider's state that a point holds. -/
structure CheckpointScope where
  kind : CheckpointScopeKind
  rules : List ScopeRule
  deriving DecidableEq

namespace CheckpointScope

def codec : Codec CheckpointScope :=
  .record
    (.required "kind" CheckpointScopeKind.codec <| .required "rules" (.list ScopeRule.codec) .done)
    (fun r => (r.kind, r.rules, ())) (fun (kind, rules, ()) => { kind, rules })
    (fun _ => rfl) (by decide)

def validate (scope : CheckpointScope) : Result Unit := do
  rejectIf (scope.rules.length > 1024 ∨ (scope.kind = .full ∧ scope.rules ≠ []) ∨
    (scope.kind = .scoped ∧ scope.rules = [])) .schemaInvalid
  forEach scope.rules ScopeRule.validate

instance : Validate CheckpointScope := ⟨validate⟩

end CheckpointScope

/-! ## Recoverable points -/

abbrev RecoverablePointFormat := Format "reproit.recoverable-point.v1"

/-- One provider's state at a point that it can rebuild. -/
structure RecoverablePoint where
  artifacts : List ArtifactReference
  capabilities : List String
  configurationDigest : Digest
  engineIdentity : String
  engineVersion : String
  format : RecoverablePointFormat
  generation : UInt64
  point : String
  providerId : String
  publishedAt : Timestamp
  recoverableUntil : Timestamp
  resourceClaim : ProviderResourceClaim
  scope : CheckpointScope
  deriving DecidableEq

namespace RecoverablePoint

def codec : Codec RecoverablePoint :=
  .record
    (.required "artifacts" (.list ArtifactReference.codec) <|
      .required "capabilities" (.list .string) <|
      .required "configuration_digest" Digest.codec <| .required "engine_identity" .string <|
      .required "engine_version" .string <| .required "format" (Format.codec _) <|
      .required "generation" .uint64 <| .required "point" .string <|
      .required "provider_id" .string <| .required "published_at" Timestamp.codec <|
      .required "recoverable_until" Timestamp.codec <|
      .required "resource_claim" ProviderResourceClaim.codec <|
      .required "scope" CheckpointScope.codec .done)
    (fun r => (r.artifacts, r.capabilities, r.configurationDigest, r.engineIdentity,
      r.engineVersion, r.format, r.generation, r.point, r.providerId, r.publishedAt,
      r.recoverableUntil, r.resourceClaim, r.scope, ()))
    (fun (artifacts, capabilities, configurationDigest, engineIdentity, engineVersion, format,
      generation, point, providerId, publishedAt, recoverableUntil, resourceClaim, scope, ()) =>
      { artifacts, capabilities, configurationDigest, engineIdentity, engineVersion, format,
        generation, point, providerId, publishedAt, recoverableUntil, resourceClaim, scope })
    (fun _ => rfl) (by decide)

def validate (point : RecoverablePoint) : Result Unit := do
  rejectIf (point.artifacts.length > 32767 ∨ point.capabilities.length > 64 ∨
    point.engineIdentity.isEmpty ∨ point.engineIdentity.utf8ByteSize > 256 ∨
    point.engineVersion.isEmpty ∨ point.engineVersion.utf8ByteSize > 128 ∨
    point.generation = 0 ∨ point.generation.toNat > maxExactInteger ∨
    point.point.isEmpty ∨ point.point.utf8ByteSize > 16384 ∨ ¬ validBase64Url point.point ∨
    ¬ validComponent point.providerId ∨ point.publishedAt > point.recoverableUntil) .schemaInvalid
  rejectIf ((∃ value ∈ point.capabilities, ¬ validComponent value) ∨
    ¬ point.capabilities.Nodup) .schemaInvalid
  point.resourceClaim.validate
  point.scope.validate
  forEach point.artifacts ArtifactReference.validate
  let bytes ← okOr (checkedSum 0 (point.artifacts.map ArtifactReference.size)) .schemaInvalid
  rejectIf (bytes > point.resourceClaim.pinnedBytes ∨
    point.artifacts.length > point.resourceClaim.objects.toNat) .schemaInvalid

instance : Validate RecoverablePoint := ⟨validate⟩

end RecoverablePoint

/-! ## World checkpoints -/

abbrev WorldCheckpointFormat := Format "reproit.world-checkpoint.v1"

/-- The points that together are one World. -/
structure WorldCheckpoint where
  createdAt : Timestamp
  format : WorldCheckpointFormat
  points : List RecoverablePoint
  deriving DecidableEq

namespace WorldCheckpoint

def codec : Codec WorldCheckpoint :=
  .record
    (.required "created_at" Timestamp.codec <| .required "format" (Format.codec _) <|
      .required "points" (.list RecoverablePoint.codec) .done)
    (fun r => (r.createdAt, r.format, r.points, ()))
    (fun (createdAt, format, points, ()) => { createdAt, format, points })
    (fun _ => rfl) (by decide)

instance : Document WorldCheckpoint := ⟨codec, by decide⟩

/-- Every point is valid, published in time and of a provider not seen before. -/
def validatePoints (createdAt : Timestamp) :
    (providers : List String) → List RecoverablePoint → Result Unit
  | _, [] => .ok ()
  | providers, point :: rest => do
      point.validate
      rejectIf (point.publishedAt > createdAt ∨ point.providerId ∈ providers) .schemaInvalid
      validatePoints createdAt (point.providerId :: providers) rest

def validate (world : WorldCheckpoint) : Result Unit := do
  rejectIf (world.points.length > 64) .schemaInvalid
  validatePoints world.createdAt [] world.points
  let written ← Canonical.bytes world
  rejectIf (written.length > maxWorldManifestBytes) .schemaInvalid

instance : Validate WorldCheckpoint := ⟨validate⟩

/-- The identity of a valid World. -/
def worldId [Primitives] (world : WorldCheckpoint) : Result Digest := do
  world.validate
  Canonical.digest world

end WorldCheckpoint

end Reproit
