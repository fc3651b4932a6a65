/-
# Worlds of a state provider

A state provider pins a recoverable point, materializes it for an execution, verifies
the result and releases the point.  A verified World is one that was pinned,
materialized and verified for the execution that uses it.
-/

import Mathlib.Data.Finset.Defs
import Reproit.Core.ResourceModel

namespace Reproit.Backend

def maxProviderArtifacts : Nat := 32767
def maxProviderCapabilities : Nat := 64
def maxScopeRules : Nat := 1024

inductive CheckpointScope
  | full
  | scoped (rules : List String)
  deriving DecidableEq

/-- A point that a provider can recover. The capabilities and the rules are sets, listed
without repetition. -/
structure RecoverablePoint where
  artifacts : OrderedMap Digest UInt64
  capabilities : List String
  configurationDigest : Digest
  engineIdentity : String
  engineVersion : String
  generation : UInt64
  pointDigest : Digest
  providerId : String
  publishedAt : Timestamp
  recoverableUntil : Timestamp
  resourceClaim : ProviderResourceClaim
  scope : CheckpointScope

def validateScope : CheckpointScope → Result Unit
  | .full => .ok ()
  | .scoped rules => rejectIf (rules.isEmpty ∨ rules.length > maxScopeRules ∨
      ∃ rule ∈ rules, rule.isEmpty ∨ rule.utf8ByteSize > 512) .schemaInvalid

def RecoverablePoint.validate (point : RecoverablePoint) (now : Timestamp) : Result Unit := do
  rejectIf (¬ validComponent point.providerId ∨ point.engineIdentity.isEmpty ∨
    point.engineIdentity.utf8ByteSize > 256 ∨ point.engineVersion.isEmpty ∨
    point.engineVersion.utf8ByteSize > 128 ∨ point.generation = 0 ∨
    point.generation.toNat > maxExactInteger ∨
    point.artifacts.size > maxProviderArtifacts ∨
    point.capabilities.length > maxProviderCapabilities ∨
    ∃ capability ∈ point.capabilities, ¬ validComponent capability) .schemaInvalid
  rejectIf (point.publishedAt > point.recoverableUntil ∨ now > point.recoverableUntil)
    (.new .worldPointExpired "The selected World point is no longer recoverable.")
  point.resourceClaim.validate
  let pinnedBytes ← okOr (checkedSum 0 (point.artifacts.toList.map Prod.snd)) .schemaInvalid
  rejectIf (pinnedBytes > point.resourceClaim.pinnedBytes ∨
    point.artifacts.size > point.resourceClaim.objects.toNat)
    (.new .runtimeQuota "The provider point exceeds its declared resource claim.")
  validateScope point.scope

structure ProviderLease where
  captureId : CaptureId
  expiresAt : Timestamp
  leaseId : LeaseId
  pointDigest : Digest
  providerId : String
  worldId : Digest
  deriving DecidableEq

/-- The evidence of a materialized point, and likewise of a verified one. -/
structure ProviderMaterialization where
  evidenceDigest : Digest
  executionId : ExecutionId
  leaseId : LeaseId
  providerId : String
  deriving DecidableEq

structure ProviderVerification where
  evidenceDigest : Digest
  executionId : ExecutionId
  leaseId : LeaseId
  providerId : String
  deriving DecidableEq

structure MaterializeRequest where
  captureId : CaptureId
  executionCapabilities : List String
  executionId : ExecutionId
  now : Timestamp
  point : RecoverablePoint
  targetReference : String
  worldId : Digest

/-- What is checked before the point is pinned. -/
def validateRequest (request : MaterializeRequest) : Result Unit := do
  request.point.validate request.now
  rejectIf (request.targetReference.isEmpty ∨ request.targetReference.utf8ByteSize > 16384)
    .schemaInvalid
  rejectIf (¬ request.point.capabilities ⊆ request.executionCapabilities)
    (.new .unsupportedCapabilitySet "The executor does not support the required capability set.")

def validateLease (request : MaterializeRequest) (lease : ProviderLease) : Result Unit :=
  rejectIf (lease.captureId ≠ request.captureId ∨
    lease.pointDigest ≠ request.point.pointDigest ∨
    lease.providerId ≠ request.point.providerId ∨ lease.worldId ≠ request.worldId ∨
    lease.expiresAt < request.now)
    (.new .worldNotClosed "The provider lease does not bind the selected World point.")

def validateMaterialization (lease : ProviderLease) (executionId : ExecutionId)
    (materialization : ProviderMaterialization) : Result Unit :=
  rejectIf (materialization.executionId ≠ executionId ∨
    materialization.leaseId ≠ lease.leaseId ∨ materialization.providerId ≠ lease.providerId)
    (.new .worldNotClosed "The materialized World does not bind the provider lease.")

def validateVerification (lease : ProviderLease) (executionId : ExecutionId)
    (materialization : ProviderMaterialization) (verification : ProviderVerification) :
    Result Unit :=
  rejectIf (verification.executionId ≠ executionId ∨ verification.leaseId ≠ lease.leaseId ∨
    verification.providerId ≠ lease.providerId ∨
    verification.evidenceDigest ≠ materialization.evidenceDigest)
    (.new .worldNotClosed "The provider verification does not bind the materialized World.")

end Reproit.Backend
