/-
# A file checkpoint provider

The provider keeps a table of the leases that are pinned.  Pinning reserves the claim
of the point under the lock of the table and reads the checkpoint afterwards; a lease
that is in the table is found again.  Releasing takes the lease out of the table and
removes the files that were materialized for it.
-/

import Reproit.Backend.FileSystem
import Reproit.Backend.World
import Reproit.Core.Canonical

namespace Reproit.Backend

def providerMissing : Error :=
  .new .worldProviderMissing
    "The file checkpoint provider cannot supply the selected World point."

def checkpointQuota : Error :=
  .new .runtimeQuota "The file checkpoint provider lease quota is full."

def unavailable : Error :=
  .new .serviceUnavailable "The file checkpoint provider is unavailable."

/-! ## Configuration -/

structure FileCheckpointConfig where
  engineIdentity : String
  engineVersion : String
  historyRoot : Path
  maximumActiveLeases : UInt64
  maximumCheckpointBytes : UInt64
  maximumResourceClaim : ProviderResourceClaim
  providerId : String
  serviceId : ServiceId
  workspaceRoot : Path

def FileCheckpointConfig.validate (config : FileCheckpointConfig) : Result Unit := do
  rejectIf (¬ config.historyRoot.absolute ∨ ¬ config.workspaceRoot.absolute ∨
    config.historyRoot = config.workspaceRoot ∨ ¬ validComponent config.providerId ∨
    config.engineIdentity.isEmpty ∨ config.engineIdentity.utf8ByteSize > 256 ∨
    config.engineVersion.isEmpty ∨ config.engineVersion.utf8ByteSize > 128 ∨
    config.maximumActiveLeases = 0 ∨ config.maximumActiveLeases > 1024 ∨
    config.maximumCheckpointBytes = 0) .schemaInvalid
  config.maximumResourceClaim.validate

/-- What the configuration digest covers. -/
structure ConfigurationIdentity where
  engineIdentity : String
  engineVersion : String
  maximumActiveLeases : UInt64
  maximumCheckpointBytes : UInt64
  maximumResourceClaim : ProviderResourceClaim
  providerId : String
  serviceId : ServiceId

namespace ConfigurationIdentity

def codec : Codec ConfigurationIdentity :=
  .record
    (.required "engine_identity" .string <| .required "engine_version" .string <|
      .required "maximum_active_leases" .uint64 <|
      .required "maximum_checkpoint_bytes" .uint64 <|
      .required "maximum_resource_claim" ProviderResourceClaim.codec <|
      .required "provider_id" .string <| .required "service_id" TypedId.codec .done)
    (fun r => (r.engineIdentity, r.engineVersion, r.maximumActiveLeases,
      r.maximumCheckpointBytes, r.maximumResourceClaim, r.providerId, r.serviceId, ()))
    (fun (engineIdentity, engineVersion, maximumActiveLeases, maximumCheckpointBytes,
      maximumResourceClaim, providerId, serviceId, ()) =>
      { engineIdentity, engineVersion, maximumActiveLeases, maximumCheckpointBytes,
        maximumResourceClaim, providerId, serviceId })
    (fun _ => rfl) (by decide)

instance : Document ConfigurationIdentity := ⟨codec, by decide⟩

end ConfigurationIdentity

/-! ## The provider -/

structure ActiveLease where
  artifact : Path
  executionTargets : OrderedMap ExecutionId Path
  lease : ProviderLease
  resourceClaim : ProviderResourceClaim

/-- The provider with its lease table. -/
structure FileCheckpointProvider where
  config : FileCheckpointConfig
  configurationDigest : Digest
  leases : OrderedMap LeaseId ActiveLease

/-- The provider and the disk that it works on. -/
structure CheckpointState where
  provider : FileCheckpointProvider
  disk : Disk

/-- The state with one more lease in the table. -/
def CheckpointState.insert (state : CheckpointState) (leaseId : LeaseId) (active : ActiveLease) :
    CheckpointState :=
  { state with provider :=
    { state.provider with leases := state.provider.leases.insert leaseId active } }

def CheckpointState.erase (state : CheckpointState) (leaseId : LeaseId) : CheckpointState :=
  { state with provider := { state.provider with leases := state.provider.leases.erase leaseId } }

/-- An operation of the provider. -/
abbrev CheckpointUpdate (α : Type) := Update Error CheckpointState α

variable [Primitives]

/-- Open a provider on a workspace that was cleared. -/
def FileCheckpointProvider.open' (config : FileCheckpointConfig) :
    Result FileCheckpointProvider := do
  config.validate
  let configurationDigest ← Canonical.digest ({
    engineIdentity := config.engineIdentity
    engineVersion := config.engineVersion
    maximumActiveLeases := config.maximumActiveLeases
    maximumCheckpointBytes := config.maximumCheckpointBytes
    maximumResourceClaim := config.maximumResourceClaim
    providerId := config.providerId
    serviceId := config.serviceId } : ConfigurationIdentity)
  return { config, configurationDigest, leases := ∅ }

/-- The stored file of a checkpoint. -/
def artifactPath (config : FileCheckpointConfig) (digest : Digest) : Path :=
  config.historyRoot.join (String.ofList (Radix.hexText 64 digest.number ++ ".checkpoint".toList))

/-- Set the version and the variant of a UUID. -/
def versioned (number : Nat) : Nat :=
  let withVersion := number - number / 2 ^ 76 % 16 * 2 ^ 76 + 7 * 2 ^ 76
  withVersion - withVersion / 2 ^ 62 % 4 * 2 ^ 62 + 2 * 2 ^ 62

/-- The lease of a capture, a point and a World: the first half of the digest of their
texts as a UUID. -/
def leaseId (captureId : CaptureId) (pointDigest worldId : Digest) : Result LeaseId :=
  let digest := Digest.of (Json.textBytes (captureId.toText.toList ++ '\x00' ::
    (pointDigest.toText.toList ++ '\x00' :: worldId.toText.toList)))
  okOr (TypedId.ofText (String.ofList
    (IdKind.lease.tag.toList ++ Uuid.toText (versioned (digest.number / 2 ^ 128))))) .schemaInvalid

omit [Primitives] in
theorem versioned_lt {number : Nat} (small : number < 2 ^ 128) : versioned number < 2 ^ 128 := by
  unfold versioned
  dsimp only
  omega

omit [Primitives] in
theorem version_versioned (number : Nat) : Uuid.version (versioned number) = 7 := by
  unfold Uuid.version versioned
  dsimp only
  omega

omit [Primitives] in
theorem ofText_versioned {number : Nat} (small : number < 2 ^ 128) :
    TypedId.ofText (String.ofList (IdKind.lease.tag.toList ++ Uuid.toText (versioned number))) =
      some (⟨⟨versioned number, versioned_lt small⟩, version_versioned number⟩ : LeaseId) :=
  TypedId.ofText_toText ⟨⟨versioned number, versioned_lt small⟩, version_versioned number⟩

/-- The text of a lease is always that of an identifier. -/
theorem leaseId_total (captureId : CaptureId) (pointDigest worldId : Digest) :
    ∃ id, leaseId captureId pointDigest worldId = .ok id := by
  rw [leaseId]
  have small : ∀ digest : Digest, (digest.number : Nat) / 2 ^ 128 < 2 ^ 128 := fun digest =>
    Nat.div_lt_of_lt_mul (by rw [← pow_add]; exact digest.number.isLt)
  simp only [okOr_eq_ok]
  exact ⟨_, ofText_versioned (small _)⟩

omit [Primitives] in
/-- Read a checkpoint that is a regular file of bounded size. -/
def readCheckpoint (faults : Faults) (path : Path) (maximumBytes : UInt64) (disk : Disk) :
    Result Bytes :=
  match faults.read path, disk path with
  | false, some (.file content) =>
      if content.length > maximumBytes.toNat then .error providerMissing else .ok content
  | _, _ => .error providerMissing

/-! ## The quota -/

/-- A lease is reserved under the digest of its id. -/
def leaseDigest (leaseId : LeaseId) : Digest := Digest.of (Json.textBytes leaseId.toText.toList)

omit [Primitives] in
/-- The whole capacity of the provider is the share of its one service. -/
def FileCheckpointConfig.capacity (config : FileCheckpointConfig) : ProviderCapacity where
  maximumActiveLeases := config.maximumActiveLeases
  maximumResourceClaim := config.maximumResourceClaim
  serviceShares := (∅ : OrderedMap _ _).insert config.serviceId
    { maximumActiveLeases := config.maximumActiveLeases
      maximumResourceClaim := config.maximumResourceClaim }

/-- Reserve every active lease again. -/
def replayLeases (config : FileCheckpointConfig) :
    List ActiveLease → Update Error ProviderReservationModel Unit
  | [] => return
  | active :: rest => do
      let _ ← ProviderReservationModel.reserve (leaseDigest active.lease.leaseId)
        config.serviceId active.resourceClaim
      replayLeases config rest

/-- Whether there is room for one more claim beside the active leases. -/
def reserveClaim (config : FileCheckpointConfig) (active : List ActiveLease) (leaseId : LeaseId)
    (requested : ProviderResourceClaim) : Result Unit := do
  let model ← ProviderReservationModel.new config.capacity
  let reserved : Update Error ProviderReservationModel ReservationResult := do
    replayLeases config active
    ProviderReservationModel.reserve (leaseDigest leaseId) config.serviceId requested
  let _ ← Update.verdict (reserved model)
  return ()

/-! ## Operations -/

/-- A lease that was found in the table, or one that was put there and whose checkpoint
is still to be read. -/
inductive PinProgress
  | found (lease : ProviderLease)
  | inserted (lease : ProviderLease) (artifact : Path) (digest : Digest)

/-- The point is one of this provider and small enough; its artifact. -/
def selectArtifact (provider : FileCheckpointProvider) (point : RecoverablePoint) :
    Result Digest := do
  rejectIf (point.providerId ≠ provider.config.providerId ∨
    point.configurationDigest ≠ provider.configurationDigest ∨ point.scope ≠ .full ∨
    point.artifacts.size ≠ 1) providerMissing
  point.resourceClaim.validate
  let (digest, size) ← okOr point.artifacts.toList.head? providerMissing
  rejectIf (size > provider.config.maximumCheckpointBytes) providerMissing
  rejectIf (size > point.resourceClaim.pinnedBytes ∨ point.resourceClaim.objects < 1)
    checkpointQuota
  return digest

omit [Primitives] in
/-- The lease that a pin asks for. -/
def requestedLease (point : RecoverablePoint) (captureId : CaptureId) (worldId : Digest)
    (leaseId : LeaseId) : ProviderLease where
  captureId := captureId
  expiresAt := point.recoverableUntil
  leaseId := leaseId
  pointDigest := point.pointDigest
  providerId := point.providerId
  worldId := worldId

/-- The entry of a lease that was just pinned. -/
def newEntry (config : FileCheckpointConfig) (point : RecoverablePoint) (lease : ProviderLease)
    (digest : Digest) : ActiveLease where
  artifact := artifactPath config digest
  executionTargets := ∅
  lease := lease
  resourceClaim := point.resourceClaim

/-- The half of a pin that runs under the lock. -/
def pinLocked (point : RecoverablePoint) (captureId : CaptureId) (worldId : Digest) :
    CheckpointUpdate PinProgress := do
  let state ← get
  let provider := state.provider
  let digest ← Update.attempt (selectArtifact provider point)
  let leaseId ← Update.attempt (leaseId captureId point.pointDigest worldId)
  let lease := requestedLease point captureId worldId leaseId
  Update.attempt (rejectIf (provider.leases.size ≥ provider.config.maximumActiveLeases.toNat ∧
    leaseId ∉ provider.leases) checkpointQuota)
  match provider.leases[leaseId]? with
  | some active => if active.lease = lease then return .found lease else throw .schemaInvalid
  | none =>
      Update.attempt (reserveClaim provider.config (provider.leases.toList.map Prod.snd) leaseId
        point.resourceClaim)
      set (state.insert leaseId (newEntry provider.config point lease digest))
      return .inserted lease (artifactPath provider.config digest) digest

/-- The half of a pin that reads the checkpoint, outside the lock. -/
def pinVerify (faults : Faults) (progress : PinProgress) : CheckpointUpdate ProviderLease := do
  match progress with
  | .found lease => return lease
  | .inserted lease artifact digest =>
      let state ← get
      let maximumBytes := state.provider.config.maximumCheckpointBytes
      match readCheckpoint faults artifact maximumBytes state.disk with
      | .ok bytes =>
          if Digest.of bytes = digest then return lease
          set (state.erase lease.leaseId)
          throw .objectDigestMismatch
      | .error _ =>
          set (state.erase lease.leaseId)
          throw .objectDigestMismatch

def pin (faults : Faults) (point : RecoverablePoint) (captureId : CaptureId) (worldId : Digest) :
    CheckpointUpdate ProviderLease := do
  let progress ← pinLocked point captureId worldId
  pinVerify faults progress

def scopeViolation : Error :=
  .new .stateScopeViolation "The checkpoint target is outside the provider workspace."

/-- Write the checkpoint of a lease for one execution, under the lock. -/
def materialize (faults : Faults) (lease : ProviderLease) (executionId : ExecutionId)
    (targetReference : String) : CheckpointUpdate ProviderMaterialization := do
  let target := Path.ofText targetReference
  let state ← get
  let provider := state.provider
  Update.attempt (rejectIf (¬ target.absolute ∨ target.parent ≠ some provider.config.workspaceRoot)
    scopeViolation)
  let active ← Update.attempt (okOr provider.leases[lease.leaseId]? providerMissing)
  Update.attempt (rejectIf (active.lease ≠ lease ∨ executionId ∈ active.executionTargets)
    .schemaInvalid)
  let bytes ← Update.attempt
    (readCheckpoint faults active.artifact provider.config.maximumCheckpointBytes state.disk)
  Update.attempt (rejectIf (bytes.length > active.resourceClaim.materializedBytes.toNat ∨
    bytes.length > active.resourceClaim.temporaryBytes.toNat) checkpointQuota)
  let parent ← Update.attempt (okOr target.parent .schemaInvalid)
  Update.attempt (rejectIf (faults.directory parent = true) unavailable)
  let (written, disk) := writeFile faults target bytes unavailable state.disk
  let state := { state with disk }
  set state
  Update.attempt written
  set (state.insert lease.leaseId
    { active with executionTargets := active.executionTargets.insert executionId target })
  return { evidenceDigest := Digest.of bytes, executionId, leaseId := lease.leaseId
           providerId := lease.providerId }

/-- Read what was materialized again, under the lock. -/
def verify (faults : Faults) (lease : ProviderLease) (materialization : ProviderMaterialization) :
    CheckpointUpdate ProviderVerification := do
  let state ← get
  let provider := state.provider
  let active ← Update.attempt (okOr provider.leases[lease.leaseId]? providerMissing)
  let target ← Update.attempt
    (okOr active.executionTargets[materialization.executionId]? providerMissing)
  let bytes ← Update.attempt
    (readCheckpoint faults target provider.config.maximumCheckpointBytes state.disk)
  Update.attempt (rejectIf (Digest.of bytes ≠ materialization.evidenceDigest)
    .objectDigestMismatch)
  return { evidenceDigest := Digest.of bytes, executionId := materialization.executionId
           leaseId := lease.leaseId, providerId := lease.providerId }

omit [Primitives] in
/-- The half of a release that takes the lease out of the table; the lock is held for
the removal alone. -/
def releaseLocked (lease : ProviderLease) : CheckpointUpdate (List Path) := do
  let state ← get
  let active ← Update.attempt (okOr state.provider.leases[lease.leaseId]? providerMissing)
  set (state.erase lease.leaseId)
  Update.attempt (rejectIf (active.lease ≠ lease) .schemaInvalid)
  return active.executionTargets.toList.map Prod.snd

omit [Primitives] in
/-- The half of a release that removes the materialized files. -/
def removeTargets (faults : Faults) : List Path → CheckpointUpdate Unit
  | [] => return
  | target :: rest => do
      let state ← get
      let (removed, disk) := removeFile faults target unavailable state.disk
      set { state with disk }
      Update.attempt removed
      removeTargets faults rest

omit [Primitives] in
def release (faults : Faults) (lease : ProviderLease) : CheckpointUpdate Unit := do
  let targets ← releaseLocked lease
  removeTargets faults targets

end Reproit.Backend
