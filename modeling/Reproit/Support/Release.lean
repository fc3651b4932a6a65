/-
# The support catalog of a release

A Runtime reads the signed registry and the packages of its release.  The catalog loads
exactly when the registry is signed for the release and the packages are one for every SDK
on every architecture, each authorized by the registry.
-/

import Reproit.Signing.Binding
import Reproit.Support.Production

namespace Reproit

open Backend

variable [Primitives]

/-! ## The signed registry -/

def unauthorizedRegistry : Error :=
  .new .unsupportedCapabilitySet
    "The installed support-bundle registry is not authorized for this release."

/-- Every failure of the check is reported as an unauthorized registry. -/
def verifySupportRegistry (registry : SupportRegistry)
    (expectedReleaseVersion expectedSignerKeyId : String) (publicKey : SecretKey) :
    Result Unit :=
  let verified : Result Unit := do
    registry.validate
    rejectIf (registry.releaseVersion ≠ expectedReleaseVersion ∨
      registry.signerKeyId ≠ expectedSignerKeyId) .schemaInvalid
    verifySignedValue (Document.encode registry) publicKey
  verified.mapError fun _ => unauthorizedRegistry

namespace Backend

def VerifiedSupportRegistry.new (registry : SupportRegistry)
    (expectedReleaseVersion expectedSignerKeyId : String) (publicKey : SecretKey) :
    Result VerifiedSupportRegistry := do
  verifySupportRegistry registry expectedReleaseVersion expectedSignerKeyId publicKey
  return { registry }

/-! ## The packages document -/

def BackendSupportPackage.codec : Codec BackendSupportPackage :=
  .record
    (.required "bundle" SupportBundle.codec <|
      .required "closure_policy" ClosurePolicy.codec <|
      .required "debugger" DebuggerContract.codec .done)
    (fun r => (r.bundle, r.closurePolicy, r.debugger, ()))
    (fun (bundle, closurePolicy, debugger, ()) => { bundle, closurePolicy, debugger })
    (fun _ => rfl) (by decide)

structure BackendSupportCatalogDocument where
  format : String
  packages : List BackendSupportPackage

def BackendSupportCatalogDocument.codec : Codec BackendSupportCatalogDocument :=
  .record
    (.required "format" .string <|
      .required "packages" (.list BackendSupportPackage.codec) .done)
    (fun r => (r.format, r.packages, ()))
    (fun (format, packages, ()) => { format, packages })
    (fun _ => rfl) (by decide)

instance : Document BackendSupportCatalogDocument :=
  ⟨BackendSupportCatalogDocument.codec, by decide⟩

/-! ## Loading -/

def maxRegistryBytes : Nat := 1048576

def maxBackendCatalogBytes : Nat := 4 * 1024 * 1024

def requiredBackendPackageCount : Nat := 10

def requiredSdkCapabilities : List String :=
  ["sdk.dotnet", "sdk.go", "sdk.node", "sdk.python", "sdk.rust"]

def requiredArchitectureCapabilities : List String :=
  ["architecture.arm64", "architecture.x86-64"]

/-- The version that the Runtime was built with. -/
def releaseVersion : String := "1.0.0"

def invalidSupport : Error :=
  .new .configConflict "The signed support package configuration is invalid."

/-- What the file system tells about a path that is not followed. -/
structure FileMetadata where
  isFile : Bool
  length : Nat

/-- A path with its metadata and its contents, where each can be read. -/
structure SupportPath where
  metadata : Option FileMetadata
  contents : Option Bytes

def readRegularPath (path : SupportPath) (maximumBytes : Nat) : Result Bytes := do
  let metadata ← okOr path.metadata invalidSupport
  rejectIf (¬ metadata.isFile ∨ metadata.length = 0 ∨ metadata.length > maximumBytes)
    invalidSupport
  okOr path.contents invalidSupport

def requireBackendV1Matrix (packageCount : Nat) (requirePair : String → String → Result Unit) :
    Result Unit := do
  rejectIf (packageCount ≠ requiredBackendPackageCount) invalidSupport
  forEach requiredSdkCapabilities fun sdk =>
    forEach requiredArchitectureCapabilities fun architecture =>
      (requirePair sdk architecture).mapError fun _ => invalidSupport

structure ProductionSupportCatalog where
  backend : VerifiedBackendSupportCatalog
  profiles : VerifiedSupportRegistry

def loadSupportCatalogFrom (registryPath packagesPath : SupportPath) (signerKeyId : String)
    (verificationKey : SecretKey) : Result ProductionSupportCatalog := do
  let registryBytes ← readRegularPath registryPath maxRegistryBytes
  let registry ← Canonical.parseStrict SupportRegistry registryBytes
  let profiles ← VerifiedSupportRegistry.new registry releaseVersion signerKeyId verificationKey
  let catalogBytes ← readRegularPath packagesPath maxBackendCatalogBytes
  let document ← (Canonical.parseStrict BackendSupportCatalogDocument catalogBytes).mapError
    fun _ => invalidSupport
  rejectIf (document.format ≠ "reproit.backend-support-catalog.v1") invalidSupport
  let packageCount := document.packages.length
  let backend ← (VerifiedBackendSupportCatalog.new document.packages profiles).mapError
    fun _ => invalidSupport
  requireBackendV1Matrix packageCount fun sdk architecture =>
    (backend.select sdk architecture).map fun _ => ()
  return { backend, profiles }

/-- A setting of the environment, which must be there and be neither empty nor long. -/
def required (environment : String → Option String) (name : String) : Result String :=
  okOr ((environment name).filter fun value => ¬ value.isEmpty ∧ value.utf8ByteSize ≤ 4096)
    invalidSupport

def loadSupportCatalog (environment : String → Option String) (disk : String → SupportPath) :
    Result ProductionSupportCatalog := do
  let registryPath ← required environment "REPROIT_SUPPORT_REGISTRY_FILE"
  let packagesPath ← required environment "REPROIT_BACKEND_SUPPORT_PACKAGES_FILE"
  let keyText ← required environment "REPROIT_RELEASE_VERIFICATION_KEY"
  let key ← decodeBase64Url 32 keyText
  let signerKeyId ← required environment "REPROIT_RELEASE_SIGNER_KEY_ID"
  loadSupportCatalogFrom (disk registryPath) (disk packagesPath) signerKeyId key

/-! ## What a catalog is made of -/

/-- A package that a catalog may keep under a digest and an identity. -/
structure AdmittedPackage (registry : VerifiedSupportRegistry) (package : BackendSupportPackage)
    (entry : Digest × PackageIdentity) : Prop where
  valid : validateBackendSupportPackage package = .ok ()
  digest : package.digest = .ok entry.1
  authorized : registry.requireBundle "backend" 1 entry.1 = .ok ()
  identity : packageIdentity package.bundle = .ok entry.2

section Catalog

variable {registry : VerifiedSupportRegistry} {packages : List BackendSupportPackage}
  {before after catalog : VerifiedBackendSupportCatalog}

theorem addPackage_eq_ok {package : BackendSupportPackage} :
    before.add registry package = .ok after ↔ ∃ entry, AdmittedPackage registry package entry ∧
      before.byDigest.insertNew entry.1 entry.2 = some after.byDigest ∧
        before.packages.insertNew entry.2 package = some after.packages := by
  simp only [VerifiedBackendSupportCatalog.add, bind_eq_ok, okOr_eq_ok, pure_eq_ok]
  constructor
  · rintro ⟨_, valid, digest, digested, _, authorized, identity, identified, byDigest, newDigest,
      byIdentity, newIdentity, rfl⟩
    exact ⟨(digest, identity), ⟨valid, digested, authorized, identified⟩, newDigest, newIdentity⟩
  · rintro ⟨entry, admitted, newDigest, newIdentity⟩
    exact ⟨(), admitted.valid, entry.1, admitted.digest, (), admitted.authorized, entry.2,
      admitted.identity, _, newDigest, _, newIdentity, rfl⟩

omit [Primitives] in
theorem eq_of_maps (digests : before.byDigest = after.byDigest)
    (kept : before.packages = after.packages) : before = after := by
  cases before
  cases after
  exact congrArg₂ VerifiedBackendSupportCatalog.mk digests kept

/-- A catalog is filled by entries with new digests and new identities. -/
theorem foldlM_addPackage_eq_ok :
    packages.foldlM (VerifiedBackendSupportCatalog.add registry) before = .ok after ↔
      ∃ entries, List.Forall₂ (AdmittedPackage registry) packages entries ∧
        before.byDigest.insertAllNew entries = some after.byDigest ∧
        before.packages.insertAllNew (List.zipWith (fun entry package => (entry.2, package))
          entries packages) = some after.packages := by
  induction packages generalizing before with
  | nil =>
      rw [List.foldlM_nil, pure_eq_ok]
      constructor
      · rintro rfl
        exact ⟨[], .nil, rfl, rfl⟩
      · rintro ⟨_, paired, sameDigests, samePackages⟩
        cases paired
        exact eq_of_maps (Option.some.inj sameDigests) (Option.some.inj samePackages)
  | cons package rest ih =>
      simp only [List.foldlM_cons, bind_eq_ok, ih, addPackage_eq_ok]
      constructor
      · rintro ⟨between, ⟨entry, admitted, newDigest, newIdentity⟩, entries, paired, digests, kept⟩
        refine ⟨entry :: entries, .cons admitted paired, ?_, ?_⟩
        · rw [OrderedMap.insertAllNew, List.foldlM_cons, newDigest]
          exact digests
        · rw [List.zipWith_cons_cons, OrderedMap.insertAllNew, List.foldlM_cons, newIdentity]
          exact kept
      · rintro ⟨_, paired, digests, kept⟩
        cases paired with
        | @cons _ entry _ entries admitted paired =>
            rw [OrderedMap.insertAllNew, List.foldlM_cons, Option.bind_eq_bind,
              Option.bind_eq_some_iff] at digests
            rw [List.zipWith_cons_cons, OrderedMap.insertAllNew, List.foldlM_cons,
              Option.bind_eq_bind, Option.bind_eq_some_iff] at kept
            obtain ⟨byDigest, newDigest, digests⟩ := digests
            obtain ⟨byIdentity, newIdentity, kept⟩ := kept
            exact ⟨⟨byDigest, byIdentity⟩, ⟨entry, admitted, newDigest, newIdentity⟩, entries,
              paired, digests, kept⟩

omit [Primitives] in
theorem map_fst_zipWith {entries : List (Digest × PackageIdentity)}
    (same : entries.length = packages.length) :
    (List.zipWith (fun entry package => (entry.2, package)) entries packages).map Prod.fst =
      entries.map Prod.snd := by
  induction entries generalizing packages with
  | nil => rfl
  | cons entry entries ih =>
      cases packages with
      | nil => cases same
      | cons package packages =>
          rw [List.zipWith_cons_cons, List.map_cons, List.map_cons, ih (Nat.succ.inj same)]

/-- A catalog exists exactly when the packages may be kept and no two have one digest or one
identity. -/
theorem exists_new_iff :
    (∃ catalog, VerifiedBackendSupportCatalog.new packages registry = .ok catalog) ↔
      packages ≠ [] ∧ packages.length ≤ 10 ∧ ∃ entries,
        List.Forall₂ (AdmittedPackage registry) packages entries ∧
          (entries.map Prod.fst).Nodup ∧ (entries.map Prod.snd).Nodup := by
  simp only [VerifiedBackendSupportCatalog.new, bind_eq_ok, rejectIf_eq_ok, foldlM_addPackage_eq_ok,
    not_or, List.isEmpty_iff, not_lt]
  constructor
  · rintro ⟨catalog, _, ⟨filled, few⟩, entries, paired, digests, kept⟩
    have distinct := (OrderedMap.insertAllNew_eq_some.mp kept).1
    rw [map_fst_zipWith paired.length_eq.symm] at distinct
    exact ⟨filled, few, entries, paired, (OrderedMap.insertAllNew_eq_some.mp digests).1, distinct⟩
  · rintro ⟨filled, few, entries, paired, distinctDigests, distinct⟩
    rw [← map_fst_zipWith paired.length_eq.symm] at distinct
    obtain ⟨byDigest, digests⟩ := @OrderedMap.exists_insertAllNew _ _ _ ∅ _ distinctDigests
      fun _ _ => Std.ExtTreeMap.not_mem_empty
    obtain ⟨byIdentity, kept⟩ := @OrderedMap.exists_insertAllNew _ _ _ ∅ _ distinct
      fun _ _ => Std.ExtTreeMap.not_mem_empty
    exact ⟨⟨byDigest, byIdentity⟩, (), ⟨filled, few⟩, entries, paired, digests, kept⟩

/-- The packages determine their catalog. -/
theorem Catalogued.unique {other : VerifiedBackendSupportCatalog}
    (first : Catalogued packages catalog) (second : Catalogued packages other) :
    catalog = other := by
  have digests : catalog.byDigest = other.byDigest := by
    apply Std.ExtTreeMap.ext_getElem?
    intro digest
    apply Option.ext
    intro identity
    exact (first.byDigest digest identity).trans (second.byDigest digest identity).symm
  have kept : catalog.packages = other.packages := by
    apply Std.ExtTreeMap.ext_getElem?
    intro identity
    apply Option.ext
    intro package
    exact (first.packages identity package).trans (second.packages identity package).symm
  exact eq_of_maps digests kept

end Catalog

/-! ## The pairs of an SDK and an architecture -/

/-- Every SDK on every architecture. -/
def requiredPairs : List PackageIdentity :=
  requiredSdkCapabilities.flatMap fun sdk =>
    requiredArchitectureCapabilities.map fun architecture => toLex (sdk, architecture)

omit [Primitives] in
theorem mem_requiredPairs {sdk architecture : String} : toLex (sdk, architecture) ∈ requiredPairs ↔
    sdk ∈ requiredSdkCapabilities ∧ architecture ∈ requiredArchitectureCapabilities := by
  simp only [requiredPairs, List.mem_flatMap, List.mem_map, toLex_inj, Prod.mk.injEq]
  constructor
  · rintro ⟨_, listed, _, named, rfl, rfl⟩
    exact ⟨listed, named⟩
  · intro listed
    exact ⟨sdk, listed.1, architecture, listed.2, rfl, rfl⟩

omit [Primitives] in
theorem nodup_requiredPairs : requiredPairs.Nodup := by decide

omit [Primitives] in
theorem mem_requiredPairs_of_packageIdentity {bundle : SupportBundle} {identity : PackageIdentity}
    (identified : packageIdentity bundle = .ok identity) : identity ∈ requiredPairs := by
  simp only [packageIdentity, bind_eq_ok, pure_eq_ok, rejectIf_eq_ok, not_or,
    not_not] at identified
  obtain ⟨sdk, -, architecture, -, _, listed, rfl⟩ := identified
  exact mem_requiredPairs.mpr listed

/-- Identities without repetition are all pairs exactly when they are as many as the pairs. -/
theorem perm_requiredPairs_iff {registry : VerifiedSupportRegistry}
    {packages : List BackendSupportPackage} {entries : List (Digest × PackageIdentity)}
    (paired : List.Forall₂ (AdmittedPackage registry) packages entries)
    (distinct : (entries.map Prod.snd).Nodup) :
    packages.length = requiredBackendPackageCount ↔
      (entries.map Prod.snd).Perm requiredPairs := by
  have within : (entries.map Prod.snd).Subperm requiredPairs := by
    apply distinct.subperm
    intro identity listed
    obtain ⟨entry, member, rfl⟩ := List.mem_map.mp listed
    obtain ⟨package, -, admitted⟩ := exists_source paired member
    exact mem_requiredPairs_of_packageIdentity admitted.identity
  have size : requiredPairs.length = requiredBackendPackageCount := rfl
  constructor
  · intro enough
    apply within.perm_of_length_le
    rw [List.length_map, size, ← paired.length_eq, enough]
  · intro perm
    rw [paired.length_eq, ← List.length_map Prod.snd, perm.length_eq, size]

/-! ## What loads -/

/-- The path leads to a regular file of the size that was read. -/
structure ReadsFile (path : SupportPath) (maximumBytes : Nat) (contents : Bytes) : Prop where
  regular : ∃ metadata, path.metadata = some metadata ∧ metadata.isFile = true ∧
    0 < metadata.length ∧ metadata.length ≤ maximumBytes
  contents : path.contents = some contents

omit [Primitives] in
theorem readRegularPath_eq_ok {path : SupportPath} {maximumBytes : Nat} {contents : Bytes} :
    readRegularPath path maximumBytes = .ok contents ↔ ReadsFile path maximumBytes contents := by
  simp only [readRegularPath, bind_eq_ok, okOr_eq_ok, rejectIf_eq_ok, not_or, not_not, not_lt,
    gt_iff_lt]
  constructor
  · rintro ⟨metadata, found, _, ⟨regular, filled, small⟩, read⟩
    exact ⟨⟨metadata, found, regular, Nat.pos_of_ne_zero filled, small⟩, read⟩
  · rintro ⟨⟨metadata, found, regular, filled, small⟩, read⟩
    exact ⟨metadata, found, (), ⟨regular, filled.ne', small⟩, read⟩

/-- The registry is valid, is for the release, and is signed by the key. -/
structure SignedFor (registry : SupportRegistry) (expectedReleaseVersion signerKeyId : String)
    (publicKey : SecretKey) : Prop where
  valid : registry.validate = .ok ()
  release : registry.releaseVersion = expectedReleaseVersion
  signer : registry.signerKeyId = signerKeyId
  signed : verifySignedValue (Document.encode registry) publicKey = .ok ()

theorem VerifiedSupportRegistry.new_eq_ok {registry : SupportRegistry}
    {expectedReleaseVersion signerKeyId : String} {publicKey : SecretKey}
    {verified : VerifiedSupportRegistry} :
    VerifiedSupportRegistry.new registry expectedReleaseVersion signerKeyId publicKey =
        .ok verified ↔
      SignedFor registry expectedReleaseVersion signerKeyId publicKey ∧ ⟨registry⟩ = verified := by
  simp only [VerifiedSupportRegistry.new, verifySupportRegistry, bind_eq_ok, mapError_eq_ok,
    rejectIf_eq_ok, pure_eq_ok, not_or, not_not]
  constructor
  · rintro ⟨_, ⟨_, valid, _, ⟨release, signer⟩, signed⟩, same⟩
    exact ⟨⟨valid, release, signer, signed⟩, same⟩
  · rintro ⟨signed, same⟩
    exact ⟨(), ⟨(), signed.valid, (), ⟨signed.release, signed.signer⟩, signed.signed⟩, same⟩

/-- Every SDK on every architecture has one package, each under its own digest, and the registry
authorizes all of them. -/
def Complete (registry : VerifiedSupportRegistry) (packages : List BackendSupportPackage) : Prop :=
  ∃ entries, List.Forall₂ (AdmittedPackage registry) packages entries ∧
    (entries.map Prod.fst).Nodup ∧ (entries.map Prod.snd).Perm requiredPairs

section Loading

variable {registry : VerifiedSupportRegistry} {packages : List BackendSupportPackage}
  {catalog : VerifiedBackendSupportCatalog}

/-- A catalog of complete packages has a package for every SDK on every architecture. -/
theorem Catalogued.exists_select (held : Catalogued packages catalog)
    (complete : Complete registry packages) {sdk architecture : String}
    (listed : sdk ∈ requiredSdkCapabilities)
    (named : architecture ∈ requiredArchitectureCapabilities) :
    ∃ package, catalog.select sdk architecture = .ok package := by
  obtain ⟨entries, paired, -, perm⟩ := complete
  have present := perm.mem_iff.mpr (mem_requiredPairs.mpr ⟨listed, named⟩)
  obtain ⟨entry, member, same⟩ := List.mem_map.mp present
  obtain ⟨package, kept, admitted⟩ := exists_source paired member
  exact ⟨package, held.select_eq_ok.mpr ⟨kept, same ▸ admitted.identity⟩⟩

/-- Packages make a catalog with the required matrix exactly when they are complete. -/
theorem new_and_matrix_iff :
    VerifiedBackendSupportCatalog.new packages registry = .ok catalog ∧
        requireBackendV1Matrix packages.length (fun sdk architecture =>
          (catalog.select sdk architecture).map fun _ => ()) = .ok () ↔
      Complete registry packages ∧ Catalogued packages catalog := by
  simp only [requireBackendV1Matrix, bind_eq_ok, rejectIf_eq_ok, forEach_eq_ok, mapError_eq_ok,
    not_not]
  constructor
  · rintro ⟨built, _, enough, -⟩
    obtain ⟨-, -, entries, paired, digests, distinct⟩ := exists_new_iff.mp ⟨catalog, built⟩
    exact ⟨⟨entries, paired, digests, (perm_requiredPairs_iff paired distinct).mp enough⟩,
      .of_new built⟩
  · rintro ⟨complete, held⟩
    obtain ⟨entries, paired, digests, perm⟩ := complete
    have distinct := perm.nodup_iff.mpr nodup_requiredPairs
    have enough := (perm_requiredPairs_iff paired distinct).mpr perm
    have filled : packages ≠ [] := by
      rintro rfl
      cases enough
    obtain ⟨other, built⟩ := exists_new_iff.mpr
      ⟨filled, enough.le, entries, paired, digests, distinct⟩
    refine ⟨Catalogued.unique held (.of_new built) ▸ built, (), enough, ?_⟩
    intro sdk listed architecture named
    obtain ⟨package, selected⟩ :=
      held.exists_select ⟨entries, paired, digests, perm⟩ listed named
    rw [selected]
    rfl

end Loading

/-- A release loads exactly when its registry is signed for it and its packages are one for every
SDK on every architecture, each authorized by the registry under its own digest. -/
theorem loadSupportCatalogFrom_eq_ok (registryPath packagesPath : SupportPath)
    (signerKeyId : String) (verificationKey : SecretKey) (loaded : ProductionSupportCatalog) :
    loadSupportCatalogFrom registryPath packagesPath signerKeyId verificationKey = .ok loaded ↔
      ∃ registryBytes registry catalogBytes document,
        ReadsFile registryPath maxRegistryBytes registryBytes ∧
        Canonical.parseStrict SupportRegistry registryBytes = .ok registry ∧
        SignedFor registry releaseVersion signerKeyId verificationKey ∧
        ReadsFile packagesPath maxBackendCatalogBytes catalogBytes ∧
        Canonical.parseStrict BackendSupportCatalogDocument catalogBytes = .ok document ∧
        document.format = "reproit.backend-support-catalog.v1" ∧
        Complete ⟨registry⟩ document.packages ∧
        Catalogued document.packages loaded.backend ∧ loaded.profiles = ⟨registry⟩ := by
  simp only [loadSupportCatalogFrom, bind_eq_ok, pure_eq_ok, mapError_eq_ok, rejectIf_eq_ok,
    readRegularPath_eq_ok, VerifiedSupportRegistry.new_eq_ok, not_not]
  constructor
  · rintro ⟨registryBytes, readRegistry, registry, parsed, profiles, ⟨signed, rfl⟩, catalogBytes,
      readCatalog, document, read, _, format, backend, built, _, matrix, rfl⟩
    obtain ⟨complete, held⟩ := new_and_matrix_iff.mp ⟨built, matrix⟩
    exact ⟨registryBytes, registry, catalogBytes, document, readRegistry, parsed, signed,
      readCatalog, read, format, complete, held, rfl⟩
  · rintro ⟨registryBytes, registry, catalogBytes, document, readRegistry, parsed, signed,
      readCatalog, read, format, complete, held, profiles⟩
    obtain ⟨built, matrix⟩ := new_and_matrix_iff.mpr ⟨complete, held⟩
    refine ⟨registryBytes, readRegistry, registry, parsed, _, ⟨signed, rfl⟩, catalogBytes,
      readCatalog, document, read, (), format, loaded.backend, built, (), matrix, ?_⟩
    rw [← profiles]

/-! ## A catalog of built packages -/

/-- The pair that a package is built for. -/
def PackageParts.pair (parts : PackageParts) : BackendSdk × ProcessorArchitecture :=
  (parts.sdk, parts.architecture)

/-- What an SDK on an architecture selects its package by. -/
def pairIdentity (pair : BackendSdk × ProcessorArchitecture) : PackageIdentity :=
  toLex ((sdkIdentity pair.1).capability, (architectureIdentity pair.2).2)

omit [Primitives] in
theorem pairIdentity_injective : Function.Injective pairIdentity := by
  have sdks : ∀ first second : BackendSdk,
      (sdkIdentity first).capability = (sdkIdentity second).capability → first = second := by
    intro first second same
    cases first <;> cases second <;> first | rfl | exact absurd same (by decide)
  have places : ∀ first second : ProcessorArchitecture,
      (architectureIdentity first).2 = (architectureIdentity second).2 → first = second := by
    intro first second same
    cases first <;> cases second <;> first | rfl | exact absurd same (by decide)
  intro first second same
  rw [pairIdentity, pairIdentity, toLex_inj, Prod.mk.injEq] at same
  exact Prod.ext (sdks _ _ same.1) (places _ _ same.2)

omit [Primitives] in
theorem pairIdentity_mem (pair : BackendSdk × ProcessorArchitecture) :
    pairIdentity pair ∈ requiredPairs := by
  obtain ⟨sdk, architecture⟩ := pair
  cases sdk <;> cases architecture <;> decide

namespace PackageParts

variable {parts : PackageParts}

omit [Primitives] in
theorem capabilities_found (sdk : BackendSdk) (architecture : ProcessorArchitecture) :
    ([(sdkIdentity sdk).capability].find? fun capability => startsWith capability "sdk.") =
        some ("sdk." ++ (sdkIdentity sdk).sdkId) ∧
      (sdkIdentity sdk).capability = "sdk." ++ (sdkIdentity sdk).sdkId ∧
      ([(architectureIdentity architecture).2].find? fun capability =>
        startsWith capability "architecture.") =
          some ("architecture." ++ (architectureIdentity architecture).1) ∧
      (architectureIdentity architecture).2 =
        "architecture." ++ (architectureIdentity architecture).1 := by
  cases sdk <;> cases architecture <;> decide

/-- A built package is selected by its pair, and its capabilities belong to its names. -/
theorem Assemblable.identified (able : parts.Assemblable) :
    packageIdentity parts.assembled.bundle = .ok (pairIdentity parts.pair) ∧
      Matched parts.assembled := by
  obtain ⟨sdk, sdkKind, onlySdk⟩ := parts.exists_componentsOf_assembled (by decide)
    (able.single .sdk (by decide) (by decide))
  obtain ⟨place, placeKind, onlyPlace⟩ := parts.exists_componentsOf_assembled (by decide)
    (able.single .architecture (by decide) (by decide))
  obtain ⟨sdkFound, sdkNamed, placeFound, placeNamed⟩ :=
    capabilities_found parts.sdk parts.architecture
  have sdkCapable : (rebind parts.sdk parts.architecture parts.conformanceDigest
      sdk).capabilities = [(sdkIdentity parts.sdk).capability] := by
    rw [rebind, sdkKind]
    rfl
  have placeCapable : (rebind parts.sdk parts.architecture parts.conformanceDigest
      place).capabilities = [(architectureIdentity parts.architecture).2] := by
    rw [rebind, placeKind]
    rfl
  constructor
  · have listed := mem_requiredPairs.mp (pairIdentity_mem parts.pair)
    simp only [packageIdentity, bind_eq_ok, oneComponentCapability_eq_ok onlySdk,
      oneComponentCapability_eq_ok onlyPlace, sdkCapable, placeCapable, sdkFound, placeFound,
      rejectIf_eq_ok, pure_eq_ok, not_or, not_not]
    refine ⟨_, rfl, _, rfl, (), ?_, ?_⟩
    · rw [← sdkNamed, ← placeNamed]
      exact listed
    · rw [← sdkNamed, ← placeNamed]
      rfl
  · constructor
    · intro component member
      rw [onlySdk, List.mem_singleton] at member
      rw [member, sdkCapable, sdkFound, (componentId_rebind _ _ _).2.1 sdkKind]
    · right
      intro component member
      rw [onlyPlace, List.mem_singleton] at member
      rw [member, placeCapable, placeFound, (componentId_rebind _ _ _).1 placeKind]

end PackageParts

/-- The catalog selects exactly the package that was built for an SDK and an architecture, and
that package is made for them. -/
structure SelectsBuilt (built : List PackageParts) (catalog : VerifiedBackendSupportCatalog) :
    Prop where
  selects : ∀ sdk architecture package,
    catalog.select (sdkIdentity sdk).capability (architectureIdentity architecture).2 =
        .ok package ↔
      ∃ parts ∈ built, parts.pair = (sdk, architecture) ∧ parts.assembled = package
  madeFor : ∀ parts ∈ built, MadeFor (sdkIdentity parts.sdk).capability
    (architectureIdentity parts.architecture).2 parts.assembled

/-- The registry authorizes the bundle under its digest. -/
def AuthorizedAs (registry : VerifiedSupportRegistry) (parts : PackageParts) (digest : Digest) :
    Prop :=
  parts.assembled.digest = .ok digest ∧ registry.requireBundle "backend" 1 digest = .ok ()

/-- What lets a catalog keep built packages: their digests, and their pairs as identities. -/
theorem admitted_built_iff {registry : VerifiedSupportRegistry} {built : List PackageParts}
    (able : ∀ parts ∈ built, parts.Assemblable) {entries : List (Digest × PackageIdentity)} :
    List.Forall₂ (AdmittedPackage registry) (built.map PackageParts.assembled) entries ↔
      List.Forall₂ (AuthorizedAs registry) built (entries.map Prod.fst) ∧
        entries.map Prod.snd = (built.map PackageParts.pair).map pairIdentity := by
  induction built generalizing entries with
  | nil =>
      cases entries with
      | nil => simp
      | cons entry entries => simp
  | cons parts built ih =>
      cases entries with
      | nil => simp
      | cons entry entries =>
          have first := able parts List.mem_cons_self
          have here : AdmittedPackage registry parts.assembled entry ↔
              AuthorizedAs registry parts entry.1 ∧ entry.2 = pairIdentity parts.pair := by
            constructor
            · intro admitted
              exact ⟨⟨admitted.digest, admitted.authorized⟩,
                Except.ok.inj (admitted.identity.symm.trans first.identified.1)⟩
            · intro ⟨⟨digested, authorized⟩, named⟩
              exact ⟨parts.validate_assembled_iff.mpr first, digested, authorized,
                named ▸ first.identified.1⟩
          have rest := @ih (fun other member => able other (List.mem_cons_of_mem _ member)) entries
          simp only [List.map_cons, List.forall₂_cons, List.cons.injEq, here, rest]
          tauto

/-- Built packages make a catalog exactly when they are for different pairs and the registry
authorizes them under different digests, and the catalog selects each for its pair. -/
theorem exists_catalog_of_built_iff (built : List PackageParts)
    (able : ∀ parts ∈ built, parts.Assemblable) (registry : VerifiedSupportRegistry) :
    (∃ catalog, VerifiedBackendSupportCatalog.new (built.map PackageParts.assembled) registry =
        .ok catalog ∧ SelectsBuilt built catalog) ↔
      built ≠ [] ∧ (built.map PackageParts.pair).Nodup ∧
        ∃ digests, List.Forall₂ (AuthorizedAs registry) built digests ∧ digests.Nodup := by
  constructor
  · rintro ⟨catalog, created, -⟩
    obtain ⟨filled, -, entries, paired, digests, distinct⟩ := exists_new_iff.mp ⟨catalog, created⟩
    obtain ⟨authorized, named⟩ := (admitted_built_iff able).mp paired
    rw [named, List.nodup_map_iff pairIdentity_injective] at distinct
    exact ⟨fun empty => filled (by rw [empty, List.map_nil]), distinct, _, authorized, digests⟩
  · rintro ⟨filled, distinct, digests, authorized, apart⟩
    let entries := digests.zip ((built.map PackageParts.pair).map pairIdentity)
    have size : digests.length = ((built.map PackageParts.pair).map pairIdentity).length := by
      rw [List.length_map, List.length_map, authorized.length_eq]
    have firsts : entries.map Prod.fst = digests := List.map_fst_zip size.le
    have seconds : entries.map Prod.snd = (built.map PackageParts.pair).map pairIdentity :=
      List.map_snd_zip size.ge
    have identities := (List.nodup_map_iff pairIdentity_injective).mpr distinct
    have few : (built.map PackageParts.assembled).length ≤ 10 := by
      have within : ((built.map PackageParts.pair).map pairIdentity).Subperm requiredPairs := by
        apply identities.subperm
        intro identity listed
        obtain ⟨pair, -, rfl⟩ := List.mem_map.mp listed
        exact pairIdentity_mem pair
      rw [List.length_map, ← List.length_map PackageParts.pair, ← List.length_map pairIdentity]
      exact within.length_le
    have paired := (@admitted_built_iff _ registry built able entries).mpr
      ⟨firsts ▸ authorized, seconds⟩
    obtain ⟨catalog, created⟩ := exists_new_iff.mpr ⟨fun empty => filled (List.map_eq_nil_iff.mp
      empty), few, entries, paired, firsts ▸ apart, seconds ▸ identities⟩
    have held := Catalogued.of_new created
    refine ⟨catalog, created, ?_, ?_⟩
    · intro sdk architecture package
      rw [held.select_eq_ok, List.mem_map]
      constructor
      · rintro ⟨⟨parts, member, rfl⟩, identified⟩
        have same := (able parts member).identified.1.symm.trans identified
        exact ⟨parts, member, pairIdentity_injective (Except.ok.inj same), rfl⟩
      · rintro ⟨parts, member, pair, rfl⟩
        refine ⟨⟨parts, member, rfl⟩, ?_⟩
        rw [(able parts member).identified.1, pair]
        rfl
    · intro parts member
      obtain ⟨identified, matched⟩ := (able parts member).identified
      exact (madeFor_iff (parts.validate_assembled_iff.mpr (able parts member)) identified).mpr
        matched

/-! ## A built package -/

namespace Sample

/-- The sample package as it is built. -/
def parts : PackageParts where
  bundle := bundle
  closurePolicy := policy
  sdk := .rust
  architecture := .arm64
  debugger := debugger
  conformanceDigest := ⟨0⟩

theorem assemblable : parts.Assemblable where
  policy := validate_policy
  named := rfl
  contract := rfl
  serves := List.mem_singleton_self _
  debugs := rfl
  single := by simp [parts, singleKinds, componentsOf, bundle, component]
  adapters := by simp [parts, componentsOf, bundle, component]
  providers := by simp [parts, componentsOf, bundle, component]
  few := by simp [parts, othersOf, bundle, component]
  kept := by
    have valid := validate_bundle
    simp only [SupportBundle.validate, bind_eq_ok, forEach_eq_ok] at valid
    obtain ⟨_, -, _, valid, -⟩ := valid
    intro component member _
    exact valid component (List.mem_filter.mp member).1
  bindable := by
    have plain : ∀ component ∈ bundle.components, component.version = "1" ∧
        component.protocolMin = 1 ∧ component.protocolMax = 1 := by
      simp [bundle, component]
    intro component member _
    obtain ⟨version, least, most⟩ := plain component (List.mem_filter.mp member).1
    exact ⟨version ▸ rfl, least ▸ by decide, by rw [least, most]; exact UInt64.le_refl _⟩
  distinct := by simp [parts, componentsOf, bundle, component]

theorem exact_assembled : Document.Exact parts.assembled.bundle := by
  have keeps : ∀ component, (rebind .rust .arm64 ⟨0⟩ component).protocolMax =
      component.protocolMax ∧ (rebind .rust .arm64 ⟨0⟩ component).protocolMin =
        component.protocolMin := by
    intro component
    unfold rebind
    cases component.componentKind <;> exact ⟨rfl, rfl⟩
  have plain : ∀ component ∈ bundle.components,
      component.protocolMax = 1 ∧ component.protocolMin = 1 := by
    simp [bundle, component]
  have protocols : ∀ component ∈ parts.assembled.bundle.components,
      component.protocolMax = 1 ∧ component.protocolMin = 1 := by
    intro component member
    rw [parts.perm_assembled.mem_iff, List.mem_append, List.mem_map, List.mem_singleton] at member
    rcases member with ⟨base, listed, same⟩ | same
    · rw [← same]
      have known := plain base (List.mem_filter.mp listed).1
      exact ⟨(keeps base).1.trans known.1, (keeps base).2.trans known.2⟩
    · rw [same]
      exact ⟨rfl, rfl⟩
  refine SupportBundle.exact fun component member => ?_
  rw [(protocols component member).1, (protocols component member).2]
  exact ⟨by decide, by decide⟩

end Sample

open Reproit.Backend.Sample in
omit [Primitives] in
theorem exists_catalog_of_built_sample :
    letI := marked
    ∃ catalog, VerifiedBackendSupportCatalog.new ([parts].map PackageParts.assembled)
        ⟨registryOf (Digest.of (Canonical.text parts.assembled.bundle))⟩ = .ok catalog ∧
      SelectsBuilt [parts] catalog := by
  let _ := marked
  have digested : parts.assembled.digest =
      .ok (Digest.of (Canonical.text parts.assembled.bundle)) :=
    Canonical.digest_of_exact exact_assembled
  generalize Digest.of (Canonical.text parts.assembled.bundle) = digest at digested ⊢
  have authorized : VerifiedSupportRegistry.requireBundle ⟨registryOf digest⟩ "backend" 1 digest =
      .ok () := if_pos (authorizes_registryOf digest)
  have able : ∀ built ∈ [parts], built.Assemblable :=
    fun built member => List.mem_singleton.mp member ▸ assemblable
  exact (exists_catalog_of_built_iff [parts] able _).mpr ⟨List.cons_ne_nil _ _,
    List.nodup_singleton _, [digest], .cons ⟨digested, authorized⟩ .nil, List.nodup_singleton _⟩

end Backend

end Reproit
