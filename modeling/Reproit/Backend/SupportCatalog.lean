/-
# The catalog of support packages

A release has at most one package for an SDK on an architecture.  The catalog finds it by
the capabilities of the SDK and the architecture, and by the digest of its bundle.
-/

import Mathlib.Data.Prod.Lex
import Reproit.Backend.Support
import Reproit.Core.Model.Support
import Reproit.Data.OrderedMap
import Reproit.Data.Text

namespace Reproit.Backend

/-- A registry whose signature was verified. -/
structure VerifiedSupportRegistry where
  registry : SupportRegistry

def unsupportedRegistration : Error :=
  .new .unsupportedCapabilitySet
    "The installed release does not authorize this profile or support bundle."

def VerifiedSupportRegistry.requireBundle (verified : VerifiedSupportRegistry) (profile : String)
    (profileFormat : UInt64) (supportBundleDigest : Digest) : Result Unit :=
  if verified.registry.authorizesBundle profile profileFormat supportBundleDigest then .ok ()
  else .error unsupportedRegistration

/-- The capabilities of an SDK and an architecture. -/
abbrev PackageIdentity := String ×ₗ String

/-- The first capability of the one component of a kind that begins with `lead`. -/
def oneComponentCapability (bundle : SupportBundle) (kind : ComponentKind) (lead : String) :
    Result String :=
  match componentsOf bundle kind with
  | [component] =>
      okOr (component.capabilities.find? fun capability => startsWith capability lead)
        unsupportedBundle
  | _ => .error unsupportedBundle

def sdkCapabilities : List String :=
  ["sdk.dotnet", "sdk.go", "sdk.node", "sdk.python", "sdk.rust"]

def architectureCapabilities : List String := ["architecture.arm64", "architecture.x86-64"]

def packageIdentity (bundle : SupportBundle) : Result PackageIdentity := do
  let sdk ← oneComponentCapability bundle .sdk "sdk."
  let architecture ← oneComponentCapability bundle .architecture "architecture."
  rejectIf (sdk ∉ sdkCapabilities ∨ architecture ∉ architectureCapabilities) unsupportedBundle
  return toLex (sdk, architecture)

structure VerifiedBackendSupportCatalog where
  byDigest : OrderedMap Digest PackageIdentity
  packages : OrderedMap PackageIdentity BackendSupportPackage

namespace VerifiedBackendSupportCatalog

def empty : VerifiedBackendSupportCatalog where
  byDigest := ∅
  packages := ∅

def select (catalog : VerifiedBackendSupportCatalog)
    (sdkCapability architectureCapability : String) : Result BackendSupportPackage :=
  okOr catalog.packages[toLex (sdkCapability, architectureCapability)]? unsupportedBundle

def requireDigest (catalog : VerifiedBackendSupportCatalog) (digest : Digest) :
    Result BackendSupportPackage := do
  let identity ← okOr catalog.byDigest[digest]? unsupportedBundle
  okOr catalog.packages[identity]? unsupportedBundle

variable [Primitives]

/-- Take one package into the catalog. Neither its digest nor its identity may be there. -/
def add (registry : VerifiedSupportRegistry) (catalog : VerifiedBackendSupportCatalog)
    (package : BackendSupportPackage) : Result VerifiedBackendSupportCatalog := do
  validateBackendSupportPackage package
  let digest ← package.digest
  registry.requireBundle "backend" 1 digest
  let identity ← packageIdentity package.bundle
  let byDigest ← okOr (catalog.byDigest.insertNew digest identity) unsupportedBundle
  let packages ← okOr (catalog.packages.insertNew identity package) unsupportedBundle
  return { byDigest, packages }

def new (packages : List BackendSupportPackage) (registry : VerifiedSupportRegistry) :
    Result VerifiedBackendSupportCatalog := do
  rejectIf (packages.isEmpty ∨ packages.length > 10) unsupportedBundle
  packages.foldlM (add registry) empty

end VerifiedBackendSupportCatalog

end Reproit.Backend
