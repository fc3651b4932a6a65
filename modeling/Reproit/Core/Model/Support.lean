/-
# Support registries

The signed registry of a release lists its support bundles and says which of them each
profile and profile format may use.
-/

import Reproit.Core.Base64Url
import Reproit.Core.Model.Object
import Reproit.Data.BinarySearch

namespace Reproit

abbrev SupportRegistryFormat := Format "reproit.support-registry.v1"

/-- The support bundles of one profile in one format. -/
structure SupportedProfile where
  capabilities : List String
  implementationDigest : Digest
  profile : String
  profileFormat : UInt64
  supportBundleDigests : List Digest
  deriving DecidableEq

def SupportedProfile.codec : Codec SupportedProfile :=
  .record
    (.required "capabilities" (.list .string) <|
      .required "implementation_digest" Digest.codec <| .required "profile" .string <|
      .required "profile_format" .uint64 <|
      .required "support_bundle_digests" (.list Digest.codec) .done)
    (fun r => (r.capabilities, r.implementationDigest, r.profile, r.profileFormat,
      r.supportBundleDigests, ()))
    (fun (capabilities, implementationDigest, profile, profileFormat, supportBundleDigests, ()) =>
      { capabilities, implementationDigest, profile, profileFormat, supportBundleDigests })
    (fun _ => rfl) (by decide)

namespace SupportedProfile

def validate (registration : SupportedProfile) : Result Unit := do
  validateCapabilities registration.capabilities
  rejectIf (¬ validLowerIdentity registration.profile ∨ registration.profile.utf8ByteSize > 128 ∨
    ¬ (1 ≤ registration.profileFormat.toNat ∧
      registration.profileFormat.toNat ≤ maxExactInteger) ∨
    registration.supportBundleDigests.isEmpty ∨
    registration.supportBundleDigests.length > 1024) .schemaInvalid
  requireStrictOrder (registration.supportBundleDigests.map Digest.toText)

instance : Validate SupportedProfile := ⟨validate⟩

/-- Registrations are ordered by profile and then by format. -/
def precedes (first second : SupportedProfile) : Prop :=
  first.profile < second.profile ∨
    (first.profile = second.profile ∧ first.profileFormat < second.profileFormat)

instance (first second : SupportedProfile) : Decidable (first.precedes second) :=
  inferInstanceAs (Decidable (_ ∨ _))

end SupportedProfile

/-- The signed registry of a release. -/
structure SupportRegistry where
  bundleDigests : List Digest
  format : SupportRegistryFormat
  profiles : List SupportedProfile
  releaseVersion : String
  signature : String
  signerKeyId : String
  deriving DecidableEq

def SupportRegistry.codec : Codec SupportRegistry :=
  .record
    (.required "bundle_digests" (.list Digest.codec) <| .required "format" (Format.codec _) <|
      .required "profiles" (.list SupportedProfile.codec) <|
      .required "release_version" .string <| .required "signature" .string <|
      .required "signer_key_id" .string .done)
    (fun r => (r.bundleDigests, r.format, r.profiles, r.releaseVersion, r.signature,
      r.signerKeyId, ()))
    (fun (bundleDigests, format, profiles, releaseVersion, signature, signerKeyId, ()) =>
      { bundleDigests, format, profiles, releaseVersion, signature, signerKeyId })
    (fun _ => rfl) (by decide)

instance : Document SupportRegistry := ⟨SupportRegistry.codec, by decide⟩

namespace SupportRegistry

def validate (registry : SupportRegistry) : Result Unit := do
  rejectIf (registry.bundleDigests.isEmpty ∨ registry.bundleDigests.length > 1024 ∨
    registry.profiles.isEmpty ∨ registry.profiles.length > 64 ∨ registry.releaseVersion.isEmpty ∨
    registry.releaseVersion.utf8ByteSize > 64 ∨ registry.signerKeyId.isEmpty ∨
    registry.signerKeyId.utf8ByteSize > 256 ∨ registry.signature.utf8ByteSize ≠ 86) .schemaInvalid
  requireStrictOrder (registry.bundleDigests.map Digest.toText)
  forEach registry.profiles fun registration => do
    registration.validate
    rejectIf (∃ digest ∈ registration.supportBundleDigests,
      ¬ (binarySearch registry.bundleDigests digest).isOk) .schemaInvalid
  rejectIf (¬ registry.profiles.IsChain SupportedProfile.precedes) .schemaInvalid
  let _ ← decodeBase64Url 64 registry.signature
  return ()

instance : Validate SupportRegistry := ⟨validate⟩

def authorizesProfile (registry : SupportRegistry) (profile : String) (profileFormat : UInt64) :
    Bool :=
  registry.profiles.any fun registration =>
    registration.profile = profile && registration.profileFormat = profileFormat

def authorizesBundle (registry : SupportRegistry) (profile : String) (profileFormat : UInt64)
    (supportBundleDigest : Digest) : Bool :=
  registry.profiles.any fun registration =>
    registration.profile = profile && registration.profileFormat = profileFormat &&
      (binarySearch registration.supportBundleDigests supportBundleDigest).isOk

end SupportRegistry

end Reproit
