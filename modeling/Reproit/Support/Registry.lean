/-
# What a support registry authorizes

The lists of a registry are checked to ascend as texts, and are searched by bisection in
the order of their digests.  The two orders are one order, the order of the big-endian
bytes, so a search of a checked list finds its members and nothing else.
-/

import Reproit.Core.Model.Support

namespace Reproit

/-! ## The order of digests -/

/-- The big-endian bytes of a number. -/
def bigEndian : Nat → Nat → Bytes
  | 0, _ => []
  | width + 1, number => UInt8.ofNat (number / 256 ^ width) :: bigEndian width number

/-- Bytes compare like the numbers that they spell. -/
theorem bigEndian_lt_iff (width first second : Nat) :
    bigEndian width first < bigEndian width second ↔
      first % 256 ^ width < second % 256 ^ width := by
  induction width with
  | zero => simp [bigEndian, Nat.mod_one]
  | succ width ih =>
      have byte : ∀ number : Nat, (UInt8.ofNat number).toNat = number % 256 :=
        fun number => UInt8.toNat_ofNat'
      rw [bigEndian, bigEndian, List.cons_lt_cons_iff, ih, UInt8.lt_iff_toNat_lt,
        ← UInt8.toNat_inj, byte, byte, pow_succ, Radix.mod_mul_lt_iff (by positivity)]

namespace Digest

def asBytes (digest : Digest) : Bytes := bigEndian 32 digest.number

theorem asBytes_lt_iff (first second : Digest) :
    first.asBytes < second.asBytes ↔ first < second := by
  have whole : 2 ^ 256 = 256 ^ 32 := by norm_num
  have firstSmall : first.number.val < 256 ^ 32 := first.number.isLt.trans_eq whole
  have secondSmall : second.number.val < 256 ^ 32 := second.number.isLt.trans_eq whole
  rw [asBytes, asBytes, bigEndian_lt_iff, Nat.mod_eq_of_lt firstSmall,
    Nat.mod_eq_of_lt secondSmall]
  exact Iff.rfl

/-- The text order of digests is their own order. -/
theorem toText_lt_iff (first second : Digest) : first.toText < second.toText ↔ first < second := by
  have whole : 2 ^ 256 = 16 ^ 64 := by norm_num
  have firstSmall : first.number.val < 16 ^ 64 := first.number.isLt.trans_eq whole
  have secondSmall : second.number.val < 16 ^ 64 := second.number.isLt.trans_eq whole
  rw [String.lt_iff_toList_lt, toText, toText, String.toList_ofList, String.toList_ofList,
    Radix.append_lt_append_iff rfl, Radix.hexText_lt_iff firstSmall secondSmall]
  simp only [lt_irrefl, false_or, true_and]
  exact Iff.rfl

/-- A list that ascends as texts ascends as digests. -/
theorem sorted_of_texts {digests : List Digest}
    (ordered : requireStrictOrder (digests.map toText) = .ok ()) :
    digests.Pairwise (· < ·) := by
  rw [requireStrictOrder_eq_ok, List.pairwise_map] at ordered
  exact ordered.imp fun less => (toText_lt_iff _ _).mp less

end Digest

/-! ## Accepted registries -/

instance : IsTrans SupportedProfile SupportedProfile.precedes where
  trans := by
    intro first second third before after
    rcases before with name | ⟨name, version⟩
    · rcases after with later | ⟨later, -⟩
      · exact .inl (name.trans later)
      · exact .inl (later ▸ name)
    · rcases after with later | ⟨later, newer⟩
      · exact .inl (name ▸ later)
      · exact .inr ⟨name.trans later, UInt64.lt_trans version newer⟩

/-- What the checks of a registry establish about its lists. -/
structure SupportRegistry.Sorted (registry : SupportRegistry) : Prop where
  bundles : registry.bundleDigests.Pairwise (· < ·)
  profiles : registry.profiles.Pairwise SupportedProfile.precedes
  digests : ∀ registration ∈ registry.profiles,
    registration.supportBundleDigests.Pairwise (· < ·)
  listed : ∀ registration ∈ registry.profiles, ∀ digest ∈ registration.supportBundleDigests,
    digest ∈ registry.bundleDigests

variable {registry : SupportRegistry}

theorem SupportRegistry.sorted_of_validate (accepted : registry.validate = .ok ()) :
    registry.Sorted := by
  simp only [SupportRegistry.validate, SupportedProfile.validate, bind_eq_ok, rejectIf_eq_ok,
    forEach_eq_ok, not_not] at accepted
  obtain ⟨_, -, _, texts, _, registrations, _, chain, -⟩ := accepted
  have bundles := Digest.sorted_of_texts texts
  apply SupportRegistry.Sorted.mk bundles (List.isChain_iff_pairwise.mp chain)
  · intro registration listed
    obtain ⟨_, ⟨_, -, _, -, sorted⟩, -⟩ := registrations registration listed
    exact Digest.sorted_of_texts sorted
  · intro registration listed digest member
    obtain ⟨_, -, found⟩ := registrations registration listed
    rw [not_exists] at found
    have there := not_not.mp fun missing => found digest ⟨member, missing⟩
    exact (binarySearch_isOk bundles digest).mp there

/-- No two registrations are for one profile in one format. -/
theorem SupportRegistry.Sorted.unique (sorted : registry.Sorted) {profile : String}
    {profileFormat : UInt64} {registration : SupportedProfile}
    (listed : registration ∈ registry.profiles) (named : registration.profile = profile)
    (versioned : registration.profileFormat = profileFormat) :
    ∃! position : Nat, ∃ other : SupportedProfile, registry.profiles[position]? = some other ∧
      other.profile = profile ∧ other.profileFormat = profileFormat := by
  obtain ⟨position, there⟩ := List.getElem?_of_mem listed
  have apart : ∀ (before behind : Nat) (first second : SupportedProfile), before < behind →
      registry.profiles[before]? = some first → registry.profiles[behind]? = some second →
        first.profile = second.profile → first.profileFormat ≠ second.profileFormat := by
    intro before behind first second less here later same equal
    obtain ⟨inFront, rfl⟩ := List.getElem?_eq_some_iff.mp here
    obtain ⟨within, rfl⟩ := List.getElem?_eq_some_iff.mp later
    rcases List.pairwise_iff_getElem.mp sorted.profiles before behind inFront within less with
      name | ⟨-, version⟩
    · exact lt_irrefl _ (same ▸ name)
    · exact UInt64.lt_irrefl _ (equal ▸ version)
  refine ⟨position, ⟨registration, there, named, versioned⟩, ?_⟩
  rintro other ⟨found, here, same, equal⟩
  rcases Nat.lt_trichotomy other position with before | rfl | behind
  · exact absurd (equal.trans versioned.symm)
      (apart _ _ _ _ before here there (same.trans named.symm))
  · rfl
  · exact absurd (versioned.trans equal.symm)
      (apart _ _ _ _ behind there here (named.trans same.symm))

/-- A registry that was accepted authorizes exactly the bundles that the registration of the
profile and format lists; there is one such registration, and the registry lists its bundles. -/
theorem authorizes_bundle_exact (registry : SupportRegistry)
    (accepted : registry.validate = .ok ()) (profile : String) (profileFormat : UInt64)
    (digest : Digest) :
    (registry.authorizesBundle profile profileFormat digest = true ↔
      ∃ registration ∈ registry.profiles, registration.profile = profile ∧
        registration.profileFormat = profileFormat ∧
          digest ∈ registration.supportBundleDigests) ∧
    (registry.authorizesBundle profile profileFormat digest = true →
      (∃! position : Nat, ∃ registration : SupportedProfile,
        registry.profiles[position]? = some registration ∧ registration.profile = profile ∧
          registration.profileFormat = profileFormat) ∧
      digest ∈ registry.bundleDigests) := by
  have sorted := SupportRegistry.sorted_of_validate accepted
  have authorized : registry.authorizesBundle profile profileFormat digest = true ↔
      ∃ registration ∈ registry.profiles, registration.profile = profile ∧
        registration.profileFormat = profileFormat ∧
          digest ∈ registration.supportBundleDigests := by
    rw [SupportRegistry.authorizesBundle, List.any_eq_true]
    apply exists_congr
    intro registration
    apply and_congr_right
    intro listed
    rw [Bool.and_eq_true, Bool.and_eq_true, decide_eq_true_eq, decide_eq_true_eq, and_assoc,
      binarySearch_isOk (sorted.digests registration listed)]
  refine ⟨authorized, fun granted => ?_⟩
  obtain ⟨registration, listed, named, versioned, member⟩ := authorized.mp granted
  exact ⟨sorted.unique listed named versioned, sorted.listed registration listed digest member⟩

/-! ## A registry with one bundle -/

namespace Backend.Sample

def registrySignature : Vector UInt8 64 := .replicate 64 0

/-- The registry of a release with one support bundle. -/
def registryOf (digest : Digest) : SupportRegistry where
  bundleDigests := [digest]
  format := .v1
  profiles := [{
    capabilities := []
    implementationDigest := ⟨0⟩
    profile := "backend"
    profileFormat := 1
    supportBundleDigests := [digest] }]
  releaseVersion := "1"
  signature := encodeBase64Url registrySignature.toList
  signerKeyId := "key"

theorem validate_registryOf (digest : Digest) : (registryOf digest).validate = .ok () := by
  have size : (encodeBase64Url registrySignature.toList).utf8ByteSize = 86 := by
    rw [utf8ByteSize_encodeBase64Url, Vector.length_toList]
  have texts : "1".isEmpty = false ∧ "1".utf8ByteSize ≤ 64 ∧ "key".isEmpty = false ∧
      "key".utf8ByteSize ≤ 256 ∧ validLowerIdentity "backend" ∧
      "backend".utf8ByteSize ≤ 128 := by decide
  have ordered : requireStrictOrder [digest.toText] = .ok () :=
    (requireStrictOrder_eq_ok _).mpr (List.pairwise_singleton _ _)
  have found : (binarySearch [digest] digest).isOk = true :=
    (binarySearch_isOk (List.pairwise_singleton _ _) digest).mpr (List.mem_singleton_self _)
  have capabilities : validateCapabilities [] = .ok () := by decide
  simp only [SupportRegistry.validate, SupportedProfile.validate, bind_eq_ok, rejectIf_eq_ok,
    forEach_eq_ok]
  refine ⟨(), by simp [registryOf, size, texts], (), ordered, (), ?_, (), ?_, _,
    decodeBase64Url_eq_ok.mpr rfl, rfl⟩
  · intro registration listed
    obtain rfl := List.mem_singleton.mp listed
    refine ⟨(), ⟨(), capabilities, (), ?_, ordered⟩, ?_⟩
    · simp [texts, maxExactInteger, Json.maxExactInteger]
    · simp [registryOf, found]
  · exact not_not.mpr (.singleton _)

theorem authorizes_registryOf (digest : Digest) :
    (registryOf digest).authorizesBundle "backend" 1 digest = true := by
  have found : (binarySearch [digest] digest).isOk = true :=
    (binarySearch_isOk (List.pairwise_singleton _ _) digest).mpr (List.mem_singleton_self _)
  simp [SupportRegistry.authorizesBundle, registryOf, found]

end Backend.Sample

open Backend in
theorem authorizes_bundle_exact_sample :
    (Sample.registryOf ⟨0⟩).authorizesBundle "backend" 1 ⟨0⟩ = true := by
  obtain ⟨exactly, -⟩ := authorizes_bundle_exact (Sample.registryOf ⟨0⟩)
    (Sample.validate_registryOf ⟨0⟩) "backend" 1 ⟨0⟩
  exact exactly.mpr ⟨_, List.mem_singleton_self _, rfl, rfl, List.mem_singleton_self _⟩

end Reproit
