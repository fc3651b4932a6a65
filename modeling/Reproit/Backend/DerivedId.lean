/-
# Identifiers derived from digests

The objects of a private closure and the leases of a provider are named by digests: the
first sixteen bytes, with the version and the variant of a UUID set in them, are printed and
read as an identifier.  What is hashed determines the arguments, so two names are the same
only when the truncated digests are.
-/

import Reproit.Backend.Checkpoint
import Reproit.Core.Model.Candidate
import Reproit.Support.Registry

namespace Reproit

/-! ## Big-endian bytes -/

/-- Bytes determine the number, up to what their width drops. -/
theorem bigEndian_inj {width first second : Nat}
    (same : bigEndian width first = bigEndian width second) :
    first % 256 ^ width = second % 256 ^ width := by
  induction width with
  | zero => rw [pow_zero, Nat.mod_one, Nat.mod_one]
  | succ width ih =>
      obtain ⟨high, low⟩ := List.cons.inj same
      rw [← UInt8.toNat_inj, UInt8.toNat_ofNat', UInt8.toNat_ofNat'] at high
      rw [pow_succ, Nat.mod_mul, Nat.mod_mul, ih low, high]

@[simp]
theorem length_bigEndian (width number : Nat) : (bigEndian width number).length = width := by
  induction width with
  | zero => rfl
  | succ width ih => rw [bigEndian, List.length_cons, ih]

theorem bigEndian_add (first second number : Nat) :
    bigEndian (first + second) number =
      bigEndian first (number / 256 ^ second) ++ bigEndian second number := by
  induction first with
  | zero => rw [Nat.zero_add, bigEndian, List.nil_append]
  | succ first ih =>
      rw [Nat.succ_add, bigEndian, ih, bigEndian, Nat.div_div_eq_div_mul, ← pow_add,
        Nat.add_comm second first, List.cons_append]

theorem Radix.hexText_add (first second number : Nat) :
    hexText (first + second) number =
      hexText first (number / 16 ^ second) ++ hexText second number := by
  induction second generalizing number with
  | zero => rw [Nat.add_zero, pow_zero, Nat.div_one, hexText, List.append_nil]
  | succ second ih =>
      rw [← Nat.add_assoc, hexText, ih, hexText, Nat.div_div_eq_div_mul, pow_succ',
        List.append_assoc]

theorem TypedId.uuidBytes_eq {kind : IdKind} (id : TypedId kind) :
    id.uuidBytes = bigEndian 16 id.uuid := rfl

theorem TypedId.uuidBytes_injective {kind : IdKind} :
    Function.Injective (uuidBytes : TypedId kind → Bytes) := by
  intro first second same
  rw [uuidBytes_eq, uuidBytes_eq] at same
  have numbers := bigEndian_inj same
  have whole : 2 ^ 128 = 256 ^ 16 := by norm_num
  rw [← whole, Nat.mod_eq_of_lt first.uuid.isLt, Nat.mod_eq_of_lt second.uuid.isLt] at numbers
  exact uuid_injective (Fin.ext numbers)

namespace Backend

/-! ## Printing -/

/-- Two lowercase digits for every byte. -/
def lowercaseHex (bytes : Bytes) : List Char := bytes.flatMap fun byte => Radix.hexText 2 byte.toNat

theorem lowercaseHex_bigEndian (width number : Nat) :
    lowercaseHex (bigEndian width number) = Radix.hexText (2 * width) number := by
  induction width with
  | zero => rfl
  | succ width ih =>
      have power : 16 ^ (2 * width) = 256 ^ width := by
        rw [pow_mul]
        norm_num
      have byte : Radix.hexText 2 (UInt8.ofNat (number / 256 ^ width)).toNat =
          Radix.hexText 2 (number / 256 ^ width) := by
        rw [UInt8.toNat_ofNat']
        exact Radix.hexText_mod 2 _
      rw [bigEndian, lowercaseHex, List.flatMap_cons, byte, Nat.mul_succ, Nat.add_comm,
        Radix.hexText_add, power, ← ih]
      rfl

/-- Set the version and the variant of a UUID in its bytes. -/
def setVersion (bytes : Bytes) : Bytes :=
  (bytes.modify 6 fun byte => byte &&& 0x0f ||| 0x70).modify 8 fun byte => byte &&& 0x3f ||| 0x80

/-- The sixteen bytes as five groups of digits. -/
def hyphenated (bytes : Bytes) : List Char :=
  lowercaseHex (bytes.take 4) ++ '-' :: (lowercaseHex ((bytes.drop 4).take 2) ++
    '-' :: (lowercaseHex ((bytes.drop 6).take 2) ++ '-' :: (lowercaseHex ((bytes.drop 8).take 2) ++
      '-' :: lowercaseHex (bytes.drop 10))))

theorem hyphenated_bigEndian (number : Nat) :
    hyphenated (bigEndian 16 number) = Uuid.toText number := by
  have cut : bigEndian 16 number = bigEndian 4 (number / 256 ^ 12) ++
      (bigEndian 2 (number / 256 ^ 10) ++ (bigEndian 2 (number / 256 ^ 8) ++
        (bigEndian 2 (number / 256 ^ 6) ++ bigEndian 6 number))) := by
    rw [bigEndian_add 4 12, bigEndian_add 2 10, bigEndian_add 2 8, bigEndian_add 2 6]
  have groups : hyphenated (bigEndian 4 (number / 256 ^ 12) ++
      (bigEndian 2 (number / 256 ^ 10) ++ (bigEndian 2 (number / 256 ^ 8) ++
        (bigEndian 2 (number / 256 ^ 6) ++ bigEndian 6 number)))) =
      lowercaseHex (bigEndian 4 (number / 256 ^ 12)) ++
        '-' :: (lowercaseHex (bigEndian 2 (number / 256 ^ 10)) ++
          '-' :: (lowercaseHex (bigEndian 2 (number / 256 ^ 8)) ++
            '-' :: (lowercaseHex (bigEndian 2 (number / 256 ^ 6)) ++
              '-' :: lowercaseHex (bigEndian 6 number)))) := rfl
  have powers : 256 ^ 12 = 16 ^ 24 ∧ 256 ^ 10 = 16 ^ 20 ∧ 256 ^ 8 = 16 ^ 16 ∧
      256 ^ 6 = 16 ^ 12 := by norm_num
  rw [cut, groups, Uuid.toText, powers.1, powers.2.1, powers.2.2.1, powers.2.2.2]
  simp only [lowercaseHex_bigEndian]

set_option maxRecDepth 4000 in
theorem and_or_of_byte : ∀ byte < 256,
    UInt8.ofNat byte &&& 0x0f ||| 0x70 = UInt8.ofNat (byte % 16 + 112) ∧
      UInt8.ofNat byte &&& 0x3f ||| 0x80 = UInt8.ofNat (byte % 64 + 128) := by
  decide

theorem bigEndian_congr {width first second : Nat}
    (same : first % 256 ^ width = second % 256 ^ width) :
    bigEndian width first = bigEndian width second := by
  induction width with
  | zero => rfl
  | succ width ih =>
      have pos : 0 < 256 ^ width := by positivity
      rw [pow_succ, Nat.mod_mul, Nat.mod_mul] at same
      have low : first % 256 ^ width = second % 256 ^ width := by
        have reduced := congrArg (· % 256 ^ width) same
        simpa only [Nat.add_mul_mod_self_left, Nat.mod_mod] using reduced
      rw [low, Nat.add_left_cancel_iff] at same
      have high := Nat.eq_of_mul_eq_mul_left pos same
      rw [bigEndian, bigEndian, ih low]
      congr 1
      rw [← UInt8.toNat_inj, UInt8.toNat_ofNat', UInt8.toNat_ofNat']
      exact high

theorem variant_of_parts (upper eighth low : Nat) (heighth : eighth < 256) (hlow : low < 256 ^ 7) :
    (upper * 256 ^ 8 + eighth * 256 ^ 7 + low) / 2 ^ 62 % 4 = eighth / 64 := by
  norm_num at *
  omega

theorem version_of_parts (high sixth low : Nat) (hsixth : sixth < 256) (hlow : low < 256 ^ 9) :
    (high * 256 ^ 10 + sixth * 256 ^ 9 + low) / 2 ^ 76 % 16 = sixth / 16 := by
  norm_num at *
  omega

/-- The version and the variant are replaced, and nothing else. -/
theorem versioned_eq (high sixth seventh eighth low : Nat) (hsixth : sixth < 256)
    (hseventh : seventh < 256) (heighth : eighth < 256) (hlow : low < 256 ^ 7) :
    versioned (high * 256 ^ 10 + sixth * 256 ^ 9 +
        (seventh * 256 ^ 8 + eighth * 256 ^ 7 + low)) =
      high * 256 ^ 10 + (sixth % 16 + 112) * 256 ^ 9 +
        (seventh * 256 ^ 8 + (eighth % 64 + 128) * 256 ^ 7 + low) := by
  have version := version_of_parts high sixth (seventh * 256 ^ 8 + eighth * 256 ^ 7 + low) hsixth
    (by norm_num at *; omega)
  have replaced : high * 256 ^ 10 + sixth * 256 ^ 9 +
      (seventh * 256 ^ 8 + eighth * 256 ^ 7 + low) - sixth / 16 * 2 ^ 76 + 7 * 2 ^ 76 =
        (high * 256 ^ 2 + (sixth % 16 + 112) * 256 + seventh) * 256 ^ 8 + eighth * 256 ^ 7 +
          low := by
    clear version
    norm_num at *
    omega
  rw [versioned, version, replaced, variant_of_parts _ _ _ heighth hlow]
  clear version replaced
  norm_num at *
  omega

/-- Setting the version and the variant of the bytes sets those of the number. -/
theorem setVersion_bigEndian (number : Nat) :
    setVersion (bigEndian 16 number) = bigEndian 16 (versioned number) := by
  have cut : ∀ number : Nat, bigEndian 16 number = bigEndian 6 (number / 256 ^ 10) ++
      (bigEndian 1 (number / 256 ^ 9) ++ (bigEndian 1 (number / 256 ^ 8) ++
        (bigEndian 1 (number / 256 ^ 7) ++ bigEndian 7 number))) := by
    intro number
    rw [bigEndian_add 6 10, bigEndian_add 1 9, bigEndian_add 1 8, bigEndian_add 1 7]
  have byte : ∀ part : Nat, UInt8.ofNat (part / 256 ^ 0) = UInt8.ofNat (part % 256) := by
    intro part
    rw [pow_zero, Nat.div_one, ← UInt8.toNat_inj, UInt8.toNat_ofNat', UInt8.toNat_ofNat',
      Nat.mod_mod]
  have set : setVersion (bigEndian 6 (number / 256 ^ 10) ++
      (bigEndian 1 (number / 256 ^ 9) ++ (bigEndian 1 (number / 256 ^ 8) ++
        (bigEndian 1 (number / 256 ^ 7) ++ bigEndian 7 number)))) =
      bigEndian 6 (number / 256 ^ 10) ++
        ([UInt8.ofNat (number / 256 ^ 9 / 256 ^ 0) &&& 0x0f ||| 0x70] ++
          (bigEndian 1 (number / 256 ^ 8) ++
            ([UInt8.ofNat (number / 256 ^ 7 / 256 ^ 0) &&& 0x3f ||| 0x80] ++
              bigEndian 7 number))) := rfl
  have sixth := (and_or_of_byte (number / 256 ^ 9 % 256) (Nat.mod_lt _ (by decide))).1
  have eighth := (and_or_of_byte (number / 256 ^ 7 % 256) (Nat.mod_lt _ (by decide))).2
  rw [cut number, set, byte, byte, sixth, eighth, cut (versioned number)]
  have split : number = number / 256 ^ 10 * 256 ^ 10 + number / 256 ^ 9 % 256 * 256 ^ 9 +
      (number / 256 ^ 8 % 256 * 256 ^ 8 + number / 256 ^ 7 % 256 * 256 ^ 7 +
        number % 256 ^ 7) := by
    norm_num
    omega
  have changed := versioned_eq (number / 256 ^ 10) (number / 256 ^ 9 % 256)
    (number / 256 ^ 8 % 256) (number / 256 ^ 7 % 256) (number % 256 ^ 7)
    (Nat.mod_lt _ (by decide)) (Nat.mod_lt _ (by decide)) (Nat.mod_lt _ (by decide))
    (Nat.mod_lt _ (by decide))
  rw [← split] at changed
  have parts : number / 256 ^ 10 = versioned number / 256 ^ 10 ∧
      (number / 256 ^ 9 % 256 % 16 + 112) % 256 = versioned number / 256 ^ 9 % 256 ∧
      number / 256 ^ 8 % 256 = versioned number / 256 ^ 8 % 256 ∧
      (number / 256 ^ 7 % 256 % 64 + 128) % 256 = versioned number / 256 ^ 7 % 256 ∧
      number % 256 ^ 7 = versioned number % 256 ^ 7 := by
    norm_num at changed ⊢
    omega
  have single : ∀ part : Nat, [UInt8.ofNat part] = bigEndian 1 part := by
    intro part
    rw [bigEndian, pow_zero, Nat.div_one]
    rfl
  have one : ∀ {first second : Nat}, first % 256 = second % 256 →
      bigEndian 1 first = bigEndian 1 second := fun same => bigEndian_congr same
  rw [single, single, parts.1, one parts.2.1, one parts.2.2.1, one parts.2.2.2.1,
    bigEndian_congr parts.2.2.2.2]

variable [Primitives]

/-! ## Leases -/

omit [Primitives] in
/-- The first half of a digest. -/
theorem take_asBytes (digest : Digest) :
    digest.asBytes.take 16 = bigEndian 16 (digest.number / 2 ^ 128) := by
  have power : 256 ^ 16 = 2 ^ 128 := by norm_num
  rw [Digest.asBytes, bigEndian_add 16 16, List.take_left' (length_bigEndian 16 _), power]

/-- The bits of a digest that an identifier keeps, with the version and the variant. -/
def truncated (digest : Digest) : Bytes := setVersion (digest.asBytes.take 16)

omit [Primitives] in
theorem hyphenated_truncated (digest : Digest) :
    hyphenated (truncated digest) = Uuid.toText (versioned (digest.number / 2 ^ 128)) := by
  rw [truncated, take_asBytes, setVersion_bigEndian, hyphenated_bigEndian]

omit [Primitives] in
/-- The printed digits are read as an identifier of any kind. -/
theorem exists_ofText_truncated (kind : IdKind) (digest : Digest) :
    ∃ id : TypedId kind,
      TypedId.ofText (String.ofList (kind.tag.toList ++ hyphenated (truncated digest))) =
          some id ∧
        id.uuidBytes = truncated digest := by
  have small : (digest.number : Nat) / 2 ^ 128 < 2 ^ 128 :=
    Nat.div_lt_of_lt_mul (by rw [← pow_add]; exact digest.number.isLt)
  let id : TypedId kind := ⟨⟨_, versioned_lt small⟩, version_versioned _⟩
  refine ⟨id, ?_, ?_⟩
  · rw [hyphenated_truncated]
    exact TypedId.ofText_toText id
  · rw [truncated, take_asBytes, setVersion_bigEndian, TypedId.uuidBytes_eq]

/-- What the name of a lease is the digest of. -/
def leasePreimage (captureId : CaptureId) (pointDigest worldId : Digest) : Bytes :=
  Json.textBytes (captureId.toText.toList ++ '\x00' ::
    (pointDigest.toText.toList ++ '\x00' :: worldId.toText.toList))

/-- A lease always has a name, which is the truncated digest. -/
theorem exists_leaseId (captureId : CaptureId) (pointDigest worldId : Digest) :
    ∃ id, leaseId captureId pointDigest worldId = .ok id ∧
      id.uuidBytes = truncated (Digest.of (leasePreimage captureId pointDigest worldId)) := by
  obtain ⟨id, read, bytes⟩ :=
    exists_ofText_truncated .lease (Digest.of (leasePreimage captureId pointDigest worldId))
  rw [hyphenated_truncated] at read
  exact ⟨id, (okOr_eq_ok _ _ _).mpr read, bytes⟩

/-! ## Objects -/

/-- The name of a role in the identifiers of objects. -/
def roleTag : LogicalObjectRole → String
  | .admissionProof => "admission-proof"
  | .candidate => "candidate"
  | .captureBatchManifest => "capture-batch-manifest"
  | .debugSymbols => "debug-symbols"
  | .dependencyTranscript => "dependency"
  | .failure => "failure"
  | .replayCapsuleManifest => "replay-capsule-manifest"
  | .subject => "subject"
  | .trigger => "trigger"
  | .worldManifest => "world-manifest"
  | .worldState => "world-state"

omit [Primitives] in
theorem roleTag_injective : Function.Injective roleTag := by
  intro first second same
  cases first <;> cases second <;> first | rfl | exact absurd same (by decide)

/-- What the identifier of an object is the digest of. -/
def objectPreimage (captureId : CaptureId) (tag : String) (digest : Digest) (ordinal : UInt32) :
    Bytes :=
  Json.textBytes "reproit.private-closure-object.v1\x00".toList ++ (captureId.uuidBytes ++
    (Json.textBytes tag.toList ++ 0 :: (Json.textBytes digest.toText.toList ++
      bigEndian 4 ordinal.toNat)))

/-- The identifier of an object of a private closure. -/
def deriveObjectId (candidate : Candidate) (tag : String) (digest : Digest) (ordinal : UInt32) :
    Result ObjectId :=
  let material := Digest.of (objectPreimage candidate.captureId tag digest ordinal)
  okOr (TypedId.ofText (String.ofList ("obj_".toList ++ hyphenated (truncated material))))
    .schemaInvalid

theorem exists_deriveObjectId (candidate : Candidate) (tag : String) (digest : Digest)
    (ordinal : UInt32) :
    ∃ id, deriveObjectId candidate tag digest ordinal = .ok id ∧ id.uuidBytes =
      truncated (Digest.of (objectPreimage candidate.captureId tag digest ordinal)) := by
  obtain ⟨id, read, bytes⟩ := exists_ofText_truncated .object
    (Digest.of (objectPreimage candidate.captureId tag digest ordinal))
  exact ⟨id, (okOr_eq_ok _ _ _).mpr read, bytes⟩

/-! ## What is hashed -/

omit [Primitives] in
theorem textBytes_injective : Function.Injective Json.textBytes := by
  intro first second same
  have read := Json.bytesText_textBytes first
  rw [same, Json.bytesText_textBytes] at read
  exact (Option.some.inj read).symm

omit [Primitives] in
theorem length_textBytes_digest (digest : Digest) :
    (Json.textBytes digest.toText.toList).length = 71 := by
  have tag : Digest.tag.length = 7 ∧ Digest.tag.all (fun c => c.toNat < 128) = true := by decide
  rw [Digest.toText, String.toList_ofList, Json.length_textBytes_of_ascii, List.length_append,
    Radix.length_hexText, tag.1]
  intro c member
  rcases List.mem_append.mp member with inTag | inDigits
  · exact of_decide_eq_true (List.all_eq_true.mp tag.2 c inTag)
  · obtain ⟨value, valued⟩ :=
      Option.isSome_iff_exists.mp (Radix.hexValue_isSome_of_mem_hexText inDigits)
    obtain ⟨small, rfl⟩ := Radix.digitChar_of_hexValue valued
    have ascii : ∀ value < 16, (Nat.digitChar value).toNat < 128 := by decide
    exact ascii value small

omit [Primitives] in
/-- The parts before and behind the tag have fixed lengths, so every part is found again. -/
theorem objectPreimage_inj {captureId otherId : CaptureId} {tag other : String}
    {digest otherDigest : Digest} {ordinal otherOrdinal : UInt32} :
    objectPreimage captureId tag digest ordinal =
        objectPreimage otherId other otherDigest otherOrdinal ↔
      captureId = otherId ∧ tag = other ∧ digest = otherDigest ∧ ordinal = otherOrdinal := by
  constructor
  · intro same
    have behind := List.append_cancel_left same
    have ids : captureId.uuidBytes.length = otherId.uuidBytes.length := by
      rw [TypedId.uuidBytes_eq, TypedId.uuidBytes_eq, length_bigEndian, length_bigEndian]
    obtain ⟨captures, behind⟩ := List.append_inj behind ids
    have ends : (0 :: (Json.textBytes digest.toText.toList ++ bigEndian 4 ordinal.toNat)).length =
        (0 :: (Json.textBytes otherDigest.toText.toList ++
          bigEndian 4 otherOrdinal.toNat)).length := by
      simp only [List.length_cons, List.length_append, length_textBytes_digest, length_bigEndian]
    obtain ⟨tags, behind⟩ := List.append_inj' behind ends
    have digests : (Json.textBytes digest.toText.toList).length =
        (Json.textBytes otherDigest.toText.toList).length := by
      rw [length_textBytes_digest, length_textBytes_digest]
    obtain ⟨texts, ordinals⟩ := List.append_inj (List.cons.inj behind).2 digests
    have numbers := bigEndian_inj ordinals
    have width : 256 ^ 4 = 2 ^ 32 := by norm_num
    rw [width, Nat.mod_eq_of_lt ordinal.toNat_lt, Nat.mod_eq_of_lt otherOrdinal.toNat_lt] at numbers
    exact ⟨TypedId.uuidBytes_injective captures,
      String.toList_injective (textBytes_injective tags),
      Digest.toText_injective (String.toList_injective (textBytes_injective texts)),
      UInt32.toNat_inj.mp numbers⟩
  · rintro ⟨rfl, rfl, rfl, rfl⟩
    rfl

omit [Primitives] in
theorem leasePreimage_inj {captureId otherId : CaptureId}
    {pointDigest otherPoint worldId otherWorld : Digest} :
    leasePreimage captureId pointDigest worldId = leasePreimage otherId otherPoint otherWorld ↔
      captureId = otherId ∧ pointDigest = otherPoint ∧ worldId = otherWorld := by
  constructor
  · intro same
    have captures : ∀ id : CaptureId, id.toText.toList.length = 40 := by
      intro id
      simp [TypedId.toText, Uuid.toText, IdKind.tag]
    have digests : ∀ digest : Digest, digest.toText.toList.length = 71 := by
      intro digest
      simp [Digest.toText, Digest.tag]
    obtain ⟨first, behind⟩ := List.append_inj (textBytes_injective same)
      ((captures captureId).trans (captures otherId).symm)
    obtain ⟨second, third⟩ := List.append_inj (List.cons.inj behind).2
      ((digests pointDigest).trans (digests otherPoint).symm)
    exact ⟨TypedId.toText_injective (String.toList_injective first),
      Digest.toText_injective (String.toList_injective second),
      Digest.toText_injective (String.toList_injective (List.cons.inj third).2)⟩
  · rintro ⟨rfl, rfl, rfl⟩
    rfl

/-- Identifiers are always derived, from bytes that determine the arguments, and are the
same exactly when the truncated digests of these bytes are. -/
theorem derivedIds_exist_apart :
    Function.Injective roleTag ∧
    (∀ (candidate : Candidate) (tag : String) (digest : Digest) (ordinal : UInt32),
      ∃ id, deriveObjectId candidate tag digest ordinal = .ok id ∧ id.uuidBytes =
        truncated (Digest.of (objectPreimage candidate.captureId tag digest ordinal))) ∧
    (∀ (captureId : CaptureId) (pointDigest worldId : Digest),
      ∃ id, leaseId captureId pointDigest worldId = .ok id ∧
        id.uuidBytes = truncated (Digest.of (leasePreimage captureId pointDigest worldId))) ∧
    (∀ (captureId otherId : CaptureId) (tag other : String) (digest otherDigest : Digest)
      (ordinal otherOrdinal : UInt32),
      objectPreimage captureId tag digest ordinal =
          objectPreimage otherId other otherDigest otherOrdinal ↔
        captureId = otherId ∧ tag = other ∧ digest = otherDigest ∧ ordinal = otherOrdinal) ∧
    (∀ (captureId otherId : CaptureId) (pointDigest otherPoint worldId otherWorld : Digest),
      leasePreimage captureId pointDigest worldId = leasePreimage otherId otherPoint otherWorld ↔
        captureId = otherId ∧ pointDigest = otherPoint ∧ worldId = otherWorld) ∧
    (∀ (candidate another : Candidate) (tag other : String) (digest otherDigest : Digest)
      (ordinal otherOrdinal : UInt32),
      deriveObjectId candidate tag digest ordinal =
          deriveObjectId another other otherDigest otherOrdinal ↔
        truncated (Digest.of (objectPreimage candidate.captureId tag digest ordinal)) =
          truncated (Digest.of (objectPreimage another.captureId other otherDigest
            otherOrdinal))) ∧
    ∀ (captureId otherId : CaptureId) (pointDigest otherPoint worldId otherWorld : Digest),
      leaseId captureId pointDigest worldId = leaseId otherId otherPoint otherWorld ↔
        truncated (Digest.of (leasePreimage captureId pointDigest worldId)) =
          truncated (Digest.of (leasePreimage otherId otherPoint otherWorld)) := by
  refine ⟨roleTag_injective, exists_deriveObjectId, exists_leaseId, ?_, ?_, ?_, ?_⟩
  · exact fun _ _ _ _ _ _ _ _ => objectPreimage_inj
  · exact fun _ _ _ _ _ _ => leasePreimage_inj
  · intro candidate another tag other digest otherDigest ordinal otherOrdinal
    obtain ⟨first, derived, bytes⟩ := exists_deriveObjectId candidate tag digest ordinal
    obtain ⟨second, derived', bytes'⟩ :=
      exists_deriveObjectId another other otherDigest otherOrdinal
    rw [derived, derived', ← bytes, ← bytes', Except.ok.injEq,
      TypedId.uuidBytes_injective.eq_iff]
  · intro captureId otherId pointDigest otherPoint worldId otherWorld
    obtain ⟨first, derived, bytes⟩ := exists_leaseId captureId pointDigest worldId
    obtain ⟨second, derived', bytes'⟩ := exists_leaseId otherId otherPoint otherWorld
    rw [derived, derived', ← bytes, ← bytes', Except.ok.injEq,
      TypedId.uuidBytes_injective.eq_iff]

end Backend

end Reproit
