/-
# What the validators of a capture batch establish

The manifest of a capture batch lists the chunks of every object, and its envelope names every
stored chunk in the order of the digests.  A valid document can be written exactly.
-/

import Reproit.Core.CaptureSize

namespace Reproit

/-! ## Chunks -/

/-- What the validator of chunks establishes. -/
structure ValidChunks (chunks : List EncryptedChunk) : Prop where
  nonempty : chunks ≠ []
  few : chunks.length ≤ 32767
  indexes : chunks.map (fun chunk => chunk.index.toNat) = List.range chunks.length
  sizes : ∀ chunk ∈ chunks,
    minCipherSize ≤ chunk.cipherSize.toNat ∧ chunk.cipherSize.toNat ≤ maxCipherSize
  nonces : ∀ chunk ∈ chunks, chunk.nonce.utf8ByteSize = 16

theorem validateChunks_eq_ok {chunks : List EncryptedChunk} :
    validateChunks chunks = .ok () ↔ ValidChunks chunks := by
  simp only [validateChunks, bind_eq_ok, rejectIf_eq_ok, forEach_eq_ok, not_or, not_not, not_lt,
    List.isEmpty_iff]
  constructor
  · rintro ⟨_, ⟨nonempty, few⟩, each⟩
    constructor
    case nonempty => exact nonempty
    case few => exact few
    case indexes =>
      apply List.ext_getElem
      · rw [List.length_map, List.length_range]
      · intro index inside _
        rw [List.length_map] at inside
        rw [List.getElem_map, List.getElem_range]
        exact (each (chunks[index], index)
          (List.mk_mem_zipIdx_iff_getElem?.mpr (List.getElem?_eq_getElem inside))).1
    case sizes =>
      intro chunk listed
      obtain ⟨index, inside, rfl⟩ := List.mem_iff_getElem.mp listed
      exact (each (chunks[index], index)
        (List.mk_mem_zipIdx_iff_getElem?.mpr (List.getElem?_eq_getElem inside))).2.1
    case nonces =>
      intro chunk listed
      obtain ⟨index, inside, rfl⟩ := List.mem_iff_getElem.mp listed
      exact (each (chunks[index], index)
        (List.mk_mem_zipIdx_iff_getElem?.mpr (List.getElem?_eq_getElem inside))).2.2
  · intro valid
    refine ⟨(), ⟨valid.nonempty, valid.few⟩, ?_⟩
    rintro ⟨chunk, index⟩ pair
    have listed := List.fst_mem_of_mem_zipIdx pair
    refine ⟨?_, valid.sizes chunk listed, valid.nonces chunk listed⟩
    have found := List.mk_mem_zipIdx_iff_getElem?.mp pair
    obtain ⟨inside, -⟩ := List.getElem?_eq_some_iff.mp found
    have number := congrArg (·[index]?) valid.indexes
    rw [List.getElem?_map, found, List.getElem?_range inside] at number
    exact Option.some.inj number

theorem EncryptedObject.exact {object : EncryptedObject}
    (descriptor : object.descriptor.validate = .ok ()) (chunks : ValidChunks object.chunks) :
    codec.exact object = true := by
  have every : object.chunks.all EncryptedChunk.codec.exact = true := by
    rw [List.all_eq_true]
    intro chunk listed
    have size := (chunks.sizes chunk listed).2
    simp only [EncryptedChunk.codec, Digest.codec, Codec.exact_record, Fields.exact_required,
      Fields.exact_done, Codec.exact_text, Codec.exact_string, Codec.exact_uint64,
      Codec.exact_uint32, Bool.and_true, Bool.true_and, decide_eq_true_eq]
    exact size.trans (by decide)
  simp only [codec, Codec.exact_record, Codec.exact_list, Fields.exact_required,
    Fields.exact_done, LogicalObject.exact descriptor, every, Bool.and_true]

/-! ## The manifest -/

namespace CaptureBatchManifest

/-- What the validator establishes, but for the bound on the size. -/
structure WellFormed (manifest : CaptureBatchManifest) : Prop where
  version : manifest.encryptionContextVersion = 1
  profile : validLowerIdentity manifest.profile = true ∧ manifest.profile.utf8ByteSize ≤ 128
  profileFormat : 1 ≤ manifest.profileFormat.toNat ∧
    manifest.profileFormat.toNat ≤ maxExactInteger
  least : 4 ≤ manifest.objects.length
  proofs : manifest.proofDigests.length = 3
  distinct : manifest.proofDigests.Nodup
  ordered : (manifest.objects.map fun object => object.descriptor.objectId).Pairwise (· < ·)
  capabilities : validateCapabilities manifest.requiredCapabilities = .ok ()
  objects : ∀ object ∈ manifest.objects,
    object.descriptor.validate = .ok () ∧ ValidChunks object.chunks

theorem WellFormed.exact {manifest : CaptureBatchManifest} (formed : manifest.WellFormed) :
    Document.Exact manifest := by
  have objects : manifest.objects.all EncryptedObject.codec.exact = true :=
    List.all_eq_true.mpr fun object listed =>
      EncryptedObject.exact (formed.objects object listed).1 (formed.objects object listed).2
  have format : manifest.profileFormat.toNat ≤ Json.maxExactInteger := formed.profileFormat.2
  change codec.exact manifest = true
  simp [codec, ProcessingMode.codec, Format.codec, Digest.codec, TypedId.codec, objects, format]

/-- An object has at least one chunk. -/
theorem WellFormed.length_lt {manifest : CaptureBatchManifest} (formed : manifest.WellFormed) :
    manifest.objects.length < manifest.chunkCount := by
  have each := List.card_nsmul_le_sum (manifest.objects.map fun object => object.chunks.length) 1
    fun count listed => by
      obtain ⟨object, among, rfl⟩ := List.mem_map.mp listed
      exact List.length_pos_iff.mpr (formed.objects object among).2.nonempty
  rw [List.length_map, smul_eq_mul, mul_one] at each
  rw [chunkCount]
  omega

/-- A manifest is valid when it is well formed, has few enough chunks and is short. -/
theorem validate_eq_ok {manifest : CaptureBatchManifest} :
    manifest.validate = .ok () ↔ manifest.WellFormed ∧ manifest.chunkCount ≤ 32768 ∧
      manifest.documentBytes ≤ maxBatchDocumentBytes := by
  have order : requireStrictOrder (manifest.objects.map fun object =>
      object.descriptor.objectId.toText) = .ok () ↔
        (manifest.objects.map fun object => object.descriptor.objectId).Pairwise (· < ·) := by
    rw [requireStrictOrder_eq_ok, List.pairwise_map, List.pairwise_map]
    simp only [TypedId.toText_lt_iff]
  simp only [validate, bind_eq_ok, rejectIf_eq_ok, forEach_eq_ok, order, validateChunks_eq_ok,
    not_or, not_not, not_lt, ← CaptureBatchManifest.length_text]
  constructor
  · rintro ⟨_, ⟨version, identity, length, format, least, _, proofs, distinct⟩, _, ordered, _,
      capabilities, _, objects, _, few, written, wrote, short⟩
    obtain ⟨-, rfl⟩ := Canonical.bytes_eq_ok.mp wrote
    refine ⟨⟨version, ⟨identity, length⟩, format, least, proofs, distinct, ordered, capabilities,
      fun object listed => ?_⟩, few, short⟩
    obtain ⟨_, descriptor, chunks⟩ := objects object listed
    exact ⟨descriptor, chunks⟩
  · rintro ⟨formed, few, short⟩
    have count := formed.length_lt
    exact ⟨(), ⟨formed.version, formed.profile.1, formed.profile.2, formed.profileFormat,
      formed.least, by omega, formed.proofs, formed.distinct⟩, (), formed.ordered, (),
      formed.capabilities, (), fun object listed => ⟨(), formed.objects object listed⟩, (), few, _,
      Canonical.bytes_of_exact formed.exact, short⟩

end CaptureBatchManifest

/-! ## Uploads -/

theorem UploadObject.validate_of_nonce {object : UploadObject} {nonce : Vector UInt8 12}
    (size : minCipherSize ≤ object.cipherSize.toNat ∧ object.cipherSize.toNat ≤ maxCipherSize)
    (text : object.nonce = encodeBase64Url nonce.toList) : object.validate = .ok () := by
  rw [UploadObject.validate, rejectIf_eq_ok _ _ (), text, utf8ByteSize_encodeBase64Url,
    Vector.length_toList, not_or, not_or, not_not, not_not, not_not]
  refine ⟨size, rfl, ?_⟩
  rw [validBase64Url, encodeBase64Url, String.toList_ofList, List.all_eq_true]
  exact fun c member =>
    (isBase64UrlChar_of_mem_alphabet c (Base64.mem_alphabet_of_mem_encode member)).1

namespace CaptureBatchIdentity

/-- The uploads are valid and sorted, and no nonce occurs twice. -/
theorem validateUploads_eq_ok {seen : List String} {previous : Option (Digest ×ₗ String)}
    {objects : List UploadObject} :
    validateUploads seen previous objects = .ok () ↔
      (∀ object ∈ objects, object.validate = .ok ()) ∧
      (objects.map UploadObject.nonce).Nodup ∧
      (∀ object ∈ objects, object.nonce ∉ seen) ∧
      (previous.toList ++ objects.map UploadObject.key).IsChain (· < ·) := by
  induction objects generalizing seen previous with
  | nil =>
      refine ⟨fun _ => ⟨nofun, List.nodup_nil, nofun, ?_⟩, fun _ => rfl⟩
      cases previous with
      | none => exact .nil
      | some prior => exact .singleton prior
  | cons object rest ih =>
      have first : (previous.toList ++ object.key :: rest.map UploadObject.key).IsChain (· < ·) ↔
          previous.any (fun prior => prior ≥ object.key) = false ∧
            (object.key :: rest.map UploadObject.key).IsChain (· < ·) := by
        cases previous with
        | none => exact (and_iff_right rfl).symm
        | some prior =>
            rw [Option.toList_some, List.singleton_append, List.isChain_cons_cons, Option.any_some,
              decide_eq_false_iff_not, not_le]
      simp only [validateUploads, bind_eq_ok, rejectIf_eq_ok, ih, List.map_cons, List.nodup_cons,
        List.forall_mem_cons, first, Option.toList_some, List.singleton_append, Bool.not_eq_true]
      constructor
      · rintro ⟨_, valid, _, new, _, after, others, distinct, unseen, chain⟩
        refine ⟨⟨valid, others⟩, ⟨fun listed => ?_, distinct⟩,
          ⟨new, fun other listed => List.not_mem_of_not_mem_cons (unseen other listed)⟩, after,
          chain⟩
        obtain ⟨other, among, same⟩ := List.mem_map.mp listed
        exact List.ne_of_not_mem_cons (unseen other among) same
      · rintro ⟨⟨valid, others⟩, ⟨apart, distinct⟩, ⟨new, unseen⟩, after, chain⟩
        refine ⟨(), valid, (), new, (), after, others, distinct, fun other listed => ?_, chain⟩
        intro held
        rcases List.mem_cons.mp held with same | earlier
        · exact apart (List.mem_map.mpr ⟨other, listed, same⟩)
        · exact unseen other listed earlier

/-- What the validator establishes. -/
structure Valid (identity : CaptureBatchIdentity) : Prop where
  cipherSuite : identity.cipherSuite = Reproit.cipherSuite
  least : 4 ≤ identity.objects.length
  few : identity.objects.length ≤ 32767
  manifestObject : identity.manifestObject.validate = .ok ()
  total : identity.manifestObject.cipherSize.toNat +
    (identity.objects.map fun object => object.cipherSize.toNat).sum ≤ maxObjectBytes
  objects : ∀ object ∈ identity.objects, object.validate = .ok ()
  distinct : (identity.manifestObject.nonce :: identity.objects.map UploadObject.nonce).Nodup
  ordered : (identity.objects.map UploadObject.key).IsChain (· < ·)

theorem validate_eq_ok {identity : CaptureBatchIdentity} :
    identity.validate = .ok () ↔ identity.Valid := by
  have total : (¬ (checkedSum identity.manifestObject.cipherSize
      (identity.objects.map UploadObject.cipherSize)).all fun total =>
        total.toNat > maxObjectBytes) ↔ identity.manifestObject.cipherSize.toNat +
          (identity.objects.map fun object => object.cipherSize.toNat).sum ≤ maxObjectBytes := by
    have sum : (identity.objects.map UploadObject.cipherSize).map UInt64.toNat =
        identity.objects.map fun object => object.cipherSize.toNat := List.map_map
    rw [Bool.not_eq_true, Option.all_eq_false]
    simp only [checkedSum_eq_some, sum, decide_eq_false_iff_not, not_lt]
    constructor
    · rintro ⟨_, whole, small⟩
      exact whole.trans_le small
    · intro small
      refine ⟨UInt64.ofNat _, (UInt64.toNat_ofNat_of_lt' ?_).symm, ?_⟩
      · exact small.trans_lt (by decide)
      · exact (Nat.mod_le _ _).trans small
  simp only [validate, bind_eq_ok, rejectIf_eq_ok, total, validateUploads_eq_ok, not_or, not_not,
    not_lt]
  constructor
  · rintro ⟨_, ⟨suite, least, few⟩, _, manifest, _, within, objects, distinct, new, ordered⟩
    constructor
    case cipherSuite => exact suite
    case least => exact least
    case few => exact few
    case manifestObject => exact manifest
    case total => exact within
    case objects => exact objects
    case distinct =>
      refine List.nodup_cons.mpr ⟨fun listed => ?_, distinct⟩
      obtain ⟨object, among, same⟩ := List.mem_map.mp listed
      exact new object among (List.mem_singleton.mpr same)
    case ordered => exact ordered
  · intro valid
    obtain ⟨apart, distinct⟩ := List.nodup_cons.mp valid.distinct
    refine ⟨(), ⟨valid.cipherSuite, valid.least, valid.few⟩, (), valid.manifestObject, (),
      valid.total, valid.objects, distinct, fun object listed held => ?_, valid.ordered⟩
    exact apart (List.mem_map.mpr ⟨object, listed, List.mem_singleton.mp held⟩)

theorem Valid.exact {identity : CaptureBatchIdentity} (valid : identity.Valid) :
    Document.Exact identity := by
  have size : ∀ {object : UploadObject}, object.validate = .ok () →
      object.cipherSize.toNat ≤ Json.maxExactInteger := by
    intro object checked
    rw [UploadObject.validate, rejectIf_eq_ok _ _ (), not_or, not_not] at checked
    exact checked.1.2.trans (by decide)
  have objects : identity.objects.all UploadObject.codec.exact = true := by
    rw [List.all_eq_true]
    intro object listed
    simp only [UploadObject.codec, Digest.codec, Codec.exact_record, Fields.exact_required,
      Fields.exact_done, Codec.exact_text, Codec.exact_string, Codec.exact_uint64, Bool.and_true,
      Bool.true_and, decide_eq_true_eq]
    exact size (valid.objects object listed)
  have manifest : ManifestUploadObject.codec.exact identity.manifestObject = true := by
    simp only [ManifestUploadObject.codec, Digest.codec, TypedId.codec, Codec.exact_record,
      Fields.exact_required, Fields.exact_done, Codec.exact_text, Codec.exact_string,
      Codec.exact_uint64, Bool.and_true, Bool.true_and, decide_eq_true_eq]
    exact size valid.manifestObject
  change codec.exact identity = true
  simp [codec, ProcessingMode.codec, Format.codec, TypedId.codec, objects, manifest]

end CaptureBatchIdentity

/-! ## The envelope -/

/-- The digits of a fingerprint are hexadecimal. -/
theorem validFailureFingerprint_iff {value : String} :
    validFailureFingerprint value = true ↔ ∃ digits, value.toList = fingerprintTag ++ digits ∧
      digits.length = 64 ∧ ∀ c ∈ digits, (Radix.hexValue c).isSome := by
  have digit : ∀ c : Char, (c.isDigit || ('a' ≤ c && c ≤ 'f')) = true ↔
      (Radix.hexValue c).isSome := by
    intro c
    rw [Radix.hexValue, Char.isDigit]
    split_ifs with number letter
    · simp only [Option.isSome_some, iff_true, Bool.or_eq_true, Bool.and_eq_true, decide_eq_true_eq]
      exact .inl number
    · simp only [Option.isSome_some, iff_true, Bool.or_eq_true, Bool.and_eq_true, decide_eq_true_eq]
      exact .inr letter
    · simp only [Option.isSome_none, Bool.or_eq_true, Bool.and_eq_true, decide_eq_true_eq,
        Bool.false_eq_true, iff_false, not_or]
      exact ⟨number, letter⟩
  rw [validFailureFingerprint]
  constructor
  · intro valid
    cases found : Json.expect fingerprintTag value.toList with
    | none =>
        rw [found] at valid
        cases valid
    | some digits =>
        rw [found] at valid
        simp only [Bool.and_eq_true, decide_eq_true_eq, List.all_eq_true, digit] at valid
        exact ⟨digits, Json.expect_eq_some.mp found, valid⟩
  · rintro ⟨digits, split, length, hex⟩
    rw [split, Json.expect_append]
    simp only [Bool.and_eq_true, decide_eq_true_eq, List.all_eq_true, digit]
    exact ⟨length, hex⟩

theorem utf8ByteSize_of_validFailureFingerprint {value : String}
    (valid : validFailureFingerprint value = true) : value.utf8ByteSize = 76 := by
  obtain ⟨digits, split, length, hex⟩ := validFailureFingerprint_iff.mp valid
  have tag : fingerprintTag.length = 12 ∧
      fingerprintTag.all (fun c => c.toNat < 128) = true := by decide
  have ascii : ∀ c ∈ fingerprintTag ++ digits, c.toNat < 128 := by
    intro c listed
    rcases List.mem_append.mp listed with front | back
    · exact of_decide_eq_true (List.all_eq_true.mp tag.2 c front)
    · exact (plain_of_hexValue (hex c back)).2
  rw [← String.ofList_toList (s := value), Json.utf8ByteSize_ofList, split,
    Json.length_textBytes_of_ascii ascii, List.length_append, tag.1, length]

theorem validFailureFingerprint_hexText (number : Nat) :
    validFailureFingerprint (String.ofList (fingerprintTag ++ Radix.hexText 64 number)) = true :=
  validFailureFingerprint_iff.mpr ⟨_, String.toList_ofList, Radix.length_hexText _ _,
    fun _ listed => Radix.hexValue_isSome_of_mem_hexText listed⟩

namespace UploadEnvelope

variable [Primitives]

/-- What the validator establishes. -/
structure Valid (envelope : UploadEnvelope) : Prop where
  proofs : envelope.admission.proofDigests.length = 3 ∧ envelope.admission.proofDigests.Nodup ∧
    envelope.admission.runCount = 3
  signerKeyId : envelope.admission.signerKeyId.isEmpty = false ∧
    envelope.admission.signerKeyId.utf8ByteSize ≤ 256
  failureFingerprint : validFailureFingerprint envelope.failureFingerprint = true
  profile : validLowerIdentity envelope.profile = true ∧ envelope.profile.utf8ByteSize ≤ 128
  profileFormat : 1 ≤ envelope.profileFormat.toNat ∧
    envelope.profileFormat.toNat ≤ maxExactInteger
  sourceRevision : envelope.sourceRevision.isEmpty = false ∧
    envelope.sourceRevision.utf8ByteSize ≤ 256
  capabilities : validateCapabilities envelope.requiredCapabilities = .ok ()
  failureSummary : envelope.failureSummary.validateForMode envelope.processingMode = .ok ()
  triggerSummary : envelope.triggerSummary.validateForMode envelope.processingMode = .ok ()
  campaign : envelope.validateCampaign = .ok ()
  discovery : ¬ (envelope.campaignContext.isSome ∧ envelope.discoverySource = some .production)
  signature : ∃ signature, decodeBase64Url 64 envelope.signature = .ok signature
  wrappedKey : envelope.wrappedKey.validate = .ok ()
  identity : envelope.identity.Valid
  digest : envelope.captureBatchDigest = Digest.of (Canonical.text envelope.identity)

omit [Primitives] in
theorem bounded_of_campaign {envelope : UploadEnvelope} (valid : envelope.validateCampaign = .ok ()) :
    (∀ context, envelope.campaignContext = some context → context.validate = .ok ()) ∧
      envelope.causalParentIds.length ≤ 32 := by
  rw [validateCampaign] at valid
  cases held : envelope.campaignContext with
  | none =>
      simp only [held, rejectIf_eq_ok, not_or, not_not, List.isEmpty_iff] at valid
      refine ⟨nofun, ?_⟩
      rw [valid.2]
      exact Nat.zero_le _
  | some context =>
      simp only [held, bind_eq_ok, rejectIf_eq_ok, not_or, not_lt] at valid
      obtain ⟨_, checked, -, -, few, -⟩ := valid
      refine ⟨fun other same => ?_, few⟩
      obtain rfl := Option.some.inj same
      exact checked

theorem Valid.bounded {envelope : UploadEnvelope} (valid : envelope.Valid) : envelope.Bounded := by
  have nonce : ∀ {object : UploadObject}, object.validate = .ok () →
      object.nonce.utf8ByteSize ≤ 16 := by
    intro object checked
    rw [UploadObject.validate, rejectIf_eq_ok _ _ (), not_or, not_or, not_not, not_not] at checked
    exact checked.2.1.le
  have trigger := valid.triggerSummary
  rw [TriggerSummary.validateForMode, rejectIf_eq_ok _ _ (), not_or, not_or, not_lt] at trigger
  constructor
  case proofDigests => exact valid.proofs.1.le
  case signerKeyId => exact valid.signerKeyId.2
  case campaignContext => exact (bounded_of_campaign valid.campaign).1
  case causalParentIds => exact (bounded_of_campaign valid.campaign).2
  case cipherSuite => exact valid.identity.cipherSuite
  case failureFingerprint =>
    exact (utf8ByteSize_of_validFailureFingerprint valid.failureFingerprint).trans_le (by decide)
  case failureSummary => exact ⟨_, valid.failureSummary⟩
  case manifestNonce => exact nonce valid.identity.manifestObject
  case count => exact valid.identity.few
  case nonces => exact fun object listed => nonce (valid.identity.objects object listed)
  case profile => exact valid.profile.2
  case requiredCapabilities => exact valid.capabilities
  case signature =>
    obtain ⟨signature, decoded⟩ := valid.signature
    rw [decodeBase64Url_eq_ok.mp decoded, utf8ByteSize_encodeBase64Url, Vector.length_toList]
    decide
  case sourceRevision => exact valid.sourceRevision.2
  case triggerSummary => exact trigger.2.1
  case wrappedKey => exact valid.wrappedKey

omit [Primitives] in
/-- An envelope whose integers are exact is exact. -/
theorem exact_of_identity {envelope : UploadEnvelope} (identity : Document.Exact envelope.identity)
    (profileFormat : envelope.profileFormat.toNat ≤ maxExactInteger) : Document.Exact envelope := by
  change CaptureBatchIdentity.codec.exact envelope.identity = true at identity
  change codec.exact envelope = true
  have format : envelope.profileFormat.toNat ≤ Json.maxExactInteger := profileFormat
  simp only [CaptureBatchIdentity.codec, UploadEnvelope.identity, ProcessingMode.codec,
    Format.codec, TypedId.codec, Codec.exact_record, Codec.exact_list, Fields.exact_required,
    Fields.exact_done, Codec.exact_enumeration, Codec.exact_text, Codec.exact_string,
    Bool.and_true, Bool.true_and, Bool.and_eq_true] at identity
  obtain ⟨manifest, objects⟩ := identity
  have campaign : envelope.campaignContext.all FuzzContext.codec.exact = true := by
    rw [Option.all_eq_true]
    intro context _
    simp [FuzzContext.codec, Format.codec, TypedId.codec, Timestamp.codec]
  have discovery : envelope.discoverySource.all DiscoverySource.codec.exact = true := by
    rw [Option.all_eq_true]
    intro source _
    simp [DiscoverySource.codec]
  simp [codec, AdmissionAttestation.codec, FailureSummary.codec, TriggerSummary.codec,
    WrappedKey.codec, FailureCategory.codec, OperationKind.codec, ProcessingMode.codec,
    Format.codec, Digest.codec, TypedId.codec, Timestamp.codec, campaign, discovery, manifest,
    objects, format]

/-- The validator bounds the size of no envelope that it accepts otherwise. -/
theorem validate_eq_ok {envelope : UploadEnvelope} :
    envelope.validate = .ok () ↔ envelope.Valid := by
  simp only [validate, bind_eq_ok, rejectIf_eq_ok, not_or, not_not, not_lt]
  constructor
  · rintro ⟨_, ⟨count, distinct, runs, signer, signerLength, suite, fingerprint, identity,
      profile, format, revision, revisionLength⟩, _, capabilities, _, failure, _, trigger, _,
      campaign, _, discovery, signature, decoded, _, wrapped, _, stored, _, _, _, _, digest,
      written, same⟩
    have valid := CaptureBatchIdentity.validate_eq_ok.mp stored
    have written' := Canonical.digest_of_exact valid.exact
    exact ⟨⟨count, distinct, runs⟩, ⟨Bool.eq_false_iff.mpr signer, signerLength⟩, fingerprint,
      ⟨identity, profile⟩, format, ⟨Bool.eq_false_iff.mpr revision, revisionLength⟩, capabilities,
      failure, trigger, campaign, discovery, ⟨signature, decoded⟩, wrapped, valid,
      same.symm.trans (Except.ok.inj (written.symm.trans written'))⟩
  · intro valid
    have exact := exact_of_identity valid.identity.exact valid.profileFormat.2
    obtain ⟨signature, decoded⟩ := valid.signature
    exact ⟨(), ⟨valid.proofs.1, valid.proofs.2.1, valid.proofs.2.2,
      Bool.eq_false_iff.mp valid.signerKeyId.1, valid.signerKeyId.2, valid.identity.cipherSuite,
      valid.failureFingerprint, valid.profile.1, valid.profile.2, valid.profileFormat,
      Bool.eq_false_iff.mp valid.sourceRevision.1, valid.sourceRevision.2⟩, (),
      valid.capabilities, (), valid.failureSummary, (), valid.triggerSummary, (), valid.campaign,
      (), valid.discovery, signature, decoded, (), valid.wrappedKey, (),
      CaptureBatchIdentity.validate_eq_ok.mpr valid.identity, _,
      Canonical.bytes_of_exact exact, (), length_text_le valid.bounded, _,
      Canonical.digest_of_exact valid.identity.exact, valid.digest.symm⟩

end UploadEnvelope

end Reproit
