/-
# Sealing staged candidates

A valid candidate is sealed under its staging identity, which is the associated data of its
ciphertext.  Opening checks the envelope, decrypts, reads and validates the candidate and
derives its identity again.  Sealing and opening are inverse, a candidate fits the stored
limit exactly when it fits the plaintext limit, and an identity that was changed after
sealing does not open.
-/

import Reproit.Core.Crypto
import Reproit.Core.Exactness
import Reproit.Core.Model.Staging

namespace Reproit

variable [Primitives]

/-! ## Authenticated records -/

def sealAuthenticatedRecord (key : SecretKey) (nonce : Nonce) (plaintext associatedData : Bytes) :
    Result Bytes := do
  let encrypted ← okOr (Primitives.aesGcmEncrypt key nonce plaintext associatedData) decryptionError
  return nonce.toList ++ encrypted

def openAuthenticatedRecord (key : SecretKey) (stored associatedData : Bytes) : Result Bytes := do
  rejectIf (stored.length < 28) decryptionError
  let nonce ← okOr (storedNonce stored) decryptionError
  okOr (Primitives.aesGcmDecrypt key nonce (stored.drop 12) associatedData) decryptionError

theorem openAuthenticatedRecord_append (key : SecretKey) (nonce : Nonce)
    (encrypted associatedData : Bytes) (enough : 16 ≤ encrypted.length) :
    openAuthenticatedRecord key (nonce.toList ++ encrypted) associatedData =
      okOr (Primitives.aesGcmDecrypt key nonce encrypted associatedData) decryptionError := by
  have behind : (nonce.toList ++ encrypted).drop 12 = encrypted := by
    rw [List.drop_left' (by simp)]
  have long : ¬ (nonce.toList ++ encrypted).length < 28 := by
    simp only [List.length_append, Vector.length_toList]
    omega
  rw [openAuthenticatedRecord, rejectIf_of_not _ long, ok_bind, storedNonce_append, behind]
  rfl

/-! ## Staged candidates -/

/-- The greatest size of the canonical bytes of a staged candidate. -/
def maxCandidateBytes : Nat := 1048576

def stagingLimit : Error :=
  .new .runtimeQuota "The complete candidate exceeds the staging limit."

def sealCandidateStaging (key : SecretKey) (nonce : Nonce) (candidate : Candidate)
    (identity : CandidateStagingIdentity) : Result CandidateStagingEnvelope := do
  identity.matchesCandidate candidate
  let plaintext ← Canonical.bytes candidate
  rejectIf (plaintext.length > maxCandidateBytes) stagingLimit
  let associatedData ← Canonical.bytes identity
  let stored ← sealAuthenticatedRecord key nonce plaintext associatedData
  CandidateStagingEnvelope.new identity stored

def openCandidateStaging (key : SecretKey) (envelope : CandidateStagingEnvelope) :
    Result Candidate := do
  envelope.validate
  let stored ← envelope.storedBytes
  let associatedData ← envelope.aad
  let plaintext ← openAuthenticatedRecord key stored associatedData
  rejectIf (plaintext.length > maxCandidateBytes) stagingLimit
  let candidate ← Canonical.parseStrict Candidate plaintext
  candidate.validate
  envelope.identity.matchesCandidate candidate
  return candidate

/-! ## Identities -/

open CandidateStagingIdentity

theorem matchesCandidate_eq_ok {identity : CandidateStagingIdentity} {candidate : Candidate} :
    identity.matchesCandidate candidate = .ok () ↔
      forCandidate candidate identity.expiresAt = .ok identity := by
  rw [matchesCandidate, bind_eq_ok]
  constructor
  · intro ⟨expected, derived, same⟩
    rw [rejectIf_eq_ok, not_not] at same
    rw [derived, ← same]
  · intro derived
    exact ⟨identity, derived, (rejectIf_eq_ok _ _ ()).mpr (not_not.mpr rfl)⟩

theorem valid_of_forCandidate {candidate : Candidate} {expiresAt : Timestamp}
    {identity : CandidateStagingIdentity}
    (derived : forCandidate candidate expiresAt = .ok identity) :
    candidate.validate = .ok () ∧ identity.expiresAt = expiresAt := by
  simp only [forCandidate, bind_eq_ok, pure_eq_ok] at derived
  obtain ⟨_, valid, _, _, _, _, _, _, _, _, _, _, rfl⟩ := derived
  exact ⟨valid, rfl⟩

omit [Primitives] in
theorem CandidateStagingIdentity.exact (identity : CandidateStagingIdentity) :
    Document.Exact identity := by
  change codec.exact identity = true
  simp [codec, ProcessingMode.codec, Format.codec, Digest.codec, TypedId.codec, Timestamp.codec]

omit [Primitives] in
theorem FailureStormIdentity.exact (identity : FailureStormIdentity) : Document.Exact identity := by
  show FailureStormIdentity.codec.exact identity = true
  simp [FailureStormIdentity.codec, Format.codec, Digest.codec, TypedId.codec, OperationKind.codec]

omit [Primitives] in
theorem Candidate.exact (candidate : Candidate) : Document.Exact candidate := by
  have campaign : candidate.campaignContext.all FuzzContext.codec.exact = true := by
    rw [Option.all_eq_true]
    intro context _
    simp [FuzzContext.codec, Format.codec, TypedId.codec, Timestamp.codec]
  have discovery : candidate.discoverySource.all DiscoverySource.codec.exact = true := by
    rw [Option.all_eq_true]
    intro source _
    simp [DiscoverySource.codec]
  change Candidate.codec.exact candidate = true
  simp [Candidate.codec, campaign, discovery, Format.codec, ProcessingMode.codec, TypedId.codec,
    Digest.codec, EventRecord.codec, EventKind.codec, FailureReference.exact, Deployment.exact]

omit [Primitives] in
theorem ProviderLeaseBinding.exact (binding : ProviderLeaseBinding) : Document.Exact binding := by
  show ProviderLeaseBinding.codec.exact binding = true
  simp [ProviderLeaseBinding.codec, Format.codec, Digest.codec, TypedId.codec]

/-! ## Envelopes -/

namespace CandidateStagingEnvelope

/-- The envelope of stored bytes. -/
def ofStored (identity : CandidateStagingIdentity) (stored : Bytes) : CandidateStagingEnvelope where
  cipherDigest := Digest.of stored
  cipherSize := UInt64.ofNat stored.length
  ciphertext := encodeBase64Url stored
  format := .v1
  identity := identity

theorem validate_eq_ok {envelope : CandidateStagingEnvelope} :
    envelope.validate = .ok () ↔ ∃ stored, decodeBase64UrlBytes envelope.ciphertext = .ok stored ∧
      28 ≤ stored.length ∧ stored.length ≤ maxStagedCandidateBytes ∧
      stored.length = envelope.cipherSize.toNat ∧ Digest.of stored = envelope.cipherDigest := by
  have every : envelope.identity.validate = .ok () := rfl
  rw [validate, every, ok_bind, bind_eq_ok]
  constructor
  · intro ⟨stored, decoded, checked⟩
    rw [rejectIf_eq_ok, not_or, not_or, not_not, not_not, not_not] at checked
    exact ⟨stored, decoded, checked.1.1, checked.1.2, checked.2.1, checked.2.2⟩
  · intro ⟨stored, decoded, least, most, size, digest⟩
    refine ⟨stored, decoded, (rejectIf_eq_ok _ _ ()).mpr ?_⟩
    rw [not_or, not_or, not_not, not_not, not_not]
    exact ⟨⟨least, most⟩, size, digest⟩

theorem validate_ofStored {identity : CandidateStagingIdentity} {stored : Bytes}
    (least : 28 ≤ stored.length) (most : stored.length ≤ maxStagedCandidateBytes) :
    (ofStored identity stored).validate = .ok () := by
  refine validate_eq_ok.mpr ⟨stored, decodeBase64UrlBytes_eq_ok.mpr rfl, least, most, ?_, rfl⟩
  rw [maxStagedCandidateBytes] at most
  rw [ofStored, UInt64.toNat_ofNat']
  omega

theorem new_eq_ok {identity : CandidateStagingIdentity} {stored : Bytes}
    {envelope : CandidateStagingEnvelope} :
    new identity stored = .ok envelope ↔ 28 ≤ stored.length ∧
      stored.length ≤ maxStagedCandidateBytes ∧ envelope = ofStored identity stored := by
  have same : new identity stored = (do
      rejectIf (2 ^ 64 ≤ stored.length) .schemaInvalid
      (ofStored identity stored).validate
      return ofStored identity stored) := rfl
  simp only [same, bind_eq_ok, rejectIf_eq_ok, pure_eq_ok, not_le]
  constructor
  · rintro ⟨_, _, _, valid, held⟩
    obtain ⟨other, decoded, least, most, _⟩ := validate_eq_ok.mp valid
    obtain rfl := encodeBase64Url_injective (decodeBase64UrlBytes_eq_ok.mp decoded)
    exact ⟨least, most, held.symm⟩
  · rintro ⟨least, most, held⟩
    refine ⟨(), ?_, (), validate_ofStored least most, held.symm⟩
    rw [maxStagedCandidateBytes] at most
    omega

end CandidateStagingEnvelope

/-! ## Sealing and opening -/

/-- What sealing does: the identity is that of the candidate, whose canonical bytes fit the
limit and are encrypted with the identity as associated data. -/
theorem sealCandidateStaging_eq_ok {key : SecretKey} {nonce : Nonce} {candidate : Candidate}
    {identity : CandidateStagingIdentity} {envelope : CandidateStagingEnvelope} :
    sealCandidateStaging key nonce candidate identity = .ok envelope ↔
      forCandidate candidate identity.expiresAt = .ok identity ∧
      ∃ plaintext associatedData encrypted, Canonical.bytes candidate = .ok plaintext ∧
        plaintext.length ≤ maxCandidateBytes ∧ Canonical.bytes identity = .ok associatedData ∧
        Primitives.aesGcmEncrypt key nonce plaintext associatedData = some encrypted ∧
        CandidateStagingEnvelope.new identity (nonce.toList ++ encrypted) = .ok envelope := by
  simp only [sealCandidateStaging, sealAuthenticatedRecord, bind_eq_ok, rejectIf_eq_ok, okOr_eq_ok,
    pure_eq_ok, not_lt]
  constructor
  · rintro ⟨_, derived, plaintext, written, _, fits, associatedData, authenticated, _,
      ⟨encrypted, done, same⟩, made⟩
    rw [← same] at made
    exact ⟨matchesCandidate_eq_ok.mp derived, plaintext, associatedData, encrypted, written, fits, authenticated, done, made⟩
  · rintro ⟨derived, plaintext, associatedData, encrypted, written, fits, authenticated, done, made⟩
    exact ⟨(), matchesCandidate_eq_ok.mpr derived, plaintext, written, (), fits, associatedData, authenticated, _,
      ⟨encrypted, done, rfl⟩, made⟩

/-- Opening an envelope of stored bytes decrypts them with its identity. -/
theorem openCandidateStaging_ofStored (key : SecretKey) (nonce : Nonce)
    {encrypted associatedData : Bytes} {identity : CandidateStagingIdentity}
    (least : 16 ≤ encrypted.length) (most : encrypted.length + 12 ≤ maxStagedCandidateBytes)
    (authenticated : Canonical.bytes identity = .ok associatedData) :
    openCandidateStaging key (.ofStored identity (nonce.toList ++ encrypted)) = (do
      let plaintext ← okOr (Primitives.aesGcmDecrypt key nonce encrypted associatedData)
        decryptionError
      rejectIf (plaintext.length > maxCandidateBytes) stagingLimit
      let candidate ← Canonical.parseStrict Candidate plaintext
      candidate.validate
      identity.matchesCandidate candidate
      return candidate) := by
  have length : (nonce.toList ++ encrypted).length = encrypted.length + 12 := by
    simp only [List.length_append, Vector.length_toList]
    omega
  have valid := @CandidateStagingEnvelope.validate_ofStored _ identity (nonce.toList ++ encrypted)
    (by omega) (by omega)
  have stored : (CandidateStagingEnvelope.ofStored identity
      (nonce.toList ++ encrypted)).storedBytes = .ok (nonce.toList ++ encrypted) := by
    have text : (CandidateStagingEnvelope.ofStored identity
        (nonce.toList ++ encrypted)).ciphertext = encodeBase64Url (nonce.toList ++ encrypted) := rfl
    rw [CandidateStagingEnvelope.storedBytes, valid, ok_bind, text]
    exact decodeBase64UrlBytes_eq_ok.mpr rfl
  have aad : (CandidateStagingEnvelope.ofStored identity (nonce.toList ++ encrypted)).aad =
      .ok associatedData := by
    have every : identity.validate = .ok () := rfl
    rw [CandidateStagingEnvelope.aad, CandidateStagingEnvelope.ofStored]
    dsimp only
    rw [every, ok_bind, authenticated]
  rw [openCandidateStaging, valid, ok_bind, stored, ok_bind, aad, ok_bind,
    openAuthenticatedRecord_append key nonce encrypted associatedData least]
  rfl

/-- The ciphertext opens with no associated data but the one it was sealed with. -/
def Authentic (key : SecretKey) (nonce : Nonce) (plaintext associatedData other : Bytes) : Prop :=
  ∀ encrypted, Primitives.aesGcmEncrypt key nonce plaintext associatedData = some encrypted →
    other ≠ associatedData → Primitives.aesGcmDecrypt key nonce encrypted other = none

section Sealed

variable (correct : AeadCorrect) {key : SecretKey} {nonce : Nonce} {candidate : Candidate}
  {identity : CandidateStagingIdentity} {envelope : CandidateStagingEnvelope}
  (sealed : sealCandidateStaging key nonce candidate identity = .ok envelope)

include correct sealed

/-- The parts of a sealed envelope. -/
theorem exists_parts_of_seal : ∃ plaintext associatedData encrypted,
    forCandidate candidate identity.expiresAt = .ok identity ∧
    Canonical.bytes candidate = .ok plaintext ∧ plaintext.length ≤ maxCandidateBytes ∧
    Canonical.bytes identity = .ok associatedData ∧
    Primitives.aesGcmEncrypt key nonce plaintext associatedData = some encrypted ∧
    encrypted.length = plaintext.length + 16 ∧
    envelope = .ofStored identity (nonce.toList ++ encrypted) := by
  obtain ⟨derived, plaintext, associatedData, encrypted, written, fits, authenticated, done, made⟩ :=
    sealCandidateStaging_eq_ok.mp sealed
  obtain ⟨_, _, rfl⟩ := CandidateStagingEnvelope.new_eq_ok.mp made
  exact ⟨plaintext, associatedData, encrypted, derived, written, fits, authenticated, done,
    (correct _ _ _ _ _ done).2, rfl⟩

/-- A sealed candidate is opened with the key it was sealed with. -/
theorem openCandidateStaging_of_seal :
    envelope.validate = .ok () ∧ openCandidateStaging key envelope = .ok candidate := by
  obtain ⟨plaintext, associatedData, encrypted, derived, written, fits, authenticated, done, length,
    rfl⟩ := exists_parts_of_seal correct sealed
  have opened := (correct _ _ _ _ _ done).1
  have read := Canonical.parseStrict_bytes written
  have bound : plaintext.length ≤ 1048576 := fits
  constructor
  · apply CandidateStagingEnvelope.validate_ofStored
    · simp only [List.length_append, Vector.length_toList]
      omega
    · simp only [List.length_append, Vector.length_toList, maxStagedCandidateBytes]
      omega
  · rw [openCandidateStaging_ofStored key nonce (by omega) (by rw [maxStagedCandidateBytes]; omega)
      authenticated, opened]
    show (do
      rejectIf (plaintext.length > maxCandidateBytes) stagingLimit
      let candidate ← Canonical.parseStrict Candidate plaintext
      candidate.validate
      identity.matchesCandidate candidate
      return candidate) = _
    rw [rejectIf_of_not _ (Nat.not_lt.mpr fits), ok_bind, read, ok_bind,
      (valid_of_forCandidate derived).1, ok_bind, matchesCandidate_eq_ok.mpr derived]
    rfl

/-- A sealed envelope whose identity was changed is not opened. -/
theorem openCandidateStaging_of_changed {other : CandidateStagingIdentity}
    (changed : other ≠ identity)
    (authentic : ∀ plaintext associatedData changedData, Canonical.bytes candidate = .ok plaintext →
      Canonical.bytes identity = .ok associatedData → Canonical.bytes other = .ok changedData →
      Authentic key nonce plaintext associatedData changedData) :
    openCandidateStaging key { envelope with identity := other } = .error decryptionError := by
  obtain ⟨plaintext, associatedData, encrypted, _, written, fits, authenticated, done, length,
    rfl⟩ := exists_parts_of_seal correct sealed
  have changedData := Canonical.bytes_of_exact other.exact
  have differs : Canonical.text other ≠ associatedData := by
    intro same
    rw [same] at changedData
    exact changed (Canonical.bytes_injective changedData authenticated)
  have refused := authentic _ _ _ written authenticated changedData encrypted done differs
  have same : { CandidateStagingEnvelope.ofStored identity (nonce.toList ++ encrypted) with
      identity := other } = CandidateStagingEnvelope.ofStored other (nonce.toList ++ encrypted) := rfl
  have bound : plaintext.length ≤ 1048576 := fits
  rw [same, openCandidateStaging_ofStored key nonce (by omega)
    (by rw [maxStagedCandidateBytes]; omega) changedData, refused]
  rfl

end Sealed

/-! ## The stored limit -/

/-- The cipher encrypts every message and associated data of at most 64 GiB. -/
def AeadTotal : Prop :=
  ∀ (key : SecretKey) (nonce : Nonce) (message associatedData : Bytes),
    message.length ≤ 2 ^ 36 → associatedData.length ≤ 2 ^ 36 →
      (Primitives.aesGcmEncrypt key nonce message associatedData).isSome

omit [Primitives] in
/-- The canonical bytes of an identity are few. -/
theorem CandidateStagingIdentity.length_text_le (identity : CandidateStagingIdentity) :
    (Canonical.text identity).length ≤ 2 ^ 36 := by
  have capture := identity.captureId.size_le
  have organization := identity.organizationId.size_le
  have project := identity.projectId.size_le
  have service := identity.serviceId.size_le
  have expires := identity.expiresAt.size_le
  have mode := Json.stringSize_le_length identity.processingMode.name
  have modeName : identity.processingMode.name.toList.length ≤ 7 := by
    cases identity.processingMode <;> decide
  have size : (Document.codec : Codec CandidateStagingIdentity).size identity =
      CandidateStagingIdentity.codec.size identity := rfl
  have names : Json.stringSize "capture_id" ≤ 100 ∧ Json.stringSize "deployment_digest" ≤ 100 ∧
      Json.stringSize "expires_at" ≤ 100 ∧ Json.stringSize "failure_storm_digest" ≤ 100 ∧
      Json.stringSize "format" ≤ 100 ∧
      Json.stringSize "reproit.candidate-staging-identity.v1" ≤ 100 ∧
      Json.stringSize "organization_id" ≤ 100 ∧ Json.stringSize "processing_mode" ≤ 100 ∧
      Json.stringSize "project_id" ≤ 100 ∧ Json.stringSize "provider_lease_digest" ≤ 100 ∧
      Json.stringSize "request_digest" ≤ 100 ∧ Json.stringSize "service_id" ≤ 100 ∧
      Json.stringSize "world_id" ≤ 100 := by decide
  rw [Canonical.length_text, size]
  simp only [codec, Digest.codec, Format.codec, ProcessingMode.codec, Codec.size_record,
    Codec.size_text, Codec.size_enumeration, Fields.size_required, Fields.size_done,
    Digest.stringSize_toText]
  omega

/-- A candidate is sealed exactly when its canonical bytes fit the limit, and is then stored
in twenty-eight bytes more. -/
theorem sealCandidateStaging_of_size (correct : AeadCorrect) (total : AeadTotal) (key : SecretKey)
    (nonce : Nonce) {candidate : Candidate} {identity : CandidateStagingIdentity}
    {plaintext : Bytes} (derived : forCandidate candidate identity.expiresAt = .ok identity)
    (written : Canonical.bytes candidate = .ok plaintext) :
    (plaintext.length ≤ maxCandidateBytes →
      ∃ envelope, sealCandidateStaging key nonce candidate identity = .ok envelope ∧
        envelope.cipherSize.toNat = plaintext.length + 28) ∧
    (maxCandidateBytes < plaintext.length →
      sealCandidateStaging key nonce candidate identity = .error stagingLimit) := by
  constructor
  · intro fits
    have bound : plaintext.length ≤ 1048576 := fits
    obtain ⟨encrypted, done⟩ := Option.isSome_iff_exists.mp
      (total key nonce plaintext (Canonical.text identity) (by omega) identity.length_text_le)
    have tag := (correct _ _ _ _ _ done).2
    have length : (nonce.toList ++ encrypted).length = plaintext.length + 28 := by
      simp only [List.length_append, Vector.length_toList]
      omega
    refine ⟨.ofStored identity (nonce.toList ++ encrypted), sealCandidateStaging_eq_ok.mpr
      ⟨derived, plaintext, _, encrypted, written, fits, Canonical.bytes_of_exact identity.exact, done,
        CandidateStagingEnvelope.new_eq_ok.mpr ⟨?_, ?_, rfl⟩⟩, ?_⟩
    · omega
    · rw [maxStagedCandidateBytes]
      omega
    · rw [CandidateStagingEnvelope.ofStored, UInt64.toNat_ofNat', length]
      omega
  · intro long
    rw [sealCandidateStaging, matchesCandidate_eq_ok.mpr derived, ok_bind, written, ok_bind,
      rejectIf_of _ long]
    rfl

/-- What opening an envelope establishes, whoever made it. -/
theorem forCandidate_of_open {key : SecretKey} {envelope : CandidateStagingEnvelope}
    {candidate : Candidate} (opened : openCandidateStaging key envelope = .ok candidate) :
    forCandidate candidate envelope.identity.expiresAt = .ok envelope.identity := by
  simp only [openCandidateStaging, bind_eq_ok, pure_eq_ok] at opened
  obtain ⟨_, _, _, _, _, _, _, _, _, _, found, _, _, _, _, matched, rfl⟩ := opened
  exact matchesCandidate_eq_ok.mp matched

end Reproit
