/-
# No nonce is used twice

The envelope lists the nonces as texts, and its validator compares the texts.  An accepted text
is the one spelling of twelve bytes, and the uploads of the envelope are the chunks of the
manifest in another order, so the nonces of a capture are different as bytes.
-/

import Reproit.Opening.RoundTrip

namespace Reproit

/-- An accepted upload names the bytes of its nonce. -/
theorem UploadObject.exists_nonce {object : UploadObject} (valid : object.validate = .ok ()) :
    ∃ nonce : Nonce, decodeBase64Url 12 object.nonce = .ok nonce := by
  rw [UploadObject.validate, rejectIf_eq_ok _ _ (), not_or, not_or, not_not, not_not] at valid
  exact exists_decodeBase64Url valid.2.1 (not_not.mp valid.2.2)

namespace Backend

variable [Primitives]

omit [Primitives] in
/-- The nonces of the manifest object and of every chunk are different. -/
def DistinctNonces (envelope : UploadEnvelope) (manifest : CaptureBatchManifest) : Prop :=
  ∃ (first : Nonce) (rest : List Nonce),
    decodeBase64Url 12 envelope.manifestObject.nonce = .ok first ∧
      List.Forall₂ (fun chunk nonce => decodeBase64Url 12 (EncryptedChunk.nonce chunk) = .ok nonce)
        (manifest.objects.flatMap EncryptedObject.chunks) rest ∧
      (first :: rest).Nodup

/-- What is bound to an accepted envelope has different nonces. -/
theorem ManifestBound.nonces_distinct {envelope : UploadEnvelope} {manifest : CaptureBatchManifest}
    (bound : ManifestBound envelope manifest) : DistinctNonces envelope manifest := by
  have identity := bound.valid.identity
  have texts : ((payloadUploads manifest).map UploadObject.nonce).Perm
      ((manifest.objects.flatMap EncryptedObject.chunks).map EncryptedChunk.nonce) :=
    perm_map_payloadUploads manifest fun _ => rfl
  have apart : (envelope.manifestObject.nonce :: (manifest.objects.flatMap
      EncryptedObject.chunks).map EncryptedChunk.nonce).Nodup := by
    have distinct : (envelope.manifestObject.nonce ::
        envelope.objects.map UploadObject.nonce).Nodup := identity.distinct
    rw [← bound.uploads] at distinct
    exact (texts.cons _).nodup_iff.mp distinct
  have decodes : ∃ first : Nonce, decodeBase64Url 12 envelope.manifestObject.nonce = .ok first :=
    UploadObject.exists_nonce identity.manifestObject
  obtain ⟨first, decoded⟩ := decodes
  have each : ∀ chunk ∈ manifest.objects.flatMap EncryptedObject.chunks, ∃ nonce : Nonce,
      decodeBase64Url 12 chunk.nonce = .ok nonce := by
    intro chunk listed
    have named := texts.mem_iff.mpr (List.mem_map_of_mem (f := EncryptedChunk.nonce) listed)
    rw [bound.uploads] at named
    obtain ⟨upload, among, same⟩ := List.mem_map.mp named
    rw [← same]
    exact UploadObject.exists_nonce (identity.objects upload among)
  obtain ⟨rest, paired⟩ := exists_pairing each
  refine ⟨first, rest, decoded, paired, List.Nodup.of_map nonceText ?_⟩
  have spelled : rest.map nonceText =
      (manifest.objects.flatMap EncryptedObject.chunks).map EncryptedChunk.nonce := by
    apply map_eq_of_pairing _ paired
    intro chunk nonce read
    exact (decodeBase64Url_eq_ok.mp read).symm
  rw [List.map_cons, spelled]
  rwa [decodeBase64Url_eq_ok.mp decoded] at apart

/-- No accepted capture uses a nonce twice, and none is sealed with a nonce that is used twice,
whatever the source of the nonces yields. -/
theorem distinctNonces :
    (∀ (envelope : UploadEnvelope) (verificationKey occurrenceKey : SecretKey) (stored : Bytes)
      (manifest : CaptureBatchManifest),
      openManifest envelope verificationKey occurrenceKey stored = .ok manifest →
        DistinctNonces envelope manifest) ∧
    ∀ (request : SealRequest) (source : NonceSource) (upload : SealedUpload),
      sealUpload request source = .ok upload →
        DistinctNonces upload.envelope upload.manifest := by
  constructor
  · intro envelope verificationKey occurrenceKey stored manifest opened
    exact (manifestBound_of_openManifest opened).nonces_distinct
  · intro request source upload ran
    obtain ⟨plaintext, descriptors, materials, last, seals⟩ := sealUpload_sealed ran
    exact seals.manifestBound.nonces_distinct

omit [Primitives] in
/-- The sample capture is sealed and its manifest is opened. -/
theorem distinctNonces_sample :
    letI := Sample.marked
    ∃ upload stored, sealUpload (Sample.sealRequest []) Sample.nonceSource = .ok upload ∧
      openManifest upload.envelope (Vector.replicate 32 0) (Sample.sealRequest []).occurrenceKey
        stored = .ok upload.manifest ∧
      DistinctNonces upload.envelope upload.manifest := by
  let _ := Sample.marked
  obtain ⟨upload, ran⟩ := @Sample.exists_sealUpload [] (Nat.zero_le _)
  obtain ⟨plaintext, descriptors, materials, last, seals⟩ := sealUpload_sealed ran
  obtain ⟨stored, -, opened⟩ := seals.openManifest Sample.encryptionWorks.correct
    (seals.verifies rfl Sample.signs)
  exact ⟨upload, stored, ran, opened, distinctNonces.1 _ _ _ _ _ opened⟩

end Backend

end Reproit
