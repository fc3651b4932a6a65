/-
# Keys, chunks and signatures

An object key is derived from the occurrence key and the context of the object, a
chunk key from the object key and the context of the chunk.  A stored chunk is its
nonce, its ciphertext and its tag, with the chunk context as associated data.  A
signature covers the canonical document whose signature member is empty.
-/

import Reproit.Core.Model.Batch

namespace Reproit

variable [Primitives]

def decryptionError : Error :=
  .new .decryptionAuthentication "Ciphertext authentication failed."

def attestationError : Error :=
  .new .attestationScope "The signature is invalid for this attestation."

/-! ## Nonces -/

/-- The nonces that one occurrence has used. -/
structure NonceRegistry where
  used : List Nonce

def NonceRegistry.register (registry : NonceRegistry) (nonce : Nonce) : Result NonceRegistry := do
  rejectIf (nonce ∈ registry.used) nonceReuse
  return ⟨nonce :: registry.used⟩

/-- The nonce in front of a stored chunk. -/
def storedNonce (stored : Bytes) : Option Nonce :=
  if fits : (stored.take 12).length = 12 then some ⟨(stored.take 12).toArray, fits⟩ else none

omit [Primitives] in
theorem storedNonce_append (nonce : Nonce) (rest : Bytes) :
    storedNonce (nonce.toList ++ rest) = some nonce := by
  have front : (nonce.toList ++ rest).take 12 = nonce.toList := by
    rw [List.take_left' (by simp)]
  simp only [storedNonce, front]
  rw [dif_pos (by simp)]
  congr 1

omit [Primitives] in
theorem storedNonce_eq_some {stored : Bytes} {nonce : Nonce} :
    storedNonce stored = some nonce ↔ stored.take 12 = nonce.toList := by
  unfold storedNonce
  constructor
  · intro read
    split_ifs at read with fits
    obtain rfl := Option.some.inj read
    rfl
  · intro front
    rw [dif_pos (by rw [front]; simp)]
    congr 1
    rw [← Vector.toArray_inj, ← Array.toList_inj]
    exact front

/-! ## Keys -/

def deriveObjectKey (occurrenceKey : SecretKey) (captureId : CaptureId)
    (objectContext : ObjectKeyContext) : Result SecretKey := do
  objectContext.validate
  rejectIf (captureId ≠ objectContext.captureId) .schemaInvalid
  let context ← Canonical.bytes objectContext
  return Primitives.hkdfExpand (Primitives.hkdfExtract captureId.uuidBytes occurrenceKey) context

def deriveChunkKey (objectKey : SecretKey) (chunkContext : ChunkKeyContext) :
    Result SecretKey := do
  chunkContext.validate
  let context ← Canonical.bytes chunkContext
  return Primitives.hkdfExpand objectKey context

/-! ## Chunks -/

/-- The greatest plaintext size of a chunk. -/
def chunkBytes : Nat := 8388608

def encryptChunk (chunkKey : SecretKey) (nonce : Nonce) (plaintext : Bytes)
    (chunkContext : ChunkKeyContext) : Result Bytes := do
  chunkContext.validate
  rejectIf (plaintext.length > chunkBytes ∨ chunkContext.plainSize.toNat ≠ plaintext.length)
    .schemaInvalid
  let aad ← Canonical.bytes chunkContext
  let encrypted ← okOr (Primitives.aesGcmEncrypt chunkKey nonce plaintext aad) decryptionError
  return nonce.toList ++ encrypted

def decryptChunk (chunkKey : SecretKey) (stored : Bytes) (chunkContext : ChunkKeyContext) :
    Result Bytes := do
  chunkContext.validate
  rejectIf (¬ (minCipherSize ≤ stored.length ∧ stored.length ≤ maxCipherSize)) decryptionError
  rejectIf (chunkContext.plainSize.toNat + minCipherSize ≠ stored.length) decryptionError
  let nonce ← okOr (storedNonce stored) decryptionError
  let aad ← Canonical.bytes chunkContext
  okOr (Primitives.aesGcmDecrypt chunkKey nonce (stored.drop 12) aad) decryptionError

def ciphertextDigest (stored : Bytes) : Digest := Digest.of stored

/-! ## Signatures -/

def failureFingerprint (groupingKey : SecretKey) (grouping : FailureGrouping) :
    Result String := do
  let bytes ← Canonical.bytes grouping
  return String.ofList (fingerprintTag ++
    Radix.hexText 64 (Primitives.hmacSha256 groupingKey bytes).number)

/-- The text of the signature member of a document. -/
def signatureText : Json.Value → Option String
  | .object members =>
      match members.lookup "signature" with
      | some (.string text) => some text
      | _ => none
  | _ => none

/-- The text of one member of a document. -/
def memberText (key : String) : Json.Value → Option String
  | .object members =>
      match members.lookup key with
      | some (.string text) => some text
      | _ => none
  | _ => none

def clearMember (member : String × Json.Value) : String × Json.Value :=
  if member.1 = "signature" then (member.1, .string "") else member

/-- The document with an empty signature member. -/
def clearSignature : Json.Value → Json.Value
  | .object members => .object (members.map clearMember)
  | value => value

def verifySignedValue (value : Json.Value) (publicKey : SecretKey) : Result Unit := do
  let text ← okOr (signatureText value) .schemaInvalid
  let signature ← decodeBase64Url 64 text
  rejectIf (¬ Primitives.ed25519PublicKey publicKey) attestationError
  let unsigned ← Canonical.valueBytes (clearSignature value)
  rejectIf (¬ Primitives.ed25519Verify publicKey unsigned signature) attestationError

/-! ## What the supplied functions promise -/

/-- Decryption inverts encryption, and a tag has sixteen bytes. -/
def AeadCorrect : Prop :=
  ∀ (key : SecretKey) (nonce : Nonce) (message aad encrypted : Bytes),
    Primitives.aesGcmEncrypt key nonce message aad = some encrypted →
      Primitives.aesGcmDecrypt key nonce encrypted aad = some message ∧
        encrypted.length = message.length + 16

/-! ## Chunks round trip -/

theorem encryptChunk_eq_ok {chunkKey : SecretKey} {nonce : Nonce} {plaintext stored : Bytes}
    {chunkContext : ChunkKeyContext} :
    encryptChunk chunkKey nonce plaintext chunkContext = .ok stored ↔
      chunkContext.validate = .ok () ∧ plaintext.length ≤ chunkBytes ∧
        chunkContext.plainSize.toNat = plaintext.length ∧
        ∃ aad encrypted, Canonical.bytes chunkContext = .ok aad ∧
          Primitives.aesGcmEncrypt chunkKey nonce plaintext aad = some encrypted ∧
            stored = nonce.toList ++ encrypted := by
  simp only [encryptChunk, bind_eq_ok, rejectIf_eq_ok, okOr_eq_ok, pure_eq_ok, not_or, not_lt,
    not_not]
  constructor
  · rintro ⟨_, valid, _, ⟨bound, size⟩, aad, written, encrypted, sealed, rfl⟩
    exact ⟨valid, bound, size, aad, encrypted, written, sealed, rfl⟩
  · rintro ⟨valid, bound, size, aad, encrypted, written, sealed, rfl⟩
    exact ⟨(), valid, (), ⟨bound, size⟩, aad, written, encrypted, sealed, rfl⟩

theorem decryptChunk_eq_ok {chunkKey : SecretKey} {plaintext stored : Bytes}
    {chunkContext : ChunkKeyContext} :
    decryptChunk chunkKey stored chunkContext = .ok plaintext ↔
      chunkContext.validate = .ok () ∧
        (minCipherSize ≤ stored.length ∧ stored.length ≤ maxCipherSize) ∧
        chunkContext.plainSize.toNat + minCipherSize = stored.length ∧
        ∃ nonce aad, storedNonce stored = some nonce ∧ Canonical.bytes chunkContext = .ok aad ∧
          Primitives.aesGcmDecrypt chunkKey nonce (stored.drop 12) aad = some plaintext := by
  simp only [decryptChunk, bind_eq_ok, rejectIf_eq_ok, okOr_eq_ok, not_not]
  constructor
  · rintro ⟨_, valid, _, bounds, _, size, nonce, front, aad, written, opened⟩
    exact ⟨valid, bounds, size, nonce, aad, front, written, opened⟩
  · rintro ⟨valid, bounds, size, nonce, aad, front, written, opened⟩
    exact ⟨(), valid, (), bounds, (), size, nonce, front, aad, written, opened⟩

/-- A stored chunk has its nonce and tag beside its plaintext. -/
theorem length_of_encryptChunk (correct : AeadCorrect) {chunkKey : SecretKey} {nonce : Nonce}
    {plaintext stored : Bytes} {chunkContext : ChunkKeyContext}
    (sealed : encryptChunk chunkKey nonce plaintext chunkContext = .ok stored) :
    stored.length = plaintext.length + minCipherSize := by
  obtain ⟨-, -, -, aad, encrypted, -, wrote, rfl⟩ := encryptChunk_eq_ok.mp sealed
  have tag := (correct _ _ _ _ _ wrote).2
  simp only [List.length_append, Vector.length_toList, tag, minCipherSize]
  omega

/-- A stored chunk is opened with the key and context it was sealed with. -/
theorem decryptChunk_of_encryptChunk (correct : AeadCorrect) {chunkKey : SecretKey}
    {nonce : Nonce} {plaintext stored : Bytes} {chunkContext : ChunkKeyContext}
    (sealed : encryptChunk chunkKey nonce plaintext chunkContext = .ok stored) :
    decryptChunk chunkKey stored chunkContext = .ok plaintext := by
  have length := length_of_encryptChunk correct sealed
  obtain ⟨valid, bound, size, aad, encrypted, written, wrote, rfl⟩ := encryptChunk_eq_ok.mp sealed
  have behind : (nonce.toList ++ encrypted).drop 12 = encrypted := by
    rw [List.drop_left' (by simp)]
  refine decryptChunk_eq_ok.mpr ⟨valid, ?_, ?_, nonce, aad, storedNonce_append nonce encrypted,
    written, ?_⟩
  · rw [length]
    simp only [minCipherSize, maxCipherSize, chunkBytes] at bound ⊢
    omega
  · rw [size, length]
  · rw [behind]
    exact (correct _ _ _ _ _ wrote).1

/-! ## Signatures of typed documents -/

/-- Two field values whose written members differ by a rewriting of members. -/
def Fields.Rewrites (rewrite : String × Json.Value → String × Json.Value) :
    {β : Type} → Fields β → β → β → Prop
  | _, .done, _, _ => True
  | _, .field name codec _ _ skip _ rest, first, second =>
      skip first.1 = skip second.1 ∧
        rewrite (name, codec.encode first.1) = (name, codec.encode second.1) ∧
        rest.Rewrites rewrite first.2 second.2

omit [Primitives] in
@[simp]
theorem Fields.encode_required {α β : Type} (name : String) (codec : Codec α) (rest : Fields β)
    (value : α) (others : β) : (required name codec rest).encode (value, others) =
      (name, codec.encode value) :: rest.encode others := rfl

omit [Primitives] in
theorem Fields.mem_encode_field {α β : Type} {name : String} {codec : Codec α}
    {absent ended : Option α} {skip : α → Bool}
    {absentOfSkip : ∀ value, skip value = true → absent = some value} {rest : Fields β}
    {value : α × β} {member : String × Json.Value} :
    member ∈ (field name codec absent ended skip absentOfSkip rest).encode value ↔
      skip value.1 = false ∧ member = (name, codec.encode value.1) ∨
        member ∈ rest.encode value.2 := by
  by_cases gone : skip value.1
  · rw [encode, if_pos gone]
    simp [gone]
  · rw [encode, if_neg gone, List.mem_cons]
    simp [gone]

omit [Primitives] in
@[simp]
theorem Fields.rewrites_required {α β : Type} {rewrite : String × Json.Value → String × Json.Value}
    (name : String) (codec : Codec α) (rest : Fields β) (first second : α × β) :
    (required name codec rest).Rewrites rewrite first second ↔
      rewrite (name, codec.encode first.1) = (name, codec.encode second.1) ∧
        rest.Rewrites rewrite first.2 second.2 := by
  simp [required, Rewrites]

omit [Primitives] in
@[simp]
theorem Fields.rewrites_done {rewrite : String × Json.Value → String × Json.Value}
    (first second : Unit) : Fields.done.Rewrites rewrite first second := trivial

omit [Primitives] in
theorem Fields.map_encode_of_rewrites {β : Type}
    {rewrite : String × Json.Value → String × Json.Value} {fields : Fields β} {first second : β}
    (same : fields.Rewrites rewrite first second) :
    (fields.encode first).map rewrite = fields.encode second := by
  induction fields with
  | done => rfl
  | field name codec absent ended skip absentOfSkip rest ih =>
      obtain ⟨head, others⟩ := first
      obtain ⟨head', others'⟩ := second
      obtain ⟨skipped, rewritten, later⟩ := same
      by_cases gone : skip head
      · rw [encode, encode, if_pos gone, if_pos (skipped ▸ gone)]
        exact ih later
      · rw [encode, encode, if_neg gone, if_neg (skipped ▸ gone), List.map_cons, rewritten,
          ih later]

omit [Primitives] in
/-- Clearing the signature clears it among the members of a record. -/
theorem clearSignature_sortMembers {first second : List (String × Json.Value)}
    (same : first.map clearMember = second) :
    clearSignature (.object (sortMembers first)) = .object (sortMembers second) := by
  have key : ∀ member : String × Json.Value, (clearMember member).1 = member.1 := by
    intro member
    unfold clearMember
    split_ifs <;> rfl
  simp only [clearSignature, sortMembers]
  rw [List.map_insertionSort _ (fun first second => first.1 ≤ second.1) clearMember _
    (fun _ _ _ _ => by rw [key, key]), same]

omit [Primitives] in
theorem signatureText_eq (value : Json.Value) : signatureText value = memberText "signature" value :=
  rfl

omit [Primitives] in
/-- A text is found among the members of a record. -/
theorem memberText_sortMembers {key text : String} {members : List (String × Json.Value)}
    (distinct : (members.map Prod.fst).Nodup) (member : (key, .string text) ∈ members) :
    memberText key (.object (sortMembers members)) = some text := by
  have perm := sortMembers_perm members
  have found : (sortMembers members).lookup key = some (.string text) :=
    (lookup_eq_some_iff ((perm.map Prod.fst).nodup_iff.mpr distinct) _ _).mpr
      (perm.mem_iff.mpr member)
  simp only [memberText, found]

omit [Primitives] in
theorem memberText_sortMembers_eq_none {key : String} {members : List (String × Json.Value)}
    (missing : key ∉ members.map Prod.fst) :
    memberText key (.object (sortMembers members)) = none := by
  have found : (sortMembers members).lookup key = none :=
    lookup_eq_none_of_not_mem fun member =>
      missing (((sortMembers_perm members).map Prod.fst).mem_iff.mp member)
  simp only [memberText, found]

omit [Primitives] in
/-- The signature is found among the members of a record. -/
theorem signatureText_sortMembers {members : List (String × Json.Value)} {text : String}
    (distinct : (members.map Prod.fst).Nodup) (member : ("signature", .string text) ∈ members) :
    signatureText (.object (sortMembers members)) = some text := by
  rw [signatureText_eq]
  exact memberText_sortMembers distinct member

/-- A document is signed when the document without its signature is. -/
theorem verifySignedValue_of_cleared {α : Type} [Document α] {signed unsigned : α}
    {publicKey : SecretKey} {signature : Vector UInt8 64}
    (text : signatureText (Document.encode signed) = some (encodeBase64Url signature.toList))
    (cleared : clearSignature (Document.encode signed) = Document.encode unsigned)
    (exact : Document.Exact unsigned) (key : Primitives.ed25519PublicKey publicKey)
    (verifies : Primitives.ed25519Verify publicKey (Canonical.text unsigned) signature) :
    verifySignedValue (Document.encode signed) publicKey = .ok () := by
  have written : Canonical.valueBytes (Document.encode unsigned) = .ok (Canonical.text unsigned) :=
    Canonical.bytes_of_exact exact
  simp only [verifySignedValue, bind_eq_ok, okOr_eq_ok, rejectIf_eq_ok, not_not, cleared]
  exact ⟨_, text, signature, decodeBase64Url_eq_ok.mpr rfl, (), key, _, written, verifies⟩

end Reproit
