/-
# Signed documents

A signed document carries its signature as a text, and the signature covers the canonical
bytes of the document with that text emptied.  A document of a format names it.  The
covered bytes are read back as one document, so they tell its format and, within one type,
everything but the signature.
-/

import Reproit.Core.Crypto

namespace Reproit

theorem Codec.encode_string (text : String) : Codec.string.encode text = .string text := rfl

theorem Format.encode_codec {name : String} (marker : Format name) :
    (Format.codec name).encode marker = .string name := rfl

section

variable {α : Type} [Document α] {β : Type} {fields : Fields β}

/-- A text member of a record is found in its document. -/
theorem memberText_encode {value : α} {parts : β} {key text : String}
    (written : Document.encode value = .object (sortMembers (fields.encode parts)))
    (member : (key, .string text) ∈ fields.encode parts) :
    memberText key (Document.encode value) = some text := by
  have plain : Json.Plain (Document.encode value) := Document.codec.plain value
  have perm := sortMembers_perm (fields.encode parts)
  rw [written] at plain ⊢
  apply memberText_sortMembers _ member
  exact (perm.map Prod.fst).nodup_iff.mp (plain.1.imp fun lt => ne_of_lt lt)

/-- A record has no text of a member that it does not name. -/
theorem memberText_encode_eq_none {value : α} {parts : β} {key : String}
    (written : Document.encode value = .object (sortMembers (fields.encode parts)))
    (missing : key ∉ fields.names) : memberText key (Document.encode value) = none := by
  rw [written]
  exact memberText_sortMembers_eq_none fun member =>
    missing (fields.keys_encode_subset parts key member)

/-- A document is cleared as the record with the cleared parts. -/
theorem clearSignature_of_rewrites {first second : α} {parts others : β}
    (hfirst : Document.encode first = .object (sortMembers (fields.encode parts)))
    (hsecond : Document.encode second = .object (sortMembers (fields.encode others)))
    (same : fields.Rewrites clearMember parts others) :
    clearSignature (Document.encode first) = Document.encode second := by
  rw [hfirst, hsecond]
  exact clearSignature_sortMembers (Fields.map_encode_of_rewrites same)

end

/-- A document with a signature, which names its format or names none. -/
class SignedDocument (α : Type) extends Document α where
  signature : α → String
  withSignature : α → String → α
  signature_withSignature : ∀ (value : α) (text : String),
    signature (withSignature value text) = text
  withSignature_signature : ∀ value : α, withSignature value (signature value) = value
  withSignature_withSignature : ∀ (value : α) (text other : String),
    withSignature (withSignature value text) other = withSignature value other
  format : Option String
  signature_encode : ∀ value : α,
    memberText "signature" (Document.encode value) = some (signature value)
  clear_encode : ∀ value : α,
    clearSignature (Document.encode value) = Document.encode (withSignature value "")
  format_encode : ∀ value : α, memberText "format" (Document.encode value) = format

namespace SignedDocument

variable {α β : Type} [SignedDocument α] [SignedDocument β]

/-- The bytes that the signature of a document covers. -/
def signedBytes (value : α) : Result Bytes :=
  Canonical.valueBytes (clearSignature (Document.encode value))

theorem signedBytes_eq (value : α) :
    signedBytes value = Canonical.bytes (withSignature value "") := by
  rw [signedBytes, clear_encode]
  rfl

/-- The covered bytes are read back as the document without its signature. -/
theorem parseStrictValue_signedBytes {value : α} {covered : Bytes}
    (canonical : signedBytes value = .ok covered) :
    Canonical.parseStrictValue covered = .ok (Document.encode (withSignature value "")) := by
  rw [signedBytes_eq] at canonical
  obtain ⟨exact, rfl⟩ := Canonical.bytes_eq_ok.mp canonical
  rw [Canonical.parseStrictValue_textBytes, if_pos exact]

/-- Documents of different formats are never covered by the same bytes. -/
theorem format_eq_of_signedBytes {first : α} {second : β} {covered : Bytes}
    (hfirst : signedBytes first = .ok covered) (hsecond : signedBytes second = .ok covered) :
    format α = format β := by
  have readFirst := parseStrictValue_signedBytes hfirst
  have readSecond := parseStrictValue_signedBytes hsecond
  have same := Except.ok.inj (readFirst.symm.trans readSecond)
  calc format α
      = memberText "format" (Document.encode (withSignature first "")) :=
        (format_encode _).symm
    _ = memberText "format" (Document.encode (withSignature second "")) := by rw [same]
    _ = format β := format_encode _

/-- Documents of one type with the same covered bytes differ in the signature only. -/
theorem withSignature_eq_of_signedBytes {first second : α} {covered : Bytes}
    (hfirst : signedBytes first = .ok covered) (hsecond : signedBytes second = .ok covered) :
    withSignature first (signature second) = second := by
  rw [signedBytes_eq] at hfirst hsecond
  have same := Canonical.bytes_injective hfirst hsecond
  calc withSignature first (signature second)
      = withSignature (withSignature first "") (signature second) :=
        (withSignature_withSignature _ _ _).symm
    _ = withSignature (withSignature second "") (signature second) := by rw [same]
    _ = withSignature second (signature second) := withSignature_withSignature _ _ _
    _ = second := withSignature_signature _

variable [Primitives]

/-- A document verifies when its signature is one of its covered bytes. -/
theorem verifySignedValue_eq_ok {value : α} {publicKey : SecretKey} :
    verifySignedValue (Document.encode value) publicKey = .ok () ↔
      ∃ signature covered, decodeBase64Url 64 (SignedDocument.signature value) = .ok signature ∧
        Primitives.ed25519PublicKey publicKey ∧ signedBytes value = .ok covered ∧
          Primitives.ed25519Verify publicKey covered signature := by
  simp only [verifySignedValue, signatureText_eq, signature_encode, bind_eq_ok, okOr_eq_ok, rejectIf_eq_ok,
    not_not, Option.some.injEq]
  constructor
  · rintro ⟨_, same, signature, decoded, _, key, covered, canonical, verifies⟩
    exact ⟨signature, covered, same ▸ decoded, key, canonical, verifies⟩
  · rintro ⟨signature, covered, decoded, key, canonical, verifies⟩
    exact ⟨_, rfl, signature, decoded, (), key, covered, canonical, verifies⟩

end SignedDocument

end Reproit
