/-
# The lengths of base 64 texts

A base 64 text and its bytes determine each other, and so do their lengths.  The checks
on the length of a text are therefore checks on the number of bytes: of the nonce of an
upload, of the reference to a key and of the payload of a record.
-/

import Mathlib.Algebra.Order.Floor.Div
import Mathlib.GroupTheory.GroupAction.Ring
import Reproit.Core.Model.Candidate
import Reproit.Core.Model.ManagedCandidate

namespace Reproit

/-- Four digits for three bytes, and as few as possible for the rest. -/
theorem length_of_decodeBase64UrlBytes {text : String} {bytes : Bytes}
    (read : decodeBase64UrlBytes text = .ok bytes) :
    text.utf8ByteSize = 4 * bytes.length ⌈/⌉ 3 := by
  rw [decodeBase64UrlBytes_eq_ok.mp read, utf8ByteSize_encodeBase64Url,
    Nat.ceilDiv_eq_add_pred_div, Nat.mul_comm]
  rfl

theorem validBase64Url_encodeBase64Url (bytes : Bytes) :
    validBase64Url (encodeBase64Url bytes) = true := by
  rw [validBase64Url, encodeBase64Url, String.toList_ofList, List.all_eq_true]
  intro c member
  exact (isBase64UrlChar_of_mem_alphabet c (Base64.mem_alphabet_of_mem_encode member)).1

/-- Sixteen characters of the alphabet are the text of one nonce. -/
theorem nonceText_iff (text : String) :
    (text.utf8ByteSize = 16 ∧ validBase64Url text = true) ↔
      ∃ nonce : Vector UInt8 12, text = encodeBase64Url nonce.toList := by
  constructor
  · intro ⟨size, valid⟩
    obtain ⟨nonce, read⟩ := exists_decodeBase64Url size valid
    exact ⟨nonce, decodeBase64Url_eq_ok.mp read⟩
  · intro ⟨nonce, spelled⟩
    rw [spelled]
    refine ⟨?_, validBase64Url_encodeBase64Url _⟩
    rw [utf8ByteSize_encodeBase64Url, Vector.length_toList]

/-- The check of the length of a reference follows from its decoding. -/
theorem validateOpaqueReference_eq_ok (reference : String) :
    validateOpaqueReference reference = .ok () ↔
      ∃ bytes : Vector UInt8 32, reference = encodeBase64Url bytes.toList := by
  simp only [validateOpaqueReference, bind_eq_ok, rejectIf_eq_ok, decodeBase64Url_eq_ok,
    pure_eq_ok, not_not]
  constructor
  · rintro ⟨_, _, bytes, spelled, _⟩
    exact ⟨bytes, spelled⟩
  · rintro ⟨bytes, spelled⟩
    refine ⟨(), ?_, bytes, spelled, trivial⟩
    rw [spelled, utf8ByteSize_encodeBase64Url, Vector.length_toList]

/-- The bound on the text of a payload is the bound on its bytes. -/
theorem size_encodeBase64Url_le_iff (bytes : Bytes) :
    (encodeBase64Url bytes).utf8ByteSize ≤ 87382 ↔ bytes.length ≤ 65536 := by
  rw [utf8ByteSize_encodeBase64Url]
  omega

/-- A payload is rejected for its bytes only: the bound on its text decides nothing. -/
theorem canonicalPayload_eq_ok (record : EventRecord) (bytes : Bytes) :
    canonicalPayload record = .ok bytes ↔
      record.payload = encodeBase64Url bytes ∧ bytes.length ≤ 65536 ∧
        ∃ value, Canonical.parseStrictValue bytes = .ok value ∧
          Canonical.valueBytes value = .ok bytes := by
  simp only [canonicalPayload, bind_eq_ok, rejectIf_eq_ok, decodeBase64UrlBytes_eq_ok,
    pure_eq_ok, not_not, gt_iff_lt, not_lt]
  constructor
  · rintro ⟨_, _, held, spelled, _, short, value, parsed, written, rendered, _, rfl, rfl⟩
    exact ⟨spelled, short, value, parsed, rendered⟩
  · rintro ⟨spelled, short, value, parsed, rendered⟩
    have fits := (size_encodeBase64Url_le_iff bytes).mpr short
    exact ⟨(), spelled ▸ fits, bytes, spelled, (), short, value, parsed, bytes, rendered, (),
      rfl, rfl⟩

/-- The nonce of an upload that is checked is twelve bytes. -/
theorem UploadObject.validate_eq_ok (object : UploadObject) :
    object.validate = .ok () ↔
      (minCipherSize ≤ object.cipherSize.toNat ∧ object.cipherSize.toNat ≤ maxCipherSize) ∧
        ∃ nonce : Vector UInt8 12, object.nonce = encodeBase64Url nonce.toList := by
  rw [UploadObject.validate, rejectIf_eq_ok, ← nonceText_iff]
  simp only [not_or, not_not, ne_eq]

/-- Base 64 texts and byte strings correspond, with their lengths. -/
theorem base64Url_correspondence :
    (∀ (text : String) (bytes : Bytes),
      decodeBase64UrlBytes text = .ok bytes ↔ text = encodeBase64Url bytes) ∧
    (∀ (first second : String) (bytes : Bytes), decodeBase64UrlBytes first = .ok bytes →
      decodeBase64UrlBytes second = .ok bytes → first = second) ∧
    (∀ (text : String) (bytes : Bytes), decodeBase64UrlBytes text = .ok bytes →
      text.utf8ByteSize = 4 * bytes.length ⌈/⌉ 3 ∧
        (text.utf8ByteSize ≤ 87382 ↔ bytes.length ≤ 65536)) ∧
    (∀ object : UploadObject, object.validate = .ok () ↔
      (minCipherSize ≤ object.cipherSize.toNat ∧ object.cipherSize.toNat ≤ maxCipherSize) ∧
        ∃ nonce : Vector UInt8 12, object.nonce = encodeBase64Url nonce.toList) ∧
    (∀ reference : String, validateOpaqueReference reference = .ok () ↔
      ∃ bytes : Vector UInt8 32, reference = encodeBase64Url bytes.toList) ∧
    ∀ (record : EventRecord) (bytes : Bytes), canonicalPayload record = .ok bytes ↔
      record.payload = encodeBase64Url bytes ∧ bytes.length ≤ 65536 ∧
        ∃ value, Canonical.parseStrictValue bytes = .ok value ∧
          Canonical.valueBytes value = .ok bytes := by
  refine ⟨fun text bytes => decodeBase64UrlBytes_eq_ok, ?_, ?_, UploadObject.validate_eq_ok,
    validateOpaqueReference_eq_ok, canonicalPayload_eq_ok⟩
  · intro first second bytes readFirst readSecond
    rw [decodeBase64UrlBytes_eq_ok.mp readFirst, decodeBase64UrlBytes_eq_ok.mp readSecond]
  · intro text bytes read
    refine ⟨length_of_decodeBase64UrlBytes read, ?_⟩
    rw [decodeBase64UrlBytes_eq_ok.mp read]
    exact size_encodeBase64Url_le_iff bytes

/-- Three zero bytes are four digits. -/
theorem base64Url_correspondence_zeros :
    decodeBase64UrlBytes "AAAA" = .ok [0, 0, 0] ∧
      "AAAA".utf8ByteSize = 4 * [(0 : UInt8), 0, 0].length ⌈/⌉ 3 := by
  have spelled : "AAAA" = encodeBase64Url [0, 0, 0] := by decide
  have read := (base64Url_correspondence.1 "AAAA" [0, 0, 0]).mpr spelled
  exact ⟨read, (base64Url_correspondence.2.2.1 _ _ read).1⟩

end Reproit
