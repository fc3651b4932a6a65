/-
# Base 64 texts of byte strings

The texts that carry nonces, signatures and payloads.  A text is accepted only when
it is the one spelling of its bytes, so accepted texts and byte strings correspond.
-/

import Reproit.Data.Base64
import Reproit.Data.DocumentSize
import Reproit.Core.Primitives

namespace Reproit

def isBase64UrlChar (c : Char) : Bool := c.isAlphanum || c = '_' || c = '-'

def encodeBase64Url (bytes : Bytes) : String := String.ofList (Base64.encode bytes)

def decodeBase64UrlBytes (value : String) : Result Bytes := do
  rejectIf ('=' ∈ value.toList ∨ ¬ value.toList.all isBase64UrlChar) .schemaInvalid
  let bytes ← okOr (Base64.decode value.toList) .schemaInvalid
  rejectIf (encodeBase64Url bytes ≠ value) .schemaInvalid
  return bytes

/-- Decode a text of a fixed number of bytes. -/
def decodeBase64Url (size : Nat) (value : String) : Result (Vector UInt8 size) := do
  let bytes ← decodeBase64UrlBytes value
  if fits : bytes.length = size then .ok ⟨bytes.toArray, fits⟩ else .error .schemaInvalid

theorem isBase64UrlChar_of_mem_alphabet :
    ∀ c ∈ Base64.alphabet, isBase64UrlChar c = true ∧ c ≠ '=' := by
  have every : Base64.alphabet.all (fun c => isBase64UrlChar c && decide (c ≠ '=')) = true := by
    decide +kernel
  intro c member
  simpa using List.all_eq_true.mp every c member

theorem toNat_lt_of_isBase64UrlChar {c : Char} (valid : isBase64UrlChar c = true) :
    c.toNat < 128 := by
  have upper : c.isUpper = decide ('A'.val ≤ c.val ∧ c.val ≤ 'Z'.val) := rfl
  have lower : c.isLower = (decide ('a'.val ≤ c.val) && decide (c.val ≤ 'z'.val)) := rfl
  have letter : c.isAlpha = (c.isUpper || c.isLower) := rfl
  simp only [isBase64UrlChar, Char.isAlphanum, letter, upper, lower, Char.isDigit,
    Bool.or_eq_true, Bool.and_eq_true, decide_eq_true_eq, UInt32.le_iff_toNat_le] at valid
  have value : c.toNat = c.val.toNat := rfl
  have last : 'Z'.val.toNat = 90 ∧ 'z'.val.toNat = 122 ∧ '9'.val.toNat = 57 := ⟨rfl, rfl, rfl⟩
  rcases valid with (letter | rfl) | rfl
  · omega
  · decide
  · decide

set_option maxRecDepth 4000 in
theorem mem_alphabet_of_code : ∀ code < 128, isBase64UrlChar (Char.ofNat code) = true →
    Char.ofNat code ∈ Base64.alphabet := by
  decide

/-- Every letter, every figure, the line and the dash are digits. -/
theorem mem_alphabet_of_isBase64UrlChar {c : Char} (valid : isBase64UrlChar c = true) :
    c ∈ Base64.alphabet := by
  have spelled := mem_alphabet_of_code c.toNat (toNat_lt_of_isBase64UrlChar valid)
  rw [Char.ofNat_toNat] at spelled
  exact spelled valid

/-- The number of characters of a number of bytes. -/
theorem utf8ByteSize_encodeBase64Url (bytes : Bytes) :
    (encodeBase64Url bytes).utf8ByteSize = (bytes.length * 4 + 2) / 3 := by
  have every : Base64.alphabet.all (fun c => c.toNat < 128) = true := by decide +kernel
  have ascii : ∀ c ∈ Base64.alphabet, c.toNat < 128 := fun c member =>
    of_decide_eq_true (List.all_eq_true.mp every c member)
  rw [encodeBase64Url, Json.utf8ByteSize_ofList, Json.length_textBytes_of_ascii,
    Base64.length_encode]
  exact fun c member => ascii c (Base64.mem_alphabet_of_mem_encode member)

/-- A text is decoded exactly when it is the text of its bytes. -/
theorem decodeBase64UrlBytes_eq_ok {value : String} {bytes : Bytes} :
    decodeBase64UrlBytes value = .ok bytes ↔ value = encodeBase64Url bytes := by
  simp only [decodeBase64UrlBytes, bind_eq_ok, rejectIf_eq_ok, okOr_eq_ok, pure_eq_ok, not_not]
  constructor
  · rintro ⟨_, _, _, _, _, spelled, rfl⟩
    exact spelled.symm
  · rintro rfl
    have all : ∀ c ∈ Base64.encode bytes, isBase64UrlChar c = true ∧ c ≠ '=' := fun c member =>
      isBase64UrlChar_of_mem_alphabet c (Base64.mem_alphabet_of_mem_encode member)
    refine ⟨(), ?_, bytes, ?_, (), rfl, rfl⟩
    · rw [encodeBase64Url, String.toList_ofList, not_or, not_not, List.all_eq_true]
      exact ⟨fun member => (all _ member).2 rfl, fun c member => (all c member).1⟩
    · rw [encodeBase64Url, String.toList_ofList, Base64.decode_encode]

theorem encodeBase64Url_injective : Function.Injective encodeBase64Url := by
  intro first second same
  have read := decodeBase64UrlBytes_eq_ok.mpr (rfl : encodeBase64Url first = _)
  rw [same, decodeBase64UrlBytes_eq_ok.mpr rfl] at read
  exact (Except.ok.inj read).symm

theorem decodeBase64Url_eq_ok {size : Nat} {value : String} {bytes : Vector UInt8 size} :
    decodeBase64Url size value = .ok bytes ↔ value = encodeBase64Url bytes.toList := by
  simp only [decodeBase64Url, bind_eq_ok, decodeBase64UrlBytes_eq_ok]
  constructor
  · rintro ⟨held, rfl, fitted⟩
    split at fitted
    · obtain rfl := Except.ok.inj fitted
      rfl
    · cases fitted
  · rintro rfl
    refine ⟨bytes.toList, rfl, ?_⟩
    rw [dif_pos (by simp)]
    congr 1

/-- Sixteen digits are always twelve bytes. -/
theorem exists_decodeBase64Url {value : String} (size : value.utf8ByteSize = 16)
    (valid : value.toList.all isBase64UrlChar = true) :
    ∃ bytes : Vector UInt8 12, decodeBase64Url 12 value = .ok bytes := by
  have digits : ∀ c ∈ value.toList, c ∈ Base64.alphabet := fun c listed =>
    mem_alphabet_of_isBase64UrlChar (List.all_eq_true.mp valid c listed)
  have length : value.toList.length = 4 * 4 := by
    rw [← Json.length_textBytes_of_ascii fun c listed =>
        toNat_lt_of_isBase64UrlChar (List.all_eq_true.mp valid c listed),
      ← Json.utf8ByteSize_ofList, String.ofList_toList, size]
  obtain ⟨bytes, read, count⟩ := Base64.exists_decode digits length
  refine ⟨⟨bytes.toArray, count⟩, decodeBase64Url_eq_ok.mpr ?_⟩
  rw [encodeBase64Url, Vector.toList_mk, Base64.encode_of_decode read, String.ofList_toList]

/-- A text decodes to one array of bytes at most. -/
theorem decodeBase64Url_injective {size : Nat} {first second : String}
    {bytes : Vector UInt8 size} (hfirst : decodeBase64Url size first = .ok bytes)
    (hsecond : decodeBase64Url size second = .ok bytes) : first = second := by
  rw [decodeBase64Url_eq_ok.mp hfirst, decodeBase64Url_eq_ok.mp hsecond]

end Reproit
