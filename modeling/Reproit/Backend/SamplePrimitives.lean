/-
# Digests that tell small captures apart

A digest for the small captures that is easy to compute with.  It keeps the first
twelve bytes, which tell stored chunks apart by their nonces, and the size and the
integers of a document, which tell documents apart.
-/

import Reproit.Backend.Sample
import Reproit.Core.Crypto
import Reproit.Core.Exactness

namespace Reproit.Backend.Sample

/-- The first twelve bytes as one number. -/
def lead (bytes : Bytes) : Nat :=
  (bytes.take 12).foldl (fun number byte => number * 256 + byte.toNat) 0

/-- The sum of the integers among the members of an object. -/
def integers : Json.Value → Nat
  | .object members => (members.map fun member => match member.2 with
      | .number integer => integer.toNat
      | _ => 0).sum
  | _ => 0

/-- The size and the integers of a document. -/
def shape (bytes : Bytes) : Nat :=
  match Canonical.parseStrictValue bytes with
  | .ok value => Json.size value * 256 + integers value
  | .error _ => 0

/-- The functions of the small captures, with the digest of this module. -/
@[reducible] def marked : Primitives :=
  { primitives with
    sha256 := fun bytes =>
      ⟨(lead bytes % 2 ^ 96) * 2 ^ 160 + shape bytes % 2 ^ 160, by
        have first := Nat.mod_lt (lead bytes) (show 2 ^ 96 > 0 by decide)
        have second := Nat.mod_lt (shape bytes) (show 2 ^ 160 > 0 by decide)
        calc (lead bytes % 2 ^ 96) * 2 ^ 160 + shape bytes % 2 ^ 160
            < (lead bytes % 2 ^ 96) * 2 ^ 160 + 2 ^ 160 := Nat.add_lt_add_left second _
          _ = (lead bytes % 2 ^ 96 + 1) * 2 ^ 160 := (Nat.succ_mul _ _).symm
          _ ≤ 2 ^ 96 * 2 ^ 160 := Nat.mul_le_mul_right _ first
          _ = 2 ^ 256 := (Nat.pow_add 2 96 160).symm⟩ }

/-! ## Encryption -/

/-- Encryption of the sample is the plaintext with a checksum. -/
theorem aeadCorrect : @AeadCorrect primitives := by
  intro key nonce message aad encrypted done
  obtain rfl := Option.some.inj done
  have sixteen : (tag key nonce message aad).length = 16 := by
    simp [tag]
  have length : (message ++ tag key nonce message aad).length - 16 = message.length := by
    rw [List.length_append, sixteen]
    omega
  constructor
  · show (if _ = _ then _ else _) = _
    rw [length, List.take_left, List.drop_left, if_pos rfl]
  · rw [List.length_append, sixteen]

/-- Bytes are told apart by the number that they spell. -/
theorem foldl_bytes_injective {first second : Bytes} {start other : Nat}
    (length : first.length = second.length)
    (same : first.foldl (fun number byte => number * 256 + byte.toNat) start =
      second.foldl (fun number byte => number * 256 + byte.toNat) other) :
    start = other ∧ first = second := by
  induction first generalizing second start other with
  | nil =>
      obtain rfl := List.length_eq_zero_iff.mp length.symm
      exact ⟨same, rfl⟩
  | cons byte rest ih =>
      cases second with
      | nil => cases length
      | cons held later =>
          obtain ⟨numbers, rfl⟩ := ih (Nat.succ.inj length) same
          change start * 256 + byte.toNat = other * 256 + held.toNat at numbers
          have small := byte.toNat_lt
          have below := held.toNat_lt
          obtain rfl : byte = held := UInt8.toNat_inj.mp (by omega)
          exact ⟨by omega, rfl⟩

theorem foldl_bytes_lt (bytes : Bytes) (start : Nat) :
    bytes.foldl (fun number byte => number * 256 + byte.toNat) start <
      (start + 1) * 256 ^ bytes.length := by
  induction bytes generalizing start with
  | nil => simp
  | cons byte rest ih =>
      have small := byte.toNat_lt
      calc (byte :: rest).foldl (fun number byte => number * 256 + byte.toNat) start
          < (start * 256 + byte.toNat + 1) * 256 ^ rest.length := ih _
        _ ≤ (start + 1) * 256 * 256 ^ rest.length := Nat.mul_le_mul_right _ (by omega)
        _ = (start + 1) * 256 ^ (byte :: rest).length := by
            rw [List.length_cons, Nat.pow_succ', Nat.mul_assoc]

/-- The digest of a stored chunk tells its nonce. -/
theorem nonce_eq_of_digest {first second : Nonce} {message other : Bytes} :
    letI := marked
    Digest.of (first.toList ++ message) = Digest.of (second.toList ++ other) → first = second := by
  intro same
  have front : ∀ (nonce : Nonce) (rest : Bytes),
      lead (nonce.toList ++ rest) % 2 ^ 96 = nonce.toList.foldl
        (fun number byte => number * 256 + byte.toNat) 0 := by
    intro nonce rest
    have small := foldl_bytes_lt nonce.toList 0
    rw [Vector.length_toList] at small
    rw [lead, List.take_left' Vector.length_toList]
    exact Nat.mod_eq_of_lt (small.trans_le (by decide))
  have numbers : ∀ bytes : Bytes, ((lead bytes % 2 ^ 96) * 2 ^ 160 + shape bytes % 2 ^ 160) /
      2 ^ 160 = lead bytes % 2 ^ 96 := by
    intro bytes
    have below : shape bytes % 2 ^ 160 < 2 ^ 160 := Nat.mod_lt _ (by decide)
    rw [Nat.mul_comm, Nat.mul_add_div (by decide), Nat.div_eq_of_lt below, Nat.add_zero]
  have leads := congrArg (fun digest : Digest => digest.number.val / 2 ^ 160) same
  change ((lead (first.toList ++ message) % 2 ^ 96) * 2 ^ 160 + _) / _ =
    ((lead (second.toList ++ other) % 2 ^ 96) * 2 ^ 160 + _) / _ at leads
  rw [numbers, numbers, front, front] at leads
  exact Vector.toList_inj.mp (foldl_bytes_injective
    (Vector.length_toList.trans Vector.length_toList.symm) leads).2

/-! ## Documents -/

/-- Contents of different shapes have different digests. -/
theorem digest_ne_of_shape {first second : Bytes}
    (different : shape first % 2 ^ 160 ≠ shape second % 2 ^ 160) :
    letI := marked
    Digest.of first ≠ Digest.of second := by
  intro same
  apply different
  have numbers : ((lead first % 2 ^ 96) * 2 ^ 160 + shape first % 2 ^ 160) % 2 ^ 160 =
      ((lead second % 2 ^ 96) * 2 ^ 160 + shape second % 2 ^ 160) % 2 ^ 160 :=
    congrArg (fun digest : Digest => digest.number.val % 2 ^ 160) same
  simpa only [Nat.mul_add_mod_self_right, Nat.mod_mod] using numbers

/-- The shape of a document that can be written exactly. -/
theorem shape_text {α : Type} [Document α] {value : α} (exact : Document.Exact value) :
    shape (Canonical.text value) =
      Json.size (Document.encode value) * 256 + integers (Document.encode value) := by
  rw [shape, Canonical.text, Canonical.parseStrictValue_textBytes, if_pos exact]

theorem integers_object (members : List (String × Json.Value)) :
    integers (.object (sortMembers members)) = integers (.object members) :=
  ((sortMembers_perm members).map _).sum_eq

/-- The only integer of a proof is its run. -/
theorem integers_proof (proof : Proof) :
    integers (Document.encode proof) = proof.runIndex.toNat := by
  change integers (.object (sortMembers _)) = _
  rw [integers_object]
  simp [integers, Fields.encode, Fields.required, Digest.codec, Codec.text, Format.codec,
    ProcessingMode.codec, ExecutionResultKind.codec, Codec.enumeration, Codec.uint8,
    Codec.unsigned]

theorem digest_proof_ne {first second : Proof} (runs : first.runIndex ≠ second.runIndex) :
    letI := marked
    Digest.of (Canonical.text first) ≠ Digest.of (Canonical.text second) := by
  apply digest_ne_of_shape
  rw [shape_text first.exact, shape_text second.exact, integers_proof, integers_proof]
  intro same
  have last := congrArg (· % 256) same
  have divides : 256 ∣ 2 ^ 160 := ⟨2 ^ 152, by decide⟩
  simp only [Nat.mod_mod_of_dvd _ divides, Nat.mul_add_mod_self_right] at last
  rw [Nat.mod_eq_of_lt first.runIndex.toNat_lt, Nat.mod_eq_of_lt second.runIndex.toNat_lt] at last
  exact runs (UInt8.toNat_inj.mp last)

end Reproit.Backend.Sample
