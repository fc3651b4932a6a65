/-
# Identity tokens

A token is cut at its points into the kind and the fields of an identity.  The token of
an identity is read back as that identity, and a token that is read is the one of its
identity, but for the spelling of its numbers.
-/

import Reproit.Core.Model.ProcessorCapture

namespace Reproit

/-! ## Parts -/

/-- A text cut at its points. -/
def tokenParts (token : String) : List String := (token.toList.splitOn '.').map String.ofList

theorem intercalate_tokenParts (token : String) : ".".intercalate (tokenParts token) = token :=
  intercalate_splitOn rfl token

theorem tokenParts_intercalate {parts : List String} (some : parts ≠ [])
    (whole : ∀ part ∈ parts, '.' ∉ part.toList) :
    tokenParts (".".intercalate parts) = parts :=
  splitOn_intercalate rfl some whole

theorem tokenParts_injective : Function.Injective tokenParts := by
  intro first second same
  rw [← intercalate_tokenParts first, same, intercalate_tokenParts]

theorem mem_intercalate_of_mem {parts : List String} {part : String} (member : part ∈ parts)
    {c : Char} (inside : c ∈ part.toList) : c ∈ (".".intercalate parts).toList := by
  induction parts with
  | nil => cases member
  | cons first rest ih =>
      cases rest with
      | nil =>
          obtain rfl := List.mem_singleton.mp member
          rw [String.intercalate_singleton]
          exact inside
      | cons second rest =>
          rw [String.intercalate_cons_cons, String.toList_append, String.toList_append,
            List.mem_append, List.mem_append]
          rcases List.mem_cons.mp member with rfl | later
          · exact .inl (.inl inside)
          · exact .inr (ih later)

theorem all_intercalate {p : Char → Bool} (point : p '.' = true) {parts : List String}
    (all : ∀ part ∈ parts, part.toList.all p = true) :
    (".".intercalate parts).toList.all p = true := by
  induction parts with
  | nil => rfl
  | cons first rest ih =>
      obtain ⟨holds, others⟩ := List.forall_mem_cons.mp all
      cases rest with
      | nil =>
          rw [String.intercalate_singleton]
          exact holds
      | cons second rest =>
          rw [String.intercalate_cons_cons, String.toList_append, String.toList_append,
            List.all_append, List.all_append, holds, ih others]
          simp [point]

theorem length_intercalate_le {first second : List String}
    (shorter : List.Forall₂ (fun left right => left.toList.length ≤ right.toList.length)
      first second) :
    (".".intercalate first).toList.length ≤ (".".intercalate second).toList.length := by
  induction shorter with
  | nil => exact le_rfl
  | cons below rest ih =>
      cases rest with
      | nil =>
          rw [String.intercalate_singleton, String.intercalate_singleton]
          exact below
      | cons _ _ =>
          rw [String.intercalate_cons_cons, String.intercalate_cons_cons]
          simp only [String.toList_append, List.length_append]
          omega

/-! ## Decimal numbers -/

theorem ofDigitChars_lt {digits : List Char} (all : digits.all Char.isDigit = true)
    (start : Nat) : Nat.ofDigitChars 10 digits start < 10 ^ digits.length * (start + 1) := by
  induction digits generalizing start with
  | nil => simp
  | cons c rest ih =>
      rw [List.all_cons, Bool.and_eq_true] at all
      have value : c.toNat - '0'.toNat < 10 := by
        have bounds := all.1
        simp only [Char.isDigit, Bool.and_eq_true, decide_eq_true_eq, UInt32.le_iff_toNat_le]
          at bounds
        have high : c.toNat ≤ 57 := bounds.2
        have zero : '0'.toNat = 48 := rfl
        omega
      rw [Nat.ofDigitChars_cons, List.length_cons, Nat.pow_succ, Nat.mul_assoc]
      refine (ih all.2 _).trans_le (Nat.mul_le_mul_left _ ?_)
      omega

/-- A decimal number is no longer than any text that spells it. -/
theorem length_toDigits_le {digits : List Char} (some : digits ≠ [])
    (all : digits.all Char.isDigit = true) :
    (Nat.toDigits 10 (Nat.ofDigitChars 10 digits 0)).length ≤ digits.length := by
  rw [Nat.length_toDigits_le_iff (by decide) (List.length_pos_iff.mpr some)]
  simpa using ofDigitChars_lt all 0

theorem toList_toString (number : UInt32) :
    (toString number).toList = Nat.toDigits 10 number.toNat := Nat.toList_repr

theorem all_isDigit_toString (number : UInt32) :
    (toString number).toList.all Char.isDigit = true := by
  rw [toList_toString, List.all_eq_true]
  exact fun c member => Nat.isDigit_of_mem_toDigits (by decide) (by decide) member

theorem parseUInt32_toString (number : UInt32) :
    parseUInt32 (toString number).toList = some number := by
  have digits := all_isDigit_toString number
  have nonempty : (toString number).toList ≠ [] := by
    rw [toList_toString]
    exact Nat.toDigits_ne_nil
  have value : Nat.ofDigitChars 10 (toString number).toList 0 = number.toNat := by
    rw [toList_toString, Nat.ofDigitChars_ten_toDigits]
  have unsigned : ∀ rest, (toString number).toList ≠ '+' :: rest := by
    intro rest spelled
    rw [spelled, List.all_cons, Bool.and_eq_true] at digits
    exact absurd digits.1 (by decide)
  rw [parseUInt32, value]
  · rw [if_pos ⟨nonempty, digits, number.toNat_lt⟩, UInt32.ofNat_toNat]
  · exact unsigned

/-- A number without a sign is read from its digits. -/
theorem parseUInt32_eq_some {text : List Char} {number : UInt32}
    (read : parseUInt32 text = some number) (unsigned : '+' ∉ text) :
    text ≠ [] ∧ text.all Char.isDigit = true ∧ Nat.ofDigitChars 10 text 0 = number.toNat := by
  have leads : ∀ rest, text ≠ '+' :: rest := by
    rintro rest rfl
    exact unsigned List.mem_cons_self
  rw [parseUInt32] at read
  · split_ifs at read with valid
    obtain rfl := Option.some.inj read
    refine ⟨valid.1, valid.2.1, ?_⟩
    rw [UInt32.toNat_ofNat_of_lt' valid.2.2]
  · exact leads

/-! ## Tokens -/

/-- The fields of an identity can stand in a token. -/
def ValidToken : ProcessorIdentity → Prop
  | .arm identity =>
      ∀ value ∈ [identity.implementer, identity.variant, identity.part, identity.revision],
        validIdentityValue value = true
  | .x86 identity =>
      validIdentityValue identity.vendor = true ∧ validIdentityValue identity.microcode = true

/-- The fields of a token spell an identity. -/
def SpelledBy : ProcessorIdentity → List String → Prop
  | .arm identity, parts =>
      parts = ["arm", identity.implementer, identity.variant, identity.part, identity.revision]
  | .x86 identity, parts => ∃ family model stepping : String,
      parts = ["x86", identity.vendor, family, model, stepping, identity.microcode] ∧
        parseUInt32 family.toList = some identity.family ∧
          parseUInt32 model.toList = some identity.model ∧
            parseUInt32 stepping.toList = some identity.stepping

theorem decodeIdentityToken_eq_some {token : String} {identity : ProcessorIdentity} :
    decodeIdentityToken token = some identity ↔
      SpelledBy identity (tokenParts token) ∧ ValidToken identity := by
  rw [decodeIdentityToken, show (token.toList.splitOn '.').map String.ofList = tokenParts token
    from rfl]
  generalize tokenParts token = parts
  constructor
  · intro decoded
    split at decoded
    next kind vendor family model stepping microcode =>
      split_ifs at decoded with kind
      simp only [Option.bind_eq_bind, Option.bind_eq_some_iff] at decoded
      obtain ⟨familyNumber, family, modelNumber, model, steppingNumber, stepping, decoded⟩ :=
        decoded
      split_ifs at decoded with valid
      obtain rfl := Option.some.inj decoded
      rw [not_not] at kind
      subst kind
      exact ⟨⟨_, _, _, rfl, family, model, stepping⟩, valid⟩
    next kind implementer variant part revision =>
      split_ifs at decoded with kind valid
      obtain rfl := Option.some.inj decoded
      rw [not_not] at kind
      subst kind
      refine ⟨rfl, ?_⟩
      obtain ⟨implementer, part, revision, variant⟩ := valid
      simp only [ValidToken, List.forall_mem_cons]
      exact ⟨implementer, variant, part, revision, nofun⟩
    next => cases decoded
  · rintro ⟨spelled, valid⟩
    cases identity with
    | arm identity =>
        obtain rfl := spelled
        simp only [ValidToken, List.forall_mem_cons] at valid
        obtain ⟨implementer, variant, part, revision, -⟩ := valid
        simp [implementer, variant, part, revision]
    | x86 identity =>
        obtain ⟨family, model, stepping, rfl, readFamily, readModel, readStepping⟩ := spelled
        simp only [ValidToken] at valid
        simp [readFamily, readModel, readStepping, valid]

theorem not_mem_of_validIdentityValue {value : String} (valid : validIdentityValue value = true) :
    '.' ∉ value.toList := by
  simp only [validIdentityValue, Bool.and_eq_true, List.all_eq_true] at valid
  intro member
  exact absurd (valid.2 _ member) (by decide)

theorem not_mem_toString (number : UInt32) : '.' ∉ (toString number).toList := by
  intro member
  exact absurd (List.all_eq_true.mp (all_isDigit_toString number) _ member) (by decide)

/-- The fields that the token of an identity is written from. -/
def tokenFields : ProcessorIdentity → List String
  | .arm identity =>
      ["arm", identity.implementer, identity.variant, identity.part, identity.revision]
  | .x86 identity => ["x86", identity.vendor, toString identity.family, toString identity.model,
      toString identity.stepping, identity.microcode]

theorem encodeIdentityToken_eq (identity : ProcessorIdentity) :
    encodeIdentityToken identity = ".".intercalate (tokenFields identity) := by
  cases identity <;> rfl

theorem tokenParts_encodeIdentityToken {identity : ProcessorIdentity}
    (valid : ValidToken identity) :
    tokenParts (encodeIdentityToken identity) = tokenFields identity := by
  rw [encodeIdentityToken_eq]
  cases identity with
  | arm identity =>
      apply tokenParts_intercalate (List.cons_ne_nil _ _)
      simp only [ValidToken, List.forall_mem_cons] at valid
      simp only [List.forall_mem_cons]
      exact ⟨by decide, not_mem_of_validIdentityValue valid.1,
        not_mem_of_validIdentityValue valid.2.1, not_mem_of_validIdentityValue valid.2.2.1,
        not_mem_of_validIdentityValue valid.2.2.2.1, nofun⟩
  | x86 identity =>
      apply tokenParts_intercalate (List.cons_ne_nil _ _)
      simp only [List.forall_mem_cons]
      exact ⟨by decide, not_mem_of_validIdentityValue valid.1, not_mem_toString _,
        not_mem_toString _, not_mem_toString _, not_mem_of_validIdentityValue valid.2, nofun⟩

/-- The token of an identity is read back. -/
theorem decodeIdentityToken_encodeIdentityToken {identity : ProcessorIdentity}
    (valid : ValidToken identity) :
    decodeIdentityToken (encodeIdentityToken identity) = some identity := by
  rw [decodeIdentityToken_eq_some, tokenParts_encodeIdentityToken valid]
  refine ⟨?_, valid⟩
  cases identity with
  | arm identity => rfl
  | x86 identity =>
      exact ⟨_, _, _, rfl, parseUInt32_toString _, parseUInt32_toString _, parseUInt32_toString _⟩

theorem all_encodeIdentityToken {identity : ProcessorIdentity} (valid : ValidToken identity) :
    (encodeIdentityToken identity).toList.all (fun c => validIdentityChar c || c = '.') = true := by
  have value : ∀ {text : String}, validIdentityValue text = true →
      text.toList.all (fun c => validIdentityChar c || c = '.') = true := by
    intro text valid
    simp only [validIdentityValue, Bool.and_eq_true, List.all_eq_true] at valid
    rw [List.all_eq_true]
    exact fun c member => by rw [valid.2 c member, Bool.true_or]
  have number : ∀ number : UInt32,
      (toString number).toList.all (fun c => validIdentityChar c || c = '.') = true := by
    intro number
    rw [List.all_eq_true]
    intro c member
    have digit := List.all_eq_true.mp (all_isDigit_toString number) c member
    simp [validIdentityChar, digit]
  rw [encodeIdentityToken_eq]
  apply all_intercalate (by decide)
  cases identity with
  | arm identity =>
      simp only [ValidToken, List.forall_mem_cons] at valid
      simp only [tokenFields, List.forall_mem_cons]
      exact ⟨by decide, value valid.1, value valid.2.1, value valid.2.2.1, value valid.2.2.2.1,
        nofun⟩
  | x86 identity =>
      simp only [tokenFields, List.forall_mem_cons]
      exact ⟨by decide, value valid.1, number _, number _, number _, value valid.2, nofun⟩

/-- A token that was read is no shorter than the one of its identity. -/
theorem length_encodeIdentityToken_le {token : String} {identity : ProcessorIdentity}
    (decoded : decodeIdentityToken token = some identity) (unsigned : '+' ∉ token.toList) :
    (encodeIdentityToken identity).toList.length ≤ token.toList.length := by
  obtain ⟨spelled, -⟩ := decodeIdentityToken_eq_some.mp decoded
  rw [encodeIdentityToken_eq, ← intercalate_tokenParts token]
  have plain : ∀ part ∈ tokenParts token, '+' ∉ part.toList := by
    intro part member inside
    apply unsigned
    rw [← intercalate_tokenParts token]
    exact mem_intercalate_of_mem member inside
  have shorter : ∀ {text : String} {number : UInt32}, text ∈ tokenParts token →
      parseUInt32 text.toList = some number →
        (toString number).toList.length ≤ text.toList.length := by
    intro text number member read
    obtain ⟨some, digits, value⟩ := parseUInt32_eq_some read (plain text member)
    rw [toList_toString, ← value]
    exact length_toDigits_le some digits
  apply length_intercalate_le
  cases identity with
  | arm identity =>
      rw [show tokenParts token = _ from spelled]
      exact List.forall₂_same.mpr fun _ _ => le_rfl
  | x86 identity =>
      obtain ⟨family, model, stepping, parts, readFamily, readModel, readStepping⟩ := spelled
      rw [parts] at shorter ⊢
      refine .cons le_rfl (.cons le_rfl (.cons (shorter (by simp) readFamily)
        (.cons (shorter (by simp) readModel) (.cons (shorter (by simp) readStepping)
          (.cons le_rfl .nil)))))

end Reproit
