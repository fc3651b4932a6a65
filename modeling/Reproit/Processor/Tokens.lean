/-
# Spellings of identity tokens

The reader of identity tokens takes any spelling of a number that the integer parser takes.
A token that is read is the one of its identity exactly when its numbers are decimal numerals,
and the identity of a valid requirement is always read back from its token.
-/

import Reproit.Core.IdentityToken
import Reproit.Core.ProcessorDocuments
import Reproit.Data.Decimal

namespace Reproit

/-- The numbers of a token are spelled without sign and superfluous zeros. -/
def CanonicalToken (token : String) : Prop :=
  ∀ vendor family model stepping microcode : String,
    tokenParts token = ["x86", vendor, family, model, stepping, microcode] →
      IsDecimal family.toList ∧ IsDecimal model.toList ∧ IsDecimal stepping.toList

/-- Among the spellings of a number the numeral is the one that is written. -/
theorem toString_eq_iff {text : String} {number : UInt32}
    (read : parseUInt32 text.toList = some number) :
    toString number = text ↔ IsDecimal text.toList := by
  constructor
  · intro written
    rw [← written, toList_toString]
    exact isDecimal_toDigits _
  · intro decimal
    have unsigned : '+' ∉ text.toList := by
      intro member
      exact absurd (List.all_eq_true.mp decimal.all _ member) (by decide)
    obtain ⟨-, -, value⟩ := parseUInt32_eq_some read unsigned
    apply String.toList_injective
    rw [toList_toString, ← value, decimal.toDigits_ofDigitChars]

/-- The token of an identity is the read one when it has the same parts. -/
theorem encodeIdentityToken_eq_iff {token : String} {identity : ProcessorIdentity}
    (valid : ValidToken identity) :
    encodeIdentityToken identity = token ↔ tokenFields identity = tokenParts token := by
  rw [← tokenParts_encodeIdentityToken valid]
  exact tokenParts_injective.eq_iff.symm

theorem encodeIdentityToken_of_decode {token : String} {identity : ProcessorIdentity}
    (decoded : decodeIdentityToken token = some identity) :
    encodeIdentityToken identity = token ↔ CanonicalToken token := by
  obtain ⟨spelled, valid⟩ := decodeIdentityToken_eq_some.mp decoded
  rw [encodeIdentityToken_eq_iff valid]
  cases identity with
  | arm identity =>
      have parts : tokenParts token =
          ["arm", identity.implementer, identity.variant, identity.part, identity.revision] :=
        spelled
      refine iff_of_true parts.symm fun _ _ _ _ _ same => ?_
      rw [parts] at same
      exact absurd (List.cons.inj same).1 (by decide)
  | x86 identity =>
      obtain ⟨family, model, stepping, parts, readFamily, readModel, readStepping⟩ := spelled
      rw [parts]
      constructor
      · intro same vendor family' model' stepping' microcode parts'
        rw [parts] at parts'
        simp only [List.cons.injEq] at parts'
        obtain ⟨-, -, sameFamily, sameModel, sameStepping, -⟩ := parts'
        rw [← sameFamily, ← sameModel, ← sameStepping]
        simp only [tokenFields, List.cons.injEq, true_and, and_true] at same
        obtain ⟨first, second, third⟩ := same
        exact ⟨(toString_eq_iff readFamily).mp first, (toString_eq_iff readModel).mp second,
          (toString_eq_iff readStepping).mp third⟩
      · intro canonical
        obtain ⟨first, second, third⟩ := canonical _ _ _ _ _ parts
        rw [tokenFields, (toString_eq_iff readFamily).mpr first,
          (toString_eq_iff readModel).mpr second, (toString_eq_iff readStepping).mpr third]

/-- The identity of a valid requirement can stand in a token. -/
theorem ProcessorIdentity.Fits.validToken {architecture : ProcessorArchitecture}
    {identity : ProcessorIdentity} (fits : identity.Fits architecture) : ValidToken identity := by
  cases identity with
  | arm identity =>
      obtain ⟨-, all⟩ := fits
      simp only [List.forall_mem_cons] at all
      obtain ⟨implementer, part, revision, variant, -⟩ := all
      rw [ValidToken]
      simp only [List.forall_mem_cons]
      exact ⟨implementer, variant, part, revision, by simp⟩
  | x86 identity => exact fits.2

/-- The codec of tokens.  A token is written again as it was read exactly when it is canonical,
so that one identity has one canonical token, and the identity of a valid requirement is read
back. -/
theorem identity_tokens {token : String} {identity : ProcessorIdentity}
    (decoded : decodeIdentityToken token = some identity) :
    (encodeIdentityToken identity = token ↔ CanonicalToken token) ∧
    (∀ requirement : ProcessorRequirement, requirement.validate = .ok () →
      ∀ required ∈ requirement.identity,
        decodeIdentityToken (encodeIdentityToken required) = some required) ∧
    ∀ other, CanonicalToken token → CanonicalToken other →
      decodeIdentityToken other = some identity → token = other := by
  refine ⟨encodeIdentityToken_of_decode decoded, ?_, ?_⟩
  · intro requirement valid required given
    have fits := (ProcessorRequirement.validate_eq_ok.mp valid).identity required given
    exact decodeIdentityToken_encodeIdentityToken fits.validToken
  · intro other canonical canonicalOther same
    rw [← (encodeIdentityToken_of_decode decoded).mpr canonical,
      (encodeIdentityToken_of_decode same).mpr canonicalOther]

theorem identity_tokens_plain :
    encodeIdentityToken (.x86 {
      family := 6
      microcode := "0x1"
      model := 85
      stepping := 0
      vendor := "genuineintel" }) = "x86.genuineintel.6.85.0.0x1" := by
  have decoded : decodeIdentityToken "x86.genuineintel.6.85.0.0x1" = some (.x86 {
      family := 6
      microcode := "0x1"
      model := 85
      stepping := 0
      vendor := "genuineintel" }) := by decide
  apply (identity_tokens decoded).1.mpr
  intro vendor family model stepping microcode parts
  have split : tokenParts "x86.genuineintel.6.85.0.0x1" =
      ["x86", "genuineintel", "6", "85", "0", "0x1"] := by decide
  rw [split] at parts
  injection parts with _ parts
  injection parts with _ parts
  injection parts with first parts
  injection parts with second parts
  injection parts with third _
  subst first second third
  exact ⟨⟨by decide, by decide, by decide⟩, ⟨by decide, by decide, by decide⟩,
    ⟨by decide, by decide, by decide⟩⟩

/-- Two spellings of a model, one identity. -/
theorem identity_tokens_padded :
    ∃ identity, decodeIdentityToken "x86.genuineintel.6.085.0.0x1" = some identity ∧
      decodeIdentityToken "x86.genuineintel.6.85.0.0x1" = some identity ∧
      encodeIdentityToken identity ≠ "x86.genuineintel.6.085.0.0x1" :=
  ⟨.x86 {
      family := 6
      microcode := "0x1"
      model := 85
      stepping := 0
      vendor := "genuineintel" }, by decide, by decide, by decide⟩

end Reproit
