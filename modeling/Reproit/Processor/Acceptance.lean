/-
# Capsules that a reduction binds

A capsule takes the capabilities of a requirement beside those of no processor.  A
requirement that is a part of the sealed one, with a receipt that explains the rest, is
accepted.
-/

import Reproit.Processor.Binding
import Reproit.Data.DocumentSize

namespace Reproit

open Backend

/-! ## The grammar of capabilities -/

theorem utf8ByteSize_of_ascii {value : String} (ascii : ∀ c ∈ value.toList, c.toNat < 128) :
    value.utf8ByteSize = value.toList.length := by
  have size := Json.utf8ByteSize_ofList value.toList
  rw [String.ofList_toList, Json.length_textBytes_of_ascii ascii] at size
  exact size

/-- A suffix that fits behind the lead of its kind. -/
structure Suffix (kind : CapabilityKind) (suffix : String) : Prop where
  chars : suffix.toList.all capabilityNameChar = true
  size : kind.lead.utf8ByteSize + suffix.utf8ByteSize ≤ 128

theorem Suffix.grammatical {kind : CapabilityKind} {suffix : String} (fits : Suffix kind suffix) :
    Grammatical (kind.lead ++ suffix) := by
  have lead : kind.lead.toList.head?.any Char.isLower = true ∧
      kind.lead.toList.all capabilityNameChar = true ∧ 0 < kind.lead.utf8ByteSize := by
    cases kind <;> decide
  obtain ⟨head, chars, positive⟩ := lead
  refine ⟨?_, ?_, ?_⟩
  · rw [String.isEmpty_eq_false_iff]
    intro empty
    have size := congrArg String.utf8ByteSize empty
    rw [String.utf8ByteSize_append, String.utf8ByteSize_empty] at size
    omega
  · rw [String.utf8ByteSize_append]
    exact fits.size
  · rw [validLowerIdentity, String.toList_append, Bool.and_eq_true, List.all_append,
      Bool.and_eq_true]
    refine ⟨?_, chars, fits.chars⟩
    cases spelled : kind.lead.toList with
    | nil =>
        rw [spelled] at head
        cases head
    | cons c rest =>
        rw [spelled] at head
        exact head

/-- The suffix of a grammatical capability. -/
theorem Suffix.of_grammatical {kind : CapabilityKind} {suffix : String}
    (grammar : Grammatical (kind.lead ++ suffix)) : Suffix kind suffix := by
  obtain ⟨-, size, chars⟩ := grammar
  simp only [validLowerIdentity, Bool.and_eq_true, String.toList_append, List.all_append] at chars
  rw [String.utf8ByteSize_append] at size
  exact ⟨chars.2.2, size⟩

theorem toNat_lt_of_capabilityNameChar {c : Char} (name : capabilityNameChar c = true) :
    c.toNat < 128 :=
  toNat_lt_of_nameChar (nameChar_of_stateChar (stateChar_of_capabilityNameChar name).1)

/-- The digits of a digest are lowercase. -/
theorem isDigit_or_of_mem_digestSuffix {digest : Digest} {c : Char}
    (member : c ∈ (digestSuffix digest).toList) : c.isDigit = true ∨ 'a' ≤ c ∧ c ≤ 'f' := by
  rw [digestSuffix, String.toList_ofList] at member
  have digit := Radix.hexValue_isSome_of_mem_hexText member
  unfold Radix.hexValue at digit
  split_ifs at digit with number letter
  · left
    simp only [Char.isDigit, Bool.and_eq_true, decide_eq_true_eq]
    exact number
  · exact .inr letter
  · cases digit

theorem all_digestSuffix (digest : Digest) :
    (digestSuffix digest).toList.all capabilityNameChar = true := by
  rw [List.all_eq_true]
  intro c member
  rcases isDigit_or_of_mem_digestSuffix member with digit | letter
  · simp [capabilityNameChar, digit]
  · have lower : c.isLower = true := by
      show (decide ('a'.val ≤ c.val) && decide (c.val ≤ 'z'.val)) = true
      rw [Bool.and_eq_true, decide_eq_true_eq, decide_eq_true_eq]
      exact ⟨letter.1, letter.2.trans (by decide)⟩
    simp [capabilityNameChar, lower]

theorem utf8ByteSize_digestSuffix (digest : Digest) :
    (digestSuffix digest).utf8ByteSize = 64 := by
  have ascii : ∀ c ∈ (digestSuffix digest).toList, c.toNat < 128 := fun c member =>
    toNat_lt_of_capabilityNameChar (List.all_eq_true.mp (all_digestSuffix digest) c member)
  rw [utf8ByteSize_of_ascii ascii, digestSuffix, String.toList_ofList, Radix.length_hexText]

theorem suffix_digestSuffix {kind : CapabilityKind} (digest : Digest) :
    Suffix kind (digestSuffix digest) := by
  refine ⟨all_digestSuffix digest, ?_⟩
  rw [utf8ByteSize_digestSuffix]
  cases kind <;> decide

theorem Spellable.suffix {kind : CapabilityKind} {name : String} (spellable : Spellable name) :
    Suffix kind (normalizeName name) := by
  refine ⟨spellable.2.2, ?_⟩
  have lead : kind.lead.utf8ByteSize ≤ 32 := by cases kind <;> decide
  exact (Nat.add_le_add lead spellable.2.1).trans (by decide)

/-! ## Bound capsules -/

variable [Primitives] {requirement part : ProcessorRequirement}
  {receipt : ProcessorReductionReceipt} {others : List String} {capsule : ReplayCapsule}

/-- The capabilities of a requirement beside others. -/
def besideBound (others : List String) (requirement : ProcessorRequirement) : List String :=
  sortDedup (others ++ boundCapabilities requirement)

/-- The same with the capability of a reduction. -/
def besideReduced (others : List String) (requirement : ProcessorRequirement)
    (receipt : ProcessorReductionReceipt) : List String :=
  sortDedup (besideBound others requirement ++ [reductionCapability receipt])

/-- The capabilities belong to no processor. -/
def Foreign (others : List String) : Prop :=
  ∀ capability ∈ others, startsWith capability "architecture." = false ∧
    startsWith capability "processor." = false

theorem mem_besideBound {capability : String} : capability ∈ besideBound others requirement ↔
    capability ∈ others ∨ capability ∈ boundCapabilities requirement := by
  rw [besideBound, mem_sortDedup, List.mem_append]

theorem mem_besideReduced {capability : String} :
    capability ∈ besideReduced others requirement receipt ↔
      capability ∈ others ∨ capability ∈ expectedCapabilities requirement receipt := by
  rw [besideReduced, mem_sortDedup, List.mem_append, mem_besideBound, List.mem_singleton,
    mem_expectedCapabilities, or_assoc]

omit [Primitives] in
theorem lead_append_not_mem (foreign : Foreign others) (kind : CapabilityKind) (suffix : String) :
    kind.lead ++ suffix ∉ others := by
  intro member
  obtain ⟨architecture, processor⟩ := foreign _ member
  rw [CapabilityKind.startsWith_processor, decide_eq_false_iff_not, not_not] at processor
  subst kind
  rw [show ("architecture." : String) = CapabilityKind.architecture.lead from rfl,
    startsWith_append] at architecture
  cases architecture

theorem expectedCapabilities_eq (requirement : ProcessorRequirement)
    (receipt : ProcessorReductionReceipt) :
    expectedCapabilities requirement receipt =
      sortDedup (boundCapabilities requirement ++ [reductionCapability receipt]) := by
  apply insertionSort_eq_sortDedup
  have bound : (boundCapabilities requirement).Nodup :=
    (pairwise_sortDedup _).imp fun less => ne_of_lt less
  rw [List.nodup_append]
  refine ⟨bound, List.nodup_singleton _, ?_⟩
  rintro capability member _ reduction rfl
  obtain ⟨kind, suffix, other, same⟩ := exists_of_mem_boundCapabilities member
  rw [List.mem_singleton.mp reduction, reductionCapability,
    CapabilityKind.lead_append_inj] at same
  exact other same.1.symm

/-- Every expected capability has a kind. -/
theorem exists_of_mem_expectedCapabilities {capability : String}
    (member : capability ∈ expectedCapabilities requirement receipt) :
    ∃ kind : CapabilityKind, ∃ suffix, capability = kind.lead ++ suffix := by
  rcases mem_expectedCapabilities.mp member with bound | rfl
  · obtain ⟨kind, suffix, -, same⟩ := exists_of_mem_boundCapabilities bound
    exact ⟨kind, suffix, same⟩
  · exact ⟨.reduction, _, rfl⟩

/-- The processor capabilities beside others are the expected ones. -/
theorem filter_besideReduced (foreign : Foreign others) :
    ((besideReduced others requirement receipt).filter fun capability =>
      startsWith capability "architecture." || startsWith capability "processor.") =
        expectedCapabilities requirement receipt := by
  rw [besideReduced, filter_sortDedup, expectedCapabilities_eq]
  apply sortDedup_congr
  intro capability
  rw [List.mem_filter, List.mem_append, mem_besideBound, or_assoc, List.mem_singleton,
    ← mem_expectedCapabilities, List.mem_append, List.mem_singleton, ← mem_expectedCapabilities]
  constructor
  · rintro ⟨other | expected, begins⟩
    · obtain ⟨architecture, processor⟩ := foreign capability other
      rw [architecture, processor] at begins
      cases begins
    · exact expected
  · intro expected
    obtain ⟨kind, suffix, rfl⟩ := exists_of_mem_expectedCapabilities expected
    exact ⟨.inr expected, CapabilityKind.startsWith_processor_or kind suffix⟩

/-- Both capsules are equal without their processor capabilities. -/
theorem filter_besideBound_eq (architecture : part.architecture = requirement.architecture) :
    ((besideBound others requirement).filter fun capability =>
      !startsWith capability "processor.") =
        (besideReduced others part receipt).filter fun capability =>
          !startsWith capability "processor." := by
  have same : ∀ {kind : CapabilityKind} {suffix : String}, kind = .architecture →
      (kind.lead ++ suffix ∈ boundCapabilities requirement ↔
        kind.lead ++ suffix ∈ expectedCapabilities part receipt) := by
    rintro kind suffix rfl
    rw [lead_append_mem_boundCapabilities, lead_append_mem_expectedCapabilities rfl,
      ProcessorRequirement.NamesSuffix, ProcessorRequirement.NamesSuffix, architecture]
  rw [besideBound, besideReduced, filter_sortDedup, filter_sortDedup]
  apply sortDedup_congr
  intro capability
  rw [List.mem_filter, List.mem_filter, List.mem_append, List.mem_append, mem_besideBound,
    or_assoc, List.mem_singleton, ← mem_expectedCapabilities]
  refine and_congr_left fun plain => or_congr_right ?_
  constructor
  · intro bound
    obtain ⟨kind, suffix, -, rfl⟩ := exists_of_mem_boundCapabilities bound
    rw [CapabilityKind.startsWith_processor, Bool.not_eq_true', decide_eq_false_iff_not,
      not_not] at plain
    exact (same plain).mp bound
  · intro expected
    obtain ⟨kind, suffix, rfl⟩ := exists_of_mem_expectedCapabilities expected
    rw [CapabilityKind.startsWith_processor, Bool.not_eq_true', decide_eq_false_iff_not,
      not_not] at plain
    exact (same plain).mpr expected

/-- The capabilities of a requirement satisfy the grammar, when its identity does. -/
theorem grammatical_of_mem_boundCapabilities (nameable : Nameable requirement)
    (token : ∀ identity ∈ requirement.identity, Suffix .identity (encodeIdentityToken identity))
    {capability : String} (member : capability ∈ boundCapabilities requirement) :
    Grammatical capability := by
  obtain ⟨kind, suffix, other, rfl⟩ := exists_of_mem_boundCapabilities member
  have names := lead_append_mem_boundCapabilities.mp member
  apply Suffix.grammatical
  cases kind with
  | architecture =>
      cases named : requirement.architecture with
      | arm64 =>
          rw [ProcessorRequirement.NamesSuffix, named] at names
          obtain rfl : "arm64" = suffix := String.append_right_inj "architecture." |>.mp names
          exact ⟨by decide, by decide⟩
      | x86_64 =>
          rw [ProcessorRequirement.NamesSuffix, named] at names
          obtain rfl : "x86-64" = suffix := String.append_right_inj "architecture." |>.mp names
          exact ⟨by decide, by decide⟩
  | feature =>
      obtain ⟨feature, listed, rfl⟩ := names
      exact (nameable.feature feature listed).suffix
  | identity =>
      obtain ⟨identity, given, rfl⟩ := names
      exact token identity given
  | osState =>
      obtain ⟨state, listed, rfl⟩ := names
      exact (nameable.state state listed).suffix
  | reduction => exact absurd rfl other
  | requirement =>
      obtain rfl := names
      exact suffix_digestSuffix _

theorem grammatical_reductionCapability (receipt : ProcessorReductionReceipt) :
    Grammatical (reductionCapability receipt) :=
  (suffix_digestSuffix _).grammatical

/-- The Runtime accepts a part of what was sealed when its receipt explains the rest. -/
theorem acceptedReduction_of_part
    (validSealed : { capsule with requiredCapabilities := besideBound others requirement }.Valid)
    (validAdmitted :
      { capsule with requiredCapabilities := besideReduced others part receipt }.Valid)
    (foreign : Foreign others) (valid : part.Valid) (nameable : Nameable part)
    (validReceipt : receipt.validate = .ok ())
    (final : receipt.finalRequirementDigest = Digest.of (Canonical.text part))
    (architecture : part.architecture = requirement.architecture)
    (declared : ∀ kind suffix, CapabilityKind.declarable kind = true →
      part.NamesSuffix kind suffix → requirement.NamesSuffix kind suffix)
    (gone : ∀ kind suffix, CapabilityKind.declarable kind = true →
      requirement.NamesSuffix kind suffix → ¬ part.NamesSuffix kind suffix →
        ∃ label, removedConstraintForCapability (kind.lead ++ suffix) = some label ∧
          removedOrTaken label receipt.removedConstraints)
    (trials : ∀ trial ∈ receipt.trials, ∃ constraint : ProcessorConstraint,
      trial.testedConstraint = constraint.label ∧ SpellableConstraint constraint ∧
        (trial.decision = .removed → ¬ SpelledIn part constraint) ∧
          (trial.decision = .retained → SpelledIn part constraint)) :
    AcceptedReduction { capsule with requiredCapabilities := besideBound others requirement }
      { capsule with requiredCapabilities := besideReduced others part receipt } part receipt where
  validSealed := validSealed
  validAdmitted := validAdmitted
  validRequirement := valid
  nameable := nameable
  validReceipt := validReceipt
  final := final
  stripped := by
    rw [stripProcessorCapabilities, stripProcessorCapabilities,
      @filter_besideBound_eq _ requirement part receipt others architecture]
  expected := filter_besideReduced foreign
  declared := by
    intro capability expected host
    obtain ⟨kind, suffix, declarable, rfl⟩ := CapabilityKind.of_hostProcessorRequirement host
    have names := (lead_append_mem_expectedCapabilities declarable).mp expected
    exact mem_besideBound.mpr
      (.inr (lead_append_mem_boundCapabilities.mpr (declared kind suffix declarable names)))
  gone := by
    intro capability sealed host absent
    obtain ⟨kind, suffix, declarable, rfl⟩ := CapabilityKind.of_hostProcessorRequirement host
    rw [lead_append_mem_expectedCapabilities declarable] at absent
    rcases mem_besideBound.mp sealed with other | bound
    · exact absurd other (lead_append_not_mem foreign kind suffix)
    · exact gone kind suffix declarable (lead_append_mem_boundCapabilities.mp bound) absent
  trials := by
    intro trial member
    obtain ⟨constraint, label, spellable, removed, retained⟩ := trials trial member
    classical
    refine ⟨decide (SpelledIn part constraint), ?_, ?_, ?_⟩
    · rw [label, constraintPresent_label]
      exact ⟨spellable, decide_eq_true_iff⟩
    · rintro ⟨decision, present⟩
      exact removed decision (of_decide_eq_true present)
    · rintro ⟨decision, absent⟩
      exact of_decide_eq_false absent (retained decision)

end Reproit
