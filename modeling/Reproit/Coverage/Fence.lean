/-
# A verified automatic capture is fenced

The fence of an accepted capture stands in front of the failure and the terminal record,
so every observation comes before it.  It signs for exactly these observations, each with
an owner, and it lists, as its closure and the policy do, the seven boundaries of the
observation classes.
-/

import Reproit.Backend.Sample
import Reproit.Core.AutomaticCapture

namespace Reproit

/-! ## The seven boundaries -/

/-- The boundaries of the observation classes, in order. -/
def classBoundaries : List String :=
  AutomaticObservationClass.all.map AutomaticObservationClass.boundaryId

theorem pairwise_classBoundaries : classBoundaries.Pairwise (· < ·) := by
  decide

theorem AutomaticObservationClass.mem_all (observed : AutomaticObservationClass) :
    observed ∈ all := by
  cases observed <;> decide

/-- The ownerships come in order, each at the boundary of its class. -/
theorem ordered_of_validateOwnerships {ownerships : List SemanticAdapterOwnership}
    {previous : Option String} {identities : List (String × String × Digest)}
    (valid : validateOwnerships previous identities ownerships = .ok ()) :
    (∀ ownership ∈ ownerships, ownership.boundaryId = ownership.observationClass.boundaryId ∧
      ∀ prior ∈ previous, prior < ownership.boundaryId) ∧
    (ownerships.map SemanticAdapterOwnership.boundaryId).Pairwise (· < ·) := by
  induction ownerships generalizing previous identities with
  | nil => exact ⟨nofun, List.Pairwise.nil⟩
  | cons ownership rest ih =>
      simp only [validateOwnerships, bind_eq_ok, rejectIf_eq_ok, not_not] at valid
      obtain ⟨_, -, _, named, _, after, _, -, later⟩ := valid
      obtain ⟨others, ordered⟩ := ih later
      have first : ∀ prior ∈ previous, prior < ownership.boundaryId := by
        intro prior here
        rw [Option.mem_def.mp here] at after
        simpa using after
      refine ⟨fun other member => ?_, ?_⟩
      · rcases List.mem_cons.mp member with rfl | listed
        · exact ⟨named, first⟩
        · obtain ⟨sameName, above⟩ := others other listed
          exact ⟨sameName, fun prior here => (first prior here).trans (above _ rfl)⟩
      · rw [List.map_cons, List.pairwise_cons]
        refine ⟨fun boundary member => ?_, ordered⟩
        obtain ⟨other, listed, rfl⟩ := List.mem_map.mp member
        exact (others other listed).2 _ rfl

/-- The ownerships list the boundary of every class and no other, and the receipts of the
closure do so too. -/
theorem boundaries_of_validateOwnership {ownerships : List SemanticAdapterOwnership}
    {closure : WorldClosure} (valid : validateOwnership ownerships closure = .ok ()) :
    (∀ ownership ∈ ownerships, ownership.boundaryId = ownership.observationClass.boundaryId) ∧
      ownerships.map SemanticAdapterOwnership.boundaryId = classBoundaries ∧
      closure.receipts.map ClosureReceipt.boundaryId = classBoundaries := by
  simp only [validateOwnership, bind_eq_ok, rejectIf_eq_ok, forEach_eq_ok, not_or, not_not,
    not_exists, not_and] at valid
  obtain ⟨_, -, _, checked, _, complete, _, length, receipts⟩ := valid
  obtain ⟨named, ordered⟩ := ordered_of_validateOwnerships checked
  have exactly : ownerships.map SemanticAdapterOwnership.boundaryId = classBoundaries := by
    apply List.Pairwise.eq_of_mem_iff ordered pairwise_classBoundaries
    intro boundary
    constructor
    · intro member
      obtain ⟨ownership, listed, rfl⟩ := List.mem_map.mp member
      rw [(named ownership listed).1]
      exact List.mem_map_of_mem (AutomaticObservationClass.mem_all _)
    · intro member
      obtain ⟨observed, listed, rfl⟩ := List.mem_map.mp member
      obtain ⟨ownership, owned, same⟩ := List.mem_map.mp (complete observed listed)
      rw [← same, ← (named ownership owned).1]
      exact List.mem_map_of_mem owned
  have paired : List.Forall₂ (fun ownership receipt =>
      receipt.boundaryId = ownership.boundaryId) ownerships closure.receipts :=
    List.forall₂_iff_zip.mpr ⟨length.symm, fun member => (receipts _ member).1.symm⟩
  refine ⟨fun ownership listed => (named ownership listed).1, exactly, ?_⟩
  rw [map_eq_of_pairing (fun _ _ same => same) paired]
  exact exactly

/-! ## The records -/

/-- The first record that is found is the third from the end. -/
theorem split_at_third {α : Type} {records : List α} {select : α → Bool} {index : Nat}
    (found : records.findIdx? select = some index) (third : index + 2 = records.length - 1) :
    ∃ before fence failure terminal, records = before ++ [fence, failure, terminal] ∧
      before.length = index ∧ (∀ record ∈ before, select record = false) := by
  rw [List.findIdx?_eq_some_iff_getElem] at found
  obtain ⟨inside, -, earlier⟩ := found
  have length : (records.drop index).length = 3 := by
    rw [List.length_drop]
    omega
  obtain ⟨fence, failure, terminal, rest⟩ := List.length_eq_three.mp length
  refine ⟨records.take index, fence, failure, terminal, ?_, ?_, ?_⟩
  · rw [← rest, List.take_append_drop]
  · rw [List.length_take, Nat.min_eq_left inside.le]
  · intro record member
    obtain ⟨place, here, rfl⟩ := List.mem_iff_getElem.mp member
    rw [List.length_take] at here
    rw [List.getElem_take]
    exact Bool.eq_false_iff.mpr (earlier place (by omega))

variable [Primitives]

/-- The capture is fenced: its last three records are the fence, the failure and the
terminal record, and the fence signs for exactly the observations before it. -/
structure Fenced (candidate : Candidate) (policy : ClosurePolicy)
    (fence : NativeObservationFenceReceipt) (observations : List AutomaticObservationPayload) :
    Prop where
  records : ∃ before fenceRecord failureRecord terminalRecord,
    candidate.records = before ++ [fenceRecord, failureRecord, terminalRecord] ∧
      (∀ record ∈ before, record.kind ≠ .observationFence) ∧
      fenceRecord.kind = .observationFence ∧ failureRecord.kind = .failure ∧
      terminalRecord.kind = .terminal ∧
      recordPayload NativeObservationFenceReceipt fenceRecord = .ok fence
  listed : List.Forall₂ (fun record observation =>
      recordPayload AutomaticObservationPayload record = .ok observation)
    (candidate.records.filter fun record => record.kind = .observation) observations
  numbered : ∀ (index : Nat) observation, observations[index]? = some observation →
    observation.observationSequence.toNat = index
  operation : ∀ observation ∈ observations, observation.operationId = candidate.operationId
  owned : ∀ observation ∈ observations,
    observation.boundaryId = observation.observationClass.boundaryId ∧
      ∃ ownership ∈ fence.adapterOwnership,
        observation.ownerAdapterId = some ownership.adapterId ∧
        ownership.observationClass = observation.observationClass ∧
        ownership.boundaryId = observation.boundaryId
  count : fence.observationCount.toNat = observations.length
  digest : Canonical.digest observations = .ok fence.observationsDigest
  complete : fence.unownedObservationCount = 0 ∧ fence.droppedObservationCount = 0 ∧
    fence.overflowed = false
  ownerships : fence.adapterOwnership.map SemanticAdapterOwnership.boundaryId = classBoundaries
  receipts : fence.worldClosure.receipts.map ClosureReceipt.boundaryId = classBoundaries
  rules : policy.rules.map ClosureRule.boundaryId = classBoundaries

omit [Primitives] in
/-- What the records of an accepted capture are. -/
theorem automaticRecords_eq_ok {candidate : Candidate} {found : AutomaticRecords}
    (read : automaticRecords candidate = .ok found)
    (kinds : Candidate.validRecordKinds candidate.records) :
    ∃ before fenceRecord failureRecord terminalRecord,
      candidate.records = before ++ [fenceRecord, failureRecord, terminalRecord] ∧
        (∀ record ∈ before, record.kind ≠ .observationFence) ∧
        fenceRecord.kind = .observationFence ∧ failureRecord.kind = .failure ∧
        terminalRecord.kind = .terminal ∧
        recordPayload NativeObservationFenceReceipt fenceRecord = .ok found.fence ∧
        List.Forall₂ (fun record observation =>
            recordPayload AutomaticObservationPayload record = .ok observation)
          (candidate.records.filter fun record => record.kind = .observation)
          found.observations := by
  simp only [automaticRecords, bind_eq_ok, okOr_eq_ok, rejectIf_eq_ok, pure_eq_ok, not_or,
    not_not] at read
  obtain ⟨_, -, _, -, index, position, _, ⟨third, followed, -⟩, fenceRecord, there, fence, fenced,
    observations, collected, rfl⟩ := read
  rw [collect_eq_ok] at collected
  obtain ⟨before, first, failureRecord, terminalRecord, split, length, others⟩ :=
    split_at_third position third
  have fenceAt : candidate.records[index]? = some first := by
    rw [split, ← length, List.getElem?_append_right (Nat.le_refl _), Nat.sub_self]
    rfl
  have failureAt : candidate.records[index + 1]? = some failureRecord := by
    rw [split, ← length, List.getElem?_append_right (Nat.le_succ _), Nat.succ_sub (Nat.le_refl _),
      Nat.sub_self]
    rfl
  obtain rfl : first = fenceRecord := Option.some.inj (fenceAt.symm.trans there)
  have fenceKind : first.kind = .observationFence := by
    obtain ⟨inside, selected, -⟩ := List.findIdx?_eq_some_iff_getElem.mp position
    rw [List.getElem?_eq_getElem inside] at fenceAt
    rw [Option.some.inj fenceAt, decide_eq_true_eq] at selected
    exact selected
  have failureKind : failureRecord.kind = .failure := by
    rw [failureAt, Option.map_some] at followed
    exact Option.some.inj followed
  have terminalKind : terminalRecord.kind = .terminal := by
    have last := kinds.2.1
    rw [split, List.getLast?_append, List.getLast?_cons_cons, List.getLast?_cons_cons,
      List.getLast?_singleton, Option.some_or, Option.map_some] at last
    exact Option.some.inj last
  refine ⟨before, first, failureRecord, terminalRecord, split, fun record member => ?_, fenceKind,
    failureKind, terminalKind, fenced, ?_⟩
  · exact of_decide_eq_false (others record member)
  · have taken : candidate.records.take index = before := by
      rw [split, ← length, List.take_left]
    rw [taken] at collected
    rw [split, List.filter_append]
    have none : [first, failureRecord, terminalRecord].filter
        (fun record => record.kind = .observation) = [] := by
      simp [fenceKind, failureKind, terminalKind]
    rw [none, List.append_nil]
    exact collected

omit [Primitives] in
theorem validateScope_eq_ok {candidate : Candidate} {begin' : OperationBeginPayload}
    {observations : List AutomaticObservationPayload}
    (valid : validateScope candidate begin' observations = .ok ()) :
    ∀ (index : Nat) observation, observations[index]? = some observation →
      observation.observationSequence.toNat = index ∧
        observation.operationId = candidate.operationId := by
  simp only [validateScope, forEach_eq_ok, bind_eq_ok, rejectIf_eq_ok, not_or, not_not] at valid
  intro index observation there
  obtain ⟨_, numbered, operation, -⟩ := valid (observation, index)
    (List.mem_zipIdx_iff_getElem?.mpr there)
  exact ⟨numbered, operation⟩

omit [Primitives] in
theorem validateObservationOwners_eq_ok {observations : List AutomaticObservationPayload}
    {ownerships : List SemanticAdapterOwnership}
    (valid : validateObservationOwners observations ownerships = .ok ()) :
    ∀ observation ∈ observations, ∃ ownership ∈ ownerships,
      observation.ownerAdapterId = some ownership.adapterId ∧
        ownership.observationClass = observation.observationClass ∧
        ownership.boundaryId = observation.boundaryId := by
  simp only [validateObservationOwners, forEach_eq_ok, bind_eq_ok, okOr_eq_ok, rejectIf_eq_ok,
    not_not] at valid
  intro observation member
  obtain ⟨adapterId, owner, ownership, listed, rfl, boundary, observed⟩ := valid observation member
  exact ⟨ownership, listed, owner, observed, boundary⟩

/-- An automatic capture that is verified is fenced, by the fence that it carries. -/
theorem verified_is_fenced {candidate : Candidate} {policy : ClosurePolicy} {signer : String}
    {key : SecretKey} (verified : verifyAutomaticCapture candidate policy signer key = .ok ()) :
    ∃ fence observations, Fenced candidate policy fence observations := by
  simp only [verifyAutomaticCapture, bind_eq_ok, rejectIf_eq_ok, not_not] at verified
  obtain ⟨_, valid, ⟨begin', fence, observations⟩, read, _, scope, _, binding, _, closed, -⟩ :=
    verified
  have kinds := (Candidate.validate_eq_ok.mp valid).kinds
  obtain ⟨before, fenceRecord, failureRecord, terminalRecord, split, others, fenceKind,
    failureKind, terminalKind, carried, listed⟩ := automaticRecords_eq_ok read kinds
  dsimp only at scope binding closed carried listed
  have numbered := validateScope_eq_ok scope
  simp only [validateFenceBinding, bind_eq_ok, rejectIf_eq_ok, not_or, not_not, Bool.not_eq_true]
    at binding
  obtain ⟨_, fenceValid, _, -, _, -, _, -, _, -, _, ⟨count, unowned⟩, digest, written, _, same, _,
    ⟨overflowed, dropped, none⟩, owners⟩ := binding
  simp only [NativeObservationFenceReceipt.validate, bind_eq_ok] at fenceValid
  obtain ⟨_, -, _, -, _, -, ownerships⟩ := fenceValid
  obtain ⟨named, boundaries, receipts⟩ := boundaries_of_validateOwnership ownerships
  have owned := validateObservationOwners_eq_ok owners
  have closes := validateWorldClosure_eq_ok.mp closed
  refine ⟨fence, observations, ?_⟩
  constructor
  case records =>
    exact ⟨before, fenceRecord, failureRecord, terminalRecord, split, others, fenceKind,
      failureKind, terminalKind, carried⟩
  case listed => exact listed
  case numbered => exact fun index observation there => (numbered index observation there).1
  case operation =>
    intro observation member
    obtain ⟨index, there⟩ := List.mem_iff_getElem?.mp member
    exact (numbered index observation there).2
  case owned =>
    intro observation member
    obtain ⟨ownership, held, owner, observed, boundary⟩ := owned observation member
    refine ⟨?_, ownership, held, owner, observed, boundary⟩
    rw [← boundary, ← observed]
    exact named ownership held
  case count => exact count
  case digest =>
    rw [same]
    exact written
  case complete =>
    rw [none] at unowned
    exact ⟨UInt16.toNat_inj.mp unowned, dropped, overflowed⟩
  case ownerships => exact boundaries
  case receipts => exact receipts
  case rules =>
    rw [← receipts]
    exact (map_eq_of_pairing (fun _ _ held => held.1.symm) closes.receipts).symm

/-! ## A capture without observations -/

namespace FenceSample

open Backend

def policy : ClosurePolicy where
  format := .v1
  rules := AutomaticObservationClass.all.map fun observed =>
    { allowedMechanisms := [.blocked]
      boundaryId := observed.boundaryId
      observationClass := observed.closureClass }

def closure : WorldClosure where
  format := .v1
  policyDigest := Digest.of (Canonical.text policy)
  receipts := AutomaticObservationClass.all.map fun observed =>
    { boundaryId := observed.boundaryId
      evidenceDigest := ⟨0⟩
      mechanism := .blocked
      observationClass := observed.closureClass
      version := 1 }

def observations : List AutomaticObservationPayload := []

/-- The fence with a signature text. -/
def fenceWith (signature : String) : NativeObservationFenceReceipt where
  adapterOwnership := AutomaticObservationClass.all.map fun observed =>
    { adapterId := "native"
      adapterVersion := "1"
      boundaryId := observed.boundaryId
      implementationDigest := ⟨0⟩
      observationClass := observed }
  deploymentDigest := Digest.of (Canonical.text Sample.deployment)
  droppedObservationCount := 0
  fenceId := "fence"
  fenceVersion := "1"
  format := .v1
  observationCount := 0
  observationsDigest := Digest.of (Canonical.text observations)
  operationId := Sample.id 0
  overflowed := false
  signature := signature
  signerKeyId := "key"
  subjectDigest := Digest.of (Canonical.text Sample.subject)
  unownedObservationCount := 0
  worldClosure := closure

def key : SecretKey := .replicate 32 0

/-- What the checksum of the key and the unsigned fence signs. -/
def signature : Vector UInt8 64 :=
  Sample.numberBytes 64 (Sample.checksum (key.toList ++ Canonical.text (fenceWith "")))

def fence : NativeObservationFenceReceipt := fenceWith (encodeBase64Url signature.toList)

def terminal : TerminalPayload where
  complete := true
  eventCount := 3
  format := .v1

def candidate : Candidate :=
  { Sample.candidate ⟨0⟩ with
    records := [Sample.record .begin' 0 Sample.beginPayload,
      Sample.record .observationFence 1 fence, Sample.record .failure 2 Sample.failure,
      Sample.record .terminal 3 terminal] }

omit [Primitives] in
theorem validate_policy : policy.validate = .ok () := by
  decide

theorem validate_closure : closure.validate = .ok () := by
  apply WorldClosure.validate_eq_ok.mpr
  constructor
  case nonempty => simp [closure, AutomaticObservationClass.all]
  case few => simp [closure, AutomaticObservationClass.all]
  case ordered =>
    show (List.map _ (List.map _ _)).Pairwise _
    rw [List.map_map]
    exact pairwise_classBoundaries
  case boundary =>
    intro receipt member
    obtain ⟨observed, -, rfl⟩ := List.mem_map.mp member
    cases observed <;> decide
  case version =>
    intro receipt member
    obtain ⟨observed, -, rfl⟩ := List.mem_map.mp member
    have one : (1 : UInt64) ≠ 0 ∧ (1 : UInt64).toNat ≤ maxExactInteger := by decide
    exact one

theorem validateWorldClosure_sample : validateWorldClosure policy closure = .ok () := by
  apply validateWorldClosure_eq_ok.mpr
  constructor
  case validPolicy => exact ClosurePolicy.validate_eq_ok.mp validate_policy
  case validClosure => exact WorldClosure.validate_eq_ok.mp validate_closure
  case digest => exact Canonical.digest_of_exact policy.exact
  case receipts =>
    apply List.forall₂_iff_zip.mpr
    refine ⟨by simp [policy, closure], fun {rule receipt} member => ?_⟩
    obtain ⟨observed, -, same⟩ : ∃ observed ∈ AutomaticObservationClass.all, _ := by
      rw [policy, closure, List.zip_map'] at member
      exact List.mem_map.mp member
    obtain ⟨rfl, rfl⟩ := Prod.mk.inj same
    exact ⟨rfl, rfl, List.mem_singleton_self _⟩

theorem exact_fence (signature : String) : Document.Exact (fenceWith signature) := by
  have closed : WorldClosure.codec.exact closure = true := WorldClosure.exact validate_closure
  show NativeObservationFenceReceipt.codec.exact (fenceWith signature) = true
  simp [NativeObservationFenceReceipt.codec, SemanticAdapterOwnership.codec, Format.codec,
    Digest.codec, TypedId.codec, AutomaticObservationClass.codec, fenceWith, closed]

/-- The signature is all that the size of the fence depends on. -/
theorem size_fence (signature : String) :
    NativeObservationFenceReceipt.codec.size (fenceWith signature) + Json.stringSize "" =
      NativeObservationFenceReceipt.codec.size (fenceWith "") + Json.stringSize signature := by
  simp only [NativeObservationFenceReceipt.codec, fenceWith, Codec.size_record,
    Fields.size_required, Fields.size_done, Codec.size_string]
  omega

theorem length_text_fence {signature : String} (size : signature.utf8ByteSize = 86) :
    (Canonical.text (fenceWith signature)).length ≤ 65536 := by
  rw [Canonical.length_text]
  show NativeObservationFenceReceipt.codec.size (fenceWith signature) ≤ 65536
  have signed := Json.stringSize_le signature
  have same := size_fence signature
  have unsigned : NativeObservationFenceReceipt.codec.size (fenceWith "") ≤ 60000 := by
    simp only [NativeObservationFenceReceipt.codec, SemanticAdapterOwnership.codec, Digest.codec,
      WorldClosure.codec, ClosureReceipt.codec, fenceWith, closure, AutomaticObservationClass.all,
      Codec.size_record, Codec.size_list, Codec.size_text, Fields.size_required,
      Fields.size_done, Digest.stringSize_toText, List.map_cons, List.map_nil]
    decide
  omega

theorem validate_fence : fence.validate = .ok () := by
  have length : (encodeBase64Url signature.toList).utf8ByteSize = 86 := by
    rw [utf8ByteSize_encodeBase64Url, Vector.length_toList]
  have texts : validComponent "fence" ∧ "1".isEmpty = false ∧ "1".utf8ByteSize ≤ 64 ∧
      "key".isEmpty = false ∧ "key".utf8ByteSize ≤ 256 := by decide
  have ownership : validateOwnership fence.adapterOwnership fence.worldClosure = .ok () := by
    rfl
  simp only [NativeObservationFenceReceipt.validate, bind_eq_ok, rejectIf_eq_ok]
  refine ⟨(), ?_, signature, decodeBase64Url_eq_ok.mpr rfl, (), validate_closure, ownership⟩
  simp [fence, fenceWith, length, texts]

theorem validate_candidate : candidate.validate = .ok () := by
  have size : (encodeBase64Url signature.toList).utf8ByteSize = 86 := by
    rw [utf8ByteSize_encodeBase64Url, Vector.length_toList]
  have terminalShort : (Canonical.text terminal).length ≤ 65536 := by
    rw [Canonical.length_text]
    decide
  have beginRead := @Sample.canonicalPayload_record _ _ .begin' 0 _
    Sample.beginPayload.exact Sample.length_text_begin
  have fenceRead := @Sample.canonicalPayload_record _ _ .observationFence 1 _
    (exact_fence (encodeBase64Url signature.toList)) (length_text_fence size)
  have failureRead := @Sample.canonicalPayload_record _ _ .failure 2 _
    Sample.failure.exact Sample.length_text_failure
  have terminalRead := @Sample.canonicalPayload_record _ _ .terminal 3 _
    terminal.exact terminalShort
  have beginParsed :=
    Canonical.parseStrict_bytes (Canonical.bytes_of_exact Sample.beginPayload.exact)
  have fenceParsed := Canonical.parseStrict_bytes
    (Canonical.bytes_of_exact (exact_fence (encodeBase64Url signature.toList)))
  have failureParsed := Canonical.parseStrict_bytes (Canonical.bytes_of_exact Sample.failure.exact)
  have terminalParsed := Canonical.parseStrict_bytes (Canonical.bytes_of_exact terminal.exact)
  simp only [Candidate.validate, bind_eq_ok, rejectIf_eq_ok, forEach_eq_ok, okOr_eq_ok, not_not,
    not_and]
  refine ⟨(), Sample.validate_deployment, (), rfl, (), rfl, (), by simp [candidate], (), ?_, (),
    ?_, (), ?_, _, rfl, _, beginRead, _, beginParsed, (), rfl,
    fun campaign => absurd campaign Bool.false_ne_true⟩
  · simp [candidate, Sample.record]
  · simp [candidate, Sample.record, Candidate.validRecordKinds]
  · simp only [candidate, List.forall_mem_cons, List.not_mem_nil, false_implies, implies_true,
      and_true]
    refine ⟨⟨_, beginRead, ?_⟩, ⟨_, fenceRead, ?_⟩, ⟨_, failureRead, ?_⟩, ⟨_, terminalRead, ?_⟩⟩
    · simp only [Sample.record, Candidate.validateRecord, bind_eq_ok]
      exact ⟨_, beginParsed, rfl⟩
    · simp only [Sample.record, Candidate.validateRecord, bind_eq_ok]
      exact ⟨_, fenceParsed, validate_fence⟩
    · simp only [Sample.record, Candidate.validateRecord, bind_eq_ok, rejectIf_eq_ok, not_not]
      exact ⟨_, failureParsed, (), Sample.validate_identity, (), rfl, (), rfl, _,
        Canonical.digest_of_exact Sample.identity.exact, rfl⟩
    · simp only [Sample.record, Candidate.validateRecord, bind_eq_ok, rejectIf_eq_ok]
      exact ⟨_, terminalParsed, by simp [terminal]⟩

omit [Primitives] in
/-- The record of a short document carries it. -/
theorem recordPayload_record {α : Type} [Document α] {kind : EventKind} {sequence : UInt16}
    {value : α} (exact : Document.Exact value) (short : (Canonical.text value).length ≤ 65536) :
    recordPayload α (Sample.record kind sequence value) = .ok value := by
  rw [recordPayload, Sample.canonicalPayload_record exact short]
  exact Canonical.parseStrict_bytes (Canonical.bytes_of_exact exact)

theorem automaticRecords_candidate :
    automaticRecords candidate = .ok { begin' := Sample.beginPayload, fence, observations } := by
  have size : (encodeBase64Url signature.toList).utf8ByteSize = 86 := by
    rw [utf8ByteSize_encodeBase64Url, Vector.length_toList]
  have begins : recordPayload OperationBeginPayload
      (Sample.record .begin' 0 Sample.beginPayload) = .ok Sample.beginPayload :=
    recordPayload_record Sample.beginPayload.exact Sample.length_text_begin
  have fences : recordPayload NativeObservationFenceReceipt
      (Sample.record .observationFence 1 fence) = .ok fence :=
    recordPayload_record (exact_fence _) (length_text_fence size)
  simp only [automaticRecords, bind_eq_ok, okOr_eq_ok, rejectIf_eq_ok, pure_eq_ok]
  exact ⟨_, rfl, _, begins, 1, by simp [candidate, Sample.record, List.findIdx?_cons], (),
    by simp [candidate, Sample.record], _, rfl, _, fences, [], rfl, rfl⟩

theorem validateFenceBinding_sample : validateFenceBinding candidate observations fence = .ok () := by
  have deploymentExact : Document.Exact Sample.deployment := by
    show Deployment.codec.exact Sample.deployment = true
    simp [Deployment.codec, Format.codec, TypedId.codec, ProcessingMode.codec, Timestamp.codec,
      Subject.exact]
  have observationsExact : Document.Exact observations := rfl
  simp only [validateFenceBinding, bind_eq_ok, rejectIf_eq_ok, not_or, not_not]
  exact ⟨(), validate_fence, _, Canonical.digest_of_exact deploymentExact, _,
    Canonical.digest_of_exact Sample.subject.exact, (), rfl, (), ⟨rfl, rfl⟩, (), ⟨rfl, rfl⟩, _,
    Canonical.digest_of_exact observationsExact, (), rfl, (), ⟨Bool.false_ne_true, rfl, rfl⟩, rfl⟩

end FenceSample

omit [Primitives] in
/-- The capture without observations. -/
theorem verified_is_fenced_sample :
    letI := Backend.Sample.primitives
    ∃ fence observations,
      Fenced FenceSample.candidate FenceSample.policy fence observations := by
  let _ := Backend.Sample.primitives
  have signed : verifySignedValue (Document.encode FenceSample.fence) FenceSample.key =
      .ok () := by
    apply @verifySignedValue_of_cleared _ _ _ FenceSample.fence (FenceSample.fenceWith "") _
      FenceSample.signature
    · apply signatureText_sortMembers (Fields.keys_encode_nodup (by decide) _)
      simp [FenceSample.fence, FenceSample.fenceWith, Codec.string, Codec.text]
    · apply clearSignature_sortMembers
      apply Fields.map_encode_of_rewrites
      simp [clearMember, FenceSample.fence, FenceSample.fenceWith, Codec.string, Codec.text]
    · exact FenceSample.exact_fence ""
    · rfl
    · exact decide_eq_true rfl
  apply @verified_is_fenced Backend.Sample.primitives FenceSample.candidate FenceSample.policy
    "key" FenceSample.key
  simp only [verifyAutomaticCapture, bind_eq_ok, rejectIf_eq_ok, not_not]
  exact ⟨(), FenceSample.validate_candidate, _, FenceSample.automaticRecords_candidate, (), rfl,
    (), FenceSample.validateFenceBinding_sample, (), FenceSample.validateWorldClosure_sample, (),
    rfl, signed⟩

end Reproit
