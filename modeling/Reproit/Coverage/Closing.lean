/-
# When capture coverage closes

A capture closes exactly when nothing was unowned, no receipt was refused and every rule
has one receipt that matches it.  The closure does not depend on the order of the
receipts, and the receipts of any closure that the policy accepts lead back to it.
-/

import Reproit.Core.CaptureCoverage
import Reproit.Core.Exactness
import Reproit.Backend.Managed
import Reproit.Backend.Sample
import Reproit.Data.Run

namespace Reproit

namespace CaptureCoverage

variable {policy : ClosurePolicy} {coverage : CaptureCoverage} {calls : List Call}

/-! ## One call -/

/-- The policy has a rule that the receipt matches. -/
def Wanted (policy : ClosurePolicy) (receipt : ClosureReceipt) : Prop :=
  ∃ rule ∈ policy.rules, receiptMatches rule receipt

theorem boundaryId_of_find? {rules : List ClosureRule} {boundaryId : String} {rule : ClosureRule}
    (found : rules.find? (fun rule => rule.boundaryId = boundaryId) = some rule) :
    rule ∈ rules ∧ rule.boundaryId = boundaryId := by
  have selected := List.find?_some found
  rw [decide_eq_true_eq] at selected
  exact ⟨List.mem_of_find?_eq_some found, selected⟩

/-- The rule of a boundary is the only one of its name. -/
theorem find?_eq_some (valid : policy.Valid) {boundaryId : String} {rule : ClosureRule} :
    policy.rules.find? (fun rule => rule.boundaryId = boundaryId) = some rule ↔
      rule ∈ policy.rules ∧ rule.boundaryId = boundaryId := by
  refine ⟨boundaryId_of_find?, fun ⟨member, named⟩ => ?_⟩
  have distinct : (policy.rules.map ClosureRule.boundaryId).Nodup := valid.ordered.imp ne_of_lt
  cases found : policy.rules.find? fun rule => rule.boundaryId = boundaryId with
  | none =>
      have missing := List.find?_eq_none.mp found rule member
      exact absurd (decide_eq_true named) missing
  | some other =>
      obtain ⟨listed, same⟩ := boundaryId_of_find? found
      rw [List.inj_on_of_nodup_map distinct listed member (same.trans named.symm)]

/-- A receipt is taken when a rule wants it and its boundary has none yet. -/
theorem record_of_wanted (valid : coverage.policy.Valid) {receipt : ClosureReceipt}
    (wanted : Wanted coverage.policy receipt) (fresh : receipt.boundaryId ∉ coverage.receipts) :
    record receipt coverage = .ok ()
      { coverage with receipts := coverage.receipts.insert receipt.boundaryId receipt } := by
  obtain ⟨rule, member, boundary, observed, allowed⟩ := wanted
  have found := (find?_eq_some valid).mpr ⟨member, boundary⟩
  have accepted : ¬ (rule.observationClass ≠ receipt.observationClass ∨
      receipt.mechanism ∉ rule.allowedMechanisms ∨ receipt.boundaryId ∈ coverage.receipts) := by
    rw [not_or, not_or, not_not, not_not]
    exact ⟨observed, allowed, fresh⟩
  rw [record, Update.get_bind, found]
  dsimp only
  rw [if_neg accepted]
  rfl

/-- Any other receipt is refused and makes the coverage invalid. -/
theorem record_of_unwanted (valid : coverage.policy.Valid) {receipt : ClosureReceipt}
    (refused : ¬ (Wanted coverage.policy receipt ∧ receipt.boundaryId ∉ coverage.receipts)) :
    record receipt coverage = .error worldNotClosed { coverage with coverageInvalid := true } := by
  rw [record, Update.get_bind]
  cases found : coverage.policy.rules.find? fun rule => rule.boundaryId = receipt.boundaryId with
  | none => rfl
  | some rule =>
      obtain ⟨member, boundary⟩ := (find?_eq_some valid).mp found
      have unwanted : rule.observationClass ≠ receipt.observationClass ∨
          receipt.mechanism ∉ rule.allowedMechanisms ∨
          receipt.boundaryId ∈ coverage.receipts := by
        by_contra accepted
        rw [not_or, not_or, not_not, not_not] at accepted
        obtain ⟨observed, allowed, fresh⟩ := accepted
        exact refused ⟨⟨rule, member, boundary, observed, allowed⟩, fresh⟩
      dsimp only
      rw [if_pos unwanted]
      rfl

/-- A call keeps the policy, and an invalid coverage stays invalid. -/
theorem next_frame (coverage : CaptureCoverage) (call : Call) :
    (coverage.next call).policy = coverage.policy ∧
      (coverage.coverageInvalid = true → (coverage.next call).coverageInvalid = true) := by
  cases call with
  | markUnowned => exact ⟨rfl, fun _ => rfl⟩
  | record receipt =>
      rw [CaptureCoverage.next, record, Update.get_bind]
      cases coverage.policy.rules.find? fun rule => rule.boundaryId = receipt.boundaryId with
      | none => exact ⟨rfl, fun _ => rfl⟩
      | some rule =>
          dsimp only
          by_cases unwanted : rule.observationClass ≠ receipt.observationClass ∨
              receipt.mechanism ∉ rule.allowedMechanisms ∨
              receipt.boundaryId ∈ coverage.receipts
          · rw [if_pos unwanted]
            exact ⟨rfl, fun _ => rfl⟩
          · rw [if_neg unwanted]
            exact ⟨rfl, id⟩

/-! ## A run of calls -/

/-- The calls leave the coverage valid: each hands in a receipt that is wanted, and no
boundary is handed in twice. -/
structure Accepted (policy : ClosurePolicy) (calls : List Call) : Prop where
  owned : Call.markUnowned ∉ calls
  wanted : ∀ receipt ∈ recorded calls, Wanted policy receipt
  once : ((recorded calls).map ClosureReceipt.boundaryId).Nodup

/-- A receipt under its boundary. -/
def entry (receipt : ClosureReceipt) : String × ClosureReceipt := (receipt.boundaryId, receipt)

theorem map_fst_entry (receipts : List ClosureReceipt) :
    (receipts.map entry).map Prod.fst = receipts.map ClosureReceipt.boundaryId := by
  rw [List.map_map]
  rfl

theorem recorded_append (first second : List Call) :
    recorded (first ++ second) = recorded first ++ recorded second :=
  List.filterMap_append

theorem recorded_records (receipts : List ClosureReceipt) :
    recorded (receipts.map .record) = receipts := by
  rw [recorded, List.filterMap_map]
  exact List.filterMap_some

theorem not_accepted_unowned : ¬ Accepted policy (calls ++ [.markUnowned]) := fun accepted =>
  accepted.owned (List.mem_append_right _ List.mem_cons_self)

theorem accepted_record {receipt : ClosureReceipt} :
    Accepted policy (calls ++ [.record receipt]) ↔ Accepted policy calls ∧
      Wanted policy receipt ∧
        receipt.boundaryId ∉ (recorded calls).map ClosureReceipt.boundaryId := by
  have last : recorded (calls ++ [.record receipt]) = recorded calls ++ [receipt] :=
    recorded_append calls [.record receipt]
  constructor
  · intro ⟨owned, wanted, once⟩
    rw [last] at wanted once
    rw [List.map_append, List.map_singleton, List.nodup_append_comm, List.singleton_append,
      List.nodup_cons] at once
    exact ⟨⟨fun member => owned (List.mem_append_left _ member),
      fun other member => wanted other (List.mem_append_left _ member), once.2⟩,
      wanted receipt (List.mem_append_right _ List.mem_cons_self), once.1⟩
  · intro ⟨⟨owned, wanted, once⟩, here, fresh⟩
    refine ⟨?_, ?_, ?_⟩
    · rw [List.mem_append, List.mem_singleton, not_or]
      exact ⟨owned, nofun⟩
    · intro other member
      rw [last, List.mem_append, List.mem_singleton] at member
      rcases member with earlier | rfl
      · exact wanted other earlier
      · exact here
    · rw [last, List.map_append, List.map_singleton, List.nodup_append_comm,
        List.singleton_append, List.nodup_cons]
      exact ⟨fresh, once⟩

/-- The coverage is the one after the calls. -/
structure Follows (policy : ClosurePolicy) (calls : List Call) (coverage : CaptureCoverage) :
    Prop where
  samePolicy : coverage.policy = policy
  valid : coverage.coverageInvalid = false ↔ Accepted policy calls
  receipts : Accepted policy calls →
    OrderedMap.insertAllNew ∅ ((recorded calls).map entry) = some coverage.receipts

theorem Follows.mem_receipts (follows : Follows policy calls coverage)
    (accepted : Accepted policy calls) {boundaryId : String} :
    boundaryId ∈ coverage.receipts ↔
      boundaryId ∈ (recorded calls).map ClosureReceipt.boundaryId := by
  have perm := (OrderedMap.toList_perm_of_inserted (follows.receipts accepted)).map Prod.fst
  rw [Std.ExtTreeMap.map_fst_toList_eq_keys, map_fst_entry] at perm
  rw [← Std.ExtTreeMap.mem_keys, perm.mem_iff]

/-- What a call does to the calls that were made. -/
theorem Follows.next (valid : policy.Valid) (follows : Follows policy calls coverage)
    (call : Call) : Follows policy (calls ++ [call]) (coverage.next call) := by
  obtain ⟨rfl, unspoilt, receipts⟩ := id follows
  cases call with
  | markUnowned =>
      exact ⟨rfl, ⟨fun same => absurd same.symm Bool.false_ne_true,
        fun accepted => absurd accepted not_accepted_unowned⟩,
        fun accepted => absurd accepted not_accepted_unowned⟩
  | record receipt =>
      by_cases taken : Wanted coverage.policy receipt ∧ receipt.boundaryId ∉ coverage.receipts
      · have written : coverage.next (.record receipt) = { coverage with
            receipts := coverage.receipts.insert receipt.boundaryId receipt } := by
          rw [CaptureCoverage.next, record_of_wanted valid taken.1 taken.2]
          rfl
        rw [written]
        refine ⟨rfl, ?_, ?_⟩
        · rw [accepted_record]
          constructor
          · intro still
            have accepted := unspoilt.mp still
            exact ⟨accepted, taken.1, fun member =>
              taken.2 ((follows.mem_receipts accepted).mpr member)⟩
          · exact fun both => unspoilt.mpr both.1
        · intro accepted
          have earlier := receipts (accepted_record.mp accepted).1
          have last : recorded (calls ++ [.record receipt]) = recorded calls ++ [receipt] :=
            recorded_append calls [.record receipt]
          rw [OrderedMap.insertAllNew] at earlier
          rw [last, List.map_append, OrderedMap.insertAllNew, List.foldlM_append, earlier]
          show OrderedMap.insertNew coverage.receipts receipt.boundaryId receipt >>= pure = _
          rw [bind_pure, OrderedMap.insertNew_eq_some]
          exact ⟨taken.2, rfl⟩
      · have refused : ¬ Accepted coverage.policy (calls ++ [.record receipt]) := by
          intro accepted
          obtain ⟨before, wanted, fresh⟩ := accepted_record.mp accepted
          exact taken ⟨wanted, fun member => fresh ((follows.mem_receipts before).mp member)⟩
        have spoilt : coverage.next (.record receipt) =
            { coverage with coverageInvalid := true } := by
          rw [CaptureCoverage.next, record_of_unwanted valid taken]
          rfl
        rw [spoilt]
        exact ⟨rfl, ⟨fun same => absurd same.symm Bool.false_ne_true,
          fun accepted => absurd accepted refused⟩,
          fun accepted => absurd accepted refused⟩

theorem Follows.run (valid : policy.Valid) {before : List Call}
    (follows : Follows policy before coverage) (calls : List Call) :
    Follows policy (before ++ calls) (coverage.run calls) := by
  induction calls generalizing before coverage with
  | nil =>
      rw [List.append_nil]
      exact follows
  | cons call rest ih =>
      have later := ih (follows.next valid call)
      rw [List.append_assoc, List.singleton_append] at later
      exact later

/-- Nothing was called yet. -/
theorem follows_new (opened : CaptureCoverage.new policy = .ok coverage) :
    policy.Valid ∧ Follows policy [] coverage := by
  simp only [CaptureCoverage.new, bind_eq_ok, pure_eq_ok] at opened
  obtain ⟨_, valid, rfl⟩ := opened
  refine ⟨ClosurePolicy.validate_eq_ok.mp valid, rfl, ⟨fun _ => ?_, fun _ => rfl⟩, fun _ => rfl⟩
  exact ⟨List.not_mem_nil, fun _ member => absurd member List.not_mem_nil, List.nodup_nil⟩

/-! ## Calls that succeed -/

theorem coverageInvalid_run (spoilt : coverage.coverageInvalid = true) (calls : List Call) :
    (coverage.run calls).coverageInvalid = true := by
  induction calls generalizing coverage with
  | nil => exact spoilt
  | cons call rest ih => exact ih ((coverage.next_frame call).2 spoilt)

/-- No call failed and nothing was unowned exactly when the coverage is still valid. -/
theorem succeeded_iff (valid : coverage.policy.Valid)
    (fresh : coverage.coverageInvalid = false) :
    (Call.markUnowned ∉ calls ∧
        EveryStep next (fun coverage call => coverage.answer call = .ok ()) coverage calls) ↔
      (coverage.run calls).coverageInvalid = false := by
  have owned : Call.markUnowned ∉ calls ↔ ∀ call ∈ calls, call ≠ .markUnowned :=
    ⟨fun missing call member same => missing (same ▸ member), fun all member => all _ member rfl⟩
  rw [owned, ← EveryStep.and_forall]
  have exactly : ∀ (state : CaptureCoverage) call, state.policy.Valid → state.coverageInvalid = false →
      ((call ≠ .markUnowned ∧ state.answer call = .ok ()) ↔
        (state.next call).coverageInvalid = false) := by
    intro state call valid fresh
    cases call with
    | markUnowned => exact ⟨fun held => absurd rfl held.1, nofun⟩
    | record receipt =>
        show _ ∧ Update.verdict (record receipt state) = _ ↔
          (Update.state (record receipt state)).coverageInvalid = false
        by_cases taken : Wanted state.policy receipt ∧ receipt.boundaryId ∉ state.receipts
        · rw [record_of_wanted valid taken.1 taken.2]
          exact ⟨fun _ => fresh, fun _ => ⟨nofun, rfl⟩⟩
        · rw [record_of_unwanted valid taken]
          exact ⟨nofun, nofun⟩
  have kept : ∀ (state : CaptureCoverage) call, state.policy.Valid →
      (state.next call).policy.Valid := by
    intro state call valid
    rw [(state.next_frame call).1]
    exact valid
  rw [EveryStep.iff_reached kept exactly valid fresh]
  constructor
  · intro reached
    exact reached calls [] (List.append_nil _).symm
  · intro last first second split
    by_contra spoilt
    have later := @coverageInvalid_run (first.foldl next coverage) (by simpa using spoilt) second
    rw [split, CaptureCoverage.run, List.foldl_append] at last
    rw [CaptureCoverage.run] at later
    rw [later] at last
    cases last

/-! ## Closing -/

variable [Primitives]

theorem close_eq_ok {closure : WorldClosure} :
    coverage.close = .ok closure ↔ coverage.coverageInvalid = false ∧
      coverage.receipts.size = coverage.policy.rules.length ∧
      closure.receipts = coverage.receipts.toList.map Prod.snd ∧
      ClosesWorld coverage.policy closure := by
  simp only [close, bind_eq_ok, rejectIf_eq_ok, pure_eq_ok, not_or, not_not, Bool.not_eq_true]
  constructor
  · rintro ⟨_, ⟨fresh, full⟩, policyDigest, digest, _, validated, same⟩
    subst same
    exact ⟨fresh, full, rfl, validateWorldClosure_eq_ok.mp validated⟩
  · rintro ⟨fresh, full, receipts, closes⟩
    obtain ⟨format, policyDigest, listed⟩ := closure
    cases format
    dsimp only at receipts
    subst receipts
    exact ⟨(), ⟨fresh, full⟩, _, closes.digest, (), validateWorldClosure_eq_ok.mpr closes, rfl⟩

/-- Calls that hand in the receipts of a closure, in any order, lead to that closure. -/
theorem closes_of_matched (opened : CaptureCoverage.new policy = .ok coverage)
    {closure : WorldClosure} (closes : ClosesWorld policy closure)
    (owned : Call.markUnowned ∉ calls) (handed : (recorded calls).Perm closure.receipts) :
    (coverage.run calls).close = .ok closure := by
  obtain ⟨valid, start⟩ := follows_new opened
  have follows := start.run valid calls
  rw [List.nil_append] at follows
  have accepted : Accepted policy calls := by
    refine ⟨owned, fun receipt member => ?_, ?_⟩
    · exact exists_source closes.receipts (handed.subset member)
    · rw [(handed.map _).nodup_iff]
      exact closes.validClosure.ordered.imp ne_of_lt
  have ordered : (closure.receipts.map entry).Pairwise fun first second => first.1 < second.1 := by
    rw [← List.pairwise_map, map_fst_entry]
    exact closes.validClosure.ordered
  have listed : (coverage.run calls).receipts.toList = closure.receipts.map entry :=
    OrderedMap.toList_of_ordered (OrderedMap.insertAllNew_perm (follows.receipts accepted)
      (handed.map _).symm) ordered
  rw [close_eq_ok, follows.samePolicy]
  refine ⟨follows.valid.mpr accepted, ?_, ?_, closes⟩
  · rw [← Std.ExtTreeMap.length_toList, listed, List.length_map, closes.receipts.length_eq]
  · rw [listed, List.map_map]
    exact (List.map_id _).symm

/-- What a closure of the coverage says about the calls. -/
theorem accepted_of_close (opened : CaptureCoverage.new policy = .ok coverage)
    {closure : WorldClosure} (closed : (coverage.run calls).close = .ok closure) :
    Accepted policy calls ∧ (recorded calls).Perm closure.receipts ∧
      ClosesWorld policy closure := by
  obtain ⟨valid, start⟩ := follows_new opened
  have follows := start.run valid calls
  rw [List.nil_append] at follows
  obtain ⟨fresh, -, receipts, closes⟩ := close_eq_ok.mp closed
  rw [follows.samePolicy] at closes
  have accepted := follows.valid.mp fresh
  have listed := (OrderedMap.toList_perm_of_inserted (follows.receipts accepted)).map Prod.snd
  rw [← receipts, List.map_map] at listed
  have same : (recorded calls).map (Prod.snd ∘ entry) = recorded calls := List.map_id _
  rw [same] at listed
  exact ⟨accepted, listed.symm, closes⟩

/-- Every boundary was owned once: nothing was unowned, no call failed, and every rule has
one receipt of its boundary, with its class, an allowed mechanism and a version in range. -/
structure OwnedOnce (coverage : CaptureCoverage) (calls : List Call) : Prop where
  owned : Call.markUnowned ∉ calls
  succeeded : EveryStep next (fun coverage call => coverage.answer call = .ok ()) coverage calls
  covered : ∀ rule ∈ coverage.policy.rules, ∃ receipt,
    (recorded calls).filter (fun receipt => receipt.boundaryId = rule.boundaryId) = [receipt] ∧
      receiptMatches rule receipt ∧ WorldClosure.VersionInRange receipt.version

omit [Primitives] in
/-- Only one receipt has the boundary. -/
theorem filter_boundaryId {receipts : List ClosureReceipt}
    (once : (receipts.map ClosureReceipt.boundaryId).Nodup) {receipt : ClosureReceipt}
    (member : receipt ∈ receipts) :
    receipts.filter (fun other => other.boundaryId = receipt.boundaryId) = [receipt] := by
  induction receipts with
  | nil => cases member
  | cons first rest ih =>
      rw [List.map_cons, List.nodup_cons] at once
      obtain ⟨alone, others⟩ := once
      rcases List.mem_cons.mp member with rfl | later
      · rw [List.filter_cons, if_pos (decide_eq_true rfl), List.filter_eq_nil_iff.mpr]
        intro other listed same
        exact alone (List.mem_map.mpr ⟨other, listed, of_decide_eq_true same⟩)
      · have apart : ¬ decide (first.boundaryId = receipt.boundaryId) = true := fun same =>
          alone (List.mem_map.mpr ⟨receipt, later, (of_decide_eq_true same).symm⟩)
        rw [List.filter_cons, if_neg apart, ih others later]

/-- The coverage closes exactly when every boundary was owned once. -/
theorem close_iff (opened : CaptureCoverage.new policy = .ok coverage) :
    (∃ closure, (coverage.run calls).close = .ok closure) ↔ OwnedOnce coverage calls := by
  obtain ⟨valid, start⟩ := follows_new opened
  have samePolicy := start.samePolicy
  subst samePolicy
  have fresh : coverage.coverageInvalid = false :=
    start.valid.mpr ⟨nofun, nofun, List.nodup_nil⟩
  have follows := start.run valid calls
  rw [List.nil_append] at follows
  constructor
  · intro ⟨closure, closed⟩
    obtain ⟨accepted, handed, closes⟩ := accepted_of_close opened closed
    obtain ⟨owned, succeeded⟩ := (succeeded_iff valid fresh).mpr (close_eq_ok.mp closed).1
    refine ⟨owned, succeeded, fun rule member => ?_⟩
    obtain ⟨receipt, listed, matched⟩ := exists_result closes.receipts member
    refine ⟨receipt, ?_, matched, closes.validClosure.version receipt listed⟩
    rw [matched.1]
    exact filter_boundaryId accepted.once (handed.symm.subset listed)
  · intro ⟨owned, succeeded, covered⟩
    have accepted := follows.valid.mp ((succeeded_iff valid fresh).mp ⟨owned, succeeded⟩)
    -- The receipts of the rules, in their order, are the ones that were handed in.
    obtain ⟨receipts, chosen⟩ := exists_pairing covered
    have matched : List.Forall₂ receiptMatches coverage.policy.rules receipts :=
      chosen.imp fun _ _ held => held.2.1
    have handed : ∀ receipt ∈ receipts, receipt ∈ recorded calls := by
      intro receipt member
      obtain ⟨rule, -, alone, -⟩ := exists_source chosen member
      exact List.mem_of_mem_filter (alone ▸ List.mem_cons_self)
    have boundaries : receipts.map ClosureReceipt.boundaryId =
        coverage.policy.rules.map ClosureRule.boundaryId :=
      map_eq_of_pairing (fun _ _ held => held.1.symm) matched
    have ordered : (receipts.map ClosureReceipt.boundaryId).Pairwise (· < ·) := by
      rw [boundaries]
      exact valid.ordered
    have perm : (recorded calls).Perm receipts := by
      have distinct : (receipts.map ClosureReceipt.boundaryId).Nodup := ordered.imp ne_of_lt
      refine (List.perm_ext_iff_of_nodup accepted.once.of_map distinct.of_map).mpr
        fun receipt => ⟨fun member => ?_, handed receipt⟩
      obtain ⟨rule, listed, matched⟩ := accepted.wanted receipt member
      obtain ⟨other, held, alone, -, -⟩ := exists_result chosen listed
      have same : receipt ∈ [other] := by
        rw [← alone]
        exact List.mem_filter.mpr ⟨member, decide_eq_true matched.1.symm⟩
      exact List.mem_singleton.mp same ▸ held
    have digest := Canonical.digest_of_exact coverage.policy.exact
    refine ⟨{ format := .v1, policyDigest := _, receipts }, closes_of_matched opened
      ⟨valid, ?_, digest, matched⟩ owned perm⟩
    constructor
    case nonempty =>
      intro empty
      dsimp only at empty
      rw [empty, List.forall₂_nil_right_iff] at matched
      exact valid.nonempty matched
    case few =>
      rw [← matched.length_eq]
      exact valid.few
    case ordered => exact ordered
    case boundary =>
      intro receipt member
      obtain ⟨rule, listed, held⟩ := exists_source matched member
      rw [← held.1]
      exact valid.boundary rule listed
    case version =>
      intro receipt member
      obtain ⟨rule, -, -, -, inRange⟩ := exists_source chosen member
      exact inRange

end CaptureCoverage

open Backend

/-- For a valid policy the coverage closes exactly when every boundary was owned once.  The
closure validates and is the same for every order of the calls, and the receipts of a
managed closure lead to that closure in every order. -/
theorem coverage_closes [Primitives] {policy : ClosurePolicy}
    (valid : policy.validate = .ok ()) :
    ∃ coverage, CaptureCoverage.new policy = .ok coverage ∧
      (∀ calls, (∃ closure, (coverage.run calls).close = .ok closure) ↔
        coverage.OwnedOnce calls) ∧
      (∀ calls closure, (coverage.run calls).close = .ok closure →
        validateWorldClosure policy closure = .ok () ∧
          ∀ order : List CaptureCoverage.Call, order.Perm calls →
            (coverage.run order).close = .ok closure) ∧
      ∀ evidence closure, closeManagedWorld policy evidence = .ok closure →
        ∀ order : List ClosureReceipt, order.Perm closure.receipts →
          (coverage.run (order.map .record)).close = .ok closure := by
  have opened : CaptureCoverage.new policy =
      .ok { policy, receipts := ∅, coverageInvalid := false } := by
    rw [CaptureCoverage.new, valid]
    rfl
  refine ⟨_, opened, fun calls => CaptureCoverage.close_iff opened, ?_, ?_⟩
  · intro calls closure closed
    obtain ⟨accepted, handed, closes⟩ := CaptureCoverage.accepted_of_close opened closed
    refine ⟨validateWorldClosure_eq_ok.mpr closes, fun order same => ?_⟩
    apply CaptureCoverage.closes_of_matched opened closes
    · exact fun member => accepted.owned (same.subset member)
    · exact (same.filterMap _).trans handed
  · intro evidence closure closed order same
    simp only [closeManagedWorld, bind_eq_ok, pure_eq_ok] at closed
    obtain ⟨_, -, receipts, -, policyDigest, -, _, validated, rfl⟩ := closed
    apply CaptureCoverage.closes_of_matched opened (validateWorldClosure_eq_ok.mp validated)
    · intro member
      obtain ⟨_, -, impossible⟩ := List.mem_map.mp member
      cases impossible
    · rw [CaptureCoverage.recorded_records]
      exact same

/-- The policy with one rule. -/
theorem coverage_closes_sample :
    letI := Sample.primitives
    ∃ coverage, CaptureCoverage.new Sample.policy = .ok coverage ∧
      ∀ calls, (∃ closure, (coverage.run calls).close = .ok closure) ↔
        coverage.OwnedOnce calls := by
  let _ := Sample.primitives
  obtain ⟨coverage, opened, closes, -⟩ := coverage_closes Sample.validate_policy
  exact ⟨coverage, opened, closes⟩

end Reproit
