/-
# The budget of a reduction

A policy limits the time and the output of one trial and of all trials.  What a trial may
use is what the earlier trials left, at most the limit of one trial.  A trial that used
more than it was given ends the reduction, so before every later visit the totals are the
exact sums of what was reported, and something is left of each of them.
-/

import Reproit.Processor.Sample

namespace Reproit

open Backend

/-! ## The three budgets -/

/-- What trials use up. -/
inductive TrialBudget
  | cpuMilliseconds
  | elapsedMilliseconds
  | outputBytes
  deriving DecidableEq

namespace TrialBudget

/-- What all trials together may use. -/
def total (policy : ProcessorReductionPolicy) : TrialBudget → UInt64
  | .cpuMilliseconds => policy.totalCpuMilliseconds
  | .elapsedMilliseconds => policy.totalElapsedMilliseconds
  | .outputBytes => policy.totalOutputBytes

/-- What one trial may use. -/
def limit (limits : ProcessorTrialLimits) : TrialBudget → UInt32
  | .cpuMilliseconds => limits.cpuMilliseconds
  | .elapsedMilliseconds => limits.elapsedMilliseconds
  | .outputBytes => limits.outputBytes

/-- What the reduction counted so far. -/
def used (usage : ProcessorUsage) : TrialBudget → UInt64
  | .cpuMilliseconds => usage.cpuMilliseconds
  | .elapsedMilliseconds => usage.elapsedMilliseconds
  | .outputBytes => usage.outputBytes

/-- What one trial reports. -/
def reported (result : ProcessorTrialResult) : TrialBudget → UInt64
  | .cpuMilliseconds => result.cpuMilliseconds
  | .elapsedMilliseconds => result.elapsedMilliseconds
  | .outputBytes => result.outputBytes

end TrialBudget

variable {policy : ProcessorReductionPolicy} {budget : TrialBudget}

/-- A policy that was accepted. -/
structure ProcessorReductionPolicy.Valid (policy : ProcessorReductionPolicy) : Prop where
  trials : policy.maximumTrials.toNat ≤ 16
  total : ∀ budget : TrialBudget, 0 < (budget.total policy).toNat
  limit : ∀ budget : TrialBudget, 0 < (budget.limit policy.trialLimits).toNat
  memory : policy.trialLimits.memoryBytes ≠ 0

theorem ProcessorReductionPolicy.valid_of_validate (accepted : policy.validate = .ok ()) :
    ProcessorReductionPolicy.Valid policy := by
  simp only [ProcessorReductionPolicy.validate, ProcessorTrialLimits.validate, bind_eq_ok,
    rejectIf_eq_ok, not_or] at accepted
  obtain ⟨_, ⟨-, trials, totalCpu, -, totalElapsed, -, totalOutput, -⟩, cpu, -, elapsed, -, memory,
    -, output, -⟩ := accepted
  have cpuPos : 0 < policy.trialLimits.cpuMilliseconds.toNat :=
    Nat.pos_of_ne_zero fun none => cpu (UInt32.toNat_inj.mp none)
  apply ProcessorReductionPolicy.Valid.mk
  · exact UInt8.le_iff_toNat_le.mp (UInt8.not_lt.mp trials)
  · intro budget
    apply Nat.pos_of_ne_zero
    intro none
    cases budget with
    | cpuMilliseconds => exact totalCpu (UInt64.toNat_inj.mp none)
    | elapsedMilliseconds => exact totalElapsed (UInt64.toNat_inj.mp none)
    | outputBytes => exact totalOutput (UInt64.toNat_inj.mp none)
  · intro budget
    cases budget with
    | cpuMilliseconds => exact cpuPos
    | elapsedMilliseconds =>
        exact cpuPos.trans_le (UInt32.le_iff_toNat_le.mp (UInt32.not_lt.mp elapsed))
    | outputBytes => exact Nat.pos_of_ne_zero fun none => output (UInt32.toNat_inj.mp none)
  · exact memory

/-! ## What is left of a total -/

theorem toNat_min (first second : UInt64) :
    (min first second).toNat = min first.toNat second.toNat := by
  change (if first ≤ second then first else second).toNat = _
  by_cases less : first ≤ second
  · rw [if_pos less, Nat.min_eq_left (UInt64.le_iff_toNat_le.mp less)]
  · rw [if_neg less, Nat.min_eq_right]
    exact UInt64.le_iff_toNat_le.mp (UInt64.le_of_lt (UInt64.not_le.mp less))

/-- The rest is converted without loss. -/
theorem remaining_eq_some {total used : UInt64} {limit rest : UInt32}
    (left : Backend.remaining total used limit = some rest) :
    used ≤ total ∧ rest ≠ 0 ∧ rest.toNat = min (total.toNat - used.toNat) limit.toNat := by
  unfold Backend.remaining at left
  dsimp only at left
  split_ifs at left with exceeded nothing
  have below := UInt64.not_lt.mp exceeded
  obtain rfl := Option.some.inj left
  have least : (min (total - used) limit.toUInt64).toNat =
      min (total.toNat - used.toNat) limit.toNat := by
    rw [toNat_min, UInt64.toNat_sub_of_le _ _ below, UInt32.toNat_toUInt64]
  have small : min (total.toNat - used.toNat) limit.toNat < 2 ^ 32 :=
    (Nat.min_le_right _ _).trans_lt limit.toNat_lt
  have exact' : (min (total - used) limit.toUInt64).toUInt32.toNat =
      min (total.toNat - used.toNat) limit.toNat := by
    rw [UInt64.toNat_toUInt32, least, Nat.mod_eq_of_lt small]
  refine ⟨below, ?_, exact'⟩
  intro zero
  rw [zero, ← least] at exact'
  exact nothing (UInt64.toNat_inj.mp exact'.symm)

theorem remaining_ne_none {total used : UInt64} {limit : UInt32} (below : used < total)
    (positive : 0 < limit.toNat) : Backend.remaining total used limit ≠ none := by
  rw [Backend.remaining, if_neg (UInt64.not_lt.mpr (UInt64.le_of_lt below))]
  dsimp only
  rw [if_neg]
  · exact Option.some_ne_none _
  · intro zero
    have least := congrArg UInt64.toNat zero
    rw [toNat_min, UInt64.toNat_sub_of_le _ _ (UInt64.le_of_lt below),
      UInt32.toNat_toUInt64] at least
    have less := UInt64.lt_iff_toNat_lt.mp below
    change min _ _ = 0 at least
    omega

theorem remainingTrialLimits_eq_some {used : ProcessorUsage} {limits : ProcessorTrialLimits}
    (left : remainingTrialLimits policy used = some limits) (budget : TrialBudget) :
    Backend.remaining (budget.total policy) (budget.used used) (budget.limit policy.trialLimits) =
      some (budget.limit limits) := by
  simp only [remainingTrialLimits, Option.bind_eq_bind, Option.bind_eq_some_iff, Option.pure_def,
    Option.some.injEq] at left
  obtain ⟨cpu, cpuLeft, elapsed, elapsedLeft, output, outputLeft, rfl⟩ := left
  cases budget with
  | cpuMilliseconds => exact cpuLeft
  | elapsedMilliseconds => exact elapsedLeft
  | outputBytes => exact outputLeft

theorem remainingTrialLimits_ne_none {used : ProcessorUsage}
    (left : ∀ budget : TrialBudget, Backend.remaining (budget.total policy) (budget.used used)
      (budget.limit policy.trialLimits) ≠ none) :
    remainingTrialLimits policy used ≠ none := by
  obtain ⟨cpu, cpuLeft⟩ := Option.ne_none_iff_exists'.mp (left .cpuMilliseconds)
  obtain ⟨elapsed, elapsedLeft⟩ := Option.ne_none_iff_exists'.mp (left .elapsedMilliseconds)
  obtain ⟨output, outputLeft⟩ := Option.ne_none_iff_exists'.mp (left .outputBytes)
  simp only [TrialBudget.total, TrialBudget.used, TrialBudget.limit] at cpuLeft elapsedLeft outputLeft
  simp [remainingTrialLimits, cpuLeft, elapsedLeft, outputLeft]

/-! ## The calls of the executor -/

/-- What the executor is called with for one trial. -/
structure TrialCall where
  position : Nat
  candidate : ProcessorRequirement
  limits : ProcessorTrialLimits
  deriving DecidableEq

variable (policy) (executor : ProcessorTrialExecutor) (requirement : ProcessorRequirement)

/-- What the executor answers to a call. -/
def TrialCall.report (call : TrialCall) : Result ProcessorTrialResult :=
  executor.executeTrial call.position call.candidate call.limits

/-- The call that a visit of a constraint makes, if it makes one. -/
def trialCall (visit : LoopVisit ProcessorConstraint ReductionState) : Option TrialCall :=
  let candidate := visit.item.removeFrom visit.before.reduced
  if visit.item.presentIn visit.before.reduced ∧
      visit.before.trials.length < policy.maximumTrials.toNat ∧
      dependencyBlocked visit.before.reduced visit.item = false ∧
      executor.canControl visit.position visit.item ∧ candidate.validate = .ok () then
    (remainingTrialLimits policy visit.before.used).map fun limits =>
      { position := visit.position, candidate, limits }
  else none

/-- What the trials of some calls used together. A call that fails reports nothing. -/
def spent (budget : TrialBudget) (calls : List TrialCall) : Nat :=
  (calls.map fun call =>
    match call.report executor with
    | .ok result => (budget.reported result).toNat
    | .error _ => 0).sum

variable [Primitives]

/-- The visits of a reduction, with the state before each of them. -/
def reductionVisits : List (LoopVisit ProcessorConstraint ReductionState) :=
  loopVisits (visitConstraint policy executor) 0 (constraints requirement)
    { reduced := requirement, trials := [], terminalReason := .complete, used := ⟨0, 0, 0⟩ }

/-- The calls of a reduction in order. -/
def trialCalls : List TrialCall :=
  (reductionVisits policy executor requirement).filterMap (trialCall policy executor)

variable {policy executor requirement} {position : Nat} {constraint : ProcessorConstraint}
  {before : ReductionState}

omit [Primitives] in
theorem trialCall_eq_some {visit : LoopVisit ProcessorConstraint ReductionState}
    {call : TrialCall} (made : trialCall policy executor visit = some call) :
    visit.before.trials.length < policy.maximumTrials.toNat ∧
      remainingTrialLimits policy visit.before.used = some call.limits := by
  unfold trialCall at made
  dsimp only at made
  split_ifs at made with reached
  obtain ⟨limits, left, rfl⟩ := Option.map_eq_some_iff.mp made
  exact ⟨reached.2.1, left⟩

omit [Primitives] in
theorem spent_append_singleton (calls : List TrialCall) (call : TrialCall) :
    spent executor budget (calls ++ [call]) =
      spent executor budget calls + spent executor budget [call] := by
  rw [spent, List.map_append, List.sum_append]
  rfl

omit [Primitives] in
theorem spent_singleton {call : TrialCall} {result : ProcessorTrialResult}
    (reported : call.report executor = .ok result) :
    spent executor budget [call] = (budget.reported result).toNat := by
  simp [spent, reported]

/-- A trial that goes on stayed within its limits and left something of each total. -/
theorem runTrial_eq_next {limits : ProcessorTrialLimits} {after : ReductionState}
    (ran : runTrial policy executor position constraint limits before = .ok (.next after)) :
    (constraint.removeFrom before.reduced).validate = .ok () ∧
      ∃ result,
        executor.executeTrial position (constraint.removeFrom before.reduced) limits = .ok result ∧
        WithinLimits result limits ∧
        (∀ budget : TrialBudget, budget.used after.used =
          saturatingAdd (budget.used before.used) (budget.reported result)) ∧
        aggregateLimitReason policy after.used = none := by
  simp only [runTrial, bind_eq_ok] at ran
  obtain ⟨_, valid, result, executed, reason, ended, digest, -, index, -, ran⟩ := ran
  split at ran
  next last ends => cases ran
  next goes =>
    obtain rfl := Flow.next.inj (Except.ok.inj ran)
    cases reason with
    | some reason => cases goes
    | none =>
        refine ⟨valid, result, executed, terminalReason_eq_none ended, ?_, goes⟩
        intro budget
        cases budget <;> rfl

omit [Primitives] in
theorem used_lt_total {used : ProcessorUsage} (left : aggregateLimitReason policy used = none)
    (budget : TrialBudget) : budget.used used < budget.total policy := by
  unfold aggregateLimitReason at left
  split_ifs at left with cpu elapsed output
  cases budget with
  | cpuMilliseconds => exact UInt64.not_le.mp cpu
  | elapsedMilliseconds => exact UInt64.not_le.mp elapsed
  | outputBytes => exact UInt64.not_le.mp output

omit [Primitives] in
theorem WithinLimits.reported_le {result : ProcessorTrialResult} {limits : ProcessorTrialLimits}
    (within : WithinLimits result limits) (budget : TrialBudget) :
    budget.reported result ≤ (budget.limit limits).toUInt64 := by
  cases budget with
  | cpuMilliseconds => exact within.cpu
  | elapsedMilliseconds => exact within.elapsed
  | outputBytes => exact within.output

/-- A visit that goes on made no call and used nothing, or made a call that stayed within its
limits. -/
theorem visitConstraint_eq_next {after : ReductionState}
    (ran : visitConstraint policy executor position constraint before = .ok (.next after)) :
    trialCall policy executor ⟨position, constraint, before⟩ = none ∧ after.used = before.used ∨
      ∃ call result, trialCall policy executor ⟨position, constraint, before⟩ = some call ∧
        call.report executor = .ok result ∧ WithinLimits result call.limits ∧
        (∀ budget : TrialBudget, budget.used after.used =
          saturatingAdd (budget.used before.used) (budget.reported result)) ∧
        aggregateLimitReason policy after.used = none := by
  rw [visitConstraint] at ran
  by_cases present : constraint.presentIn before.reduced = true
  · rw [if_neg (not_not.mpr present)] at ran
    by_cases full : before.trials.length ≥ policy.maximumTrials.toNat
    · rw [if_pos full] at ran
      cases ran
    rw [if_neg full] at ran
    by_cases skipped : dependencyBlocked before.reduced constraint = true ∨
        ¬ executor.canControl position constraint = true
    · left
      rw [if_pos skipped] at ran
      cases ran
      refine ⟨if_neg ?_, rfl⟩
      rintro ⟨_, _, free, controlled, _⟩
      rcases skipped with blocked | uncontrolled
      · exact absurd (blocked.symm.trans free) (by decide)
      · exact uncontrolled controlled
    · right
      rw [if_neg skipped] at ran
      rw [not_or, not_not, Bool.not_eq_true] at skipped
      cases left : remainingTrialLimits policy before.used with
      | none =>
          rw [left] at ran
          cases ran
      | some limits =>
          rw [left] at ran
          obtain ⟨valid, result, executed, within, used, goes⟩ := runTrial_eq_next ran
          refine ⟨⟨position, _, limits⟩, result, ?_, executed, within, used, goes⟩
          rw [trialCall, left]
          exact if_pos ⟨present, not_le.mp full, skipped.1, skipped.2, valid⟩
  · left
    rw [if_pos present] at ran
    cases ran
    exact ⟨if_neg fun reached => present reached.1, rfl⟩

/-! ## Only the calls count -/

/-- A visit depends on the executor by the answer to its call only. -/
theorem visitConstraint_congr {other : ProcessorTrialExecutor}
    (control : other.canControl = executor.canControl)
    (agree : ∀ call, trialCall policy executor ⟨position, constraint, before⟩ = some call →
      call.report executor = call.report other) :
    visitConstraint policy executor position constraint before =
      visitConstraint policy other position constraint before := by
  rw [visitConstraint, visitConstraint, control]
  by_cases present : constraint.presentIn before.reduced = true
  · rw [if_neg (not_not.mpr present), if_neg (not_not.mpr present)]
    by_cases full : before.trials.length ≥ policy.maximumTrials.toNat
    · rw [if_pos full, if_pos full]
    rw [if_neg full, if_neg full]
    by_cases skipped : dependencyBlocked before.reduced constraint = true ∨
        ¬ executor.canControl position constraint = true
    · rw [if_pos skipped, if_pos skipped]
    rw [if_neg skipped, if_neg skipped]
    rw [not_or, not_not, Bool.not_eq_true] at skipped
    cases left : remainingTrialLimits policy before.used with
    | none => rfl
    | some limits =>
        change runTrial policy executor position constraint limits before =
          runTrial policy other position constraint limits before
        rw [runTrial, runTrial]
        cases valid : (constraint.removeFrom before.reduced).validate with
        | error error => rfl
        | ok _ =>
            have same := agree ⟨position, _, limits⟩ (by
              rw [trialCall, left]
              exact if_pos ⟨present, not_le.mp full, skipped.1, skipped.2, valid⟩)
            simp only [TrialCall.report] at same
            simp only [ok_bind, same]
  · rw [if_pos present, if_pos present]

/-- Executors that give one answer to every call of a reduction give one result. -/
theorem reduceProcessorRequirements_congr {other : ProcessorTrialExecutor}
    (observation : ProcessorObservation) (control : other.canControl = executor.canControl)
    (agree : ∀ call ∈ trialCalls policy executor requirement,
      call.report executor = call.report other) :
    reduceProcessorRequirements policy executor observation requirement =
      reduceProcessorRequirements policy other observation requirement := by
  have same : runLoop (visitConstraint policy executor) 0 (constraints requirement)
      { reduced := requirement, trials := [], terminalReason := .complete, used := ⟨0, 0, 0⟩ } =
        runLoop (visitConstraint policy other) 0 (constraints requirement)
          { reduced := requirement, trials := [], terminalReason := .complete,
            used := ⟨0, 0, 0⟩ } := by
    apply runLoop_congr
    intro made listed
    apply visitConstraint_congr control
    intro call called
    exact agree call (List.mem_filterMap.mpr ⟨made, listed, called⟩)
  rw [reduceProcessorRequirements, reduceProcessorRequirements, same]

/-! ## What is counted -/

omit [Primitives] in
theorem toNat_saturatingAdd {first second : UInt64}
    (fits : first.toNat + second.toNat < 2 ^ 64) :
    (saturatingAdd first second).toNat = first.toNat + second.toNat := by
  rw [saturatingAdd, if_pos fits, UInt64.toNat_add, Nat.mod_eq_of_lt fits]

/-- What was counted is what the calls reported, and something is left of it. -/
structure Counted (policy : ProcessorReductionPolicy) (executor : ProcessorTrialExecutor)
    (calls : List TrialCall) (used : ProcessorUsage) : Prop where
  exactly : ∀ budget : TrialBudget, (budget.used used).toNat = spent executor budget calls
  left : ∀ budget : TrialBudget, budget.used used < budget.total policy

/-- The limit of a call in one budget, and the count behind it. -/
structure Funded (policy : ProcessorReductionPolicy) (executor : ProcessorTrialExecutor)
    (calls : List TrialCall) (used : ProcessorUsage) (call : TrialCall) (budget : TrialBudget) :
    Prop where
  nonzero : budget.limit call.limits ≠ 0
  left : spent executor budget calls + (budget.limit call.limits).toNat ≤
    (budget.total policy).toNat
  counted : (budget.used used).toNat = spent executor budget calls
  converted : (budget.limit call.limits).toNat =
    min ((budget.total policy).toNat - spent executor budget calls)
      (budget.limit policy.trialLimits).toNat
  added : ∀ result, call.report executor = .ok result →
    budget.reported result ≤ (budget.limit call.limits).toUInt64 →
      (saturatingAdd (budget.used used) (budget.reported result)).toNat =
        spent executor budget (calls ++ [call])

namespace Counted

variable {calls : List TrialCall} {used : ProcessorUsage}

omit [Primitives] in
theorem start (valid : ProcessorReductionPolicy.Valid policy) :
    Counted policy executor [] ⟨0, 0, 0⟩ := by
  apply Counted.mk
  · intro budget
    cases budget <;> rfl
  · intro budget
    apply UInt64.lt_iff_toNat_lt.mpr
    have zero : (budget.used ⟨0, 0, 0⟩).toNat = 0 := by cases budget <;> rfl
    rw [zero]
    exact valid.total budget

omit [Primitives] in
theorem limits_ne_none (counted : Counted policy executor calls used)
    (valid : ProcessorReductionPolicy.Valid policy) : remainingTrialLimits policy used ≠ none :=
  remainingTrialLimits_ne_none fun budget =>
    remaining_ne_none (counted.left budget) (valid.limit budget)

omit [Primitives] in
theorem funded (counted : Counted policy executor calls used) {call : TrialCall}
    (left : remainingTrialLimits policy used = some call.limits) (budget : TrialBudget) :
    Funded policy executor calls used call budget := by
  obtain ⟨below, nonzero, converted⟩ :=
    remaining_eq_some (remainingTrialLimits_eq_some left budget)
  have below := UInt64.le_iff_toNat_le.mp below
  rw [counted.exactly budget] at below converted
  have fits : spent executor budget calls + (budget.limit call.limits).toNat ≤
      (budget.total policy).toNat := by omega
  refine ⟨nonzero, fits, counted.exactly budget, converted, ?_⟩
  intro result reported within
  have within := UInt64.le_iff_toNat_le.mp within
  rw [UInt32.toNat_toUInt64] at within
  have bound := (budget.total policy).toNat_lt
  rw [spent_append_singleton, spent_singleton reported, ← counted.exactly budget]
  apply toNat_saturatingAdd
  rw [counted.exactly budget]
  omega

/-- A visit that goes on counts what its call reported. -/
theorem step (counted : Counted policy executor calls before.used) {after : ReductionState}
    (ran : visitConstraint policy executor position constraint before = .ok (.next after)) :
    Counted policy executor
      (calls ++ (trialCall policy executor ⟨position, constraint, before⟩).toList)
      after.used := by
  rcases visitConstraint_eq_next ran with
    ⟨none, same⟩ | ⟨call, result, made, reported, within, used, goes⟩
  · rw [none, same]
    simpa using counted
  · rw [made]
    apply Counted.mk _ (used_lt_total goes)
    intro budget
    rw [used budget]
    have funded := counted.funded (trialCall_eq_some made).2 budget
    exact funded.added result reported (within.reported_le budget)

end Counted

theorem counted_of_visits (valid : ProcessorReductionPolicy.Valid policy)
    {earlier later : List (LoopVisit ProcessorConstraint ReductionState)}
    {visit : LoopVisit ProcessorConstraint ReductionState}
    (listed : reductionVisits policy executor requirement = earlier ++ visit :: later) :
    Counted policy executor (earlier.filterMap (trialCall policy executor)) visit.before.used := by
  have kept := @loopVisits_invariant _ _ _ (visitConstraint policy executor)
    (fun earlier state =>
      Counted policy executor (earlier.filterMap (trialCall policy executor)) state.used)
    0 (constraints requirement)
    { reduced := requirement, trials := [], terminalReason := .complete, used := ⟨0, 0, 0⟩ }
    (Counted.start valid) ?_
  · exact kept earlier visit later listed
  · intro earlier current after counted ran
    rw [List.filterMap_append]
    have behind := counted.step ran
    cases made : trialCall policy executor current with
    | none => simpa [made] using behind
    | some call => simpa [made] using behind

/-- Calls that stay within their limits leave every total as it is. -/
theorem spent_visits_le_total (valid : ProcessorReductionPolicy.Valid policy)
    (within : ∀ call ∈ trialCalls policy executor requirement, ∀ result,
      call.report executor = .ok result → ∀ budget : TrialBudget,
        budget.reported result ≤ (budget.limit call.limits).toUInt64)
    (budget : TrialBudget) (earlier later : List (LoopVisit ProcessorConstraint ReductionState))
    (listed : reductionVisits policy executor requirement = earlier ++ later) :
    spent executor budget (earlier.filterMap (trialCall policy executor)) ≤
      (budget.total policy).toNat := by
  induction earlier using List.reverseRecOn generalizing later with
  | nil => exact Nat.zero_le _
  | append_singleton earlier visit ih =>
      rw [List.append_assoc] at listed
      rw [List.filterMap_append]
      cases made : trialCall policy executor visit with
      | none => simpa [made] using ih _ listed
      | some call =>
          have funded := (counted_of_visits valid listed).funded (trialCall_eq_some made).2 budget
          have member : call ∈ trialCalls policy executor requirement := by
            rw [trialCalls, List.mem_filterMap]
            exact ⟨visit, by simp [listed], made⟩
          simp only [List.filterMap_cons, made, List.filterMap_nil, spent_append_singleton]
          cases reported : call.report executor with
          | error error =>
              have nothing : spent executor budget [call] = 0 := by simp [spent, reported]
              have left := funded.left
              omega
          | ok result =>
              have below := UInt64.le_iff_toNat_le.mp (within call member result reported budget)
              rw [UInt32.toNat_toUInt64] at below
              rw [spent_singleton reported]
              have left := funded.left
              omega

/-- The budget of a reduction is never overdrawn: before every visit something is left of each
total, a call gets a limit that is not zero, at most that of one trial and at most what is left,
every count is exact unless a call reports more than its limit, and calls that stay within their
limits stay within the totals together. -/
theorem trial_budget_never_overdrawn (policy : ProcessorReductionPolicy)
    (executor : ProcessorTrialExecutor) (requirement : ProcessorRequirement)
    (accepted : policy.validate = .ok ()) :
    (∀ earlier visit later,
      reductionVisits policy executor requirement = earlier ++ visit :: later →
        remainingTrialLimits policy visit.before.used ≠ none ∧
        ∀ call, trialCall policy executor visit = some call →
          LimitsWithin call.limits policy.trialLimits ∧ call.limits.memoryBytes ≠ 0 ∧
          visit.before.trials.length < 256 ∧
          ∀ budget : TrialBudget, Funded policy executor
            (earlier.filterMap (trialCall policy executor)) visit.before.used call budget) ∧
    ((∀ call ∈ trialCalls policy executor requirement, ∀ result,
        call.report executor = .ok result → ∀ budget : TrialBudget,
          budget.reported result ≤ (budget.limit call.limits).toUInt64) →
      ∀ budget : TrialBudget,
        spent executor budget (trialCalls policy executor requirement) ≤
          (budget.total policy).toNat) := by
  have valid := ProcessorReductionPolicy.valid_of_validate accepted
  constructor
  · intro earlier visit later listed
    have counted := counted_of_visits valid listed
    refine ⟨counted.limits_ne_none valid, ?_⟩
    intro call made
    obtain ⟨room, left⟩ := trialCall_eq_some made
    have within := remainingTrialLimits_within left
    have few : visit.before.trials.length < 256 := by
      have trials := valid.trials
      omega
    refine ⟨within, ?_, few, counted.funded left⟩
    rw [within.memory]
    exact valid.memory
  · intro within budget
    exact spent_visits_le_total valid within budget _ [] (List.append_nil _).symm

/-! ## The one trial of the sample -/

omit [Primitives] in
/-- The sample policy gives its one trial what a single trial may use. -/
theorem trialCall_sample : trialCall Sample.reductionPolicy Sample.trialExecutor
    ⟨0, .instructionFeature "AVX",
      { reduced := Sample.requirement, trials := [], terminalReason := .complete,
        used := ⟨0, 0, 0⟩ }⟩ =
      some ⟨0, Sample.reduced, Sample.trialLimits⟩ := by
  decide

omit [Primitives] in
theorem trial_budget_never_overdrawn_sample :
    Funded Sample.reductionPolicy Sample.trialExecutor [] ⟨0, 0, 0⟩
      ⟨0, Sample.reduced, Sample.trialLimits⟩ .cpuMilliseconds := by
  let _ := Sample.primitives
  obtain ⟨budget, -⟩ := trial_budget_never_overdrawn Sample.reductionPolicy Sample.trialExecutor
    Sample.requirement (by decide)
  obtain ⟨-, calls⟩ := budget [] _ _ rfl
  exact (calls _ trialCall_sample).2.2.2 .cpuMilliseconds

end Reproit
