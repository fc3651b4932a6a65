/-
# Every verified World is bracketed

Whatever a provider and an execution answer, the calls form one of a few courses: the
request is refused, nothing is pinned, or what was pinned is released at the end, with at
most one execution between that the verification binds to the request.
-/

import Reproit.Backend.WorldBracket

namespace Reproit

open Backend

variable {σ α : Type} {request : MaterializeRequest} {lease : ProviderLease}
  {calls : List (WorldCall α)} {result : Result α}

/-! ## What a bracket is -/

/-- The lease, the materialization and the verification bind the request. -/
structure BindsRequest (request : MaterializeRequest) (lease : ProviderLease)
    (materialization : ProviderMaterialization) (verification : ProviderVerification) :
    Prop where
  capture : lease.captureId = request.captureId
  world : lease.worldId = request.worldId
  point : lease.pointDigest = request.point.pointDigest
  provider : lease.providerId = request.point.providerId ∧
    materialization.providerId = request.point.providerId ∧
    verification.providerId = request.point.providerId
  execution : materialization.executionId = request.executionId ∧
    verification.executionId = request.executionId
  leased : materialization.leaseId = lease.leaseId ∧ verification.leaseId = lease.leaseId
  evidence : verification.evidenceDigest = materialization.evidenceDigest
  current : request.now ≤ lease.expiresAt

/-- The calls and the answer of a safe bracket. -/
structure SafeBracket (request : MaterializeRequest) (calls : List (WorldCall α))
    (result : Result α) : Prop where
  pinned : calls.countP WorldCall.isPin ≤ 1
  validated : calls ≠ [] → validateRequest request = .ok () ∧
    ∃ answer, calls.head? = some (.pin request.point request.captureId request.worldId answer)
  released : ∀ point captureId worldId lease, .pin point captureId worldId (.ok lease) ∈ calls →
    ∃ before answer, calls = before ++ [.release lease answer] ∧
      ∀ call ∈ before, call.isRelease = false
  pinnedFirst : ∀ lease answer, .release lease answer ∈ calls →
    .pin request.point request.captureId request.worldId (.ok lease) ∈ calls
  executed : calls.countP WorldCall.isExecute ≤ 1
  bound : ∀ before verification answer after,
    calls = before ++ .execute verification answer :: after →
      ∃ lease materialization, BindsRequest request lease materialization verification ∧
        before = [.pin request.point request.captureId request.worldId (.ok lease),
          .materialize lease request.executionId request.targetReference (.ok materialization),
          .verify lease materialization (.ok verification)]
  answered : ∀ value, result = .ok value ↔ ∃ verification lease,
    .execute verification (.ok value) ∈ calls ∧ .release lease (.ok ()) ∈ calls

/-! ## The courses -/

/-- The steps of the provider that come before the execution. -/
def IsStep : WorldCall α → Prop
  | .materialize .. | .verify .. => True
  | _ => False

/-- What happens between the pin and the release. -/
inductive Inside (request : MaterializeRequest) (lease : ProviderLease) :
    List (WorldCall α) → Result α → Prop
  | stopped {calls : List (WorldCall α)} (error : Error) (steps : ∀ call ∈ calls, IsStep call) :
      Inside request lease calls (.error error)
  | executed {materialization : ProviderMaterialization} {verification : ProviderVerification}
      (binds : BindsRequest request lease materialization verification) (answer : Result α) :
      Inside request lease
        [.materialize lease request.executionId request.targetReference (.ok materialization),
          .verify lease materialization (.ok verification), .execute verification answer] answer

/-- The calls of a whole bracket. -/
inductive BracketCourse (request : MaterializeRequest) :
    List (WorldCall α) → Result α → Prop
  | refused (error : Error) : BracketCourse request [] (.error error)
  | unpinned (valid : validateRequest request = .ok ()) (error : Error) :
      BracketCourse request
        [.pin request.point request.captureId request.worldId (.error error)] (.error error)
  | released {lease : ProviderLease} {calls : List (WorldCall α)} {result : Result α}
      (valid : validateRequest request = .ok ()) (inside : Inside request lease calls result)
      (answer : Result Unit) :
      BracketCourse request
        (.pin request.point request.captureId request.worldId (.ok lease) ::
          (calls ++ [.release lease answer])) (answer >>= fun _ => result)

theorem bindsRequest_of_valid {materialization : ProviderMaterialization}
    {verification : ProviderVerification} (validLease : validateLease request lease = .ok ())
    (validMaterialization :
      validateMaterialization lease request.executionId materialization = .ok ())
    (validVerification :
      validateVerification lease request.executionId materialization verification = .ok ()) :
    BindsRequest request lease materialization verification := by
  simp only [validateLease, rejectIf_eq_ok, not_or, not_not] at validLease
  simp only [validateMaterialization, rejectIf_eq_ok, not_or, not_not] at validMaterialization
  simp only [validateVerification, rejectIf_eq_ok, not_or, not_not] at validVerification
  obtain ⟨capture, point, provider, world, current⟩ := validLease
  obtain ⟨materialized, leased, provided⟩ := validMaterialization
  obtain ⟨verified, releases, provides, evidence⟩ := validVerification
  exact ⟨capture, world, point, ⟨provider, provided.trans provider, provides.trans provider⟩,
    ⟨materialized, verified⟩, ⟨leased, releases⟩, evidence, not_lt.mp current⟩

/-- The calls between the pin and the release, whatever was noted before. -/
theorem inside_of_materializeAndExecute (provider : StateProvider σ)
    (execute : ProviderVerification → Update Error σ α) (before : σ)
    (notes : List (WorldCall α)) {ran : EStateM.Result Error (σ × List (WorldCall α)) α}
    (course : provider.noting.materializeAndExecute request lease
      (fun verification => Update.noted (.execute verification) (execute verification))
      (before, notes) = ran) :
    ∃ calls, (Update.state ran).2 = notes ++ calls ∧
      Inside request lease calls (Update.verdict ran) := by
  subst course
  simp only [StateProvider.materializeAndExecute, StateProvider.noting]
  cases validLease : validateLease request lease with
  | error error =>
      rw [Update.attempt_bind_error rfl]
      exact ⟨[], (List.append_nil _).symm, .stopped error (List.forall_mem_nil _)⟩
  | ok _ =>
  rw [Update.attempt_bind_ok rfl]
  cases materialized : provider.materialize lease request.executionId request.targetReference
      before with
  | error error after =>
      rw [Update.bind_of_error (Update.noted_of_error materialized _ notes)]
      exact ⟨_, rfl, .stopped error (by simp [IsStep])⟩
  | ok materialization written =>
  rw [Update.bind_of_ok (Update.noted_of_ok materialized _ notes)]
  cases validMaterialization :
      validateMaterialization lease request.executionId materialization with
  | error error =>
      rw [Update.attempt_bind_error rfl]
      exact ⟨_, rfl, .stopped error (by simp [IsStep])⟩
  | ok _ =>
  rw [Update.attempt_bind_ok rfl]
  cases verified : provider.verify lease materialization written with
  | error error after =>
      rw [Update.bind_of_error (Update.noted_of_error verified _ _)]
      exact ⟨_, List.append_assoc _ _ _, .stopped error (by simp [IsStep])⟩
  | ok verification checked =>
  rw [Update.bind_of_ok (Update.noted_of_ok verified _ _)]
  cases validVerification :
      validateVerification lease request.executionId materialization verification with
  | error error =>
      rw [Update.attempt_bind_error rfl]
      exact ⟨_, List.append_assoc _ _ _, .stopped error (by simp [IsStep])⟩
  | ok _ =>
  rw [Update.attempt_bind_ok rfl]
  have binds := bindsRequest_of_valid validLease validMaterialization validVerification
  cases executed : execute verification checked with
  | error error after =>
      rw [Update.noted_of_error executed]
      exact ⟨_, by simp only [Update.state, List.append_assoc]; rfl, .executed binds _⟩
  | ok value after =>
      rw [Update.noted_of_ok executed]
      exact ⟨_, by simp only [Update.state, List.append_assoc]; rfl, .executed binds _⟩

/-- Every bracket takes one of the courses. -/
theorem bracketCourse_of_notedWorld (provider : StateProvider σ)
    (execute : ProviderVerification → Update Error σ α) (before : σ)
    {ran : EStateM.Result Error (σ × List (WorldCall α)) α}
    (course : provider.notedWorld request execute (before, []) = ran) :
    BracketCourse request (Update.state ran).2 (Update.verdict ran) := by
  subst course
  simp only [StateProvider.notedWorld, StateProvider.withVerifiedWorld]
  cases valid : validateRequest request with
  | error error =>
      rw [Update.attempt_bind_error rfl]
      exact .refused error
  | ok _ =>
  rw [Update.attempt_bind_ok rfl]
  cases pinned : provider.pin request.point request.captureId request.worldId before with
  | error error after =>
      have noted : (provider.noting (α := α)).pin request.point request.captureId
          request.worldId (before, []) = _ := Update.noted_of_error pinned _ []
      rw [Update.bind_of_error noted]
      exact .unpinned valid error
  | ok lease held =>
  have noted : (provider.noting (α := α)).pin request.point request.captureId
      request.worldId (before, []) = _ := Update.noted_of_ok pinned _ []
  rw [Update.bind_of_ok noted, Update.state_followedBy, Update.verdict_followedBy]
  generalize inner : provider.noting.materializeAndExecute request lease _ _ = ran
  obtain ⟨calls, reached, inside⟩ :=
    inside_of_materializeAndExecute provider execute held _ inner
  have answer : Update.verdict ((provider.noting (α := α)).release lease (Update.state ran)) =
      Update.verdict (provider.release lease (Update.state ran).1) :=
    (Update.notes_noted _ _ _ (Update.state ran).2).1
  have notes : (Update.state ((provider.noting (α := α)).release lease (Update.state ran))).2 =
      (Update.state ran).2 ++
        [.release lease (Update.verdict (provider.release lease (Update.state ran).1))] :=
    Update.notes_of_noted _ _ _ _
  rw [notes, reached, answer]
  exact .released valid inside _

/-! ## What the courses have in common -/

theorem Inside.calls_between (inside : Inside request lease calls result) :
    ∀ call ∈ calls, call.isPin = false ∧ call.isRelease = false := by
  intro call member
  cases inside with
  | stopped error steps =>
      have step := steps call member
      cases call <;> first | exact ⟨rfl, rfl⟩ | cases step
  | executed binds answer =>
      simp only [List.mem_cons, List.not_mem_nil, or_false] at member
      rcases member with rfl | rfl | rfl <;> exact ⟨rfl, rfl⟩

/-- There is one execution at most, and it comes after what it is bound by. -/
theorem Inside.execution (inside : Inside request lease calls result) :
    (∀ call ∈ calls, call.isExecute = false) ∧ (∀ value, result ≠ .ok value) ∨
      ∃ materialization verification,
        BindsRequest request lease materialization verification ∧
        calls = [.materialize lease request.executionId request.targetReference
            (.ok materialization),
          .verify lease materialization (.ok verification), .execute verification result] := by
  cases inside with
  | stopped error steps =>
      refine .inl ⟨fun call member => ?_, nofun⟩
      have step := steps call member
      cases call <;> first | rfl | cases step
  | executed binds answer => exact .inr ⟨_, _, binds, rfl⟩

theorem BracketCourse.safe (course : BracketCourse request calls result) :
    SafeBracket request calls result := by
  cases course with
  | refused error =>
      constructor <;> simp
  | unpinned valid error =>
      constructor
      case pinned => exact le_refl _
      case validated => exact fun _ => ⟨valid, _, rfl⟩
      case released => simp
      case pinnedFirst => simp
      case executed => exact Nat.zero_le _
      case bound =>
        intro before verification answer after split
        have member : WorldCall.execute verification answer ∈
            before ++ .execute verification answer :: after := by simp
        rw [← split] at member
        simp at member
      case answered => simp
  | @released lease calls result valid inside answer =>
      have between := inside.calls_between
      have first : ∀ point captureId worldId held,
          .pin point captureId worldId (.ok held) ∈
            .pin request.point request.captureId request.worldId (.ok lease) ::
              (calls ++ [.release lease answer]) → held = lease := by
        intro point captureId worldId held member
        simp only [List.mem_cons, List.mem_append, List.not_mem_nil, or_false] at member
        rcases member with same | listed | same
        · cases same
          rfl
        · cases (between _ listed).1
        · cases same
      constructor
      case pinned =>
        have none : calls.countP WorldCall.isPin = 0 :=
          List.countP_eq_zero.mpr fun call member => by simp [(between call member).1]
        simp [List.countP_cons, WorldCall.isPin, none]
      case validated => exact fun _ => ⟨valid, _, rfl⟩
      case released =>
        intro point captureId worldId held member
        obtain rfl := first _ _ _ _ member
        refine ⟨_ :: calls, answer, rfl, fun call listed => ?_⟩
        rcases List.mem_cons.mp listed with rfl | later
        · rfl
        · exact (between call later).2
      case pinnedFirst =>
        intro held held' member
        simp only [List.mem_cons, List.mem_append, List.not_mem_nil, or_false] at member
        rcases member with same | listed | same
        · cases same
        · cases (between _ listed).2
        · cases same
          exact List.mem_cons_self
      case executed =>
        rcases inside.execution with ⟨none, -⟩ | ⟨materialization, verification, -, rfl⟩
        · have zero : calls.countP WorldCall.isExecute = 0 :=
            List.countP_eq_zero.mpr fun call member => by simp [none call member]
          simp [WorldCall.isExecute, zero]
        · exact le_refl _
      case bound =>
        intro before verification answered after split
        rcases inside.execution with ⟨none, -⟩ | ⟨materialization, verified, binds, rfl⟩
        · have member : WorldCall.execute verification answered ∈
              before ++ .execute verification answered :: after := by simp
          rw [← split] at member
          simp only [List.mem_cons, List.mem_append, List.not_mem_nil, or_false, reduceCtorEq,
            false_or] at member
          cases none _ member
        · refine ⟨lease, materialization, ?_⟩
          rcases before with _ | ⟨_, _ | ⟨_, _ | ⟨_, _ | ⟨_, _ | ⟨_, rest⟩⟩⟩⟩⟩
          all_goals simp at split
          obtain ⟨rfl, rfl, rfl, ⟨rfl, rfl⟩, rfl⟩ := split
          exact ⟨binds, rfl⟩
      case answered =>
        intro value
        rcases inside.execution with ⟨none, failed⟩ | ⟨materialization, verified, -, rfl⟩
        · constructor
          · intro answered
            obtain ⟨_, -, held⟩ := (bind_eq_ok _ _ _).mp answered
            exact absurd held (failed value)
          · intro ⟨verification, held, executes, _⟩
            simp only [List.mem_cons, List.mem_append, List.not_mem_nil, or_false, reduceCtorEq,
              false_or] at executes
            cases none _ executes
        · rw [bind_eq_ok]
          constructor
          · intro ⟨_, handed, ran⟩
            refine ⟨verified, lease, ?_, ?_⟩
            · rw [ran]
              simp
            · rw [handed]
              simp
          · intro ⟨verification, held, executes, releases⟩
            simp at executes releases
            exact ⟨(), releases.2.symm, executes.2.symm⟩

/-- Noting the calls of a provider and an execution changes neither the answer nor the
state, and the calls form a safe bracket with this answer. -/
theorem world_is_bracketed (provider : StateProvider σ) (request : MaterializeRequest)
    (execute : ProviderVerification → Update Error σ α) (before : σ) :
    Update.verdict (provider.notedWorld request execute (before, [])) =
        Update.verdict (provider.withVerifiedWorld request execute before) ∧
      (Update.state (provider.notedWorld request execute (before, []))).1 =
        Update.state (provider.withVerifiedWorld request execute before) ∧
      SafeBracket request (Update.state (provider.notedWorld request execute (before, []))).2
        (Update.verdict (provider.withVerifiedWorld request execute before)) := by
  obtain ⟨verdicts, states⟩ := provider.notes_notedWorld request execute before []
  refine ⟨verdicts, states, ?_⟩
  rw [← verdicts]
  exact (bracketCourse_of_notedWorld provider execute before rfl).safe

end Reproit
