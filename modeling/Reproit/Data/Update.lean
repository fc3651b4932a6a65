/-
# Fallible updates

Computations that write to a state and may fail.  A failure keeps what was written
before it, so whether a failed update leaves its state alone is a question about the
update.
-/

import Reproit.Data.Outcome

namespace Reproit

/-- A computation on a state that may fail. -/
abbrev Update (ε σ α : Type) := EStateM ε σ α

namespace Update

variable {ε σ α β : Type}

/-- Use the result of a computation without a state. -/
def attempt (result : Except ε α) : Update ε σ α := fun state =>
  match result with
  | .ok value => .ok value state
  | .error error => .error error state

/-- The answer of an update, without the state. -/
def verdict : EStateM.Result ε σ α → Except ε α
  | .ok value _ => .ok value
  | .error error _ => .error error

/-- The state that an update leaves, whether it succeeded or not. -/
def state : EStateM.Result ε σ α → σ
  | .ok _ after => after
  | .error _ after => after

/-- A sequence succeeds when both of its halves do. -/
theorem bind_eq_ok {first : Update ε σ α} {next : α → Update ε σ β} {before after : σ}
    {result : β} : (first >>= next) before = .ok result after ↔
      ∃ value between, first before = .ok value between ∧ next value between = .ok result after := by
  change EStateM.bind first next before = _ ↔ _
  rw [EStateM.bind]
  cases first before <;> simp

/-- A sequence fails in its first half or in its second. -/
theorem bind_eq_error {first : Update ε σ α} {next : α → Update ε σ β} {before after : σ}
    {error : ε} : (first >>= next) before = .error error after ↔
      first before = .error error after ∨
        ∃ value between, first before = .ok value between ∧
          next value between = .error error after := by
  change EStateM.bind first next before = _ ↔ _
  rw [EStateM.bind]
  cases first before <;> simp

theorem bind_of_ok {first : Update ε σ α} {before between : σ} {value : α}
    (success : first before = .ok value between) (next : α → Update ε σ β) :
    (first >>= next) before = next value between := by
  change EStateM.bind first next before = _
  rw [EStateM.bind, success]

theorem bind_of_error {first : Update ε σ α} {before after : σ} {error : ε}
    (failure : first before = .error error after) (next : α → Update ε σ β) :
    (first >>= next) before = .error error after := by
  change EStateM.bind first next before = _
  rw [EStateM.bind, failure]

@[simp]
theorem attempt_eq_ok {result : Except ε α} {before after : σ} {value : α} :
    (attempt result : Update ε σ α) before = .ok value after ↔
      result = .ok value ∧ before = after := by
  cases result <;> simp [attempt]

@[simp]
theorem attempt_eq_error {result : Except ε α} {before after : σ} {error : ε} :
    (attempt result : Update ε σ α) before = .error error after ↔
      result = .error error ∧ before = after := by
  cases result <;> simp [attempt]

theorem attempt_bind_ok {result : Except ε α} {value : α} (success : result = .ok value)
    (next : α → Update ε σ β) (before : σ) :
    (attempt result >>= next) before = next value before := by
  subst success
  rfl

theorem attempt_bind_error {result : Except ε α} {error : ε} (failure : result = .error error)
    (next : α → Update ε σ β) (before : σ) :
    (attempt result >>= next) before = .error error before := by
  subst failure
  rfl

/-- Computing in two steps without a state. -/
theorem attempt_bind (first : Except ε α) (next : α → Except ε β) :
    (attempt (first >>= next) : Update ε σ β) =
      attempt first >>= fun value => attempt (next value) := by
  funext before
  cases first <;> rfl

@[simp]
theorem get_bind (next : σ → Update ε σ β) (before : σ) :
    ((get : Update ε σ σ) >>= next) before = next before before := rfl

@[simp]
theorem set_bind (written : σ) (next : PUnit → Update ε σ β) (before : σ) :
    ((set written : Update ε σ PUnit) >>= next) before = next ⟨⟩ written := rfl

@[simp]
theorem pure_run (value : α) (before : σ) :
    (pure value : Update ε σ α) before = .ok value before := rfl

@[simp]
theorem throw_run (error : ε) (before : σ) :
    (throw error : Update ε σ α) before = .error error before := rfl

/-- Computing a result from the value of an update does not change its state. -/
theorem state_bind_pure (update : Update ε σ α) (result : α → β) (before : σ) :
    state ((do let value ← update; pure (result value) : Update ε σ β) before) =
      state (update before) := by
  change state (EStateM.bind _ _ _) = _
  rw [EStateM.bind]
  cases update before <;> rfl

/-- Run an update, and then another one whatever the first one answered.  A failure of
the second one comes before that of the first. -/
def followedBy (first : Update ε σ α) (last : Update ε σ Unit) : Update ε σ α := fun before =>
  match last (state (first before)) with
  | .error error after => .error error after
  | .ok () after =>
      match verdict (first before) with
      | .ok value => .ok value after
      | .error error => .error error after

/-! ## Updates that fail without writing -/

/-- A failure leaves the state as it was. -/
def Atomic (update : Update ε σ α) : Prop :=
  ∀ before error after, update before = .error error after → after = before

theorem atomic_throw (error : ε) : Atomic (throw error : Update ε σ α) := by
  rintro before _ _ ⟨⟩
  rfl

theorem atomic_pure (value : α) : Atomic (pure value : Update ε σ α) := nofun

theorem atomic_attempt (result : Except ε α) : Atomic (attempt result : Update ε σ α) := by
  intro before error after failed
  exact (attempt_eq_error.mp failed).2.symm

/-- Writing last is safe. -/
theorem atomic_set_pure (written : σ) (value : α) :
    Atomic (do set written; pure value : Update ε σ α) := nofun

theorem Atomic.attempt_bind {result : Except ε α} {next : α → Update ε σ β}
    (atomic : ∀ value, Atomic (next value)) : Atomic (attempt result >>= next) := by
  intro before error after failed
  rcases bind_eq_error.mp failed with first | ⟨value, between, first, second⟩
  · exact atomic_attempt result _ _ _ first
  · obtain ⟨-, rfl⟩ := attempt_eq_ok.mp first
    exact atomic value _ _ _ second

theorem Atomic.bind_pure {update : Update ε σ α} (atomic : Atomic update) (result : α → β) :
    Atomic (do let value ← update; pure (result value)) := by
  intro before error after failed
  rcases bind_eq_error.mp failed with first | ⟨_, _, _, second⟩
  · exact atomic _ _ _ first
  · cases second

theorem Atomic.get_bind {next : σ → Update ε σ β} (atomic : ∀ value, Atomic (next value)) :
    Atomic (get >>= next) :=
  fun before error after failed => atomic before before error after failed

/-! ## Updates that only read -/

/-- The state is as it was, whether the update succeeded or not. -/
def ReadsOnly (update : Update ε σ α) : Prop :=
  ∀ before, state (update before) = before

theorem readsOnly_pure (value : α) : ReadsOnly (pure value : Update ε σ α) := fun _ => rfl

theorem ReadsOnly.get_bind {next : σ → Update ε σ β} (reads : ∀ value, ReadsOnly (next value)) :
    ReadsOnly (get >>= next) :=
  fun before => reads before before

theorem ReadsOnly.attempt_bind {result : Except ε α} {next : α → Update ε σ β}
    (reads : ∀ value, ReadsOnly (next value)) : ReadsOnly (attempt result >>= next) := by
  intro before
  cases result with
  | ok value => exact reads value before
  | error error => rfl

/-! ## The states in which an update can fail -/

/-- A failure leaves a state with a property. -/
def FailsIn (property : σ → Prop) (update : Update ε σ α) (before : σ) : Prop :=
  ∀ error after, update before = .error error after → property after

variable {property : σ → Prop}

theorem FailsIn.attempt_bind {result : Except ε α} {next : α → Update ε σ β} {before : σ}
    (here : property before)
    (later : ∀ value, result = .ok value → FailsIn property (next value) before) :
    FailsIn property (attempt result >>= next) before := by
  intro error after failed
  rcases bind_eq_error.mp failed with first | ⟨value, between, first, second⟩
  · obtain ⟨-, rfl⟩ := attempt_eq_error.mp first
    exact here
  · obtain ⟨success, rfl⟩ := attempt_eq_ok.mp first
    exact later value success _ _ second

theorem FailsIn.get_bind {next : σ → Update ε σ β} {before : σ}
    (later : FailsIn property (next before) before) : FailsIn property (get >>= next) before :=
  fun error after failed => later error after failed

theorem FailsIn.set_bind {written before : σ} {next : PUnit → Update ε σ β}
    (later : FailsIn property (next ⟨⟩) written) :
    FailsIn property (set written >>= next) before :=
  fun error after failed => later error after failed

theorem FailsIn.pure (value : α) (before : σ) :
    FailsIn property (pure value : Update ε σ α) before := nofun

/-! ## The states in which an update can end -/

/-- However the update ends, it leaves a state with a property. -/
def EndsIn (property : σ → Prop) (update : Update ε σ α) (before : σ) : Prop :=
  property (state (update before))

theorem EndsIn.pure {value : α} {before : σ} (here : property before) :
    EndsIn property (pure value : Update ε σ α) before := here

theorem EndsIn.attempt {result : Except ε α} {before : σ} (here : property before) :
    EndsIn property (attempt result) before := by
  cases result with
  | ok value => exact here
  | error error => exact here

/-- The second part starts where the first one ends. -/
theorem EndsIn.bind {first : Update ε σ α} {next : α → Update ε σ β} {before : σ}
    (here : EndsIn property first before)
    (later : ∀ value after, first before = .ok value after →
      EndsIn property (next value) after) : EndsIn property (first >>= next) before := by
  rw [EndsIn] at here ⊢
  cases ran : first before with
  | ok value after =>
      rw [bind_of_ok ran]
      exact later value after ran
  | error error after =>
      rw [bind_of_error ran]
      rw [ran] at here
      exact here

theorem EndsIn.attempt_bind {result : Except ε α} {next : α → Update ε σ β} {before : σ}
    (here : property before)
    (later : ∀ value, result = .ok value → EndsIn property (next value) before) :
    EndsIn property (Update.attempt result >>= next) before := by
  apply EndsIn.bind (EndsIn.attempt here)
  intro value after ran
  obtain ⟨success, rfl⟩ := attempt_eq_ok.mp ran
  exact later value success

theorem EndsIn.get_bind {next : σ → Update ε σ β} {before : σ}
    (later : EndsIn property (next before) before) : EndsIn property (get >>= next) before :=
  later

theorem EndsIn.set_bind {written before : σ} {next : PUnit → Update ε σ β}
    (later : EndsIn property (next ⟨⟩) written) :
    EndsIn property (set written >>= next) before :=
  later

end Update

end Reproit
