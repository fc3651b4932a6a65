/-
# Calls of a consumer

A consumer is called with one item after another and may remember its calls, so its answer
depends on the calls before.  An update that heeds its consumer stops at the first call that is
refused, and fails as that call did.
-/

import Reproit.Data.Update
import Mathlib.Order.Basic

namespace Reproit

/-- What a consumer answers to a call after the earlier ones. -/
abbrev Consumer (ε γ : Type) := List γ → γ → Except ε Unit

namespace Update

variable {ε γ α β : Type} {consumer : Consumer ε γ}

/-- Call the consumer.  The state lists the calls. -/
def consume (consumer : Consumer ε γ) (call : γ) : Update ε (List γ) Unit := fun earlier =>
  match consumer earlier call with
  | .ok () => .ok () (earlier ++ [call])
  | .error error => .error error (earlier ++ [call])

theorem consume_eq_ok {call : γ} {answer : Unit} {before after : List γ} :
    consume consumer call before = .ok answer after ↔
      consumer before call = .ok () ∧ before ++ [call] = after := by
  rw [consume]
  split <;> simp_all

/-- A call that is refused is the last one, and its error is the answer. -/
def Heeds (consumer : Consumer ε γ) (program : Update ε (List γ) α) : Prop :=
  ∀ before, ∃ made, state (program before) = before ++ made ∧
    ∀ position call error, made[position]? = some call →
      consumer (before ++ made.take position) call = .error error →
        verdict (program before) = .error error ∧ made.length = position + 1

theorem heeds_consume (call : γ) : Heeds consumer (consume consumer call) := by
  intro before
  refine ⟨[call], ?_, ?_⟩
  · rw [consume]
    split <;> rfl
  · intro position other error found refused
    obtain ⟨rfl, rfl⟩ : position = 0 ∧ call = other := by
      rw [List.getElem?_singleton] at found
      split_ifs at found with first
      exact ⟨first, Option.some.inj found⟩
    rw [List.take_zero, List.append_nil] at refused
    rw [consume, refused]
    exact ⟨rfl, rfl⟩

/-- What calls nobody heeds every consumer. -/
theorem ReadsOnly.heeds {program : Update ε (List γ) α} (reads : ReadsOnly program) :
    Heeds consumer program := fun before =>
  ⟨[], (reads before).trans (List.append_nil _).symm, nofun⟩

theorem heeds_attempt (result : Except ε α) :
    Heeds consumer (attempt result : Update ε (List γ) α) := by
  apply ReadsOnly.heeds
  intro before
  cases result <;> rfl

theorem heeds_pure (value : α) : Heeds consumer (pure value : Update ε (List γ) α) :=
  (readsOnly_pure value).heeds

theorem Heeds.bind {first : Update ε (List γ) α} {next : α → Update ε (List γ) β}
    (heeds : Heeds consumer first) (later : ∀ value, Heeds consumer (next value)) :
    Heeds consumer (first >>= next) := by
  intro before
  obtain ⟨made, left, stops⟩ := heeds before
  cases ran : first before with
  | error error after =>
      rw [ran] at left stops
      refine ⟨made, ?_, ?_⟩
      · rw [bind_of_error ran]
        exact left
      · intro position call refusal found refused
        rw [bind_of_error ran]
        obtain ⟨answer, last⟩ := stops position call refusal found refused
        exact ⟨congrArg Except.error (Except.error.inj answer), last⟩
  | ok value between =>
      rw [ran] at left stops
      obtain ⟨others, leftLater, stopsLater⟩ := later value between
      obtain rfl : between = before ++ made := left
      refine ⟨made ++ others, ?_, ?_⟩
      · rw [bind_of_ok ran, leftLater, List.append_assoc]
      · intro position call error found refused
        rw [bind_of_ok ran]
        by_cases early : position < made.length
        -- the first half went on, so none of its calls was refused
        · rw [List.getElem?_append_left early] at found
          rw [List.take_append_of_le_length (Nat.le_of_lt early)] at refused
          cases (stops position call error found refused).1
        · obtain ⟨place, rfl⟩ := Nat.exists_eq_add_of_le (Nat.le_of_not_lt early)
          rw [List.getElem?_append_right (Nat.le_add_right _ _), Nat.add_sub_cancel_left] at found
          rw [List.take_length_add_append, ← List.append_assoc] at refused
          obtain ⟨answer, last⟩ := stopsLater place call error found refused
          refine ⟨answer, ?_⟩
          rw [List.length_append, last, Nat.add_assoc]

/-- Of a program that heeds its consumer every call but the last was accepted, and the last as
well if the program succeeds. -/
theorem Heeds.stops {program : Update ε (List γ) α} (heeds : Heeds consumer program)
    {position : Nat} {call : γ} {error : ε}
    (found : (state (program []))[position]? = some call)
    (refused : consumer ((state (program [])).take position) call = .error error) :
    verdict (program []) = .error error ∧ (state (program [])).length = position + 1 := by
  obtain ⟨made, left, stops⟩ := heeds []
  rw [left, List.nil_append] at found refused ⊢
  exact stops position call error found refused

end Update

end Reproit
