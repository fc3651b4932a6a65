/-
# Scripts

A script lists questions with their replies.  Whoever follows it answers each question
that is the next one of the script, and gives up at the first one that is not.  What
was answered is then a first part of the script, and the script is used up exactly when
its questions were asked in order, each once, and nothing else.
-/

import Mathlib.Data.List.Basic

namespace Reproit

namespace Script

variable {α β : Type} [DecidableEq α]

/-- What is left of a script: nothing at all after a wrong question. -/
abbrev Rest (α β : Type) := Option (List (α × β))

/-- Answer one question. -/
def answer : Rest α β → α → Option β × Rest α β
  | some ((expected, reply) :: rest), question =>
      if question = expected then (some reply, some rest) else (none, none)
  | _, _ => (none, none)

theorem answer_hit (question : α) (reply : β) (rest : List (α × β)) :
    answer (some ((question, reply) :: rest)) question = (some reply, some rest) := if_pos rfl

theorem answer_miss {expected question : α} (different : question ≠ expected) (reply : β)
    (rest : List (α × β)) : answer (some ((expected, reply) :: rest)) question = (none, none) :=
  if_neg different

/-- Answer questions in turn. -/
def answerAll : Rest α β → List α → List (Option β) × Rest α β
  | rest, [] => ([], rest)
  | rest, question :: questions =>
      let (reply, later) := answer rest question
      let (replies, final) := answerAll later questions
      (reply :: replies, final)

/-- Whoever gave up answers nothing. -/
theorem answerAll_none (questions : List α) :
    answerAll (none : Rest α β) questions = (List.replicate questions.length none, none) := by
  induction questions with
  | nil => rfl
  | cons question questions ih =>
      show ((none : Option β) :: (answerAll none questions).1, (answerAll none questions).2) = _
      rw [ih]
      rfl

theorem answerAll_nil_cons (question : α) (questions : List α) :
    answerAll (some [] : Rest α β) (question :: questions) =
      (List.replicate (questions.length + 1) none, none) := by
  show ((none : Option β) :: (answerAll none questions).1, (answerAll none questions).2) = _
  rw [answerAll_none]
  rfl

theorem answerAll_hit (reply : β) (rest : List (α × β)) (question : α) (questions : List α) :
    answerAll (some ((question, reply) :: rest)) (question :: questions) =
      (some reply :: (answerAll (some rest) questions).1, (answerAll (some rest) questions).2) := by
  rw [answerAll, answer_hit]

theorem answerAll_miss {expected question : α} (different : question ≠ expected) (reply : β)
    (rest : List (α × β)) (questions : List α) :
    answerAll (some ((expected, reply) :: rest)) (question :: questions) =
      (List.replicate (questions.length + 1) none, none) := by
  rw [answerAll, answer_miss different]
  dsimp only
  rw [answerAll_none]
  rfl

/-- The questions of the script, asked in order, are all answered. -/
theorem answerAll_exact (script : List (α × β)) :
    answerAll (some script) (script.map Prod.fst) =
      (script.map fun entry => some entry.2, some []) := by
  induction script with
  | nil => rfl
  | cons entry rest ih =>
      rw [List.map_cons, answerAll_hit, ih]
      rfl

/-- The number of questions that are the next ones of the script. -/
def served : List (α × β) → List α → Nat
  | (expected, _) :: rest, question :: questions =>
      if question = expected then served rest questions + 1 else 0
  | _, _ => 0

/-- The questions that were served are the first ones of the script. -/
theorem take_served (script : List (α × β)) (questions : List α) :
    questions.take (served script questions) =
      (script.take (served script questions)).map Prod.fst := by
  induction script generalizing questions with
  | nil => simp [served]
  | cons entry rest ih =>
      obtain ⟨expected, reply⟩ := entry
      cases questions with
      | nil => simp [served]
      | cons question questions =>
          by_cases same : question = expected
          · rw [served, if_pos same, List.take_succ_cons, List.take_succ_cons, List.map_cons,
              ih questions, same]
          · rw [served, if_neg same, List.take_zero, List.take_zero, List.map_nil]

theorem served_le (script : List (α × β)) (questions : List α) :
    served script questions ≤ script.length ∧ served script questions ≤ questions.length := by
  induction script generalizing questions with
  | nil => simp [served]
  | cons entry rest ih =>
      obtain ⟨expected, reply⟩ := entry
      cases questions with
      | nil => simp [served]
      | cons question questions =>
          by_cases same : question = expected
          · rw [served, if_pos same, List.length_cons, List.length_cons]
            exact ⟨Nat.succ_le_succ (ih questions).1, Nat.succ_le_succ (ih questions).2⟩
          · rw [served, if_neg same]
            exact ⟨Nat.zero_le _, Nat.zero_le _⟩

/-- The replies of the script come first, one for each question that was served, and
nothing is answered afterwards. -/
theorem answerAll_fst (script : List (α × β)) (questions : List α) :
    (answerAll (some script) questions).1 =
      (script.take (served script questions)).map (fun entry => some entry.2) ++
        List.replicate (questions.length - served script questions) none := by
  induction script generalizing questions with
  | nil =>
      cases questions with
      | nil => rfl
      | cons question questions =>
          rw [answerAll_nil_cons]
          simp [served]
  | cons entry rest ih =>
      obtain ⟨expected, reply⟩ := entry
      cases questions with
      | nil => simp [served, answerAll]
      | cons question questions =>
          by_cases same : question = expected
          · subst same
            rw [answerAll_hit, ih questions, served, if_pos rfl, List.take_succ_cons,
              List.map_cons, List.length_cons, Nat.add_sub_add_right, List.cons_append]
          · rw [answerAll_miss same, served, if_neg same, List.take_zero, List.map_nil,
              List.nil_append, List.length_cons, Nat.sub_zero]

/-- Nothing is left of the script exactly when its questions were asked, and no others. -/
theorem answerAll_snd_eq_nil (script : List (α × β)) (questions : List α) :
    (answerAll (some script) questions).2 = some [] ↔ questions = script.map Prod.fst := by
  induction script generalizing questions with
  | nil =>
      cases questions with
      | nil => simp [answerAll]
      | cons question questions =>
          rw [answerAll_nil_cons]
          simp
  | cons entry rest ih =>
      obtain ⟨expected, reply⟩ := entry
      cases questions with
      | nil => simp [answerAll]
      | cons question questions =>
          by_cases same : question = expected
          · subst same
            rw [answerAll_hit, ih questions, List.map_cons, List.cons.injEq]
            exact ⟨fun rest => ⟨rfl, rest⟩, fun whole => whole.2⟩
          · rw [answerAll_miss same, List.map_cons, List.cons.injEq]
            exact ⟨nofun, fun whole => absurd whole.1 same⟩

/-- The question after those that were served is not the next one of the script. -/
theorem served_maximal {script : List (α × β)} {questions : List α} {question : α}
    (next : questions[served script questions]? = some question) :
    (script[served script questions]?).map Prod.fst ≠ some question := by
  induction script generalizing questions with
  | nil => simp
  | cons entry rest ih =>
      obtain ⟨expected, reply⟩ := entry
      cases questions with
      | nil => simp at next
      | cons first questions =>
          by_cases same : first = expected
          · rw [served, if_pos same] at next ⊢
            rw [List.getElem?_cons_succ] at next ⊢
            exact ih next
          · rw [served, if_neg same] at next ⊢
            rw [List.getElem?_cons_zero] at next ⊢
            obtain rfl := Option.some.inj next
            exact fun found => same (Option.some.inj found).symm

end Script

end Reproit
