/-
# Updates with notes

An update that calls others can note each call and its answer.  The notes are kept beside
the state, so noting changes neither the answer nor the state, and a property of the notes
is a property of the calls that the update made.
-/

import Reproit.Data.Update

namespace Reproit.Update

variable {ε σ κ α β : Type}

/-- Run an update and note what it answered. -/
def noted (note : Except ε α → κ) (update : Update ε σ α) : Update ε (σ × List κ) α :=
  fun (before, notes) =>
    match update before with
    | .ok value after => .ok value (after, notes ++ [note (.ok value)])
    | .error error after => .error error (after, notes ++ [note (.error error)])

theorem noted_of_ok {update : Update ε σ α} {before after : σ} {value : α}
    (ran : update before = .ok value after) (note : Except ε α → κ) (notes : List κ) :
    noted note update (before, notes) = .ok value (after, notes ++ [note (.ok value)]) := by
  simp only [noted, ran]

theorem noted_of_error {update : Update ε σ α} {before after : σ} {error : ε}
    (ran : update before = .error error after) (note : Except ε α → κ) (notes : List κ) :
    noted note update (before, notes) = .error error (after, notes ++ [note (.error error)]) := by
  simp only [noted, ran]

/-- The note comes after the others. -/
theorem notes_of_noted (note : Except ε α → κ) (update : Update ε σ α) (before : σ)
    (notes : List κ) : (state (noted note update (before, notes))).2 =
      notes ++ [note (verdict (update before))] := by
  cases ran : update before with
  | ok value after =>
      rw [noted_of_ok ran]
      rfl
  | error error after =>
      rw [noted_of_error ran]
      rfl

theorem state_followedBy (first : Update ε σ α) (last : Update ε σ Unit) (before : σ) :
    state (first.followedBy last before) = state (last (state (first before))) := by
  rw [Update.followedBy]
  cases last (state (first before)) with
  | error error after => rfl
  | ok _ after => cases verdict (first before) <;> rfl

theorem verdict_followedBy (first : Update ε σ α) (last : Update ε σ Unit) (before : σ) :
    verdict (first.followedBy last before) =
      verdict (last (state (first before))) >>= fun _ => verdict (first before) := by
  rw [Update.followedBy]
  cases last (state (first before)) with
  | error error after => rfl
  | ok _ after => cases verdict (first before) <;> rfl

/-- The noting update answers as the other one does, and leaves its state. -/
def Notes (noting : Update ε (σ × List κ) α) (update : Update ε σ α) : Prop :=
  ∀ before notes, verdict (noting (before, notes)) = verdict (update before) ∧
    (state (noting (before, notes))).1 = state (update before)

theorem notes_noted (note : Except ε α → κ) (update : Update ε σ α) :
    Notes (noted note update) update := by
  intro before notes
  cases ran : update before with
  | ok value after =>
      rw [noted_of_ok ran]
      exact ⟨rfl, rfl⟩
  | error error after =>
      rw [noted_of_error ran]
      exact ⟨rfl, rfl⟩

theorem notes_attempt (result : Except ε α) :
    Notes (attempt result : Update ε (σ × List κ) α) (attempt result) := by
  intro before notes
  cases result with
  | ok value => exact ⟨rfl, rfl⟩
  | error error => exact ⟨rfl, rfl⟩

/-- Both updates end alike: what the noting one does is what the other one does. -/
theorem Notes.cases {noting : Update ε (σ × List κ) α} {update : Update ε σ α}
    (follows : Notes noting update) (before : σ) (notes : List κ) :
    (∃ value after later, update before = .ok value after ∧
      noting (before, notes) = .ok value (after, later)) ∨
    ∃ error after later, update before = .error error after ∧
      noting (before, notes) = .error error (after, later) := by
  have same := follows before notes
  cases ran : update before with
  | ok value after =>
      cases noted : noting (before, notes) with
      | ok other held =>
          rw [ran, noted] at same
          obtain ⟨after', later⟩ := held
          obtain ⟨answer, rfl⟩ := same
          cases answer
          exact .inl ⟨value, _, later, rfl, rfl⟩
      | error error held =>
          rw [ran, noted] at same
          cases same.1
  | error error after =>
      cases noted : noting (before, notes) with
      | ok value held =>
          rw [ran, noted] at same
          cases same.1
      | error other held =>
          rw [ran, noted] at same
          obtain ⟨after', later⟩ := held
          obtain ⟨answer, rfl⟩ := same
          cases answer
          exact .inr ⟨error, _, later, rfl, rfl⟩

theorem Notes.bind {noting : Update ε (σ × List κ) α} {update : Update ε σ α}
    {notingNext : α → Update ε (σ × List κ) β} {next : α → Update ε σ β}
    (first : Notes noting update) (later : ∀ value, Notes (notingNext value) (next value)) :
    Notes (noting >>= notingNext) (update >>= next) := by
  intro before notes
  rcases first.cases before notes with
    ⟨value, after, written, ran, noted⟩ | ⟨error, after, written, ran, noted⟩
  · rw [bind_of_ok ran, bind_of_ok noted]
    exact later value after written
  · rw [bind_of_error ran, bind_of_error noted]
    exact ⟨rfl, rfl⟩

theorem Notes.followedBy {noting : Update ε (σ × List κ) α} {update : Update ε σ α}
    {notingLast : Update ε (σ × List κ) Unit} {last : Update ε σ Unit}
    (first : Notes noting update) (second : Notes notingLast last) :
    Notes (Update.followedBy noting notingLast) (Update.followedBy update last) := by
  intro before notes
  obtain ⟨answer, reached⟩ := first before notes
  obtain ⟨released, left⟩ := second (state (noting (before, notes))).1
    (state (noting (before, notes))).2
  constructor
  · rw [verdict_followedBy, verdict_followedBy, ← reached, ← released, answer]
  · rw [state_followedBy, state_followedBy, ← reached, ← left]

end Reproit.Update
