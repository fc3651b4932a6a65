/-
# Tables that hand out every entry once

A request for a key takes the entry of the key out of the table when it passes a check,
and leaves the table alone otherwise.  What a sequence of requests takes is therefore a
set of different keys, and requests for different keys do not see each other.
-/

import Reproit.Data.OrderedMap
import Reproit.Data.Update

namespace Reproit

namespace Update

variable {ε σ α : Type}

/-- Run updates in turn, whatever they answer. -/
def each (state : σ) : List (Update ε σ α) → List (Except ε α) × σ
  | [] => ([], state)
  | update :: rest =>
      let result := update state
      let (answers, final) := each (Update.state result) rest
      (verdict result :: answers, final)

end Update

namespace Pending

variable {κ β ρ ε : Type} [LinearOrder κ] (check : κ → ρ → β → Except ε Unit) (absent : ε)

/-- Take the entry of a key out of the table, if the request for it passes. -/
def take (call : κ × ρ) : Update ε (OrderedMap κ β) β := do
  let table ← get
  let entry ← Update.attempt (okOr table[call.1]? absent)
  Update.attempt (check call.1 call.2 entry)
  set (table.erase call.1)
  return entry

def takeAll (table : OrderedMap κ β) (calls : List (κ × ρ)) :
    List (Except ε β) × OrderedMap κ β :=
  Update.each table (calls.map (take check absent))

/-- The keys whose entries were taken. -/
def taken (table : OrderedMap κ β) : List (κ × ρ) → List κ
  | [] => []
  | call :: calls =>
      match take check absent call table with
      | .ok _ after => call.1 :: taken after calls
      | .error _ after => taken after calls

variable {check absent} {table : OrderedMap κ β} {call : κ × ρ}

theorem take_run (key : κ) (request : ρ) (table : OrderedMap κ β) :
    take check absent (key, request) table =
      (do
        let entry ← Update.attempt (okOr table[key]? absent)
        Update.attempt (check key request entry)
        set (table.erase key)
        return entry : Update ε (OrderedMap κ β) β) table := rfl

theorem take_eq_ok {entry : β} {after : OrderedMap κ β} :
    take check absent call table = .ok entry after ↔
      table[call.1]? = some entry ∧ check call.1 call.2 entry = .ok () ∧
        after = table.erase call.1 := by
  rw [take, Update.get_bind]
  simp only [Update.bind_eq_ok, Update.attempt_eq_ok, okOr_eq_ok]
  constructor
  · rintro ⟨found, _, ⟨present, rfl⟩, _, _, ⟨checked, rfl⟩, _, _, written, returned⟩
    cases written
    cases returned
    exact ⟨present, checked, rfl⟩
  · rintro ⟨present, checked, rfl⟩
    exact ⟨entry, _, ⟨present, rfl⟩, (), _, ⟨checked, rfl⟩, ⟨⟩, _, rfl, rfl⟩

/-- A request that is refused leaves the table alone. -/
theorem take_atomic (call : κ × ρ) :
    Update.Atomic (take check absent call : Update ε (OrderedMap κ β) β) := by
  apply Update.Atomic.get_bind
  intro table
  apply Update.Atomic.attempt_bind
  intro entry
  apply Update.Atomic.attempt_bind
  intro _ _ _ _ failed
  cases failed

/-- What is left is what was there and was not taken. -/
theorem takeAll_eq_some {calls : List (κ × ρ)} {key : κ} {entry : β} :
    (takeAll check absent table calls).2[key]? = some entry ↔
      table[key]? = some entry ∧ key ∉ taken check absent table calls := by
  induction calls generalizing table with
  | nil => exact ⟨fun held => ⟨held, List.not_mem_nil⟩, fun held => held.1⟩
  | cons call calls ih =>
      have later := @ih (Update.state (take check absent call table))
      rw [takeAll] at later
      rw [takeAll, List.map_cons, Update.each, taken]
      dsimp only
      rw [later]
      cases ran : take check absent call table with
      | error error after =>
          obtain rfl := take_atomic call _ _ _ ran
          exact Iff.rfl
      | ok found after =>
          obtain ⟨present, -, rfl⟩ := take_eq_ok.mp ran
          dsimp only [Update.state]
          rw [OrderedMap.getElem?_erase, List.mem_cons, not_or]
          by_cases same : call.1 = key
          · rw [if_pos same]
            exact ⟨fun held => absurd held.1 nofun, fun held => absurd same.symm held.2.1⟩
          · rw [if_neg same]
            exact ⟨fun held => ⟨held.1, Ne.symm same, held.2⟩, fun held => ⟨held.1, held.2.2⟩⟩

/-- Every key that was taken was there. -/
theorem mem_of_taken {calls : List (κ × ρ)} {key : κ}
    (member : key ∈ taken check absent table calls) : ∃ entry, table[key]? = some entry := by
  induction calls generalizing table with
  | nil => cases member
  | cons call calls ih =>
      rw [taken] at member
      cases ran : take check absent call table with
      | error error after =>
          obtain rfl := take_atomic call _ _ _ ran
          rw [ran] at member
          exact ih member
      | ok entry after =>
          obtain ⟨present, -, rfl⟩ := take_eq_ok.mp ran
          rw [ran] at member
          rcases List.mem_cons.mp member with rfl | later
          · exact ⟨entry, present⟩
          · obtain ⟨found, held⟩ := ih later
            rw [OrderedMap.getElem?_erase] at held
            split_ifs at held
            exact ⟨found, held⟩

/-- No entry is taken twice. -/
theorem nodup_taken (calls : List (κ × ρ)) : (taken check absent table calls).Nodup := by
  induction calls generalizing table with
  | nil => exact List.nodup_nil
  | cons call calls ih =>
      rw [taken]
      cases ran : take check absent call table with
      | error error after => exact ih
      | ok entry after =>
          obtain ⟨present, -, rfl⟩ := take_eq_ok.mp ran
          refine List.nodup_cons.mpr ⟨fun member => ?_, ih⟩
          obtain ⟨found, held⟩ := mem_of_taken member
          rw [OrderedMap.getElem?_erase, if_pos rfl] at held
          cases held

/-- The table is used up exactly when every key was taken. -/
theorem takeAll_isEmpty_iff (calls : List (κ × ρ)) :
    (takeAll check absent table calls).2.isEmpty = true ↔
      ∀ key ∈ table, key ∈ taken check absent table calls := by
  rw [Std.ExtTreeMap.isEmpty_iff]
  constructor
  · intro empty key member
    by_contra untaken
    obtain ⟨entry, present⟩ :=
      Option.isSome_iff_exists.mp (Std.ExtTreeMap.mem_iff_isSome_getElem?.mp member)
    have left := takeAll_eq_some.mpr ⟨present, untaken⟩
    rw [empty, Std.ExtTreeMap.getElem?_empty] at left
    cases left
  · intro all
    apply Std.ExtTreeMap.ext_getElem?
    intro key
    rw [Std.ExtTreeMap.getElem?_empty]
    cases left : (takeAll check absent table calls).2[key]? with
    | none => rfl
    | some entry =>
        obtain ⟨present, untaken⟩ := takeAll_eq_some.mp left
        have member : key ∈ table := Std.ExtTreeMap.mem_iff_isSome_getElem?.mpr (by
          rw [present]
          rfl)
        exact absurd (all key member) untaken

/-- The answer depends on the entry of the key alone. -/
theorem verdict_take (table : OrderedMap κ β) (call : κ × ρ) :
    Update.verdict (take check absent call table) =
      (okOr table[call.1]? absent).bind fun entry =>
        (check call.1 call.2 entry).map fun _ => entry := by
  rw [take, Update.get_bind]
  cases table[call.1]? with
  | none => rfl
  | some entry =>
      have found : okOr (some entry) absent = .ok entry := rfl
      rw [Update.attempt_bind_ok found, found]
      show _ = Except.map _ (check call.1 call.2 entry)
      cases checked : check call.1 call.2 entry with
      | error error =>
          rw [Update.attempt_bind_error rfl]
          rfl
      | ok done => rfl

/-- A request for another key is answered as before. -/
theorem verdict_take_erase {first second : κ × ρ} (apart : first.1 ≠ second.1) :
    Update.verdict (take check absent second (table.erase first.1)) =
      Update.verdict (take check absent second table) := by
  rw [verdict_take, verdict_take, OrderedMap.getElem?_erase, if_neg apart]

theorem state_take (table : OrderedMap κ β) (call : κ × ρ) :
    Update.state (take check absent call table) =
      match Update.verdict (take check absent call table) with
      | .ok _ => table.erase call.1
      | .error _ => table := by
  cases ran : take check absent call table with
  | error error after => exact take_atomic call _ _ _ ran
  | ok entry after => exact (take_eq_ok.mp ran).2.2

theorem verdict_take_state {first second : κ × ρ} (apart : first.1 ≠ second.1) :
    Update.verdict (take check absent second (Update.state (take check absent first table))) =
      Update.verdict (take check absent second table) := by
  rw [state_take]
  cases Update.verdict (take check absent first table) with
  | error error => rfl
  | ok entry => exact verdict_take_erase apart

theorem state_take_state {first second : κ × ρ} (apart : first.1 ≠ second.1) :
    Update.state (take check absent second (Update.state (take check absent first table))) =
      match Update.verdict (take check absent second table) with
      | .ok _ => (Update.state (take check absent first table)).erase second.1
      | .error _ => Update.state (take check absent first table) := by
  rw [state_take _ second, verdict_take_state apart]

theorem erase_comm (table : OrderedMap κ β) (first second : κ) :
    (table.erase first).erase second = (table.erase second).erase first := by
  apply Std.ExtTreeMap.ext_getElem?
  intro key
  rw [OrderedMap.getElem?_erase, OrderedMap.getElem?_erase, OrderedMap.getElem?_erase,
    OrderedMap.getElem?_erase]
  by_cases one : first = key
  · rw [if_pos one, if_pos one, ite_self]
  · rw [if_neg one, if_neg one]

/-- Requests for different keys can change places. -/
theorem takeAll_comm {first second : κ × ρ} (apart : first.1 ≠ second.1) :
    (takeAll check absent table [first, second]).1 =
        (takeAll check absent table [second, first]).1.reverse ∧
      (takeAll check absent table [first, second]).2 =
        (takeAll check absent table [second, first]).2 := by
  have answerSecond := @verdict_take_state _ _ _ _ _ check absent table _ _ apart
  have answerFirst := @verdict_take_state _ _ _ _ _ check absent table _ _ apart.symm
  refine ⟨?_, ?_⟩
  · show [_, _] = [_, _]
    rw [answerSecond, answerFirst]
  · show Update.state (take check absent second (Update.state (take check absent first table))) =
      Update.state (take check absent first (Update.state (take check absent second table)))
    rw [state_take_state apart, state_take_state apart.symm, state_take, state_take]
    cases Update.verdict (take check absent first table) <;>
      cases Update.verdict (take check absent second table) <;>
      first | rfl | exact erase_comm table first.1 second.1

end Pending

end Reproit
