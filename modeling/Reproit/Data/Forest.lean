/-
# Parents

Every element has at most one parent.  The elements form a forest if every one reaches an
element without parent, and then none is its own ancestor.  A finite family that contains
its parents is a forest exactly if it can be listed with the parents first.
-/

import Mathlib.Data.List.Induction
import Mathlib.Data.List.Sort

namespace Reproit

section

variable {α : Type} (parent : α → Option α)

/-- The ancestor a number of steps above an element. -/
def ancestor : Nat → α → Option α
  | 0, child => some child
  | steps + 1, child => (parent child).bind (ancestor steps)

/-- An element without parent is reached in finitely many steps. -/
def ReachesRoot (child : α) : Prop :=
  ∃ steps root, ancestor parent steps child = some root ∧ parent root = none

/-- Every element stands behind its parent. -/
def ParentsFirst (order : List α) : Prop :=
  ∀ before child behind, order = before ++ child :: behind →
    ∀ above, parent child = some above → above ∈ before

variable {parent}

theorem ancestor_add (steps more : Nat) (child : α) :
    ancestor parent (steps + more) child =
      (ancestor parent steps child).bind (ancestor parent more) := by
  induction steps generalizing child with
  | zero => rw [Nat.zero_add, ancestor, Option.bind_some]
  | succ steps ih =>
      rw [Nat.succ_add, ancestor, ancestor, Option.bind_assoc]
      congr 1
      ext1 above
      exact ih above

theorem reachesRoot_of_parent_none {child : α} (root : parent child = none) :
    ReachesRoot parent child := ⟨0, child, rfl, root⟩

theorem reachesRoot_iff_of_parent {child above : α} (step : parent child = some above) :
    ReachesRoot parent child ↔ ReachesRoot parent above := by
  constructor
  · intro ⟨steps, root, reached, final⟩
    cases steps with
    | zero =>
        obtain rfl := Option.some.inj reached
        rw [step] at final
        cases final
    | succ steps =>
        rw [ancestor, step, Option.bind_some] at reached
        exact ⟨steps, root, reached, final⟩
  · intro ⟨steps, root, reached, final⟩
    refine ⟨steps + 1, root, ?_, final⟩
    rw [ancestor, step, Option.bind_some, reached]

/-! ## The number of ancestors -/

/-- Nothing lies above an element without parent. -/
theorem ancestor_eq_none_of_root {steps more : Nat} {child root : α}
    (reached : ancestor parent steps child = some root) (final : parent root = none)
    (beyond : steps < more) : ancestor parent more child = none := by
  obtain ⟨rest, rfl⟩ := Nat.exists_eq_add_of_lt beyond
  rw [Nat.add_assoc, ancestor_add, reached, Option.bind_some, ancestor, final, Option.bind_none]

/-- An element that reaches a root is not its own ancestor. -/
theorem ReachesRoot.ancestor_ne {child : α} (reaches : ReachesRoot parent child) (steps : Nat) :
    ancestor parent (steps + 1) child ≠ some child := by
  intro cycle
  obtain ⟨length, root, reached, final⟩ := reaches
  -- The cycle would continue the way behind the root.
  have beyond : ancestor parent (steps + 1 + length) child = some root := by
    rw [ancestor_add, cycle, Option.bind_some, reached]
  rw [ancestor_eq_none_of_root reached final (by omega)] at beyond
  cases beyond

/-- The number of ancestors, if it is finite. -/
noncomputable def ancestorCount (parent : α → Option α) (child : α) : Nat :=
  open Classical in
  if reaches : ∃ steps, ∃ root, ancestor parent steps child = some root ∧ parent root = none then
    Nat.find reaches
  else 0

/-- The number of ancestors is the length of every way to a root. -/
theorem ancestorCount_eq {steps : Nat} {child root : α} (reached : ancestor parent steps child = some root)
    (final : parent root = none) : ancestorCount parent child = steps := by
  classical
  have reaches : ∃ steps, ∃ root, ancestor parent steps child = some root ∧ parent root = none :=
    ⟨steps, root, reached, final⟩
  rw [ancestorCount, dif_pos reaches]
  apply le_antisymm
  · exact Nat.find_min' reaches ⟨root, reached, final⟩
  · by_contra! shorter
    obtain ⟨top, found, highest⟩ := Nat.find_spec reaches
    rw [ancestor_eq_none_of_root found highest shorter] at reached
    cases reached

theorem ReachesRoot.ancestorCount_lt {child above : α} (reaches : ReachesRoot parent above)
    (step : parent child = some above) : ancestorCount parent above < ancestorCount parent child := by
  obtain ⟨steps, root, reached, final⟩ := reaches
  have longer : ancestor parent (steps + 1) child = some root := by
    rw [ancestor, step, Option.bind_some, reached]
  rw [ancestorCount_eq reached final, ancestorCount_eq longer final]
  exact Nat.lt_succ_self steps

/-! ## Listing the parents first -/

/-- Elements that stand behind their parents reach a root. -/
theorem ParentsFirst.reachesRoot {order : List α} (first : ParentsFirst parent order) :
    ∀ child ∈ order, ReachesRoot parent child := by
  induction order using List.reverseRecOn with
  | nil =>
      intro child member
      cases member
  | append_singleton rest last ih =>
      have earlier : ∀ child ∈ rest, ReachesRoot parent child :=
        ih fun before child behind split above step =>
          first before child (behind ++ [last]) (by simp [split]) above step
      intro child member
      rcases List.mem_append.mp member with inRest | isLast
      · exact earlier child inRest
      · obtain rfl := List.mem_singleton.mp isLast
        cases step : parent child with
        | none => exact reachesRoot_of_parent_none step
        | some above =>
            exact (reachesRoot_iff_of_parent step).mpr
              (earlier above (first rest child [] rfl above step))

/-- A forest is listed by the number of ancestors. -/
theorem exists_parentsFirst {nodes : List α}
    (closed : ∀ child ∈ nodes, ∀ above, parent child = some above → above ∈ nodes)
    (reaches : ∀ child ∈ nodes, ReachesRoot parent child) :
    ∃ order, order.Perm nodes ∧ ParentsFirst parent order := by
  let shallower (first second : α) : Prop := ancestorCount parent first ≤ ancestorCount parent second
  classical
  have total : Std.Total shallower := ⟨fun first second => Nat.le_total _ _⟩
  have chained : IsTrans α shallower := ⟨fun _ _ _ => Nat.le_trans⟩
  refine ⟨nodes.insertionSort shallower, List.perm_insertionSort _ _, ?_⟩
  intro before child behind split above step
  have sorted := List.pairwise_insertionSort shallower nodes
  rw [split, List.pairwise_append, List.pairwise_cons] at sorted
  have member : child ∈ nodes :=
    (List.perm_insertionSort shallower nodes).mem_iff.mp (split ▸ by simp)
  have inside := closed child member above step
  have less := (reaches above inside).ancestorCount_lt step
  have listed : above ∈ before ++ child :: behind :=
    split ▸ (List.perm_insertionSort shallower nodes).mem_iff.mpr inside
  -- The parent has fewer ancestors, so it stands in front.
  rcases List.mem_append.mp listed with found | found
  · exact found
  · rcases List.mem_cons.mp found with rfl | later
    · exact absurd less (lt_irrefl _)
    · exact absurd (sorted.2.1.1 above later) (Nat.not_le.mpr less)

/-- The elements of a family that contains its parents reach roots exactly if they can be
listed with the parents first. -/
theorem reachesRoot_iff_exists_parentsFirst {nodes : List α}
    (closed : ∀ child ∈ nodes, ∀ above, parent child = some above → above ∈ nodes) :
    (∀ child ∈ nodes, ReachesRoot parent child) ↔
      ∃ order, order.Perm nodes ∧ ParentsFirst parent order := by
  refine ⟨exists_parentsFirst closed, ?_⟩
  intro ⟨order, same, first⟩ child member
  exact first.reachesRoot child (same.mem_iff.mpr member)

end

end Reproit
