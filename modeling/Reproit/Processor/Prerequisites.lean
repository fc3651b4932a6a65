/-
# Prerequisites of features

The walk over the table finds exactly the features that a feature needs, directly or
through others, and the depth of a feature is one more than that of its deepest
prerequisite.
-/

import Mathlib.Logic.Relation
import Reproit.Backend.Processor

namespace Reproit

open Backend

/-- A feature needs another one directly. -/
def Needs (dependent prerequisite : String) : Prop :=
  (dependent, prerequisite) ∈ featurePrerequisites

theorem mem_prerequisitesOf {features : List String} {prerequisite : String} :
    prerequisite ∈ prerequisitesOf features ↔ ∃ feature ∈ features, Needs feature prerequisite := by
  rw [prerequisitesOf, List.mem_flatMap]
  constructor
  · rintro ⟨feature, member, found⟩
    obtain ⟨⟨dependent, other⟩, entry, rfl⟩ := List.mem_map.mp found
    obtain ⟨listed, same⟩ := List.mem_filter.mp entry
    obtain rfl : dependent = feature := by simpa using same
    exact ⟨dependent, member, listed⟩
  · rintro ⟨feature, member, needs⟩
    refine ⟨feature, member, List.mem_map.mpr ⟨(feature, prerequisite), ?_, rfl⟩⟩
    exact List.mem_filter.mpr ⟨needs, by simp⟩

/-- What a walk meets is needed by a feature that it started from. -/
theorem transGen_of_reachesWithin {rounds : Nat} {frontier : List String} {feature : String}
    (reaches : reachesWithin rounds frontier feature = true) :
    ∃ start ∈ frontier, Relation.TransGen Needs start feature := by
  induction rounds generalizing frontier with
  | zero => cases reaches
  | succ rounds ih =>
      rw [reachesWithin] at reaches
      split_ifs at reaches with met done
      · obtain ⟨start, member, needs⟩ := mem_prerequisitesOf.mp met
        exact ⟨start, member, .single needs⟩
      · obtain ⟨between, member, later⟩ := ih reaches
        obtain ⟨start, first, needs⟩ := mem_prerequisitesOf.mp member
        exact ⟨start, first, .head needs later⟩

/-! ## The table has no cycle -/

/-- A bound for the chains below a feature. -/
def prerequisiteRank (feature : String) : Nat :=
  if feature ∈ ["AVX512BW", "AVX512DQ", "AVX512VL"] then 2
  else if feature ∈ ["AVX2", "AVX512F", "FMA", "SSE4_2"] then 1
  else 0

theorem prerequisiteRank_lt {dependent prerequisite : String}
    (needs : Needs dependent prerequisite) :
    prerequisiteRank prerequisite < prerequisiteRank dependent := by
  simp only [Needs, featurePrerequisites, List.mem_cons, List.not_mem_nil, or_false,
    Prod.mk.injEq] at needs
  rcases needs with ⟨rfl, rfl⟩ | ⟨rfl, rfl⟩ | ⟨rfl, rfl⟩ | ⟨rfl, rfl⟩ | ⟨rfl, rfl⟩ | ⟨rfl, rfl⟩ |
    ⟨rfl, rfl⟩ <;> simp [prerequisiteRank]

theorem prerequisiteRank_le (feature : String) : prerequisiteRank feature ≤ 2 := by
  unfold prerequisiteRank
  split_ifs <;> simp

/-- A walk that is long enough for a feature meets all that it needs. -/
theorem reachesWithin_of_transGen {rounds : Nat} {frontier : List String} {start feature : String}
    (member : start ∈ frontier) (needs : Relation.TransGen Needs start feature)
    (enough : prerequisiteRank start ≤ rounds) :
    reachesWithin rounds frontier feature = true := by
  induction rounds generalizing frontier start with
  | zero =>
      obtain ⟨between, first, -⟩ := Relation.TransGen.head'_iff.mp needs
      have := prerequisiteRank_lt first
      omega
  | succ rounds ih =>
      obtain ⟨between, first, later⟩ := Relation.TransGen.head'_iff.mp needs
      have next : between ∈ prerequisitesOf frontier :=
        mem_prerequisitesOf.mpr ⟨start, member, first⟩
      have lower := prerequisiteRank_lt first
      rw [reachesWithin]
      split_ifs with met done
      · rfl
      · rw [done] at next
        cases next
      · rcases Relation.reflTransGen_iff_eq_or_transGen.mp later with rfl | further
        · exact absurd next met
        · exact ih next further (by omega)

theorem featureRequires_iff {candidate feature : String} :
    featureRequires candidate feature = true ↔ Relation.TransGen Needs candidate feature := by
  constructor
  · intro requires
    obtain ⟨start, member, needs⟩ := transGen_of_reachesWithin requires
    obtain rfl := List.mem_singleton.mp member
    exact needs
  · intro needs
    refine reachesWithin_of_transGen List.mem_cons_self needs ?_
    exact (prerequisiteRank_le candidate).trans (by decide)

/-- More fuel than the rank changes nothing. -/
theorem dependencyDepthWithin_succ {fuel : Nat} {feature : String}
    (enough : prerequisiteRank feature ≤ fuel) :
    dependencyDepthWithin (fuel + 1) feature = dependencyDepthWithin fuel feature := by
  induction fuel generalizing feature with
  | zero =>
      have none : prerequisitesOf [feature] = [] := by
        rw [List.eq_nil_iff_forall_not_mem]
        intro prerequisite member
        obtain ⟨dependent, same, needs⟩ := mem_prerequisitesOf.mp member
        obtain rfl := List.mem_singleton.mp same
        have := prerequisiteRank_lt needs
        omega
      change (((prerequisitesOf [feature]).map _).max?).getD 0 = 0
      rw [none]
      rfl
  | succ fuel ih =>
      rw [dependencyDepthWithin, dependencyDepthWithin]
      congr 2
      apply List.map_congr_left
      intro prerequisite member
      obtain ⟨dependent, same, needs⟩ := mem_prerequisitesOf.mp member
      obtain rfl := List.mem_singleton.mp same
      have := prerequisiteRank_lt needs
      rw [ih (by omega)]

/-- The depth of a feature by those of its prerequisites. -/
theorem dependencyDepth_eq (feature : String) :
    dependencyDepth feature = (((prerequisitesOf [feature]).map fun prerequisite =>
      dependencyDepth prerequisite + 1).max?).getD 0 := by
  have length : featurePrerequisites.length = 6 + 1 := rfl
  simp only [dependencyDepth, length]
  rw [dependencyDepthWithin]
  congr 2
  apply List.map_congr_left
  intro prerequisite _
  exact congrArg (· + 1) (dependencyDepthWithin_succ
    ((prerequisiteRank_le prerequisite).trans (by decide))).symm

end Reproit
