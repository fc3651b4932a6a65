/-
# Canonical bytes are a normal form

Writing a JSON value canonically loses nothing: its canonical bytes are read back as the
value, writing what was read gives the bytes again, and so two values with the same bytes
are equal.  A byte string is canonical exactly when reading and writing it returns it.
-/

import Reproit.Canonical.Grammar
import Reproit.Data.JsonCompact

namespace Reproit.Canonical

open Json

/-- The canonical bytes of a JSON value, whose numbers may have fractions and whose members
may stand in any order. -/
def treeBytes (tree : Tree) : Result Bytes := do
  let strict ← parseStrictValue (textBytes tree.compact)
  return Json.canonicalBytes strict

theorem treeBytes_ofValue (value : Value) : treeBytes (Tree.ofValue value) = valueBytes value := by
  rw [treeBytes, valueBytes, Tree.compact_ofValue]

/-- A value has canonical bytes exactly when it is strict. -/
theorem treeBytes_eq_ok {tree : Tree} {written : Bytes} :
    treeBytes tree = .ok written ↔
      tree.Strict maxDepth ∧ written = Json.canonicalBytes tree.value := by
  obtain ⟨accepted, refused⟩ := parseStrictValue_isDocument (isDocument_compact tree)
  rw [treeBytes]
  constructor
  · intro done
    by_cases strict : tree.Strict maxDepth
    · rw [accepted strict, ok_bind] at done
      exact ⟨strict, (Except.ok.inj done).symm⟩
    · rw [refused strict] at done
      cases done
  · intro ⟨strict, same⟩
    rw [accepted strict, same]
    rfl

/-- The text of a reordered value is read as the value. -/
theorem parseStrictValue_reorder {order : List (String × Value) → List (String × Value)}
    (perm : ∀ fields, (order fields).Perm fields) {tree : Tree} (strict : tree.Strict maxDepth) :
    parseStrictValue (textBytes (render (reorder order tree.value))) = .ok tree.value := by
  obtain ⟨strict', same⟩ := keeps_of_strict perm tree maxDepth strict
  have read := (parseStrictValue_isDocument (isDocument_compact _)).1 strict'
  rwa [Tree.compact_ofValue, same] at read

theorem parseStrictValue_canonicalBytes {tree : Tree} (strict : tree.Strict maxDepth) :
    parseStrictValue (Json.canonicalBytes tree.value) = .ok tree.value := by
  rw [Json.canonicalBytes, canonicalOrder_eq]
  exact parseStrictValue_reorder (fun _ => List.perm_insertionSort _ _) strict

theorem valueBytes_value {tree : Tree} (strict : tree.Strict maxDepth) :
    valueBytes tree.value = .ok (Json.canonicalBytes tree.value) := by
  have read := @parseStrictValue_reorder id (fun fields => .refl fields) tree strict
  rw [reorder_id] at read
  rw [valueBytes, read]
  rfl

/-- Canonical bytes are read back as the value, and written again from it. -/
theorem treeBytes_read {tree : Tree} {written : Bytes} (canonical : treeBytes tree = .ok written) :
    parseStrictValue written = .ok tree.value ∧ valueBytes tree.value = .ok written := by
  obtain ⟨strict, rfl⟩ := treeBytes_eq_ok.mp canonical
  exact ⟨parseStrictValue_canonicalBytes strict, valueBytes_value strict⟩

theorem treeBytes_injective {first second : Tree} {firstBytes secondBytes : Bytes}
    (hfirst : treeBytes first = .ok firstBytes) (hsecond : treeBytes second = .ok secondBytes) :
    firstBytes = secondBytes ↔ first.value = second.value := by
  obtain ⟨readFirst, writtenFirst⟩ := treeBytes_read hfirst
  obtain ⟨readSecond, writtenSecond⟩ := treeBytes_read hsecond
  constructor
  · intro same
    rw [same, readSecond] at readFirst
    exact (Except.ok.inj readFirst).symm
  · intro same
    rw [same, writtenSecond] at writtenFirst
    exact (Except.ok.inj writtenFirst).symm

variable [Primitives]

/-- Canonical bytes are an injective normal form of the JSON values that have them. -/
theorem treeBytes_normal_form :
    (∀ (tree : Tree) (written : Bytes), treeBytes tree = .ok written →
      parseStrictValue written = .ok tree.value ∧ valueBytes tree.value = .ok written) ∧
    (∀ (first second : Tree) (firstBytes secondBytes : Bytes), treeBytes first = .ok firstBytes →
      treeBytes second = .ok secondBytes →
      (firstBytes = secondBytes ↔ first.value = second.value) ∧
      ((Digest.of firstBytes = Digest.of secondBytes → firstBytes = secondBytes) →
        Digest.of firstBytes = Digest.of secondBytes → first.value = second.value)) ∧
    (∀ written : Bytes, (∃ tree, treeBytes tree = .ok written) ↔
      ∃ value, parseStrictValue written = .ok value ∧ valueBytes value = .ok written) := by
  refine ⟨fun tree written canonical => treeBytes_read canonical, ?_, ?_⟩
  · intro first second firstBytes secondBytes hfirst hsecond
    have injective := treeBytes_injective hfirst hsecond
    exact ⟨injective, fun noCollision digests => injective.mp (noCollision digests)⟩
  · intro written
    constructor
    · intro ⟨tree, canonical⟩
      exact ⟨tree.value, treeBytes_read canonical⟩
    · intro ⟨value, _, canonical⟩
      exact ⟨Tree.ofValue value, by rw [treeBytes_ofValue, canonical]⟩

end Reproit.Canonical
