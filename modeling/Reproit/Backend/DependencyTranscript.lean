/-
# Dependency transcripts

A transcript lists the interactions of an operation with its dependencies and holds the
bytes of every request and response.  A replay answers the recorded requests in their
order; the first call that is not the next one fails, and so does every later one.
-/

import Reproit.Core.Canonical
import Reproit.Core.Model.Resources
import Reproit.Data.OrderedMap
import Reproit.Data.Update

namespace Reproit.Backend

def maxTranscriptInteractions : Nat := 1024

structure TranscriptInteraction where
  causalParentId : Option OperationId
  operationId : OperationId
  requestDigest : Digest
  requestObjectId : ObjectId
  responseDigest : Digest
  responseObjectId : ObjectId
  sequence : UInt16
  sessionPosition : UInt64
  deriving DecidableEq

def dependencyMismatch : Error :=
  .new .dependencyTranscriptMismatch
    "The dependency transcript event does not match its captured bytes."

variable [Primitives]

/-- The interactions are numbered in order, belong to the operation and name the bytes
that the transcript holds. -/
def verifyDependencyTranscript (operationId : OperationId)
    (interactions : List TranscriptInteraction) (objects : OrderedMap ObjectId Bytes) :
    Result Unit := do
  rejectIf (interactions.isEmpty ∨ interactions.length > maxTranscriptInteractions) .schemaInvalid
  forEach interactions.zipIdx fun (interaction, index) => do
    let sequence ← okOr (uint16OfNat index) .schemaInvalid
    let sessionPosition ← okOr (uint64OfNat index) .schemaInvalid
    let causalMatch := interaction.operationId = operationId ∨
      interaction.causalParentId = some operationId
    let request := objects[interaction.requestObjectId]?
    let response := objects[interaction.responseObjectId]?
    rejectIf (interaction.sequence ≠ sequence ∨ interaction.sessionPosition ≠ sessionPosition ∨
      ¬ causalMatch ∨ request.map Digest.of ≠ some interaction.requestDigest ∨
      response.map Digest.of ≠ some interaction.responseDigest)
      (.new .dependencyTranscriptMismatch
        "The dependency transcript does not match the captured operation.")

structure ClosedDependencyTranscript where
  interactions : List TranscriptInteraction
  objects : OrderedMap ObjectId Bytes

namespace ClosedDependencyTranscript

omit [Primitives] in
/-- The ids of all requests and responses, none of which occurs twice. -/
def objectIds (held : List ObjectId) : List TranscriptInteraction → Result (List ObjectId)
  | [] => .ok held
  | interaction :: rest => do
      rejectIf (interaction.requestObjectId = interaction.responseObjectId ∨
        interaction.requestObjectId ∈ held ∨
        interaction.responseObjectId ∈ interaction.requestObjectId :: held) dependencyMismatch
      objectIds (interaction.responseObjectId :: interaction.requestObjectId :: held) rest

omit [Primitives] in
/-- The size of all objects, each of which is used and small. The sum of small objects is
far below the range of a size. -/
def objectBytes (ids : List ObjectId) (total : Nat) : List (ObjectId × Bytes) → Result Nat
  | [] => .ok total
  | (id, bytes) :: rest => do
      rejectIf (id ∉ ids ∨ bytes.length > DependencyLimits.v1.objectBytes.toNat)
        dependencyMismatch
      objectBytes ids (total + bytes.length) rest

def validate (transcript : ClosedDependencyTranscript) (operationId : OperationId) :
    Result Unit := do
  verifyDependencyTranscript operationId transcript.interactions transcript.objects
  let ids ← objectIds [] transcript.interactions
  rejectIf (ids.length ≠ transcript.objects.size) dependencyMismatch
  let total ← objectBytes ids 0 transcript.objects.toList
  rejectIf (total > DependencyLimits.v1.candidateBytes.toNat) dependencyMismatch

end ClosedDependencyTranscript

/-! ## Replay -/

structure HttpTranscriptReplay where
  failed : Bool
  nextInteraction : Nat
  operationId : OperationId
  transcript : ClosedDependencyTranscript

namespace HttpTranscriptReplay

def new (operationId : OperationId) (transcript : ClosedDependencyTranscript) :
    Result HttpTranscriptReplay := do
  transcript.validate operationId
  return { failed := false, nextInteraction := 0, operationId, transcript }

omit [Primitives] in
def reject {α : Type} : Update Error HttpTranscriptReplay α := do
  let replay ← get
  set { replay with failed := true }
  throw dependencyMismatch

def exchange (operationId : OperationId) (request : Bytes) :
    Update Error HttpTranscriptReplay Bytes := do
  let replay ← get
  if replay.failed ∨ operationId ≠ replay.operationId then reject
  else match replay.transcript.interactions[replay.nextInteraction]? with
    | none => reject
    | some interaction =>
        if replay.transcript.objects[interaction.requestObjectId]? = some request ∧
            interaction.requestDigest = Digest.of request then do
          let response ← Update.attempt
            (okOr replay.transcript.objects[interaction.responseObjectId]? dependencyMismatch)
          set { replay with nextInteraction := replay.nextInteraction + 1 }
          return response
        else reject

omit [Primitives] in
def finish (replay : HttpTranscriptReplay) : Result Unit :=
  rejectIf (replay.failed ∨ replay.nextInteraction ≠ replay.transcript.interactions.length)
    dependencyMismatch

omit [Primitives] in
def consumedInteractions (replay : HttpTranscriptReplay) : Nat := replay.nextInteraction

/-- The answers to calls in turn, and the replay after them. -/
def exchangeAll (replay : HttpTranscriptReplay) :
    List (OperationId × Bytes) → List (Result Bytes) × HttpTranscriptReplay
  | [] => ([], replay)
  | (operationId, request) :: calls =>
      let after := exchange operationId request replay
      let (answers, final) := exchangeAll (Update.state after) calls
      (Update.verdict after :: answers, final)

end HttpTranscriptReplay

/-! ## What a valid transcript holds -/

/-- The recorded bytes of an interaction. -/
def Records (objects : OrderedMap ObjectId Bytes) (interaction : TranscriptInteraction)
    (recorded : Bytes × Bytes) : Prop :=
  objects[interaction.requestObjectId]? = some recorded.1 ∧
    objects[interaction.responseObjectId]? = some recorded.2 ∧
    interaction.requestDigest = Digest.of recorded.1 ∧
    interaction.responseDigest = Digest.of recorded.2

variable {operationId : OperationId} {interactions : List TranscriptInteraction}
  {objects : OrderedMap ObjectId Bytes}

omit [Primitives] in
theorem map_eq_some_iff_exists {α β : Type} {value : Option α} {transform : α → β} {result : β} :
    value.map transform = some result ↔ ∃ held, value = some held ∧ result = transform held := by
  rw [Option.map_eq_some_iff]
  exact exists_congr fun held => and_congr_right fun _ => eq_comm

/-- Every interaction is the one of its number and has its bytes. -/
theorem verifyDependencyTranscript_eq_ok {done : Unit} :
    verifyDependencyTranscript operationId interactions objects = .ok done ↔
      interactions ≠ [] ∧ interactions.length ≤ maxTranscriptInteractions ∧
        ∀ index interaction, interactions[index]? = some interaction →
          interaction.sequence.toNat = index ∧ interaction.sessionPosition.toNat = index ∧
            (interaction.operationId = operationId ∨
              interaction.causalParentId = some operationId) ∧
            ∃ recorded, Records objects interaction recorded := by
  simp only [verifyDependencyTranscript, bind_eq_ok, rejectIf_eq_ok, forEach_eq_ok, okOr_eq_ok,
    not_or, not_not, not_lt, List.isEmpty_iff, uint16OfNat_eq_some, uint64OfNat_eq_some,
    map_eq_some_iff_exists]
  constructor
  · rintro ⟨_, ⟨nonempty, short⟩, each⟩
    refine ⟨nonempty, short, ?_⟩
    intro index interaction there
    have member : (interaction, index) ∈ interactions.zipIdx := by
      rw [List.mem_zipIdx_iff_getElem?]
      exact there
    obtain ⟨sequence, numbered, position, placed, rfl, rfl, causal, ⟨request, held, requested⟩,
      response, stored, responded⟩ := each _ member
    exact ⟨numbered, placed, or_iff_not_and_not.mpr causal, (request, response), held, stored, requested, responded⟩
  · rintro ⟨nonempty, short, each⟩
    refine ⟨(), ⟨nonempty, short⟩, ?_⟩
    rintro ⟨interaction, index⟩ member
    rw [List.mem_zipIdx_iff_getElem?] at member
    obtain ⟨numbered, placed, causal, ⟨request, response⟩, held, stored, requested, responded⟩ :=
      each index interaction member
    exact ⟨_, numbered, _, placed, rfl, rfl, or_iff_not_and_not.mp causal,
      ⟨request, held, requested⟩, response, stored, responded⟩

omit [Primitives] in
/-- The ids of an interaction. -/
def TranscriptInteraction.objectIds (interaction : TranscriptInteraction) : List ObjectId :=
  [interaction.requestObjectId, interaction.responseObjectId]

namespace ClosedDependencyTranscript

omit [Primitives] in
/-- The ids of a transcript none of whose ids occurs twice. -/
theorem objectIds_of_nodup {held : List ObjectId}
    (distinct : (interactions.flatMap TranscriptInteraction.objectIds ++ held).Nodup) :
    objectIds held interactions =
      .ok ((interactions.flatMap TranscriptInteraction.objectIds).reverse ++ held) := by
  induction interactions generalizing held with
  | nil => rfl
  | cons interaction rest ih =>
      rw [List.flatMap_cons, TranscriptInteraction.objectIds, List.append_assoc, List.cons_append,
        List.singleton_append] at distinct
      have moved : (interaction.requestObjectId :: interaction.responseObjectId ::
          (rest.flatMap TranscriptInteraction.objectIds ++ held)).Perm
          (rest.flatMap TranscriptInteraction.objectIds ++
            interaction.responseObjectId :: interaction.requestObjectId :: held) :=
        (List.Perm.swap _ _ _).trans
          ((List.perm_middle.symm.cons _).trans List.perm_middle.symm)
      have later := moved.nodup distinct
      obtain ⟨requestNew, others⟩ := List.nodup_cons.mp distinct
      obtain ⟨responseNew, -⟩ := List.nodup_cons.mp others
      have fresh : ¬ (interaction.requestObjectId = interaction.responseObjectId ∨
          interaction.requestObjectId ∈ held ∨
          interaction.responseObjectId ∈ interaction.requestObjectId :: held) := by
        simp only [List.mem_cons, List.mem_append, not_or] at requestNew responseNew ⊢
        exact ⟨requestNew.1, requestNew.2.2, Ne.symm requestNew.1, responseNew.2⟩
      rw [objectIds, rejectIf_of_not _ fresh, ok_bind, ih later, List.flatMap_cons,
        List.reverse_append, List.append_assoc]
      rfl

omit [Primitives] in
/-- The size of objects that are all used and small. -/
theorem objectBytes_of_small {ids : List ObjectId} {total : Nat}
    {entries : List (ObjectId × Bytes)} (used : ∀ entry ∈ entries, entry.1 ∈ ids)
    (small : ∀ entry ∈ entries, entry.2.length ≤ DependencyLimits.v1.objectBytes.toNat) :
    objectBytes ids total entries =
      .ok (total + (entries.map fun entry => entry.2.length).sum) := by
  induction entries generalizing total with
  | nil => rfl
  | cons entry rest ih =>
      obtain ⟨id, bytes⟩ := entry
      have accepted : ¬ (id ∉ ids ∨ bytes.length > DependencyLimits.v1.objectBytes.toNat) := by
        rw [not_or, not_not, not_lt]
        exact ⟨used _ List.mem_cons_self, small _ List.mem_cons_self⟩
      rw [objectBytes, rejectIf_of_not _ accepted, ok_bind,
        ih (fun entry member => used entry (List.mem_cons_of_mem _ member))
          (fun entry member => small entry (List.mem_cons_of_mem _ member)), List.map_cons,
        List.sum_cons, Nat.add_assoc]

/-- A transcript that verifies is valid when its objects are the small objects of its
interactions, each under an id of its own. -/
theorem validate_of_perm {transcript : ClosedDependencyTranscript}
    (verified : verifyDependencyTranscript operationId transcript.interactions
      transcript.objects = .ok ())
    {entries : List (ObjectId × Bytes)}
    (ids : transcript.interactions.flatMap TranscriptInteraction.objectIds =
      entries.map Prod.fst)
    (held : transcript.objects.toList.Perm entries)
    (small : ∀ entry ∈ entries, entry.2.length ≤ DependencyLimits.v1.objectBytes.toNat)
    (fits : (entries.map fun entry => entry.2.length).sum ≤
      DependencyLimits.v1.candidateBytes.toNat) : transcript.validate operationId = .ok () := by
  have distinct : (entries.map Prod.fst).Nodup := by
    have keys := transcript.objects.nodup_keys
    rw [← Std.ExtTreeMap.map_fst_toList_eq_keys] at keys
    exact (held.map _).nodup keys
  have listed : objectIds [] transcript.interactions =
      .ok ((entries.map Prod.fst).reverse ++ []) := by
    rw [← ids]
    apply objectIds_of_nodup
    rwa [List.append_nil, ids]
  have used : ∀ entry ∈ transcript.objects.toList,
      entry.1 ∈ (entries.map Prod.fst).reverse ++ [] := by
    intro entry member
    rw [List.append_nil, List.mem_reverse]
    exact List.mem_map_of_mem (held.subset member)
  have summed := @objectBytes_of_small _ 0 _ used
    fun entry member => small entry (held.subset member)
  have size : ¬ ((entries.map Prod.fst).reverse ++ []).length ≠ transcript.objects.size := by
    rw [not_not, List.append_nil, List.length_reverse, List.length_map, ← held.length_eq,
      Std.ExtTreeMap.length_toList]
  have total : ¬ 0 + (transcript.objects.toList.map fun entry => entry.2.length).sum >
      DependencyLimits.v1.candidateBytes.toNat := by
    rw [Nat.zero_add, not_lt, (held.map _).sum_eq]
    exact fits
  rw [validate, verified, ok_bind, listed, ok_bind, rejectIf_of_not _ size, ok_bind, summed,
    ok_bind, rejectIf_of_not _ total]

end ClosedDependencyTranscript

end Reproit.Backend
