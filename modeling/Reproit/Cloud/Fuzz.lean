/-
# Fuzz cases

The detail of a fuzz case lists its related captures.  Each may name another one as its
parent.  The validator checks every parent alone: it is listed and it is another capture.
-/

import Reproit.Core.Model.Object
import Reproit.Data.Forest
import Reproit.Data.Sorted

namespace Reproit

/-! ## Results -/

def maxActionsPerCase : Nat := 4096

abbrev FuzzResultFormat := Format "reproit.fuzz-result.v1"

inductive FuzzOutcome
  | passed | found | unstable | incomplete
  deriving DecidableEq

inductive FuzzCleanup
  | complete | incomplete
  deriving DecidableEq

inductive FuzzSignal
  | processFailure (service : String)
  | requestTimeout (service : String)
  | httpStatus (service : String) (status : UInt16)
  | invalidHttpResponse (service : String)
  | duplicateSideEffect (service signal : String)
  | invariant (service signal : String)
  deriving DecidableEq

namespace FuzzSignal

def service : FuzzSignal → String
  | processFailure service | requestTimeout service | httpStatus service _
  | invalidHttpResponse service | duplicateSideEffect service _ | invariant service _ => service

def signal? : FuzzSignal → Option String
  | duplicateSideEffect _ signal | invariant _ signal => some signal
  | processFailure _ | requestTimeout _ | httpStatus _ _ | invalidHttpResponse _ => none

def validate (signal : FuzzSignal) : Result Unit := do
  match signal with
  | httpStatus _ status => rejectIf (¬ (100 ≤ status ∧ status ≤ 599)) .schemaInvalid
  | _ => pure ()
  rejectIf (¬ validComponent signal.service ∨
    ∃ value ∈ signal.signal?, value.isEmpty ∨ value.utf8ByteSize > 128) .schemaInvalid

end FuzzSignal

structure FuzzCaseResult where
  campaignId : FuzzCampaignId
  captureIds : List CaptureId
  caseId : FuzzCaseId
  cleanup : FuzzCleanup
  format : FuzzResultFormat
  outcome : FuzzOutcome
  planDigest : Digest
  rootService : Option String
  signals : List FuzzSignal
  deriving DecidableEq

def FuzzCaseResult.validate (result : FuzzCaseResult) : Result Unit := do
  rejectIf (result.captureIds.length > 256 ∨ result.signals.length > maxActionsPerCase ∨
    (∃ service ∈ result.rootService, ¬ validComponent service) ∨
    (result.outcome = .found ∧ (result.rootService.isNone ∨ result.signals.isEmpty)) ∨
    (result.outcome = .passed ∧ (result.rootService.isSome ∨ ¬ result.signals.isEmpty)))
    .schemaInvalid
  forEach result.signals FuzzSignal.validate
  let uniqueCaptureIds := sortDedup result.captureIds
  rejectIf (uniqueCaptureIds.length ≠ result.captureIds.length) .schemaInvalid

/-! ## Related captures -/

inductive FuzzCaseState
  | scheduled | running | complete | found | verifying | verified | unstable | incomplete
  deriving DecidableEq

structure FuzzRelatedCapture where
  captureId : CaptureId
  caseId : FuzzCaseId
  parentCaptureId : Option CaptureId
  serviceId : ServiceId
  deriving DecidableEq

structure FuzzCaseDetail where
  campaignId : FuzzCampaignId
  caseId : FuzzCaseId
  captures : List FuzzRelatedCapture
  result : FuzzCaseResult
  state : FuzzCaseState
  deriving DecidableEq

namespace FuzzCaseDetail

def validate (detail : FuzzCaseDetail) : Result Unit := do
  detail.result.validate
  rejectIf (detail.campaignId ≠ detail.result.campaignId ∨
    detail.caseId ≠ detail.result.caseId ∨ detail.captures.length > 256 ∨
    ∃ capture ∈ detail.captures, capture.caseId ≠ detail.caseId) .schemaInvalid
  let captureIds := sortDedup (detail.captures.map FuzzRelatedCapture.captureId)
  rejectIf (captureIds.length ≠ detail.captures.length) .schemaInvalid
  rejectIf (∃ capture ∈ detail.captures, ∃ parent ∈ capture.parentCaptureId,
    parent = capture.captureId ∨ parent ∉ captureIds) .schemaInvalid

/-- The listed capture that a capture names as its parent. -/
def parentOf (detail : FuzzCaseDetail) (capture : FuzzRelatedCapture) :
    Option FuzzRelatedCapture :=
  capture.parentCaptureId.bind fun parent =>
    detail.captures.find? fun other => other.captureId = parent

/-- Following the parents of any capture ends at a capture without parent, and no capture is
its own ancestor. -/
structure Forest (detail : FuzzCaseDetail) : Prop where
  rooted : ∀ capture ∈ detail.captures, ∃ steps root,
    ancestor detail.parentOf steps capture = some root ∧ root.parentCaptureId = none
  acyclic : ∀ capture ∈ detail.captures, ∀ steps,
    ancestor detail.parentOf (steps + 1) capture ≠ some capture

/-- The captures can be listed such that every parent stands before its children. -/
def ListsParentsFirst (detail : FuzzCaseDetail) : Prop :=
  ∃ order : List FuzzRelatedCapture, order.Perm detail.captures ∧
    ∀ before child behind, order = before ++ child :: behind →
      ∀ parent, child.parentCaptureId = some parent →
        parent ∈ before.map FuzzRelatedCapture.captureId

/-- What the validator says about the captures. -/
structure Valid (detail : FuzzCaseDetail) : Prop where
  nodup : (detail.captures.map FuzzRelatedCapture.captureId).Nodup
  listed : ∀ capture ∈ detail.captures, ∀ parent, capture.parentCaptureId = some parent →
    ∃ above ∈ detail.captures, above.captureId = parent

theorem valid_of_validate {detail : FuzzCaseDetail} (accepted : detail.validate = .ok ()) :
    detail.Valid := by
  simp only [validate, bind_eq_ok, rejectIf_eq_ok] at accepted
  obtain ⟨_, _, _, _, _, unique, parents⟩ := accepted
  refine ⟨?_, fun capture member parent named => ?_⟩
  · rw [← length_sortDedup_eq_iff, List.length_map]
    exact not_not.mp unique
  · by_contra unlisted
    refine parents ⟨capture, member, parent, named, .inr fun inside => unlisted ?_⟩
    exact List.mem_map.mp (mem_sortDedup.mp inside)

theorem mem_of_parentOf {detail : FuzzCaseDetail} {capture above : FuzzRelatedCapture}
    (found : detail.parentOf capture = some above) :
    above ∈ detail.captures ∧ capture.parentCaptureId = some above.captureId := by
  obtain ⟨parent, named, lookup⟩ := Option.bind_eq_some_iff.mp found
  have identified := List.find?_some lookup
  rw [decide_eq_true_eq] at identified
  exact ⟨List.mem_of_find?_eq_some lookup, identified ▸ named⟩

variable {detail : FuzzCaseDetail}

namespace Valid

theorem capture_eq (valid : detail.Valid) {first second : FuzzRelatedCapture}
    (hfirst : first ∈ detail.captures) (hsecond : second ∈ detail.captures)
    (same : first.captureId = second.captureId) : first = second :=
  List.inj_on_of_nodup_map valid.nodup hfirst hsecond same

/-- A parent that is named is found. -/
theorem exists_parentOf (valid : detail.Valid) {capture : FuzzRelatedCapture}
    (member : capture ∈ detail.captures) {parent : CaptureId}
    (named : capture.parentCaptureId = some parent) :
    ∃ above, detail.parentOf capture = some above ∧ above.captureId = parent := by
  obtain ⟨other, inside, identified⟩ := valid.listed capture member parent named
  have found : (detail.captures.find? fun other => other.captureId = parent).isSome :=
    List.find?_isSome.mpr ⟨other, inside, decide_eq_true identified⟩
  obtain ⟨above, lookup⟩ := Option.isSome_iff_exists.mp found
  have same := List.find?_some lookup
  rw [decide_eq_true_eq] at same
  refine ⟨above, ?_, same⟩
  rw [parentOf, named, Option.bind_some, lookup]

theorem parentOf_eq_none_iff (valid : detail.Valid) {capture : FuzzRelatedCapture}
    (member : capture ∈ detail.captures) :
    detail.parentOf capture = none ↔ capture.parentCaptureId = none := by
  cases named : capture.parentCaptureId with
  | none => simp [parentOf, named]
  | some parent =>
      obtain ⟨above, found, _⟩ := valid.exists_parentOf member named
      simp [found]

theorem mem_of_ancestor {capture root : FuzzRelatedCapture} (member : capture ∈ detail.captures)
    {steps : Nat} (reached : ancestor detail.parentOf steps capture = some root) :
    root ∈ detail.captures := by
  induction steps generalizing capture with
  | zero => exact Option.some.inj reached ▸ member
  | succ steps ih =>
      obtain ⟨above, found, behind⟩ := Option.bind_eq_some_iff.mp reached
      exact ih (mem_of_parentOf found).1 behind

/-- Captures that reach roots are not their own ancestors. -/
theorem forest_iff_reachesRoot (valid : detail.Valid) :
    detail.Forest ↔ ∀ capture ∈ detail.captures, ReachesRoot detail.parentOf capture := by
  constructor
  · intro forest capture member
    obtain ⟨steps, root, reached, final⟩ := forest.rooted capture member
    exact ⟨steps, root, reached, (valid.parentOf_eq_none_iff (mem_of_ancestor member reached)).mpr
      final⟩
  · intro reaches
    refine ⟨fun capture member => ?_, fun capture member => (reaches capture member).ancestor_ne⟩
    obtain ⟨steps, root, reached, final⟩ := reaches capture member
    exact ⟨steps, root, reached, (valid.parentOf_eq_none_iff (mem_of_ancestor member reached)).mp
      final⟩

/-- Naming a capture in front and having it in front is the same. -/
theorem listsParentsFirst_iff (valid : detail.Valid) :
    detail.ListsParentsFirst ↔
      ∃ order, order.Perm detail.captures ∧ ParentsFirst detail.parentOf order := by
  apply exists_congr
  intro order
  refine and_congr_right fun same => ?_
  have inside : ∀ capture, capture ∈ order → capture ∈ detail.captures := fun _ =>
    same.mem_iff.mp
  constructor
  · intro first before child behind split above found
    obtain ⟨aboveInside, named⟩ := mem_of_parentOf found
    obtain ⟨other, earlier, identified⟩ := List.mem_map.mp (first before child behind split _ named)
    have otherInside := inside other (split ▸ List.mem_append_left _ earlier)
    exact valid.capture_eq otherInside aboveInside identified ▸ earlier
  · intro first before child behind split parent named
    have member := inside child (by simp [split])
    obtain ⟨above, found, identified⟩ := valid.exists_parentOf member named
    exact List.mem_map.mpr ⟨above, first before child behind split above found, identified⟩

end Valid

/-- The captures of a validated detail form a forest exactly when they can be listed with the
parents first, which the validator does not check. -/
theorem forest_iff_listsParentsFirst (accepted : detail.validate = .ok ()) :
    detail.Forest ↔ detail.ListsParentsFirst := by
  have valid := valid_of_validate accepted
  rw [valid.forest_iff_reachesRoot, valid.listsParentsFirst_iff]
  apply reachesRoot_iff_exists_parentsFirst
  intro child _ above found
  exact (mem_of_parentOf found).1

/-! ## Parents of each other -/

def sampleId (kind : IdKind) (number : Fin 16) : TypedId kind :=
  ⟨⟨7 * 2 ^ 76 + number, by omega⟩, by
    show (7 * 2 ^ 76 + number.val) / 2 ^ 76 % 16 = 7
    omega⟩

def sampleCapture (number : Fin 16) (parent : Option (Fin 16)) : FuzzRelatedCapture where
  captureId := sampleId .capture number
  caseId := sampleId .fuzzCase 0
  parentCaptureId := parent.map (sampleId .capture)
  serviceId := sampleId .service 0

/-- The detail of an incomplete case with some related captures. -/
def sampleDetail (captures : List FuzzRelatedCapture) : FuzzCaseDetail where
  campaignId := sampleId .fuzzCampaign 0
  caseId := sampleId .fuzzCase 0
  captures := captures
  result :=
    { campaignId := sampleId .fuzzCampaign 0
      captureIds := []
      caseId := sampleId .fuzzCase 0
      cleanup := .complete
      format := .v1
      outcome := .incomplete
      planDigest := default
      rootService := none
      signals := [] }
  state := .incomplete

/-- A parent and its child. -/
def family : List FuzzRelatedCapture := [sampleCapture 0 none, sampleCapture 1 (some 0)]

/-- Two captures that name each other. -/
def pair : List FuzzRelatedCapture := [sampleCapture 0 (some 1), sampleCapture 1 (some 0)]

theorem validate_family : (sampleDetail family).validate = .ok () := by decide

theorem validate_pair : (sampleDetail pair).validate = .ok () := by decide

theorem parentOf_pair :
    (sampleDetail pair).parentOf (sampleCapture 0 (some 1)) = some (sampleCapture 1 (some 0)) ∧
      (sampleDetail pair).parentOf (sampleCapture 1 (some 0)) =
        some (sampleCapture 0 (some 1)) := by
  decide

theorem forest_family : (sampleDetail family).Forest := by
  apply (forest_iff_listsParentsFirst validate_family).mpr
  refine ⟨family, List.Perm.refl _, ?_⟩
  intro before child behind split parent named
  rw [family] at split
  rcases before with _ | ⟨first, _ | ⟨second, rest⟩⟩
  · obtain ⟨same, _⟩ := List.cons.inj split
    rw [← same] at named
    cases named
  · obtain ⟨same, others⟩ := List.cons.inj split
    obtain ⟨last, _⟩ := List.cons.inj others
    rw [← last] at named
    rw [← Option.some.inj named, ← same]
    exact List.mem_cons_self
  · simp at split

/-- Two captures that are each other's parent are accepted. -/
theorem forest_pair : ¬ ∀ detail : FuzzCaseDetail, detail.validate = .ok () → detail.Forest := by
  intro always
  have forest := always (sampleDetail pair) validate_pair
  apply forest.acyclic (sampleCapture 0 (some 1)) List.mem_cons_self 1
  rw [ancestor, parentOf_pair.1, Option.bind_some, ancestor, parentOf_pair.2]
  rfl

end FuzzCaseDetail

end Reproit
