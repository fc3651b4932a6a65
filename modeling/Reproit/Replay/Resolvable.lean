/-
# Documents that the resolver reads

The resolver reads a document of a capture only up to a fixed size.  A valid trigger, World
or dependency transcript is never larger.  A closure manifest lists as many files, objects
and modules as a program has, and is read exactly when its entries leave it small enough.
-/

import Reproit.Backend.Sample
import Reproit.Core.ManifestSize

namespace Reproit

open Json

section

variable [Primitives]

/-- The document has canonical bytes, they are within the limit, and the resolver reads them
back from every object that holds them. -/
def Resolvable {α : Type} [Document α] [Validate α] (value : α) : Prop :=
  ∃ bytes, Canonical.bytes value = .ok bytes ∧ bytes.length ≤ maxManifestObjectBytes ∧
    ∀ (object : LogicalObject) (read : ManifestReader) (state : Resolver),
      object.plainSize.toNat = bytes.length → object.plainDigest = Digest.of bytes →
      read state.calls object = .ok bytes →
        ∃ next, parseManifest α object read (Digest.of bytes) state = .ok (value, next)

/-- A valid document that can be written is read back exactly when it is short. -/
theorem resolvable_iff {α : Type} [Document α] [Validate α] {value : α}
    (valid : validate value = .ok ()) (exact : Document.Exact value) :
    Resolvable value ↔ (Canonical.text value).length ≤ maxManifestObjectBytes := by
  have canonical := Canonical.bytes_of_exact exact
  constructor
  · intro ⟨bytes, written, short, _⟩
    obtain rfl := Except.ok.inj (canonical.symm.trans written)
    exact short
  · intro short
    refine ⟨_, canonical, short, fun object read state size digest answer => ?_⟩
    refine ⟨_, parseManifest_eq_ok.mpr ⟨?_, Resolver.advances_read.mp rfl⟩⟩
    constructor
    case bounded => rwa [size]
    case bound => exact digest
    case valid => exact valid
    case canonical =>
      rw [digest]
      exact Canonical.digest_of_exact exact
    case answer => exact ⟨_, answer, size.symm, digest.symm, Canonical.parseStrict_bytes canonical⟩

/-- Triggers, Worlds and transcripts are always short enough; a closure manifest is exactly
when its entries are. -/
theorem valid_resolvable :
    (∀ trigger : Trigger, trigger.validate = .ok () → Resolvable trigger) ∧
    (∀ world : WorldCheckpoint, world.validate = .ok () → Resolvable world) ∧
    (∀ transcript : DependencyTranscript, transcript.validate = .ok () → Resolvable transcript) ∧
    ∀ manifest : SubjectClosureManifest, manifest.validate = .ok () →
      (Resolvable manifest ↔ manifest.documentBytes ≤ maxManifestObjectBytes) := by
  refine ⟨fun trigger valid => ?_, fun world valid => ?_, fun transcript valid => ?_,
    fun manifest valid => ?_⟩
  · apply (resolvable_iff valid trigger.exact).mpr
    exact (Trigger.length_text_le valid).trans (by decide)
  · obtain ⟨exact, short⟩ := WorldCheckpoint.exact_of_validate valid
    apply (resolvable_iff valid exact).mpr
    exact short.trans (by decide)
  · apply (resolvable_iff valid (DependencyTranscript.exact valid)).mpr
    exact (DependencyTranscript.length_text_le valid).trans (by decide)
  · rw [resolvable_iff valid (SubjectClosureManifest.exact valid),
      SubjectClosureManifest.length_text]

theorem SubjectClosureManifest.not_resolvable_of_large {manifest : SubjectClosureManifest}
    (valid : manifest.validate = .ok ())
    (large : maxManifestObjectBytes < manifest.documentBytes) : ¬ Resolvable manifest := by
  rwa [resolvable_iff valid (SubjectClosureManifest.exact valid), length_text, not_le]

/-- A manifest of nine thousand and more files is too large. -/
theorem SubjectClosureManifest.not_resolvable_of_many_files {manifest : SubjectClosureManifest}
    (valid : manifest.validate = .ok ()) (many : 9000 ≤ manifest.files.length) :
    ¬ Resolvable manifest := by
  apply SubjectClosureManifest.not_resolvable_of_large valid
  have each := List.card_nsmul_le_sum ((manifest.files.map fileBytes).map (1 + ·)) 120
    fun size member => by
      obtain ⟨_, listed, rfl⟩ := List.mem_map.mp member
      obtain ⟨file, -, rfl⟩ := List.mem_map.mp listed
      have path := utf8ByteSize_add_two_le_stringSize file.path
      have boolean : 4 ≤ booleanBytes file.executable := by cases file.executable <;> decide
      rw [fileBytes]
      omega
  rw [List.length_map, List.length_map, smul_eq_mul] at each
  have files : 120 * 9000 ≤ arrayBytes (manifest.files.map fileBytes) := by
    rw [arrayBytes]
    omega
  rw [maxManifestObjectBytes, documentBytes]
  omega

end

/-! ## A program with long arguments -/

theorem SubjectClosureManifest.arguments_le_launchBytes (launch : SubjectLaunch) :
    arrayBytes (launch.arguments.map stringSize) ≤ launchBytes launch := by
  rw [launchBytes]
  omega

theorem SubjectClosureManifest.launchBytes_le_documentBytes (manifest : SubjectClosureManifest) :
    launchBytes manifest.launch ≤ manifest.documentBytes := by
  rw [documentBytes]
  omega

namespace Backend.Sample

/-- A text of quotation marks, each of which is escaped. -/
def quotes (count : Nat) : String := String.ofList (List.replicate count quote)

theorem utf8ByteSize_quotes (count : Nat) : (quotes count).utf8ByteSize = count := by
  rw [quotes, utf8ByteSize_ofList, length_textBytes_of_ascii, List.length_replicate]
  intro c listed
  obtain rfl := List.eq_of_mem_replicate listed
  decide

theorem stringSize_quotes (count : Nat) : stringSize (quotes count) = 2 + count * 2 := by
  have escaped : charSize quote = 2 := by decide
  rw [stringSize, quotes, String.toList_ofList, List.map_replicate, List.sum_replicate, escaped,
    smul_eq_mul]

theorem le_arrayBytes_replicate (count size : Nat) :
    count * (1 + size) ≤ arrayBytes (List.replicate count size) := by
  rw [arrayBytes, List.map_replicate, List.sum_replicate, smul_eq_mul]
  omega

def quotedLaunch : SubjectLaunch :=
  { launch with arguments := List.replicate 128 (quotes 4096) }

def quotedManifest [Primitives] : SubjectClosureManifest :=
  { subjectManifest with launch := quotedLaunch }

theorem validate_quotedLaunch : quotedLaunch.validate = .ok () := by
  have plain := validate_launch
  simp only [SubjectLaunch.validate, rejectIf_eq_ok, not_or] at plain ⊢
  refine ⟨?_, ?_, plain.2.2⟩
  · rw [quotedLaunch, List.length_replicate]
    decide
  · intro ⟨argument, listed, long⟩
    obtain rfl := List.eq_of_mem_replicate listed
    rw [utf8ByteSize_quotes] at long
    exact absurd long (by decide)

theorem validate_quotedManifest [Primitives] : quotedManifest.validate = .ok () := by
  have plain := validate_subjectManifest
  rw [SubjectClosureManifest.validate, bind_eq_ok] at plain ⊢
  obtain ⟨_, _, rest⟩ := plain
  exact ⟨(), validate_quotedLaunch, rest⟩

end Backend.Sample

/-- A valid closure manifest is not read because its launch arguments are long. -/
theorem valid_not_resolvable :
    letI := Backend.Sample.primitives
    ∃ manifest : SubjectClosureManifest, manifest.validate = .ok () ∧ ¬ Resolvable manifest := by
  let _ := Backend.Sample.primitives
  have valid := Backend.Sample.validate_quotedManifest
  refine ⟨Backend.Sample.quotedManifest, valid,
    SubjectClosureManifest.not_resolvable_of_large valid ?_⟩
  have sizes : Backend.Sample.quotedLaunch.arguments.map stringSize =
      List.replicate 128 (2 + 4096 * 2) :=
    List.map_replicate.trans (congrArg _ (Backend.Sample.stringSize_quotes 4096))
  have arguments := Backend.Sample.le_arrayBytes_replicate 128 (2 + 4096 * 2)
  have launch := SubjectClosureManifest.arguments_le_launchBytes Backend.Sample.quotedLaunch
  have whole := SubjectClosureManifest.launchBytes_le_documentBytes Backend.Sample.quotedManifest
  rw [sizes] at launch
  exact lt_of_lt_of_le (by decide) (arguments.trans (launch.trans whole))

end Reproit
