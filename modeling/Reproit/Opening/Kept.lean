/-
# Kept captures

A capture is kept as its envelope and its ciphertext once it was opened.  What is kept can be
opened again: the capsule and its proofs are read back from it, and the capsule resolves from
the opened objects exactly as it did from the ones that were sealed.
-/

import Reproit.Backend.PrivateSeal
import Reproit.Core.ResolveSpec
import Reproit.Opening.RoundTrip

namespace Reproit

variable [Primitives]

/-! ## Readers that agree -/

section Agreeing

variable {capsule : ReplayCapsule} {read other : ManifestReader}

/-- The readers answer alike for every object of the capsule. -/
def AgreeOn (capsule : ReplayCapsule) (read other : ManifestReader) : Prop :=
  ∀ earlier, ∀ object ∈ capsule.objects, read earlier object = other earlier object

theorem Reads.of_agree {α : Type} [Document α] [Validate α] {earlier : List LogicalObject}
    {object : LogicalObject} {digest : Digest} {value : α} (agree : AgreeOn capsule read other)
    (among : object ∈ capsule.objects) (reads : Reads read earlier object digest value) :
    Reads other earlier object digest value where
  bounded := reads.bounded
  bound := reads.bound
  valid := reads.valid
  canonical := reads.canonical
  answer := by
    rw [← agree earlier object among]
    exact reads.answer

/-- The transcript is read from one of the objects. -/
theorem DependencyResolved.of_agree {earlier : List LogicalObject}
    {found : Option ResolvedDependencyTranscript} (agree : AgreeOn capsule read other)
    (right : DependencyResolved capsule read earlier found) :
    DependencyResolved capsule other earlier found := by
  cases found with
  | none => exact right
  | some transcript =>
      obtain ⟨unique, reads, each⟩ := right
      exact ⟨unique, reads.of_agree agree unique.mem.1, each⟩

/-- What a capsule resolves to depends on its own objects alone. -/
theorem Resolves.of_agree {resolved : ResolvedReplayCapsule} (agree : AgreeOn capsule read other)
    (right : Resolves capsule read resolved) : Resolves capsule other resolved where
  valid := right.valid
  subject := { right.subject with
    reads := right.subject.reads.of_agree agree right.subject.unique.mem.1 }
  trigger := { right.trigger with
    reads := right.trigger.reads.of_agree agree right.trigger.unique.mem.1 }
  failure := { right.failure with
    reads := right.failure.reads.of_agree agree right.failure.unique.mem.1 }
  world := { right.world with
    reads := right.world.reads.of_agree agree right.world.unique.mem.1 }
  dependency := right.dependency.of_agree agree
  exact := right.exact

theorem resolveReplayCapsule_of_agree {resolved : ResolvedReplayCapsule}
    (agree : AgreeOn capsule read other) :
    resolveReplayCapsule capsule read = .ok resolved ↔
      resolveReplayCapsule capsule other = .ok resolved := by
  rw [resolveReplayCapsule_eq_ok, resolveReplayCapsule_eq_ok]
  exact ⟨.of_agree agree, .of_agree fun earlier object among => (agree earlier object among).symm⟩

end Agreeing

namespace Backend

/-! ## Keeping -/

/-- A capture that was opened once, as it was uploaded. -/
structure KeptCapture where
  ciphertext : OrderedMap Digest Bytes
  envelopeBytes : Bytes

namespace KeptCapture

/-- Keep a capture that can be opened. -/
def copyVerified (envelopeBytes : Bytes) (ciphertext : OrderedMap Digest Bytes)
    (verificationKey occurrenceKey : SecretKey) : Result KeptCapture := do
  let envelope ← Canonical.parseStrict UploadEnvelope envelopeBytes
  let _ ← openCapture envelope verificationKey occurrenceKey ciphertext
  return { ciphertext, envelopeBytes }

def open' (kept : KeptCapture) (verificationKey occurrenceKey : SecretKey) :
    Result OpenedCapture := do
  let envelope ← Canonical.parseStrict UploadEnvelope kept.envelopeBytes
  openCapture envelope verificationKey occurrenceKey kept.ciphertext

end KeptCapture

end Backend

omit [Primitives] in
/-- The signature of an envelope holds no number. -/
theorem UploadEnvelope.exact_of_signedBytes {envelope : UploadEnvelope} {unsigned : Bytes}
    (written : SignedDocument.signedBytes envelope = .ok unsigned) :
    Document.Exact envelope := by
  rw [SignedDocument.signedBytes_eq] at written
  obtain ⟨exact, -⟩ := Canonical.bytes_eq_ok.mp written
  change UploadEnvelope.codec.exact { envelope with signature := "" } = true at exact
  change UploadEnvelope.codec.exact envelope = true
  simpa [UploadEnvelope.codec] using exact

namespace Backend

/-- The opened capture gives back the capsule and its proofs, and the capsule resolves from the
opened objects to what it resolved to before it was sealed. -/
structure OpenedCapture.Replays (opened : OpenedCapture) (request : SealRequest) : Prop where
  capsule : ∃ bytes, opened.objects[request.ids.capsuleObjectId]? = some bytes ∧
    Canonical.parseStrict ReplayCapsule bytes = .ok request.input.capsule
  proofs : ∀ run : Fin 3, ∃ bytes,
    opened.objects[request.ids.proofObjectIds.get run]? = some bytes ∧
      Canonical.parseStrict Proof bytes = .ok (request.admitted.proofs.get run)
  resolves : ∀ resolved,
    resolveReplayCapsule request.input.capsule (objectReader opened.objects) = .ok resolved ↔
      resolveReplayCapsule request.input.capsule (objectReader request.input.objects.objects) =
        .ok resolved

section Keeping

variable {request : SealRequest} {source : NonceSource} {upload : SealedUpload}

/-- Every object of a sealed capsule had its bytes. -/
theorem Seals.exists_bytes {plaintext : OrderedMap ObjectId Bytes}
    {descriptors : List LogicalObject} {materials : List EncryptedMaterial}
    {last : EncryptedMaterial}
    (seals : Seals request upload plaintext descriptors materials last) {object : LogicalObject}
    (among : object ∈ request.input.capsule.objects) :
    ∃ bytes, request.input.objects.objects[object.objectId]? = some bytes := by
  obtain ⟨-, -, inserted, new, rfl⟩ := plainObjects_eq_ok.mp seals.gathered
  have listed : object ∈ (request.input.capsule.objects ++ addedObjects request).insertionSort
      (·.objectId ≤ ·.objectId) := by
    rw [List.mem_insertionSort]
    exact List.mem_append_left _ among
  obtain ⟨material, -, bytes, present, -⟩ := exists_result seals.objects listed
  refine ⟨bytes, ?_⟩
  rcases ((OrderedMap.insertAllNew_eq_some.mp inserted).2.2 _ _).mp present with added | held
  · -- an added identifier is new among the objects of the capsule
    have ids : (addedBytes request).map Prod.fst =
        (addedObjects request).map LogicalObject.objectId :=
      request.map_fst_addedBytes.trans request.map_objectId_addedObjects.symm
    have named := List.mem_map_of_mem (f := Prod.fst) added
    rw [ids] at named
    obtain ⟨other, fresh, same⟩ := List.mem_map.mp named
    exact absurd (same ▸ List.mem_map_of_mem among) (new other fresh)
  · exact held

/-- An opened capture holds what was sealed. -/
theorem OpenedCapture.replays {objects : OrderedMap ObjectId Bytes}
    (ran : sealUpload request source = .ok upload)
    (found : ∀ objectId bytes, objects[objectId]? = some bytes ↔
      (∃ object ∈ request.input.capsule.objects, object.objectId = objectId ∧
        request.input.objects.objects[objectId]? = some bytes) ∨
      (objectId = request.ids.capsuleObjectId ∧
        Canonical.bytes request.input.capsule = .ok bytes) ∨
      ∃ run : Fin 3, objectId = request.ids.proofObjectIds.get run ∧
        Canonical.bytes (request.admitted.proofs.get run) = .ok bytes) :
    OpenedCapture.Replays ⟨upload.manifest, objects⟩ request := by
  obtain ⟨plaintext, descriptors, materials, last, seals⟩ := sealUpload_sealed ran
  have exact := (plainObjects_eq_ok.mp seals.gathered).1
  constructor
  case capsule =>
    have written := Canonical.bytes_of_exact exact
    exact ⟨_, (found _ _).mpr (.inr (.inl ⟨rfl, written⟩)), Canonical.parseStrict_bytes written⟩
  case proofs =>
    intro run
    have written := Canonical.bytes_of_exact (Proof.exact (request.admitted.proofs.get run))
    exact ⟨_, (found _ _).mpr (.inr (.inr ⟨run, rfl, written⟩)),
      Canonical.parseStrict_bytes written⟩
  case resolves =>
    intro resolved
    apply resolveReplayCapsule_of_agree
    intro _ object among
    obtain ⟨bytes, held⟩ := seals.exists_bytes among
    have opened := (found object.objectId bytes).mpr (.inl ⟨object, among, rfl, held⟩)
    rw [objectReader, objectReader, held, opened]

/-- A sealed capture can be kept, and what is kept is opened to a capsule that resolves as the
one that was sealed. -/
theorem keeps_sealed (correct : AeadCorrect) {verificationKey : SecretKey}
    (key : Primitives.ed25519PublicKey verificationKey)
    (signs : ∀ unsigned signature, request.signer.sign unsigned = .ok signature →
      ∃ bytes, decodeBase64Url 64 signature = .ok bytes ∧
        Primitives.ed25519Verify verificationKey unsigned bytes)
    (ran : sealUpload request source = .ok upload) :
    ∃ bytes kept opened, Canonical.bytes upload.envelope = .ok bytes ∧
      KeptCapture.copyVerified bytes upload.ciphertext verificationKey request.occurrenceKey =
        .ok kept ∧
      kept.open' verificationKey request.occurrenceKey = .ok opened ∧
      opened.Replays request := by
  obtain ⟨plaintext, descriptors, materials, last, seals⟩ := sealUpload_sealed ran
  have verified := seals.verifies key signs
  obtain ⟨objects, opened, found⟩ := seals.openCapture correct verified
  obtain ⟨_, covered, -, -, written, -⟩ := SignedDocument.verifySignedValue_eq_ok.mp verified
  have canonical := Canonical.bytes_of_exact (UploadEnvelope.exact_of_signedBytes written)
  have parsed := Canonical.parseStrict_bytes canonical
  have replays := OpenedCapture.replays ran fun objectId bytes =>
    (found objectId bytes).trans seals.found_iff
  refine ⟨_, ⟨upload.ciphertext, Canonical.text upload.envelope⟩, _, canonical, ?_, ?_, replays⟩
  · simp only [KeptCapture.copyVerified, bind_eq_ok, pure_eq_ok]
    exact ⟨_, parsed, _, opened, trivial⟩
  · simp only [KeptCapture.open', bind_eq_ok]
    exact ⟨_, parsed, opened⟩

end Keeping

omit [Primitives] in
/-- The sample capture is kept. -/
theorem keeps_sealed_sample :
    letI := Sample.marked
    ∃ upload bytes kept opened, sealUpload (Sample.sealRequest []) Sample.nonceSource = .ok upload ∧
      KeptCapture.copyVerified bytes upload.ciphertext (Vector.replicate 32 0)
        (Sample.sealRequest []).occurrenceKey = .ok kept ∧
      kept.open' (Vector.replicate 32 0) (Sample.sealRequest []).occurrenceKey = .ok opened ∧
      opened.Replays (Sample.sealRequest []) := by
  let _ := Sample.marked
  obtain ⟨upload, ran⟩ := @Sample.exists_sealUpload [] (Nat.zero_le _)
  obtain ⟨bytes, kept, opened, -, keeps, opens, replays⟩ :=
    keeps_sealed Sample.encryptionWorks.correct
      (rfl : Primitives.ed25519PublicKey (Vector.replicate 32 0) = true) Sample.signs ran
  exact ⟨upload, bytes, kept, opened, ran, keeps, opens, replays⟩

end Backend

end Reproit
