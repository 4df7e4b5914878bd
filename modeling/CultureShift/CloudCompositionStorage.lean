/-
# The cloud composition store

The same artifacts as two objects under their keys. The store refuses what it
cannot read back as the same artifact, and is interchangeable with the local
one but for content that ends with the PNG signature: there the two size checks
differ.
-/

import CultureShift.CompositionStorage
import CultureShift.Serialization.Text
import CultureShift.Storage.Objects

namespace CultureShift

open Serialization Storage

namespace CompositionStorage

inductive ArtifactKey
  | png (artifactId : UUID)
  | json (artifactId : UUID)
deriving DecidableEq

abbrev CloudIO := FileProgram ArtifactKey FileContent Exc

/-- How many bytes an object has. The text is ASCII. -/
def FileContent.size : FileContent → Nat
  | .bytes content => content.length
  | .text json => json.render.length
  | .torn => 0

/-- The bound of a read of metadata. -/
def maxMetadata : Nat := 64 * 1024

namespace Cloud

def orRaise {α : Type} : Option α → CloudIO α
  | some value => pure value
  | none => throw unavailable

def get (key : ArtifactKey) (maxBytes : Nat) : CloudIO FileContent :=
  FileProgram.get .objectStorageError .objectNotFoundError FileContent.size key maxBytes

def put (key : ArtifactKey) (content : FileContent) : CloudIO Unit :=
  FileProgram.put .objectStorageError .fileExistsError key content true

variable (config : Config)

/-- The checks of a loaded artifact. -/
def Intact (artifactId : UUID) (record : StoredCompositionArtifact) (content : List UInt8)
    (checkedAt : Option Datetime) : Prop :=
  record.artifactId = artifactId ∧ record.sizeBytes = content.length ∧
    (config.hexdigest content).text = record.sha256 ∧ ∀ now ∈ checkedAt, ¬record.expiresAt ≤ now

instance (artifactId : UUID) (record : StoredCompositionArtifact) (content : List UInt8)
    (checkedAt : Option Datetime) : Decidable (Intact config artifactId record content checkedAt) :=
  inferInstanceAs (Decidable (_ ∧ _ ∧ _ ∧ _))

/-- `CloudCompositionArtifactStore.load`. Without a time, its expiry is not checked. -/
def load (artifactId : UUID) (checkedAt : Option Datetime) : CloudIO LoadedCompositionArtifact := do
  let (record, content) ← tryCatch
    (do
      let object ← get (.json artifactId) maxMetadata
      let json ← orRaise object.json?
      let object ← get (.png artifactId) config.maxBytes
      let content ← orRaise object.bytes?
      let record ← orRaise (readMetadata json)
      return (record, content))
    fun _ => throw unavailable
  if Intact config artifactId record content checkedAt then return ⟨record, content⟩
  else throw unavailable

/-- The content that the store takes. -/
def Accepts (pngBytes : List UInt8) : Prop :=
  isPng pngBytes = true ∧ pngBytes.length ≤ config.maxBytes

instance (pngBytes : List UInt8) : Decidable (Accepts config pngBytes) :=
  inferInstanceAs (Decidable (_ ∧ _))

/-- Create both objects. -/
def place (artifactId : UUID) (pngBytes : List UInt8) (metadata : Json) : CloudIO Unit :=
  tryCatch
    (do
      put (.png artifactId) (.bytes pngBytes)
      put (.json artifactId) (.text metadata))
    fun
      | .objectStorageError => throw unavailable
      | .objectNotFoundError => throw unavailable
      | .fileExistsError => throw unavailable
      | error => throw error

/-- `CloudCompositionArtifactStore.save` -/
def save (artifactId : UUID) (pngBytes : List UInt8) (expiresAt : Datetime) :
    CloudIO StoredCompositionArtifact := do
  if ¬Accepts config pngBytes then throw unavailable
  else
    let record := config.record artifactId pngBytes expiresAt
    tryCatch
      (do
        let existing ← load config artifactId none
        if existing.record = record ∧ existing.pngBytes = pngBytes then return record
        else throw unavailable)
      fun
        | .compositionArtifactError _ => do
            place artifactId pngBytes (metadata record)
            return record
        | error => throw error

/-- `CloudCompositionArtifactStore.delete` -/
def delete (artifactId : UUID) : CloudIO Bool := do
  let removed ← FileProgram.deleteObjects .objectStorageError [.png artifactId, .json artifactId]
  return removed ≠ 0

end Cloud

/-! ## Metadata is small -/

theorem length_escape (c : Char) : (Json.escape c).length ≤ 6 := by
  unfold Json.escape
  split_ifs <;> simp

theorem length_quote (text : String) : (Json.quote text).length ≤ 6 * text.length + 2 := by
  have hflat : ∀ cs : List Char, (cs.flatMap Json.escape).length ≤ 6 * cs.length := by
    intro cs
    induction cs with
    | nil => simp
    | cons c cs ih =>
        have hc := length_escape c
        rw [List.flatMap_cons, List.length_append, List.length_cons]
        omega
  have h := hflat text.toList
  rw [String.length_toList] at h
  simp only [Json.quote, List.length_cons, List.length_append, List.length_nil]
  omega

theorem length_hyphenate (widths : List Nat) (cs : List Char) :
    (UUID.hyphenate widths cs).length = cs.length + widths.length := by
  induction widths generalizing cs with
  | nil => rfl
  | cons width widths ih =>
      simp only [UUID.hyphenate, List.length_append, List.length_cons, ih, List.length_take,
        List.length_drop]
      omega

theorem length_uuid (id : UUID) : id.text.length = 36 := by
  rw [UUID.text, String.length_ofList, length_hyphenate, digits_length]
  rfl

theorem length_isoformat (t : Datetime) (zone : List Char) :
    (t.isoformat zone).length ≤ 26 + zone.length := by
  rw [Datetime.isoformat, String.length_ofList]
  split_ifs
  · simp only [List.length_append, List.length_cons, digits_length]
    omega
  · simp only [List.length_append, List.length_cons, digits_length]
    omega

theorem length_sha256 (digest : Sha256) : digest.text.length = 64 := by
  have h := digest.accepted
  simp only [isSha256, Bool.and_eq_true, beq_iff_eq, String.length_toList] at h
  exact h.1

/-- A byte string of the language. -/
structure Bytes where
  content : List UInt8
  length_lt : content.length < 2 ^ 63

/-- The metadata of a record stays below the bound of its read. -/
theorem size_metadata {record : StoredCompositionArtifact} (hsha : record.sha256.length = 64)
    (hsize : record.sizeBytes < 2 ^ 63) :
    (FileContent.text (metadata record)).size ≤ maxMetadata := by
  have hid : (encode record.artifactId).render.length ≤ 6 * 36 + 2 := by
    have h := length_quote record.artifactId.text
    rw [length_uuid] at h
    exact h
  have hexpires : (Json.str (record.expiresAt.isoformat utcZone)).render.length ≤ 6 * 32 + 2 := by
    have h := length_quote (record.expiresAt.isoformat utcZone)
    have hiso := length_isoformat record.expiresAt utcZone
    have hzone : utcZone.length = 6 := rfl
    rw [Json.render]
    omega
  have hdigest : (Json.str record.sha256).render.length ≤ 6 * 64 + 2 := by
    have h := length_quote record.sha256
    rw [hsha] at h
    rw [Json.render]
    exact h
  have hcount : (encode record.sizeBytes).render.length ≤ 19 := by
    have hdigits : (Nat.toDigits 10 record.sizeBytes).length ≤ 19 :=
      (Nat.length_toDigits_le_iff (by omega) (by omega)).mpr (lt_trans hsize (by norm_num))
    have hrender : (encode record.sizeBytes).render = Nat.toDigits 10 record.sizeBytes := by
      rw [← Nat.toList_repr]
      rfl
    rw [hrender]
    exact hdigits
  have hnames : (Json.quote "artifact_id").length = 13 ∧ (Json.quote "expires_at").length = 12 ∧
      (Json.quote "sha256").length = 8 ∧ (Json.quote "size_bytes").length = 12 := by
    decide
  obtain ⟨hname1, hname2, hname3, hname4⟩ := hnames
  simp only [FileContent.size, metadata, Json.render, Json.renderMembers, List.length_cons,
    List.length_append, List.length_nil, hname1, hname2, hname3, hname4, maxMetadata] at *
  omega

/-! ## The objects as a map -/

namespace Cloud

/-- The objects hold this artifact, or nothing, under the identifier. -/
def HoldsAt (config : Config) (objects : Files ArtifactKey FileContent) (artifactId : UUID) :
    Option Artifact → Prop
  | none => objects.get? (.png artifactId) = none ∧ objects.get? (.json artifactId) = none
  | some artifact =>
      config.Accepts artifact.pngBytes ∧ artifact.pngBytes.length < 2 ^ 63 ∧
        objects.get? (.png artifactId) = some (.bytes artifact.pngBytes) ∧
        objects.get? (.json artifactId) =
          some (.text (metadata (config.record artifactId artifact.pngBytes artifact.expiresAt)))

/-- The objects hold exactly these artifacts. -/
def Holds (config : Config) (objects : Files ArtifactKey FileContent)
    (stored : UUID → Option Artifact) : Prop :=
  ∀ artifactId, HoldsAt config objects artifactId (stored artifactId)

variable {config : Config} {objects : Files ArtifactKey FileContent}
  {stored : UUID → Option Artifact} {artifactId : UUID} {pngBytes : List UInt8}
  {expiresAt : Datetime}

theorem holds_empty : Holds config ∅ fun _ => none :=
  fun _ => ⟨Files.get?_empty, Files.get?_empty⟩

theorem HoldsAt.congr {objects' : Files ArtifactKey FileContent} {artifact : Option Artifact}
    (h : HoldsAt config objects artifactId artifact)
    (hpng : objects'.get? (.png artifactId) = objects.get? (.png artifactId))
    (hjson : objects'.get? (.json artifactId) = objects.get? (.json artifactId)) :
    HoldsAt config objects' artifactId artifact := by
  cases artifact with
  | none => exact ⟨hpng.trans h.1, hjson.trans h.2⟩
  | some artifact => exact ⟨h.1, h.2.1, hpng.trans h.2.2.1, hjson.trans h.2.2.2⟩

/-- A change to the objects of one artifact. -/
theorem Holds.update {objects' : Files ArtifactKey FileContent} {artifact : Option Artifact}
    (h : Holds config objects stored)
    (hother : ∀ other, other ≠ artifactId →
      objects'.get? (.png other) = objects.get? (.png other) ∧
        objects'.get? (.json other) = objects.get? (.json other))
    (hsame : HoldsAt config objects' artifactId artifact) :
    Holds config objects' (Function.update stored artifactId artifact) := by
  intro other
  by_cases heq : other = artifactId
  · subst heq
    rw [Function.update_self]
    exact hsame
  · rw [Function.update_of_ne heq]
    exact (h other).congr (hother other heq).1 (hother other heq).2

/-! ## What the methods ensure without a fault -/

open FileProgram

private theorem no_fault {goal : Prop} :
    (none : Option (Fault FileContent)) ≠ none → goal := fun hbad => absurd rfl hbad

/-- The checks of an artifact that the objects hold. -/
theorem intact_iff {artifact : Artifact} (checkedAt : Option Datetime) :
    Intact config artifactId (config.record artifactId artifact.pngBytes artifact.expiresAt)
        artifact.pngBytes checkedAt ↔
      ∀ now ∈ checkedAt, now < artifact.expiresAt := by
  constructor
  · rintro ⟨-, -, -, hexpiry⟩ now hnow
    exact not_le.mp (hexpiry now hnow)
  · intro hexpiry
    exact ⟨rfl, rfl, rfl, fun now hnow => not_le.mpr (hexpiry now hnow)⟩

theorem ensures_load_some {artifact : Artifact}
    (h : HoldsAt config objects artifactId (some artifact)) (checkedAt : Option Datetime) :
    Ensures (load config artifactId checkedAt) ⟨objects, none⟩
      (fun loaded disk => loaded =
          ⟨config.record artifactId artifact.pngBytes artifact.expiresAt, artifact.pngBytes⟩ ∧
        (∀ now ∈ checkedAt, now < artifact.expiresAt) ∧ disk = ⟨objects, none⟩)
      fun error disk => error = unavailable ∧ disk = ⟨objects, none⟩ ∧
        ¬∀ now ∈ checkedAt, now < artifact.expiresAt := by
  obtain ⟨haccepts, hlength, hpng, hjson⟩ := h
  have hsize : (FileContent.text (metadata
      (config.record artifactId artifact.pngBytes artifact.expiresAt))).size ≤ maxMetadata :=
    size_metadata (length_sha256 _) hlength
  apply ensures_bind
  apply ensures_tryCatch
  apply ensures_bind
  apply ensures_get hjson hsize no_fault
  intro fault1 hfault1
  obtain rfl := hfault1 rfl
  apply ensures_bind
  apply ensures_pure
  apply ensures_bind
  apply ensures_get hpng haccepts.2.2 no_fault
  intro fault2 hfault2
  obtain rfl := hfault2 rfl
  apply ensures_bind
  apply ensures_pure
  apply ensures_bind
  show Ensures (orRaise (readMetadata (metadata _))) _ _ _
  rw [readMetadata_metadata]
  apply ensures_pure
  apply ensures_pure
  dsimp only
  by_cases hintact : Intact config artifactId
      (config.record artifactId artifact.pngBytes artifact.expiresAt) artifact.pngBytes checkedAt
  · rw [if_pos hintact]
    exact ⟨rfl, (intact_iff checkedAt).mp hintact, rfl⟩
  · rw [if_neg hintact]
    rw [intact_iff] at hintact
    exact ⟨rfl, rfl, hintact⟩

theorem ensures_load_none (h : HoldsAt config objects artifactId none)
    (checkedAt : Option Datetime) :
    Ensures (load config artifactId checkedAt) ⟨objects, none⟩ (fun _ _ => False)
      fun error disk => error = unavailable ∧ disk = ⟨objects, none⟩ := by
  apply ensures_bind
  apply ensures_tryCatch
  apply ensures_bind
  apply ensures_get_none h.2 no_fault
  intro fault hfault
  obtain rfl := hfault rfl
  exact ⟨rfl, rfl⟩

theorem ensures_place_none {json : Json} (h : HoldsAt config objects artifactId none) :
    Ensures (place artifactId pngBytes json) ⟨objects, none⟩
      (fun _ disk => disk =
        ⟨(objects.write (.png artifactId) (.bytes pngBytes)).write (.json artifactId) (.text json),
          none⟩)
      fun _ _ => False := by
  apply ensures_tryCatch
  apply ensures_bind
  apply ensures_put (fun _ => h.1) no_fault no_fault
  intro fault1 hfault1
  obtain rfl := hfault1 rfl
  apply ensures_put ?_ no_fault no_fault
  · intro fault2 hfault2
    obtain rfl := hfault2 rfl
    rfl
  · intro _
    simpa using h.2

theorem ensures_place_some {json : Json} {artifact : Artifact}
    (h : HoldsAt config objects artifactId (some artifact)) :
    Ensures (place artifactId pngBytes json) ⟨objects, none⟩ (fun _ _ => False)
      fun error disk => error = unavailable ∧ disk = ⟨objects, none⟩ := by
  apply ensures_tryCatch
  apply ensures_bind
  apply ensures_put_taken h.2.2.1 no_fault
  intro fault hfault
  obtain rfl := hfault rfl
  exact ⟨rfl, rfl⟩

/-- Where nothing is stored, the content is. -/
theorem ensures_save_none (h : HoldsAt config objects artifactId none)
    (htaken : Accepts config pngBytes) :
    Ensures (save config artifactId pngBytes expiresAt) ⟨objects, none⟩
      (fun record disk => record = config.record artifactId pngBytes expiresAt ∧
        disk = ⟨(objects.write (.png artifactId) (.bytes pngBytes)).write (.json artifactId)
          (.text (metadata record)), none⟩)
      fun _ _ => False := by
  unfold save
  rw [if_neg (not_not.mpr htaken)]
  apply ensures_tryCatch
  apply ensures_bind
  apply Ensures.mono (ensures_load_none h none)
  · rintro _ _ ⟨⟩
  · rintro error disk ⟨rfl, rfl⟩
    apply ensures_bind
    apply Ensures.mono (ensures_place_none h)
    · rintro _ disk rfl
      exact ⟨rfl, rfl⟩
    · rintro _ _ ⟨⟩

/-- What is stored can only be saved again. -/
theorem ensures_save_some {artifact : Artifact}
    (h : HoldsAt config objects artifactId (some artifact)) (htaken : Accepts config pngBytes) :
    Ensures (save config artifactId pngBytes expiresAt) ⟨objects, none⟩
      (fun record disk => record = config.record artifactId pngBytes expiresAt ∧
        artifact = ⟨pngBytes, expiresAt⟩ ∧ disk = ⟨objects, none⟩)
      fun error disk => error = unavailable ∧ artifact ≠ ⟨pngBytes, expiresAt⟩ ∧
        disk = ⟨objects, none⟩ := by
  unfold save
  rw [if_neg (not_not.mpr htaken)]
  apply ensures_tryCatch
  apply ensures_bind
  apply Ensures.mono (ensures_load_some h none)
  · rintro loaded disk ⟨rfl, -, rfl⟩
    dsimp only
    by_cases hsame : config.record artifactId artifact.pngBytes artifact.expiresAt =
        config.record artifactId pngBytes expiresAt ∧ artifact.pngBytes = pngBytes
    · rw [if_pos hsame]
      apply ensures_pure
      refine ⟨rfl, ?_, rfl⟩
      obtain ⟨heldBytes, heldExpiry⟩ := artifact
      obtain ⟨hrecord, rfl⟩ := hsame
      have hexpiry : heldExpiry = expiresAt :=
        congrArg StoredCompositionArtifact.expiresAt hrecord
      rw [hexpiry]
    · rw [if_neg hsame]
      apply ensures_throw
      apply ensures_bind
      apply Ensures.mono (ensures_place_some h)
      · rintro _ _ ⟨⟩
      · rintro error disk ⟨rfl, rfl⟩
        refine ⟨rfl, ?_, rfl⟩
        rintro rfl
        exact hsame ⟨rfl, rfl⟩
  · rintro error disk ⟨-, -, hfresh⟩
    exact absurd (fun now hnow => by cases hnow) hfresh

/-- What is stored under an identifier decides a save of content that both stores take. -/
theorem ensures_save (h : Holds config objects stored) (haccepts : config.Accepts pngBytes)
    (hlength : pngBytes.length < 2 ^ 63) :
    Ensures (save config artifactId pngBytes expiresAt) ⟨objects, none⟩
      (fun record disk => record = config.record artifactId pngBytes expiresAt ∧
        (stored artifactId = none ∨ stored artifactId = some ⟨pngBytes, expiresAt⟩) ∧
        Holds config disk.files
          (Function.update stored artifactId (some ⟨pngBytes, expiresAt⟩)))
      fun error disk => error = unavailable ∧ disk = ⟨objects, none⟩ ∧
        ∃ artifact, stored artifactId = some artifact ∧ artifact ≠ ⟨pngBytes, expiresAt⟩ := by
  have hheld := h artifactId
  have htaken : Accepts config pngBytes := ⟨haccepts.1, haccepts.2.2⟩
  cases hstored : stored artifactId with
  | none =>
      rw [hstored] at hheld
      apply Ensures.mono (ensures_save_none hheld htaken)
      · rintro record disk ⟨rfl, rfl⟩
        refine ⟨rfl, Or.inl rfl, h.update (fun other hne => ?_) ⟨haccepts, hlength, ?_, ?_⟩⟩
        · simp [hne]
        · simp
        · simp
      · rintro _ _ ⟨⟩
  | some artifact =>
      rw [hstored] at hheld
      apply Ensures.mono (ensures_save_some hheld htaken)
      · rintro record disk ⟨rfl, hsame, rfl⟩
        refine ⟨rfl, Or.inr (congrArg some hsame), ?_⟩
        rw [← hsame, ← hstored, Function.update_eq_self]
        exact h
      · rintro error disk ⟨rfl, hother, rfl⟩
        exact ⟨rfl, rfl, artifact, rfl, hother⟩

/-- The objects of an artifact are removed as a whole. -/
theorem ensures_delete (h : Holds config objects stored) :
    Ensures (delete artifactId) ⟨objects, none⟩
      (fun removed disk => removed = (stored artifactId).isSome ∧
        Holds config disk.files (Function.update stored artifactId none))
      fun _ _ => False := by
  have hheld := h artifactId
  apply ensures_bind
  apply ensures_deleteObjects
  apply ensures_pure
  refine ⟨?_, h.update (fun other hne => ?_) ⟨?_, ?_⟩⟩
  · cases hstored : stored artifactId with
    | none =>
        rw [hstored] at hheld
        simp [hheld.1, hheld.2]
    | some artifact =>
        rw [hstored] at hheld
        simp [hheld.2.2.1, hheld.2.2.2]
  · simp [hne]
  · simp
  · simp

end Cloud

/-! ## Both stores -/

inductive Call
  | save (artifactId : UUID) (pngBytes : Bytes) (expiresAt : Datetime)
  | load (artifactId : UUID) (now : Datetime)
  | delete (artifactId : UUID)

/-- What a call returns or raises. -/
inductive Outcome
  | saved (result : Except Exc StoredCompositionArtifact)
  | loaded (result : Except Exc LoadedCompositionArtifact)
  | deleted (result : Except Exc Bool)

/-- A directory and an object store. -/
structure Stores where
  files : Files ArtifactPath FileContent
  objects : Files ArtifactKey FileContent

namespace Stores

variable (config : Config)

def empty : Stores := ⟨∅, ∅⟩

def locally (stores : Stores) : Call → Outcome × Files ArtifactPath FileContent
  | .save artifactId pngBytes expiresAt =>
      (FileProgram.run (config.save artifactId pngBytes.content expiresAt) stores.files none).map
        .saved id
  | .load artifactId now =>
      (FileProgram.run (config.load artifactId now) stores.files none).map .loaded id
  | .delete artifactId =>
      (FileProgram.run (Config.delete artifactId) stores.files none).map .deleted id

def inCloud (stores : Stores) : Call → Outcome × Files ArtifactKey FileContent
  | .save artifactId pngBytes expiresAt =>
      (FileProgram.run (Cloud.save config artifactId pngBytes.content expiresAt) stores.objects
        none).map .saved id
  | .load artifactId now =>
      (FileProgram.run (Cloud.load config artifactId (some now)) stores.objects none).map .loaded id
  | .delete artifactId =>
      (FileProgram.run (Cloud.delete artifactId) stores.objects none).map .deleted id

/-- The same call on both stores. -/
def step (stores : Stores) (call : Call) : Stores :=
  ⟨(stores.locally config call).2, (stores.inCloud config call).2⟩

/-- Both stores return the same or raise the same. -/
def SameOutcome (stores : Stores) (call : Call) : Prop :=
  (stores.locally config call).1 = (stores.inCloud config call).1

/-- A save of the PNG signature and nothing more, within the bound, where nothing is
stored. -/
def SavesBareSignature (stores : Stores) : Call → Prop
  | .save artifactId pngBytes _ =>
      isPng pngBytes.content = true ∧ pngBytes.content.length = 8 ∧ 8 ≤ config.maxBytes ∧
        stores.objects.get? (.png artifactId) = none
  | _ => False

/-- Both stores hold the same artifacts. -/
def Agree (stores : Stores) : Prop :=
  ∃ stored, Holds config stores.files stored ∧ Cloud.Holds config stores.objects stored

variable {config} {stores : Stores} {artifactId : UUID} {pngBytes : Bytes} {expiresAt : Datetime}

theorem agree_empty : Agree config empty :=
  ⟨fun _ => none, CompositionStorage.holds_empty, Cloud.holds_empty⟩

theorem length_of_isPng {content : List UInt8} (h : isPng content = true) : 8 ≤ content.length :=
  (List.isPrefixOf_iff_prefix.mp h).length_le

theorem locally_refused (h : ¬config.Accepts pngBytes.content) (stores : Stores)
    (artifactId : UUID) (expiresAt : Datetime) :
    stores.locally config (.save artifactId pngBytes expiresAt) =
      (.saved (.error unavailable), stores.files) := by
  have hsave : config.save artifactId pngBytes.content expiresAt = throw unavailable := if_pos h
  rw [locally, hsave]
  rfl

theorem inCloud_refused (h : ¬Cloud.Accepts config pngBytes.content) (stores : Stores)
    (artifactId : UUID) (expiresAt : Datetime) :
    stores.inCloud config (.save artifactId pngBytes expiresAt) =
      (.saved (.error unavailable), stores.objects) := by
  have hsave : Cloud.save config artifactId pngBytes.content expiresAt = throw unavailable :=
    if_pos h
  rw [inCloud, hsave]
  rfl

/-- Only a save of the bare signature is refused by one store alone. -/
theorem cloud_refuses (hlocal : ¬config.Accepts pngBytes.content)
    (hcloud : Cloud.Accepts config pngBytes.content) :
    pngBytes.content.length = 8 ∧ 8 ≤ config.maxBytes := by
  have hlong := length_of_isPng hcloud.1
  have hshort : ¬9 ≤ pngBytes.content.length := fun h => hlocal ⟨hcloud.1, h, hcloud.2⟩
  have hbound := hcloud.2
  omega

theorem Agree.save (h : Agree config stores)
    (hbare : ¬SavesBareSignature config stores (.save artifactId pngBytes expiresAt)) :
    SameOutcome config stores (.save artifactId pngBytes expiresAt) ∧
      Agree config (stores.step config (.save artifactId pngBytes expiresAt)) := by
  obtain ⟨stored, hfiles, hobjects⟩ := h
  unfold SameOutcome step
  by_cases haccepts : config.Accepts pngBytes.content
  · have hlocal : FileProgram.Ensures (config.save artifactId pngBytes.content expiresAt)
      ⟨stores.files, none⟩ _ _ := CompositionStorage.ensures_save hfiles
    have hcloud : FileProgram.Ensures (Cloud.save config artifactId pngBytes.content expiresAt)
      ⟨stores.objects, none⟩ _ _ := Cloud.ensures_save hobjects haccepts pngBytes.length_lt
    rcases hlocal.run with
      ⟨_, disk, hrun, rfl, -, hfresh, hafter⟩ | ⟨_, disk, hrun, hafter, -, hcause⟩
    · rcases hcloud.run with
        ⟨_, cloud, hrun', rfl, -, hafter'⟩ | ⟨_, cloud, hrun', -, -, artifact, hstored, hne⟩
      · rw [locally, inCloud, hrun, hrun']
        exact ⟨rfl, _, hafter, hafter'⟩
      · rw [hstored] at hfresh
        rcases hfresh with hnone | hsame
        · cases hnone
        · exact absurd (Option.some.inj hsame) hne
    · obtain ⟨rfl, hother⟩ := hcause rfl
      obtain ⟨artifact, hstored, hne⟩ := hother haccepts
      rcases hcloud.run with
        ⟨_, cloud, -, -, hfresh, -⟩ | ⟨_, cloud, hrun', rfl, rfl, -⟩
      · rw [hstored] at hfresh
        rcases hfresh with hnone | hsame
        · cases hnone
        · exact absurd (Option.some.inj hsame) hne
      · rw [locally, inCloud, hrun, hrun']
        exact ⟨rfl, stored, hafter, hobjects⟩
  · by_cases htaken : Cloud.Accepts config pngBytes.content
    · -- only the cloud store takes the content, but its key is taken
      rw [locally_refused haccepts]
      have hheld := hobjects artifactId
      cases hstored : stored artifactId with
      | none =>
          rw [hstored] at hheld
          obtain ⟨hlength, hbound⟩ := cloud_refuses haccepts htaken
          exact absurd ⟨htaken.1, hlength, hbound, hheld.1⟩ hbare
      | some artifact =>
          rw [hstored] at hheld
          have hsave : FileProgram.Ensures (Cloud.save config artifactId pngBytes.content expiresAt)
            ⟨stores.objects, none⟩ _ _ := Cloud.ensures_save_some hheld htaken
          rcases hsave.run with ⟨_, _, -, -, rfl, -⟩ | ⟨_, disk, hrun, rfl, -, rfl⟩
          · exact absurd hheld.1 haccepts
          · rw [inCloud, hrun]
            exact ⟨rfl, stored, hfiles, hobjects⟩
    · rw [locally_refused haccepts, inCloud_refused htaken]
      exact ⟨rfl, stored, hfiles, hobjects⟩

/-- The bare signature is stored in the cloud alone. -/
theorem Agree.save_bareSignature (h : Agree config stores)
    (hbare : SavesBareSignature config stores (.save artifactId pngBytes expiresAt)) :
    ¬SameOutcome config stores (.save artifactId pngBytes expiresAt) := by
  obtain ⟨stored, -, hobjects⟩ := h
  obtain ⟨hpng, hlength, hbound, hfree⟩ := hbare
  have hrefused : ¬config.Accepts pngBytes.content := by
    rintro ⟨-, hlong, -⟩
    omega
  have htaken : Cloud.Accepts config pngBytes.content := ⟨hpng, hlength ▸ hbound⟩
  have hheld := hobjects artifactId
  cases hstored : stored artifactId with
  | some artifact =>
      rw [hstored] at hheld
      rw [hheld.2.2.1] at hfree
      cases hfree
  | none =>
      rw [hstored] at hheld
      have hsave : FileProgram.Ensures (Cloud.save config artifactId pngBytes.content expiresAt)
        ⟨stores.objects, none⟩ _ _ := Cloud.ensures_save_none hheld htaken
      rcases hsave.run with ⟨_, _, hrun, -, -⟩ | ⟨_, _, -, hfalse⟩
      · intro hsame
        unfold SameOutcome at hsame
        rw [locally_refused hrefused, inCloud, hrun] at hsame
        cases hsame
      · exact hfalse.elim

theorem Agree.load (h : Agree config stores) (artifactId : UUID) (now : Datetime) :
    SameOutcome config stores (.load artifactId now) ∧
      Agree config (stores.step config (.load artifactId now)) := by
  obtain ⟨stored, hfiles, hobjects⟩ := h
  unfold SameOutcome step
  obtain ⟨disk, hdisk, hrun⟩ := load_eq hfiles artifactId now
  have hheld := hobjects artifactId
  rw [locally, inCloud, hrun]
  cases hstored : stored artifactId with
  | none =>
      rw [hstored] at hheld
      have hload : FileProgram.Ensures (Cloud.load config artifactId (some now))
        ⟨stores.objects, none⟩ _ _ := Cloud.ensures_load_none hheld (some now)
      rcases hload.run with ⟨_, _, -, hfalse⟩ | ⟨_, cloud, hcloud, rfl, rfl⟩
      · exact hfalse.elim
      · rw [hcloud]
        exact ⟨rfl, stored, hdisk ▸ hfiles, hobjects⟩
  | some artifact =>
      rw [hstored] at hheld
      have hload : FileProgram.Ensures (Cloud.load config artifactId (some now))
        ⟨stores.objects, none⟩ _ _ := Cloud.ensures_load_some hheld (some now)
      dsimp only
      rcases hload.run with
        ⟨_, cloud, hcloud, rfl, hfresh, rfl⟩ | ⟨_, cloud, hcloud, rfl, rfl, hlate⟩
      · rw [if_pos (hfresh now rfl), hcloud]
        exact ⟨rfl, stored, hdisk ▸ hfiles, hobjects⟩
      · have hexpired : ¬now < artifact.expiresAt := by
          intro hbefore
          apply hlate
          rintro _ ⟨⟩
          exact hbefore
        rw [if_neg hexpired, hcloud]
        exact ⟨rfl, stored, hdisk ▸ hfiles, hobjects⟩

theorem Agree.delete (h : Agree config stores) (artifactId : UUID) :
    SameOutcome config stores (.delete artifactId) ∧
      Agree config (stores.step config (.delete artifactId)) := by
  obtain ⟨stored, hfiles, hobjects⟩ := h
  unfold SameOutcome step
  have hlocal : FileProgram.Ensures (Config.delete artifactId) ⟨stores.files, none⟩ _ _ :=
    CompositionStorage.ensures_delete hfiles
  have hcloud : FileProgram.Ensures (Cloud.delete artifactId) ⟨stores.objects, none⟩ _ _ :=
    Cloud.ensures_delete hobjects
  rcases hlocal.run with ⟨_, disk, hrun, rfl, hafter⟩ | ⟨_, _, -, hfalse⟩
  · rcases hcloud.run with ⟨_, cloud, hrun', rfl, hafter'⟩ | ⟨_, _, -, hfalse⟩
    · rw [locally, inCloud, hrun, hrun']
      exact ⟨rfl, _, hafter, hafter'⟩
    · exact hfalse.elim
  · exact hfalse.elim

/-- Where the stores agree, a call tells them apart exactly when it saves the bare signature. -/
theorem Agree.sameOutcome_iff (h : Agree config stores) (call : Call) :
    SameOutcome config stores call ↔ ¬SavesBareSignature config stores call := by
  cases call with
  | save artifactId pngBytes expiresAt =>
      constructor
      · intro hsame hbare
        exact h.save_bareSignature hbare hsame
      · intro hbare
        exact (h.save hbare).1
  | load artifactId now =>
      constructor
      · intro _ hbare
        exact hbare
      · intro _
        exact (h.load artifactId now).1
  | delete artifactId =>
      constructor
      · intro _ hbare
        exact hbare
      · intro _
        exact (h.delete artifactId).1

theorem Agree.step (h : Agree config stores) {call : Call}
    (hbare : ¬SavesBareSignature config stores call) : Agree config (stores.step config call) := by
  cases call with
  | save artifactId pngBytes expiresAt => exact (h.save hbare).2
  | load artifactId now => exact (h.load artifactId now).2
  | delete artifactId => exact (h.delete artifactId).2

end Stores

/-- From empty stores, every call of a sequence has the same outcome in both exactly when none
saves the bare PNG signature, within the bound, under an identifier where nothing is stored. -/
theorem sameOutcomes_iff (config : Config) (calls : List Call) :
    Sequential.EachStep (Stores.step config) (Stores.SameOutcome config) Stores.empty calls ↔
      Sequential.EachStep (Stores.step config)
        (fun stores call => ¬stores.SavesBareSignature config call) Stores.empty calls := by
  apply Sequential.eachStep_iff_eachStep (Stores.Agree config) Stores.agree_empty
  · intro stores call hagree hbare
    exact hagree.step hbare
  · intro stores call hagree
    exact hagree.sameOutcome_iff call

/-- The signature and nothing more. -/
def Demo.bareSignature : Bytes :=
  ⟨[0x89, 0x50, 0x4E, 0x47, 0x0D, 0x0A, 0x1A, 0x0A], by decide⟩

/-- The local store refuses the bare signature, and the cloud store keeps it. -/
theorem bareSignature_distinguishes :
    (Stores.empty.locally Demo.storeConfig
        (.save CultureShift.Demo.assetId Demo.bareSignature CultureShift.Demo.now)).1 =
      .saved (.error unavailable) ∧
    (Stores.empty.inCloud Demo.storeConfig
        (.save CultureShift.Demo.assetId Demo.bareSignature CultureShift.Demo.now)).1 =
      .saved (.ok (Demo.storeConfig.record CultureShift.Demo.assetId Demo.bareSignature.content
        CultureShift.Demo.now)) ∧
    ¬Sequential.EachStep (Stores.step Demo.storeConfig) (Stores.SameOutcome Demo.storeConfig)
      Stores.empty [.save CultureShift.Demo.assetId Demo.bareSignature CultureShift.Demo.now] := by
  refine ⟨?_, ?_, ?_⟩
  · rw [Stores.locally_refused (by decide)]
  · have hheld : Cloud.HoldsAt Demo.storeConfig ∅ CultureShift.Demo.assetId none :=
      ⟨Files.get?_empty, Files.get?_empty⟩
    have hsave : FileProgram.Ensures (Cloud.save Demo.storeConfig CultureShift.Demo.assetId
      Demo.bareSignature.content CultureShift.Demo.now) ⟨∅, none⟩ _ _ :=
        Cloud.ensures_save_none hheld (by decide)
    rcases hsave.run with ⟨_, _, hrun, rfl, -⟩ | ⟨_, _, -, hfalse⟩
    · show (Prod.map Outcome.saved id (FileProgram.run _ ∅ none)).1 = _
      rw [hrun]
      rfl
    · exact hfalse.elim
  · rintro ⟨hsame, -⟩
    apply Stores.agree_empty.save_bareSignature ?_ hsame
    exact ⟨by decide, rfl, by decide, Files.get?_empty⟩

end CompositionStorage

end CultureShift
