/-
# The local composition store

An artifact is two files, moved into place one after the other. Whatever single
file operation of a save fails, the directory holds an artifact as a whole or
not at all: the store is a map that is written once and expires.
-/

import CultureShift.CompositionService
import CultureShift.FixtureDemo
import CultureShift.Sequential.Reducer
import CultureShift.Storage.Files

namespace CultureShift

open Serialization Storage

namespace CompositionStorage

/-- The files of the directory. -/
inductive ArtifactPath
  | png (artifactId : UUID)
  | metadata (artifactId : UUID)
  | pngPart (artifactId : UUID)
  | metadataPart (artifactId : UUID)
deriving DecidableEq

/-- What a file may hold; `torn` is whatever a write left that failed. -/
inductive FileContent
  | bytes (content : List UInt8)
  | text (json : Json)
  | torn

structure Config where
  maxBytes : Nat
  /-- `hashlib.sha256(…).hexdigest()` -/
  hexdigest : List UInt8 → Sha256

abbrev StoreIO := FileProgram ArtifactPath FileContent Exc

def unavailable : Exc := .compositionArtifactError "composition artifact unavailable"

def orRaise {α : Type} : Option α → StoreIO α
  | some value => pure value
  | none => throw unavailable

def isPng (content : List UInt8) : Bool :=
  [0x89, 0x50, 0x4E, 0x47, 0x0D, 0x0A, 0x1A, 0x0A].isPrefixOf content

def FileContent.json? : FileContent → Option Json
  | .text json => some json
  | _ => none

def FileContent.bytes? : FileContent → Option (List UInt8)
  | .bytes content => some content
  | _ => none

/-- How `isoformat` prints UTC. -/
def utcZone : List Char := ['+', '0', '0', ':', '0', '0']

/-- The metadata of a record. -/
def metadata (record : StoredCompositionArtifact) : Json := .obj
  [("artifact_id", encode record.artifactId),
    ("expires_at", .str (record.expiresAt.isoformat utcZone)),
    ("sha256", .str record.sha256), ("size_bytes", encode record.sizeBytes)]

def readMetadata : Json → Option StoredCompositionArtifact
  | .obj members => do
      let artifactId ← Json.field members "artifact_id"
      let sha256 ← Json.field members "sha256"
      let sizeBytes ← Json.field members "size_bytes"
      let expiresAt ← Json.field members "expires_at"
      let expiresAt ← Datetime.ofIsoformat? utcZone expiresAt
      pure ⟨artifactId, sha256, sizeBytes, expiresAt⟩
  | _ => none

theorem readMetadata_metadata (record : StoredCompositionArtifact) :
    readMetadata (metadata record) = some record := by
  have hstr : (decode (.str (record.expiresAt.isoformat utcZone)) : Option String) =
      some (record.expiresAt.isoformat utcZone) := rfl
  have hsha : (decode (.str record.sha256) : Option String) = some record.sha256 := rfl
  simp [readMetadata, metadata, hstr, hsha,
    record.expiresAt.ofIsoformat?_isoformat (by decide : utcZone.head? ≠ some '.')]

namespace Config

variable (config : Config)

/-- The record of an artifact. -/
def record (artifactId : UUID) (pngBytes : List UInt8) (expiresAt : Datetime) :
    StoredCompositionArtifact :=
  ⟨artifactId, (config.hexdigest pngBytes).text, pngBytes.length, expiresAt⟩

/-- The content that the store takes. -/
def Accepts (pngBytes : List UInt8) : Prop :=
  isPng pngBytes = true ∧ 9 ≤ pngBytes.length ∧ pngBytes.length ≤ config.maxBytes

instance (pngBytes : List UInt8) : Decidable (config.Accepts pngBytes) :=
  inferInstanceAs (Decidable (_ ∧ _ ∧ _))

/-- The checks of a loaded artifact. Without a time, its expiry is not checked. -/
def Intact (artifactId : UUID) (record : StoredCompositionArtifact) (content : List UInt8)
    (checkedAt : Option Datetime) : Prop :=
  record.artifactId = artifactId ∧ record.sizeBytes = content.length ∧ 9 ≤ record.sizeBytes ∧
    record.sizeBytes ≤ config.maxBytes ∧ (config.hexdigest content).text = record.sha256 ∧
    isPng content = true ∧ ∀ now ∈ checkedAt, ¬record.expiresAt ≤ now

instance (artifactId : UUID) (record : StoredCompositionArtifact) (content : List UInt8)
    (checkedAt : Option Datetime) :
    Decidable (config.Intact artifactId record content checkedAt) :=
  inferInstanceAs (Decidable (_ ∧ _ ∧ _ ∧ _ ∧ _ ∧ _ ∧ _))

/-- `_load_unlocked` -/
def loadUnlocked (artifactId : UUID) (checkedAt : Option Datetime) :
    StoreIO LoadedCompositionArtifact := do
  let (record, content) ← tryCatch
    (do
      let file ← FileProgram.read .osError (.metadata artifactId)
      let json ← orRaise file.json?
      let file ← FileProgram.read .osError (.png artifactId)
      let content ← orRaise file.bytes?
      let record ← orRaise (readMetadata json)
      return (record, content))
    fun _ => throw unavailable
  if config.Intact artifactId record content checkedAt then return ⟨record, content⟩
  else throw unavailable

/-- Write both parts, then move both into place. -/
def place (artifactId : UUID) (pngBytes : List UInt8) (metadata : Json) : StoreIO Unit := do
  FileProgram.exclusiveWrite .osError (.pngPart artifactId) (.bytes pngBytes)
  FileProgram.exclusiveWrite .osError (.metadataPart artifactId) (.text metadata)
  FileProgram.replace .osError (.pngPart artifactId) (.png artifactId)
  FileProgram.replace .osError (.metadataPart artifactId) (.metadata artifactId)

/-- All files of an artifact. -/
def paths (artifactId : UUID) : List ArtifactPath :=
  [.pngPart artifactId, .metadataPart artifactId, .png artifactId, .metadata artifactId]

/-- `CompositionArtifactStore.save` -/
def save (artifactId : UUID) (pngBytes : List UInt8) (expiresAt : Datetime) :
    StoreIO StoredCompositionArtifact := do
  if ¬config.Accepts pngBytes then throw unavailable
  else
    let record := config.record artifactId pngBytes expiresAt
    FileProgram.mkdir .osError
    let png ← FileProgram.fileExists .osError (.png artifactId)
    let present ← if png then pure true else FileProgram.fileExists .osError (.metadata artifactId)
    if present then
      let existing ← config.loadUnlocked artifactId none
      if existing.record = record ∧ existing.pngBytes = pngBytes then return record
      else throw unavailable
    else
      tryCatch (place artifactId pngBytes (metadata record)) fun
        | .osError => do
            FileProgram.unlinkAll .osError (paths artifactId)
            throw unavailable
        | error => throw error
      return record

/-- `CompositionArtifactStore.load` -/
def load (artifactId : UUID) (now : Datetime) : StoreIO LoadedCompositionArtifact :=
  config.loadUnlocked artifactId (some now)

/-- One file of `delete`. -/
def deleteFile (path : ArtifactPath) : StoreIO Bool := do
  let present ← FileProgram.fileExists .osError path
  if present then FileProgram.unlink .osError path
  return present

/-- `CompositionArtifactStore.delete` -/
def delete (artifactId : UUID) : StoreIO Bool := do
  let png ← deleteFile (.png artifactId)
  let metadata ← deleteFile (.metadata artifactId)
  return png || metadata

end Config

/-! ## The directory as a map -/

/-- An artifact as a whole. -/
structure Artifact where
  pngBytes : List UInt8
  expiresAt : Datetime
deriving DecidableEq

/-- The directory holds this artifact, or nothing, under the identifier. -/
def HoldsAt (config : Config) (files : Files ArtifactPath FileContent) (artifactId : UUID) :
    Option Artifact → Prop
  | none => ∀ path ∈ Config.paths artifactId, files.get? path = none
  | some artifact =>
      config.Accepts artifact.pngBytes ∧
        files.get? (.png artifactId) = some (.bytes artifact.pngBytes) ∧
        files.get? (.metadata artifactId) =
          some (.text (metadata (config.record artifactId artifact.pngBytes artifact.expiresAt))) ∧
        files.get? (.pngPart artifactId) = none ∧ files.get? (.metadataPart artifactId) = none

/-- The directory holds exactly these artifacts. -/
def Holds (config : Config) (files : Files ArtifactPath FileContent)
    (stored : UUID → Option Artifact) : Prop :=
  ∀ artifactId, HoldsAt config files artifactId (stored artifactId)

variable {config : Config} {files : Files ArtifactPath FileContent}
  {stored : UUID → Option Artifact} {artifactId : UUID} {pngBytes : List UInt8}
  {expiresAt : Datetime} {fault : Option (Fault FileContent)}

theorem holds_empty : Holds config ∅ fun _ => none := fun _ _ _ => Files.get?_empty

/-- Only the files of an artifact matter to it. -/
theorem HoldsAt.congr {files' : Files ArtifactPath FileContent} {artifact : Option Artifact}
    (h : HoldsAt config files artifactId artifact)
    (hfiles : ∀ path ∈ Config.paths artifactId, files'.get? path = files.get? path) :
    HoldsAt config files' artifactId artifact := by
  cases artifact with
  | none =>
      intro path hpath
      rw [hfiles path hpath]
      exact h path hpath
  | some artifact =>
      obtain ⟨haccepts, hpng, hmetadata, hpngPart, hmetadataPart⟩ := h
      refine ⟨haccepts, ?_, ?_, ?_, ?_⟩
      · rw [hfiles _ (by simp [Config.paths]), hpng]
      · rw [hfiles _ (by simp [Config.paths]), hmetadata]
      · rw [hfiles _ (by simp [Config.paths]), hpngPart]
      · rw [hfiles _ (by simp [Config.paths]), hmetadataPart]

/-- A change to the files of one artifact. -/
theorem Holds.update {files' : Files ArtifactPath FileContent} {artifact : Option Artifact}
    (h : Holds config files stored)
    (hother : ∀ path, path ∉ Config.paths artifactId → files'.get? path = files.get? path)
    (hsame : HoldsAt config files' artifactId artifact) :
    Holds config files' (Function.update stored artifactId artifact) := by
  intro other
  by_cases heq : other = artifactId
  · subst heq
    rw [Function.update_self]
    exact hsame
  · rw [Function.update_of_ne heq]
    apply (h other).congr
    intro path hpath
    apply hother
    intro hmem
    simp only [Config.paths, List.mem_cons, List.not_mem_nil, or_false] at hpath hmem
    rcases hpath with rfl | rfl | rfl | rfl <;> simp_all

/-- Without the files of an artifact that was not there, the directory is as before. -/
theorem Holds.of_removed {files' : Files ArtifactPath FileContent}
    (h : Holds config files stored) (hnone : stored artifactId = none)
    (hother : ∀ path, path ∉ Config.paths artifactId → files'.get? path = files.get? path) :
    Holds config (files'.removeAll (Config.paths artifactId)) stored := by
  have hsame : HoldsAt config (files'.removeAll (Config.paths artifactId)) artifactId none := by
    intro path hpath
    rw [Files.get?_removeAll, if_pos hpath]
  have hkept : ∀ path, path ∉ Config.paths artifactId →
      (files'.removeAll (Config.paths artifactId)).get? path = files.get? path := by
    intro path hpath
    rw [Files.get?_removeAll, if_neg hpath]
    exact hother path hpath
  have hupdate := h.update hkept hsame
  rwa [← hnone, Function.update_eq_self] at hupdate

/-! ## What the methods ensure -/

open FileProgram

/-- The checks of an artifact that the directory holds. -/
theorem intact_iff {artifact : Artifact} (haccepts : config.Accepts artifact.pngBytes)
    (checkedAt : Option Datetime) :
    config.Intact artifactId (config.record artifactId artifact.pngBytes artifact.expiresAt)
        artifact.pngBytes checkedAt ↔
      ∀ now ∈ checkedAt, now < artifact.expiresAt := by
  constructor
  · rintro ⟨-, -, -, -, -, -, hexpiry⟩ now hnow
    exact not_le.mp (hexpiry now hnow)
  · intro hexpiry
    exact ⟨rfl, rfl, haccepts.2.1, haccepts.2.2, rfl, haccepts.1, fun now hnow =>
      not_le.mpr (hexpiry now hnow)⟩

theorem ensures_loadUnlocked_some {artifact : Artifact}
    (h : HoldsAt config files artifactId (some artifact)) (checkedAt : Option Datetime) :
    Ensures (config.loadUnlocked artifactId checkedAt) ⟨files, fault⟩
      (fun loaded disk => loaded =
          ⟨config.record artifactId artifact.pngBytes artifact.expiresAt, artifact.pngBytes⟩ ∧
        (∀ now ∈ checkedAt, now < artifact.expiresAt) ∧ disk.files = files)
      fun error disk => error = unavailable ∧ disk.files = files ∧
        (fault = none → ¬∀ now ∈ checkedAt, now < artifact.expiresAt) := by
  obtain ⟨haccepts, hpng, hmetadata, -, -⟩ := h
  apply ensures_bind
  apply ensures_tryCatch
  apply ensures_bind
  apply ensures_read hmetadata
  · exact fun hbad => ⟨rfl, rfl, fun hnone => absurd hnone hbad⟩
  · intro fault1 hfault1
    apply ensures_bind
    apply ensures_pure
    apply ensures_bind
    apply ensures_read hpng
    · exact fun hbad => ⟨rfl, rfl, fun hnone => absurd (hfault1 hnone) hbad⟩
    · intro fault2 _
      apply ensures_bind
      apply ensures_pure
      apply ensures_bind
      show Ensures (orRaise (readMetadata (metadata _))) _ _ _
      rw [readMetadata_metadata]
      apply ensures_pure
      apply ensures_pure
      dsimp only
      by_cases hintact : config.Intact artifactId
          (config.record artifactId artifact.pngBytes artifact.expiresAt) artifact.pngBytes
            checkedAt
      · rw [if_pos hintact]
        exact ⟨rfl, (intact_iff haccepts checkedAt).mp hintact, rfl⟩
      · rw [if_neg hintact]
        rw [intact_iff haccepts] at hintact
        exact ⟨rfl, rfl, fun _ => hintact⟩

theorem ensures_loadUnlocked_none (h : HoldsAt config files artifactId none)
    (checkedAt : Option Datetime) :
    Ensures (config.loadUnlocked artifactId checkedAt) ⟨files, fault⟩ (fun _ _ => False)
      fun error disk => error = unavailable ∧ disk.files = files := by
  apply ensures_bind
  apply ensures_tryCatch
  apply ensures_bind
  apply ensures_read_none (h _ (by simp [Config.paths]))
  intro fault _
  exact ⟨rfl, rfl⟩

/-- Both files come into place, or only files of this artifact were touched. -/
theorem ensures_place {json : Json} (h : HoldsAt config files artifactId none) :
    Ensures (Config.place artifactId pngBytes json) ⟨files, fault⟩
      (fun _ disk => (∀ path, path ∉ Config.paths artifactId →
          disk.files.get? path = files.get? path) ∧
        disk.files.get? (.png artifactId) = some (.bytes pngBytes) ∧
        disk.files.get? (.metadata artifactId) = some (.text json) ∧
        disk.files.get? (.pngPart artifactId) = none ∧
        disk.files.get? (.metadataPart artifactId) = none)
      fun error disk => error = .osError ∧ fault ≠ none ∧ disk.fault = none ∧
        ∀ path, path ∉ Config.paths artifactId → disk.files.get? path = files.get? path := by
  have hpart := h (.pngPart artifactId) (by simp [Config.paths])
  have hmetadataPart := h (.metadataPart artifactId) (by simp [Config.paths])
  have hoff : ∀ path, path ∉ Config.paths artifactId → path ≠ .pngPart artifactId ∧
      path ≠ .metadataPart artifactId ∧ path ≠ .png artifactId ∧ path ≠ .metadata artifactId := by
    intro path hpath
    simpa [Config.paths] using hpath
  apply ensures_bind
  apply ensures_exclusiveWrite hpart
  · intro hbad left
    refine ⟨rfl, hbad, rfl, fun path hpath => ?_⟩
    cases left with
    | none => rfl
    | some content => simp [(hoff path hpath).1]
  · intro fault1 hfault1
    apply ensures_bind
    apply ensures_exclusiveWrite
    · simpa using hmetadataPart
    · intro hbad left
      refine ⟨rfl, fun hnone => hbad (hfault1 hnone), rfl, fun path hpath => ?_⟩
      cases left with
      | none => simp [(hoff path hpath).1]
      | some content => simp [(hoff path hpath).1, (hoff path hpath).2.1]
    · intro fault2 hfault2
      apply ensures_bind
      apply ensures_replace
      · simp
        rfl
      · intro hbad
        refine ⟨rfl, fun hnone => hbad (hfault2 (hfault1 hnone)), rfl, fun path hpath => ?_⟩
        simp [(hoff path hpath).1, (hoff path hpath).2.1]
      · intro fault3 hfault3
        apply ensures_replace
        · simp
          rfl
        · intro hbad
          refine ⟨rfl, fun hnone => hbad (hfault3 (hfault2 (hfault1 hnone))), rfl,
            fun path hpath => ?_⟩
          simp [(hoff path hpath).1, (hoff path hpath).2.1, (hoff path hpath).2.2.1]
        · intro fault4 _
          refine ⟨fun path hpath => ?_, ?_, ?_, ?_, ?_⟩
          · simp [(hoff path hpath).1, (hoff path hpath).2.1, (hoff path hpath).2.2.1,
              (hoff path hpath).2.2.2]
          · simp
          · simp
          · simp
          · simp

/-- A save that returns has written the artifact, or found the same one; a save that raises
has changed nothing. -/
theorem ensures_save (h : Holds config files stored) :
    Ensures (config.save artifactId pngBytes expiresAt) ⟨files, fault⟩
      (fun record disk => record = config.record artifactId pngBytes expiresAt ∧
        config.Accepts pngBytes ∧
        (stored artifactId = none ∨ stored artifactId = some ⟨pngBytes, expiresAt⟩) ∧
        Holds config disk.files
          (Function.update stored artifactId (some ⟨pngBytes, expiresAt⟩)))
      fun error disk => Holds config disk.files stored ∧ (error = unavailable ∨ error = .osError) ∧
        (fault = none → error = unavailable ∧ (config.Accepts pngBytes →
          ∃ artifact, stored artifactId = some artifact ∧ artifact ≠ ⟨pngBytes, expiresAt⟩)) := by
  unfold Config.save
  by_cases haccepts : config.Accepts pngBytes
  · rw [if_neg (not_not.mpr haccepts)]
    dsimp only
    have hheld := h artifactId
    apply ensures_bind
    apply ensures_mkdir
    · exact fun hbad => ⟨h, Or.inr rfl, fun hnone => absurd hnone hbad⟩
    · intro fault1 hfault1
      apply ensures_bind
      apply ensures_fileExists
      · exact fun hbad => ⟨h, Or.inr rfl, fun hnone => absurd (hfault1 hnone) hbad⟩
      · intro fault2 hfault2
        cases hstored : stored artifactId with
        | none =>
            rw [hstored] at hheld
            have hpng : files.get? (.png artifactId) = none := hheld _ (by simp [Config.paths])
            have hmetadata : files.get? (.metadata artifactId) = none :=
              hheld _ (by simp [Config.paths])
            rw [hpng]
            apply ensures_bind
            apply ensures_fileExists
            · exact fun hbad => ⟨h, Or.inr rfl,
                fun hnone => absurd (hfault2 (hfault1 hnone)) hbad⟩
            · intro fault3 hfault3
              rw [hmetadata]
              apply ensures_bind
              apply ensures_tryCatch
              apply Ensures.mono (ensures_place hheld)
              · rintro value disk ⟨hother, hfile, htext, hpart, hmetadataPart⟩
                apply ensures_pure
                refine ⟨rfl, haccepts, Or.inl rfl, h.update hother ?_⟩
                exact ⟨haccepts, hfile, htext, hpart, hmetadataPart⟩
              · rintro error ⟨after, fault⟩ ⟨rfl, hbad, rfl, hother⟩
                apply ensures_bind
                apply ensures_unlinkAll
                apply ensures_throw
                refine ⟨h.of_removed hstored hother, Or.inl rfl, fun hnone => ?_⟩
                exact absurd (hfault3 (hfault2 (hfault1 hnone))) hbad
        | some artifact =>
            rw [hstored] at hheld
            rw [hheld.2.1]
            apply ensures_bind
            apply ensures_pure
            apply ensures_bind
            apply Ensures.mono (ensures_loadUnlocked_some hheld none)
            · rintro loaded disk ⟨rfl, -, hfiles⟩
              dsimp only
              by_cases hsame : config.record artifactId artifact.pngBytes artifact.expiresAt =
                  config.record artifactId pngBytes expiresAt ∧ artifact.pngBytes = pngBytes
              · rw [if_pos hsame]
                apply ensures_pure
                have hartifact : artifact = ⟨pngBytes, expiresAt⟩ := by
                  obtain ⟨heldBytes, heldExpiry⟩ := artifact
                  obtain ⟨hrecord, rfl⟩ := hsame
                  have hexpiry : heldExpiry = expiresAt :=
                    congrArg StoredCompositionArtifact.expiresAt hrecord
                  rw [hexpiry]
                refine ⟨rfl, haccepts, Or.inr (congrArg some hartifact), ?_⟩
                rw [← hartifact, ← hstored, Function.update_eq_self, hfiles]
                exact h
              · rw [if_neg hsame]
                refine ⟨hfiles ▸ h, Or.inl rfl, fun _ => ⟨rfl, fun _ => ⟨artifact, rfl, ?_⟩⟩⟩
                rintro rfl
                exact hsame ⟨rfl, rfl⟩
            · rintro error disk ⟨rfl, hfiles, hfresh⟩
              refine ⟨hfiles ▸ h, Or.inl rfl, fun hnone => ?_⟩
              exact absurd (fun now hnow => by cases hnow) (hfresh (hfault2 (hfault1 hnone)))
  · rw [if_pos haccepts]
    exact ⟨h, Or.inl rfl, fun _ => ⟨rfl, fun hyes => absurd hyes haccepts⟩⟩

/-- Without a fault, an artifact is removed as a whole. -/
theorem ensures_delete (h : Holds config files stored) :
    Ensures (Config.delete artifactId) ⟨files, none⟩
      (fun removed disk => removed = (stored artifactId).isSome ∧
        Holds config disk.files (Function.update stored artifactId none))
      fun _ _ => False := by
  have hheld := h artifactId
  have hno : ∀ {α : Prop}, (none : Option (Fault FileContent)) ≠ none → α :=
    fun hbad => absurd rfl hbad
  cases hstored : stored artifactId with
  | none =>
      rw [hstored] at hheld
      have hpng : files.get? (.png artifactId) = none := hheld _ (by simp [Config.paths])
      have hmetadata : files.get? (.metadata artifactId) = none := hheld _ (by simp [Config.paths])
      apply ensures_bind
      apply ensures_bind
      apply ensures_fileExists hno
      intro fault1 hfault1
      rw [hfault1 rfl, hpng]
      apply ensures_pure
      apply ensures_bind
      apply ensures_bind
      apply ensures_fileExists hno
      intro fault2 hfault2
      rw [hmetadata]
      apply ensures_pure
      apply ensures_pure
      refine ⟨rfl, ?_⟩
      rw [← hstored, Function.update_eq_self]
      exact h
  | some artifact =>
      rw [hstored] at hheld
      obtain ⟨haccepts, hpng, hmetadata, hpart, hmetadataPart⟩ := hheld
      apply ensures_bind
      apply ensures_bind
      apply ensures_fileExists hno
      intro fault1 hfault1
      rw [hfault1 rfl, hpng]
      apply ensures_bind
      apply ensures_unlink
      apply ensures_pure
      apply ensures_bind
      apply ensures_bind
      apply ensures_fileExists hno
      intro fault2 hfault2
      have hkept : (files.remove (ArtifactPath.png artifactId)).get? (.metadata artifactId) =
          some (.text (metadata
            (config.record artifactId artifact.pngBytes artifact.expiresAt))) := by
        simp [hmetadata]
      rw [hfault2 rfl, hkept]
      apply ensures_bind
      apply ensures_unlink
      apply ensures_pure
      apply ensures_pure
      refine ⟨rfl, h.update (fun path hpath => ?_) fun path hpath => ?_⟩
      · simp only [Config.paths, List.mem_cons, List.not_mem_nil, or_false, not_or] at hpath
        simp [hpath]
      · simp only [Config.paths, List.mem_cons, List.not_mem_nil, or_false] at hpath
        rcases hpath with rfl | rfl | rfl | rfl
        · simp [hpart]
        · simp [hmetadataPart]
        · simp
        · simp

/-! ## Histories -/

inductive StoreCall
  | save (artifactId : UUID) (pngBytes : List UInt8) (expiresAt : Datetime)
      (fault : Option (Fault FileContent))
  | load (artifactId : UUID) (now : Datetime)
  | delete (artifactId : UUID)

/-- The directory, and the artifact of the last save that returned under every identifier,
unless it was deleted since. -/
structure History where
  files : Files ArtifactPath FileContent
  stored : UUID → Option Artifact

def History.initial : History := ⟨∅, fun _ => none⟩

/-- The outcome of a method on the directory, and the directory afterwards. -/
def History.run {α : Type} (history : History) (method : StoreIO α)
    (fault : Option (Fault FileContent)) : Except Exc α × Files ArtifactPath FileContent :=
  FileProgram.run method history.files fault

def History.step (config : Config) (history : History) : StoreCall → History
  | .save artifactId pngBytes expiresAt fault =>
      match history.run (config.save artifactId pngBytes expiresAt) fault with
      | (.ok _, files) =>
          ⟨files, Function.update history.stored artifactId (some ⟨pngBytes, expiresAt⟩)⟩
      | (.error _, files) => ⟨files, history.stored⟩
  | .load artifactId now => ⟨(history.run (config.load artifactId now) none).2, history.stored⟩
  | .delete artifactId =>
      match history.run (Config.delete artifactId) none with
      | (.ok _, files) => ⟨files, Function.update history.stored artifactId none⟩
      | (.error _, files) => ⟨files, history.stored⟩

/-- The store after these calls. -/
def history (config : Config) (calls : List StoreCall) : History :=
  Sequential.after (History.step config) .initial calls

/-- The artifact that a call may change. -/
def StoreCall.target : StoreCall → UUID
  | .save artifactId .. | .load artifactId _ | .delete artifactId => artifactId

/-- A call changes no other artifact. -/
theorem History.stored_step_ne (history : History) {call : StoreCall} {other : UUID}
    (hne : other ≠ call.target) :
    (history.step config call).stored other = history.stored other := by
  cases call with
  | save artifactId pngBytes expiresAt fault =>
      simp only [History.step]
      split
      · exact Function.update_of_ne hne _ _
      · rfl
  | load artifactId now => rfl
  | delete artifactId =>
      simp only [History.step]
      split
      · exact Function.update_of_ne hne _ _
      · rfl

theorem load_eq (h : Holds config files stored) (artifactId : UUID) (now : Datetime) :
    ∃ disk : Disk ArtifactPath FileContent, disk.files = files ∧
      FileProgram.run (config.load artifactId now) files none =
        (match stored artifactId with
          | some artifact =>
              if now < artifact.expiresAt then
                .ok ⟨config.record artifactId artifact.pngBytes artifact.expiresAt,
                  artifact.pngBytes⟩
              else .error unavailable
          | none => .error unavailable, disk.files) := by
  have hheld := h artifactId
  cases hstored : stored artifactId with
  | none =>
      rw [hstored] at hheld
      have hload : Ensures (config.load artifactId now) ⟨files, none⟩ _ _ :=
        ensures_loadUnlocked_none hheld (some now)
      rcases hload.run with ⟨_, _, -, hfalse⟩ | ⟨error, disk, hrun, rfl, hfiles⟩
      · exact hfalse.elim
      · exact ⟨disk, hfiles, hrun⟩
  | some artifact =>
      rw [hstored] at hheld
      have hload : Ensures (config.load artifactId now) ⟨files, none⟩ _ _ :=
        ensures_loadUnlocked_some hheld (some now)
      rcases hload.run with
        ⟨loaded, disk, hrun, rfl, hexpiry, hfiles⟩ | ⟨error, disk, hrun, rfl, hfiles, hexpiry⟩
      · refine ⟨disk, hfiles, ?_⟩
        dsimp only
        rw [hrun, if_pos (hexpiry now rfl)]
      · refine ⟨disk, hfiles, ?_⟩
        have hlate : ¬now < artifact.expiresAt := by
          intro hbefore
          apply hexpiry rfl
          rintro _ ⟨⟩
          exact hbefore
        dsimp only
        rw [hrun, if_neg hlate]

theorem Holds.step {history : History} (h : Holds config history.files history.stored)
    (call : StoreCall) :
    Holds config (history.step config call).files (history.step config call).stored := by
  cases call with
  | save artifactId pngBytes expiresAt fault =>
      have hsave : Ensures (config.save artifactId pngBytes expiresAt) ⟨history.files, fault⟩ _ _ :=
        ensures_save h
      rcases hsave.run with
        ⟨record, disk, hrun, -, -, -, hholds⟩ | ⟨error, disk, hrun, hholds, -⟩
      · rw [History.step, History.run, hrun]
        exact hholds
      · rw [History.step, History.run, hrun]
        exact hholds
  | load artifactId now =>
      obtain ⟨disk, hfiles, hrun⟩ := load_eq h artifactId now
      rw [History.step, History.run, hrun]
      exact hfiles ▸ h
  | delete artifactId =>
      have hdelete : Ensures (Config.delete artifactId) ⟨history.files, none⟩ _ _ :=
        ensures_delete h
      rcases hdelete.run with ⟨removed, disk, hrun, -, hholds⟩ | ⟨_, _, -, hfalse⟩
      · rw [History.step, History.run, hrun]
        exact hholds
      · exact hfalse.elim

theorem holds_history (config : Config) (calls : List StoreCall) :
    Holds config (history config calls).files (history config calls).stored := by
  apply Sequential.invariant_after fun history : History =>
    Holds config history.files history.stored
  · exact holds_empty
  · exact fun history call h => h.step call

/-- After any calls, with any one file operation failing in each save: what the last save
that returned has written is loaded until it expires, and nothing else is; under its
identifier only the same artifact can be saved; and where there is nothing, nothing is left
behind and every artifact that the store takes can be saved. -/
theorem write_once (config : Config) (calls : List StoreCall) :
    (∀ artifactId now,
      ((history config calls).run (config.load artifactId now) none).1 =
        match (history config calls).stored artifactId with
        | some artifact =>
            if now < artifact.expiresAt then
              .ok ⟨config.record artifactId artifact.pngBytes artifact.expiresAt,
                artifact.pngBytes⟩
            else .error unavailable
        | none => .error unavailable) ∧
    (∀ artifactId artifact, (history config calls).stored artifactId = some artifact →
      ∀ pngBytes expiresAt fault,
        (∀ record, ((history config calls).run (config.save artifactId pngBytes expiresAt)
              fault).1 = .ok record →
            pngBytes = artifact.pngBytes ∧ expiresAt = artifact.expiresAt) ∧
          ((history config calls).step config (.save artifactId pngBytes expiresAt
            fault)).stored = (history config calls).stored ∧
          ((history config calls).run (config.save artifactId artifact.pngBytes
            artifact.expiresAt) none).1 =
              .ok (config.record artifactId artifact.pngBytes artifact.expiresAt)) ∧
    ∀ artifactId, (history config calls).stored artifactId = none →
      (∀ path ∈ Config.paths artifactId, (history config calls).files.get? path = none) ∧
        ∀ pngBytes expiresAt, config.Accepts pngBytes →
          ((history config calls).run (config.save artifactId pngBytes expiresAt) none).1 =
            .ok (config.record artifactId pngBytes expiresAt) := by
  have hholds := holds_history config calls
  refine ⟨fun artifactId now => ?_, fun artifactId artifact hstored pngBytes expiresAt fault =>
    ⟨?_, ?_, ?_⟩, fun artifactId hstored => ⟨?_, fun pngBytes expiresAt haccepts => ?_⟩⟩
  · obtain ⟨disk, -, hrun⟩ := load_eq hholds artifactId now
    rw [History.run, hrun]
  · intro record hresult
    have hsave : Ensures (config.save artifactId pngBytes expiresAt)
      ⟨(history config calls).files, fault⟩ _ _ := ensures_save hholds
    rcases hsave.run with
      ⟨_, disk, hrun, -, -, hsame, -⟩ | ⟨error, disk, hrun, -⟩
    · rw [hstored] at hsame
      rcases hsame with hnone | hsame
      · cases hnone
      · cases hsame
        exact ⟨rfl, rfl⟩
    · rw [History.run, hrun] at hresult
      cases hresult
  · have hsave : Ensures (config.save artifactId pngBytes expiresAt)
      ⟨(history config calls).files, fault⟩ _ _ := ensures_save hholds
    rcases hsave.run with
      ⟨_, disk, hrun, -, -, hsame, -⟩ | ⟨error, disk, hrun, -⟩
    · rw [hstored] at hsame
      rcases hsame with hnone | hsame
      · cases hnone
      · rw [History.step, History.run, hrun]
        dsimp only
        rw [← hsame, ← hstored, Function.update_eq_self]
    · rw [History.step, History.run, hrun]
  · have hsave : Ensures (config.save artifactId artifact.pngBytes artifact.expiresAt)
      ⟨(history config calls).files, none⟩ _ _ := ensures_save hholds
    rcases hsave.run with ⟨_, disk, hrun, rfl, -⟩ | ⟨error, disk, hrun, -, -, hclean⟩
    · rw [History.run, hrun]
    · have hheld := hholds artifactId
      rw [hstored] at hheld
      obtain ⟨other, hother, hne⟩ := (hclean rfl).2 hheld.1
      rw [hstored] at hother
      cases hother
      exact absurd rfl hne
  · have hheld := hholds artifactId
    rw [hstored] at hheld
    exact hheld
  · have hsave : Ensures (config.save artifactId pngBytes expiresAt)
      ⟨(history config calls).files, none⟩ _ _ := ensures_save hholds
    rcases hsave.run with ⟨_, disk, hrun, rfl, -⟩ | ⟨error, disk, hrun, -, -, hclean⟩
    · rw [History.run, hrun]
    · obtain ⟨other, hother, -⟩ := (hclean rfl).2 haccepts
      rw [hstored] at hother
      cases hother

namespace Demo

/-- A store of at most a hundred bytes. -/
def storeConfig : Config := ⟨100, CultureShift.Demo.hexdigest⟩

/-- One artifact is saved, the save of another is interrupted when its metadata is written, and a
third is deleted that was never there. -/
def storeCalls : List StoreCall :=
  [.save CultureShift.Demo.assetId CultureShift.Demo.artifactBytes CultureShift.Demo.tomorrow none,
    .save CultureShift.Demo.logoId CultureShift.Demo.artifactBytes CultureShift.Demo.tomorrow
      (some ⟨4, ⟨some .torn, fun _ => false⟩⟩),
    .delete CultureShift.Demo.uiId]

theorem stored_storeCalls : (history storeConfig storeCalls).stored CultureShift.Demo.assetId =
    some ⟨CultureShift.Demo.artifactBytes, CultureShift.Demo.tomorrow⟩ := rfl

theorem stored_interrupted :
    (history storeConfig storeCalls).stored CultureShift.Demo.logoId = none := rfl

end Demo

/-- The artifact that was saved is loaded and cannot be replaced, and the interrupted save has left
nothing behind. -/
theorem write_once_interrupted :
    ((history Demo.storeConfig Demo.storeCalls).run
      (Demo.storeConfig.load CultureShift.Demo.assetId CultureShift.Demo.now) none).1 =
        .ok ⟨Demo.storeConfig.record CultureShift.Demo.assetId CultureShift.Demo.artifactBytes
          CultureShift.Demo.tomorrow, CultureShift.Demo.artifactBytes⟩ ∧
    (∀ pngBytes expiresAt fault record,
      ((history Demo.storeConfig Demo.storeCalls).run
        (Demo.storeConfig.save CultureShift.Demo.assetId pngBytes expiresAt) fault).1 =
          .ok record →
        pngBytes = CultureShift.Demo.artifactBytes ∧ expiresAt = CultureShift.Demo.tomorrow) ∧
    ∀ path ∈ Config.paths CultureShift.Demo.logoId,
      (history Demo.storeConfig Demo.storeCalls).files.get? path = none := by
  obtain ⟨hloaded, hkept, hfree⟩ := write_once Demo.storeConfig Demo.storeCalls
  refine ⟨?_, fun pngBytes expiresAt fault => ?_, (hfree _ Demo.stored_interrupted).1⟩
  · rw [hloaded, Demo.stored_storeCalls]
    exact if_pos (by decide)
  · exact (hkept _ _ Demo.stored_storeCalls pngBytes expiresAt fault).1

end CompositionStorage

end CultureShift
