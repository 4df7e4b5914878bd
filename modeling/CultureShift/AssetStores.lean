/-
# Two asset stores

Both stores hold the same: under every identifier nothing, an upload, or a
tombstone. Where an upload is held, they differ: the local store overwrites it
and the cloud store fails; and a load from before its creation is refused with
different errors. A failed store destroys what is held in both.
-/

import CultureShift.CloudAssetStorage
import CultureShift.Sequential.Reducer

namespace CultureShift

open Serialization Relational Storage

namespace AssetStorage

open CompositionStorage (FileContent utcZone maxMetadata length_isoformat)

open FileProgram

/-- What is held under an identifier. -/
inductive Slot
  | absent
  | present (upload : Upload)
  | closed

section

variable {hexdigest : List UInt8 → Sha256} {files files' : Files AssetPath FileContent}
  {assetId : UUID} {upload : Upload} {type : AssetType} {stored : StoredAsset} {now : Datetime}

/-! ## The local store without a fault -/

/-- The files after a store. -/
structure Placed (files files' : Files AssetPath FileContent) (upload : Upload) (type : AssetType)
    (stored : StoredAsset) : Prop where
  image : files'.get? (.image upload.assetId type) = some (.bytes upload.data)
  metadata : files'.get? (.metadata upload.assetId) = some (.text (metadata stored))
  part : files'.get? (.part upload.assetId) = none
  metadataPart : files'.get? (.metadataPart upload.assetId) = none
  other : SameOff (· ∈ paths upload.assetId type) files files'

/-- Where no tombstone stands and no part is left, the upload is stored. -/
theorem ensures_store (hcheck : upload.check hexdigest = .ok (type, stored))
    (hopen : files.get? (.tombstone (tombstoneDigest hexdigest upload.assetId)) = none)
    (hpart : files.get? (.part upload.assetId) = none)
    (hmetadataPart : files.get? (.metadataPart upload.assetId) = none) :
    Ensures (store hexdigest upload) ⟨files, none⟩
      (fun result disk => result = stored ∧ Placed files disk.files upload type stored)
      fun _ _ => False := by
  have hno : ∀ {goal : Prop}, (none : Option (Fault FileContent)) ≠ none → goal :=
    fun hbad => absurd rfl hbad
  have hid := (checked_of_check hcheck).assetId
  rw [store_of_check hcheck]
  apply ensures_bind
  apply ensures_requireOpen _ fun hclosed => absurd hopen hclosed
  intro _
  apply ensures_bind
  apply ensures_tryCatch
  unfold place
  rw [hid]
  apply ensures_bind
  apply ensures_mkdir hno
  intro fault1 hfault1
  obtain rfl := hfault1 rfl
  apply ensures_bind
  apply ensures_exclusiveWrite hpart hno
  intro fault2 hfault2
  obtain rfl := hfault2 rfl
  apply ensures_bind
  apply ensures_exclusiveWrite (by simpa using hmetadataPart) hno
  intro fault3 hfault3
  obtain rfl := hfault3 rfl
  apply ensures_bind
  apply ensures_requireOpen _ fun hclosed => absurd (by simpa using hopen) hclosed
  intro _
  apply ensures_bind
  apply ensures_replace (by simp; rfl) hno
  intro fault4 hfault4
  obtain rfl := hfault4 rfl
  apply ensures_bind
  apply ensures_requireOpen _ fun hclosed => absurd (by simpa using hopen) hclosed
  intro _
  apply ensures_bind
  apply ensures_replace (by simp; rfl) hno
  intro fault5 hfault5
  obtain rfl := hfault5 rfl
  apply ensures_requireOpen _ fun hclosed => absurd (by simpa using hopen) hclosed
  intro _
  apply ensures_pure
  refine ⟨rfl, ?_, ?_, ?_, ?_, ?_⟩
  · simp
  · simp
  · simp
  · simp
  · intro path hpath
    simp only [paths, List.mem_cons, List.not_mem_nil, or_false, not_or] at hpath
    simp [hpath]

/-- The files of an asset that are there. -/
def activePaths (files : Files AssetPath FileContent) (assetId : UUID) : List AssetPath :=
  (assetPaths assetId).filter fun path => (files.get? path).isSome

/-- The files after a deletion. -/
structure Deleted (hexdigest : List UInt8 → Sha256) (files files' : Files AssetPath FileContent)
    (assetId : UUID) (tombstone : Tombstone) : Prop where
  removed : ∀ path ∈ assetPaths assetId, files'.get? path = none
  tombstone : files'.get? (.tombstone (tombstoneDigest hexdigest assetId)) =
    (files.get? (.tombstone (tombstoneDigest hexdigest assetId))).or
      (some (.text tombstone.payload))
  other : SameOff (fun path => path ∈ assetPaths assetId ∨
    path = .tombstone (tombstoneDigest hexdigest assetId)) files files'

theorem ensures_writeTombstone {digest : Sha256} {tombstone : Tombstone}
    (hpart : files.get? (.tombstonePart digest) = none) :
    Ensures (writeTombstone digest tombstone) ⟨files, none⟩
      (fun _ disk => disk.fault = none ∧
        disk.files.get? (.tombstone digest) = some (.text tombstone.payload) ∧
        SameOff (· = .tombstone digest) files disk.files)
      fun _ _ => False := by
  have hno : ∀ {goal : Prop}, (none : Option (Fault FileContent)) ≠ none → goal :=
    fun hbad => absurd rfl hbad
  apply ensures_bind
  apply ensures_mkdir hno
  intro fault1 hfault1
  obtain rfl := hfault1 rfl
  apply ensures_tryCatch
  apply ensures_bind
  apply ensures_exclusiveWrite hpart hno
  intro fault2 hfault2
  obtain rfl := hfault2 rfl
  apply ensures_replace (by simp; rfl) hno
  intro fault3 hfault3
  refine ⟨hfault3 rfl, by simp, fun path hpath => ?_⟩
  by_cases hsame : path = .tombstonePart digest
  · rw [hsame]
    simp [hpart]
  · simp [hpath, hsame]

theorem ensures_bury {tombstone : Tombstone}
    (hpart : files.get? (.tombstonePart (tombstoneDigest hexdigest assetId)) = none) :
    Ensures (bury hexdigest assetId tombstone) ⟨files, none⟩
      (fun _ disk => disk.fault = none ∧
        disk.files.get? (.tombstone (tombstoneDigest hexdigest assetId)) =
          (files.get? (.tombstone (tombstoneDigest hexdigest assetId))).or
            (some (.text tombstone.payload)) ∧
        SameOff (· = .tombstone (tombstoneDigest hexdigest assetId)) files disk.files)
      fun _ _ => False := by
  apply ensures_bind
  apply ensures_isFile
  cases hstands : files.get? (.tombstone (tombstoneDigest hexdigest assetId)) with
  | none => exact ensures_writeTombstone hpart
  | some content => exact ensures_pure ⟨rfl, hstands, SameOff.refl files⟩

theorem ensures_delete {reason : String}
    (hpart : files.get? (.tombstonePart (tombstoneDigest hexdigest assetId)) = none) :
    Ensures (delete hexdigest assetId now reason) ⟨files, none⟩
      (fun existed disk => existed = !(activePaths files assetId).isEmpty ∧
        Deleted hexdigest files disk.files assetId ⟨now, reason, existed⟩)
      fun _ _ => False := by
  apply ensures_bind
  apply ensures_glob
  apply ensures_bind
  apply (ensures_bury hpart).mono _ fun _ _ => id
  rintro _ ⟨after, fault⟩ ⟨rfl, htombstone, hother⟩
  apply ensures_bind
  apply ensures_tryCatch
  apply ensures_unlinkAll
  apply ensures_pure
  refine ⟨rfl, fun path hpath => ?_, ?_, fun path hpath => ?_⟩
  · have hne : path ≠ .tombstone (tombstoneDigest hexdigest assetId) := by
      rintro rfl
      simp [assetPaths] at hpath
    have hsame := hother path hne
    rw [Files.get?_removeAll]
    split_ifs with hactive
    · rfl
    · rw [hsame]
      by_contra hpresent
      apply hactive
      rw [List.mem_filter]
      exact ⟨hpath, by simpa [Option.isSome_iff_ne_none] using hpresent⟩
  · rw [Files.get?_removeAll, if_neg (by simp [assetPaths])]
    exact htombstone
  · rw [not_or] at hpath
    rw [Files.get?_removeAll, if_neg fun hactive => hpath.1 (List.mem_filter.mp hactive).1]
    exact hother path hpath.2

/-- What a load of a stored asset returns. A load from before the creation raises `early`. -/
def loadedAt (early : Exc) (stored : StoredAsset) (content : List UInt8) (now : Datetime) :
    Except Exc LoadedAsset := do
  require (stored.createdAt ≤ now) early
  requireFresh stored.asset now
  return ⟨stored.asset, content⟩

theorem requireFresh_eq_error {asset : SourceAdAssetRef} {error : Exc}
    (h : requireFresh asset now = .error error) : error = .assetLifecycleClosedError := by
  unfold requireFresh at h
  split at h
  · exact (require_eq_error.mp h).2.symm
  · cases h

theorem yields_readBounded {path : AssetPath} {limit : Nat} {content : FileContent}
    (hfile : files.get? path = some content) (hsize : size content ≤ limit) :
    Yields (readBounded path limit) files (.ok content) := by
  apply yields_bind_ok (yields_read hfile)
  rw [if_neg (not_lt.mpr hsize)]
  exact rfl

/-- What the directory has of an upload that it holds. -/
structure Holding (hexdigest : List UInt8 → Sha256) (files : Files AssetPath FileContent)
    (upload : Upload) (type : AssetType) (stored : StoredAsset) : Prop where
  check : upload.check hexdigest = .ok (type, stored)
  is_open : files.get? (.tombstone (tombstoneDigest hexdigest upload.assetId)) = none
  metadata : files.get? (.metadata upload.assetId) = some (.text (metadata stored))
  image : files.get? (.image upload.assetId type) = some (.bytes upload.data)

theorem Holding.yields_readStored (h : Holding hexdigest files upload type stored) :
    Yields (readStored upload.assetId now) files (do
      require (stored.createdAt ≤ now) (.valueError "invalid metadata")
      requireFresh stored.asset now
      return stored) := by
  have hchecked := checked_of_check h.check
  have hsound : Sound upload.assetId now stored ↔ stored.createdAt ≤ now := by
    constructor
    · exact fun hsound => hsound.2.2.2
    · exact fun hcreated => ⟨hchecked.assetId, hchecked.sizeBytes ▸ hchecked.nonempty,
        hchecked.sizeBytes ▸ hchecked.bounded, hcreated⟩
  apply yields_bind_ok (yields_readBounded h.metadata (length_metadata hchecked))
  refine yields_bind_ok (yields_ofExcept (.ok (AssetStorage.metadata stored)) files) ?_
  rw [readMetadata_metadata]
  refine yields_bind_ok (yields_ofExcept (.ok stored) files) ?_
  by_cases hcreated : stored.createdAt ≤ now
  · rw [require_of _ (hsound.mpr hcreated), require_of _ hcreated]
    refine yields_bind_ok (yields_ofExcept (.ok ()) files) ?_
    cases hfresh : requireFresh stored.asset now with
    | error error => exact yields_bind_error (yields_ofExcept (.error error) files)
    | ok _ => exact yields_bind_ok (yields_ofExcept (.ok ()) files) rfl
  · rw [require, if_neg (mt hsound.mp hcreated), require, if_neg hcreated]
    exact yields_bind_error (yields_ofExcept (.error _) files)

theorem Holding.yields_readImage (h : Holding hexdigest files upload type stored) :
    Yields (readImage upload.assetId stored) files (.ok upload.data) := by
  have hchecked := checked_of_check h.check
  have htype : (StrEnum.ofValue? stored.asset.mediaType.text : Option AssetType) = some type := by
    rw [hchecked.mediaType]
    exact type.ofValue?_mediaType
  rw [readImage, htype]
  refine yields_bind_ok (yields_ofExcept (.ok type) files) ?_
  apply yields_bind_ok (yields_read h.image)
  have hsize : size (.bytes upload.data) = stored.sizeBytes := hchecked.sizeBytes.symm
  rw [require_of _ hsize]
  refine yields_bind_ok (yields_ofExcept (.ok ()) files) ?_
  exact yields_bind_ok (yields_readBounded h.image hchecked.bounded)
    (yields_ofExcept (.ok upload.data) files)

theorem Holding.intact (h : Holding hexdigest files upload type stored) :
    Intact hexdigest stored upload.data := by
  have hchecked := checked_of_check h.check
  refine ⟨hchecked.sizeBytes.symm, ?_, hchecked.sha256.symm⟩
  rw [hchecked.detected, hchecked.mediaType]
  cases type with
  | png => rfl
  | jpeg => rfl

/-- The times decide what a load of a stored asset returns. -/
theorem Holding.yields_load (h : Holding hexdigest files upload type stored) (now : Datetime) :
    Yields (load hexdigest upload.assetId now) files
      (loadedAt readFailed stored upload.data now) := by
  apply yields_bind_ok (yields_requireOpen h.is_open)
  have hstored : Yields (readStored upload.assetId now) files _ := h.yields_readStored
  rw [loadedAt]
  by_cases hcreated : stored.createdAt ≤ now
  · rw [require_of _ hcreated, ok_bind] at hstored ⊢
    cases hfresh : requireFresh stored.asset now with
    | error error =>
        rw [hfresh] at hstored
        obtain rfl := requireFresh_eq_error hfresh
        exact yields_bind_error (yields_tryCatch_error (yields_bind_error hstored) rfl)
    | ok _ =>
        rw [hfresh] at hstored
        have hasset : Yields (readAsset upload.assetId now) files (.ok (stored, upload.data)) :=
          yields_bind_ok hstored (yields_bind_ok h.yields_readImage rfl)
        apply yields_bind_ok (yields_tryCatch_ok hasset)
        dsimp only
        rw [if_pos h.intact]
        exact rfl
  · rw [require, if_neg hcreated] at hstored ⊢
    exact yields_bind_error (yields_tryCatch_error (yields_bind_error hstored) rfl)

/-! ## The directory as slots -/

/-- The directory holds this under the identifier. -/
def HoldsAt (hexdigest : List UInt8 → Sha256) (files : Files AssetPath FileContent)
    (assetId : UUID) : Slot → Prop
  | .absent => files.get? (.tombstone (tombstoneDigest hexdigest assetId)) = none ∧
      ∀ path ∈ assetPaths assetId, files.get? path = none
  | .present upload => upload.assetId = assetId ∧ files.get? (.part assetId) = none ∧
      files.get? (.metadataPart assetId) = none ∧
      ∃ type stored, Holding hexdigest files upload type stored
  | .closed => files.get? (.tombstone (tombstoneDigest hexdigest assetId)) ≠ none ∧
      ∀ path ∈ assetPaths assetId, files.get? path = none

/-- The directory holds exactly this. -/
structure Holds (hexdigest : List UInt8 → Sha256) (files : Files AssetPath FileContent)
    (slots : UUID → Slot) : Prop where
  slot : ∀ assetId, HoldsAt hexdigest files assetId (slots assetId)
  tombstonePart : ∀ digest, files.get? (.tombstonePart digest) = none

variable {slots : UUID → Slot}

theorem holds_empty (hexdigest : List UInt8 → Sha256) : Holds hexdigest ∅ fun _ => .absent where
  slot _ := ⟨Files.get?_empty, fun _ _ => Files.get?_empty⟩
  tombstonePart _ := Files.get?_empty

/-- Only the files of an asset and its tombstone matter to it. -/
theorem HoldsAt.congr {slot : Slot} (h : HoldsAt hexdigest files assetId slot)
    (htombstone : files'.get? (.tombstone (tombstoneDigest hexdigest assetId)) =
      files.get? (.tombstone (tombstoneDigest hexdigest assetId)))
    (hpaths : ∀ path ∈ assetPaths assetId, files'.get? path = files.get? path) :
    HoldsAt hexdigest files' assetId slot := by
  cases slot with
  | absent =>
      exact ⟨htombstone.trans h.1, fun path hpath => (hpaths path hpath).trans (h.2 path hpath)⟩
  | closed =>
      exact ⟨htombstone ▸ h.1, fun path hpath => (hpaths path hpath).trans (h.2 path hpath)⟩
  | present upload =>
      obtain ⟨rfl, hpart, hmetadataPart, type, stored, hholding⟩ := h
      refine ⟨rfl, (hpaths _ (by simp [assetPaths])).trans hpart,
        (hpaths _ (by simp [assetPaths])).trans hmetadataPart, type, stored, ?_⟩
      exact
        { check := hholding.check
          is_open := htombstone.trans hholding.is_open
          metadata := (hpaths _ (by simp [assetPaths])).trans hholding.metadata
          image := (hpaths _ (by cases type <;> simp [assetPaths])).trans hholding.image }

/-- The files of two assets are apart. -/
theorem not_mem_assetPaths_of_ne {other : UUID} (hne : other ≠ assetId) {path : AssetPath}
    (h : path ∈ assetPaths other) : path ∉ assetPaths assetId := by
  simp only [assetPaths, List.mem_cons, List.not_mem_nil, or_false] at h
  rcases h with rfl | rfl | rfl | rfl | rfl <;> simp [assetPaths, hne]

/-- The slots after a store. -/
def storeSlots (hexdigest : List UInt8 → Sha256) (slots : UUID → Slot) (upload : Upload) :
    UUID → Slot :=
  match upload.check hexdigest, slots upload.assetId with
  | .ok _, .absent => Function.update slots upload.assetId (.present upload)
  | .ok _, .present _ => Function.update slots upload.assetId (.present upload)
  | _, _ => slots

/-- What a store returns that overwrites what it finds. -/
def storeResult (hexdigest : List UInt8 → Sha256) (slots : UUID → Slot) (upload : Upload) :
    Except Exc StoredAsset := do
  let (_, stored) ← upload.check hexdigest
  match slots upload.assetId with
  | .closed => .error .assetLifecycleClosedError
  | _ => .ok stored

theorem Holds.update (h : Holds hexdigest files slots)
    (hcheck : upload.check hexdigest = .ok (type, stored))
    (hplaced : Placed files files' upload type stored)
    (hopen : files.get? (.tombstone (tombstoneDigest hexdigest upload.assetId)) = none) :
    Holds hexdigest files' (Function.update slots upload.assetId (.present upload)) where
  slot other := by
    by_cases heq : other = upload.assetId
    · subst heq
      rw [Function.update_self]
      exact ⟨rfl, hplaced.part, hplaced.metadataPart, type, stored, hcheck,
        (hplaced.other _ (by simp [paths])).trans hopen, hplaced.metadata, hplaced.image⟩
    · rw [Function.update_of_ne heq]
      apply (h.slot other).congr
      · exact hplaced.other _ (by simp [paths])
      · intro path hpath
        exact hplaced.other path fun hmem =>
          not_mem_assetPaths_of_ne heq hpath (mem_assetPaths hmem)
  tombstonePart digest := (hplaced.other _ (by simp [paths])).trans (h.tombstonePart digest)

/-- Where nothing is closed, no part is left either. -/
theorem HoldsAt.is_open {slot : Slot} (h : HoldsAt hexdigest files assetId slot)
    (hne : slot ≠ .closed) :
    files.get? (.tombstone (tombstoneDigest hexdigest assetId)) = none ∧
      files.get? (.part assetId) = none ∧ files.get? (.metadataPart assetId) = none := by
  cases slot with
  | absent => exact ⟨h.1, h.2 _ (by simp [assetPaths]), h.2 _ (by simp [assetPaths])⟩
  | closed => exact absurd rfl hne
  | present upload =>
      obtain ⟨rfl, hpart, hmetadataPart, type, stored, hholding⟩ := h
      exact ⟨hholding.is_open, hpart, hmetadataPart⟩

/-- The local store overwrites what it holds, unless a tombstone stands. -/
theorem Holds.store (h : Holds hexdigest files slots) (upload : Upload) :
    ∃ files', FileProgram.run (store hexdigest upload) files none =
        (storeResult hexdigest slots upload, files') ∧
      Holds hexdigest files' (storeSlots hexdigest slots upload) := by
  have hheld := h.slot upload.assetId
  unfold storeResult storeSlots
  cases hcheck : upload.check hexdigest with
  | error error =>
      refine ⟨files, ?_, h⟩
      rw [store_of_check_error hcheck]
      rfl
  | ok checked =>
      obtain ⟨type, stored⟩ := checked
      have hplace (hne : slots upload.assetId ≠ .closed) :
          ∃ files', FileProgram.run (AssetStorage.store hexdigest upload) files none =
              (.ok stored, files') ∧
            Holds hexdigest files' (Function.update slots upload.assetId (.present upload)) := by
        obtain ⟨hopen, hpart, hmetadataPart⟩ := hheld.is_open hne
        rcases (ensures_store hcheck hopen hpart hmetadataPart).run with
          ⟨_, disk, hrun, rfl, hplaced⟩ | ⟨_, _, -, hfalse⟩
        · exact ⟨disk.files, hrun, h.update hcheck hplaced hopen⟩
        · exact hfalse.elim
      cases hslot : slots upload.assetId with
      | absent => exact hplace (by simp [hslot])
      | present _ => exact hplace (by simp [hslot])
      | closed =>
          rw [hslot] at hheld
          have hrefused : Yields (AssetStorage.store hexdigest upload) files
              (.error .assetLifecycleClosedError) := by
            rw [store_of_check hcheck]
            exact yields_bind_error (yields_requireOpen_closed hheld.1)
          exact ⟨files, hrefused.run, h⟩

/-- What a load returns. -/
def loadResult (hexdigest : List UInt8 → Sha256) (early : Exc) (slots : UUID → Slot)
    (assetId : UUID) (now : Datetime) : Except Exc LoadedAsset :=
  match slots assetId with
  | .absent => .error readFailed
  | .closed => .error .assetLifecycleClosedError
  | .present upload => do
      let (_, stored) ← upload.check hexdigest
      loadedAt early stored upload.data now

theorem Holds.load (h : Holds hexdigest files slots) (assetId : UUID) (now : Datetime) :
    FileProgram.run (load hexdigest assetId now) files none =
      (loadResult hexdigest readFailed slots assetId now, files) := by
  have hheld := h.slot assetId
  unfold loadResult
  cases hslot : slots assetId with
  | absent =>
      rw [hslot] at hheld
      exact (yields_load_missing hheld.1 (hheld.2 _ (by simp [assetPaths])) now).run
  | closed =>
      rw [hslot] at hheld
      exact (yields_load_closed hheld.1 now).run
  | present upload =>
      rw [hslot] at hheld
      obtain ⟨rfl, -, -, type, stored, hholding⟩ := hheld
      dsimp only
      rw [hholding.check, ok_bind]
      exact (hholding.yields_load now).run

def Slot.isPresent : Slot → Bool
  | .present _ => true
  | _ => false

theorem HoldsAt.existed {slot : Slot} (h : HoldsAt hexdigest files assetId slot) :
    (!(activePaths files assetId).isEmpty) = slot.isPresent := by
  have hempty (hnone : ∀ path ∈ assetPaths assetId, files.get? path = none) :
      activePaths files assetId = [] := by
    rw [activePaths, List.filter_eq_nil_iff]
    intro path hpath
    simp [hnone path hpath]
  cases slot with
  | absent =>
      rw [hempty h.2]
      rfl
  | closed =>
      rw [hempty h.2]
      rfl
  | present upload =>
      obtain ⟨rfl, -, -, type, stored, hholding⟩ := h
      have hmem : .metadata upload.assetId ∈ activePaths files upload.assetId := by
        rw [activePaths, List.mem_filter]
        exact ⟨by simp [assetPaths], by simp [hholding.metadata]⟩
      rw [Slot.isPresent, Bool.not_eq_true', List.isEmpty_eq_false_iff]
      exact List.ne_nil_of_mem hmem

theorem Holds.delete (hinjective : Function.Injective (tombstoneDigest hexdigest))
    (h : Holds hexdigest files slots) (assetId : UUID) (now : Datetime) (reason : String) :
    ∃ files', FileProgram.run (delete hexdigest assetId now reason) files none =
        (.ok (slots assetId).isPresent, files') ∧
      Holds hexdigest files' (Function.update slots assetId .closed) := by
  have hdelete : Ensures (AssetStorage.delete hexdigest assetId now reason) ⟨files, none⟩ _ _ :=
    ensures_delete (h.tombstonePart _)
  rcases hdelete.run with ⟨existed, disk, hrun, hexisted, hdeleted⟩ | ⟨_, _, -, hfalse⟩
  · rw [(h.slot assetId).existed] at hexisted
    refine ⟨disk.files, hexisted ▸ hrun, fun other => ?_, fun digest => ?_⟩
    · by_cases heq : other = assetId
      · subst heq
        rw [Function.update_self]
        refine ⟨?_, hdeleted.removed⟩
        rw [hdeleted.tombstone]
        simp
      · rw [Function.update_of_ne heq]
        apply (h.slot other).congr
        · apply hdeleted.other
          rintro (hmem | hsame)
          · simp [assetPaths] at hmem
          · exact heq (hinjective (AssetPath.tombstone.inj hsame))
        · intro path hpath
          apply hdeleted.other
          rintro (hmem | rfl)
          · exact not_mem_assetPaths_of_ne heq hpath hmem
          · simp [assetPaths] at hpath
    · rw [hdeleted.other _ (by simp [assetPaths])]
      exact h.tombstonePart digest
  · exact hfalse.elim

end

/-! ## The objects as slots -/

namespace Cloud

variable {hexdigest : List UInt8 → Sha256} {objects objects' : Files AssetKey FileContent}
  {assetId : UUID} {upload : Upload} {type : AssetType} {stored : StoredAsset} {now : Datetime}
  {slots : UUID → Slot}

/-- The objects of an upload that the store holds. -/
structure Holding (hexdigest : List UInt8 → Sha256) (objects : Files AssetKey FileContent)
    (upload : Upload) (type : AssetType) (stored : StoredAsset) : Prop where
  check : upload.check hexdigest = .ok (type, stored)
  is_open : objects.get? (.tombstone upload.assetId) = none
  metadata : objects.get? (.metadata upload.assetId) = some (.text (metadata stored))
  image : objects.get? (.image upload.assetId type) = some (.bytes upload.data)
  other : ∀ other, other ≠ type → objects.get? (.image upload.assetId other) = none

/-- Neither metadata nor an image. -/
def Bare (objects : Files AssetKey FileContent) (assetId : UUID) : Prop :=
  objects.get? (.metadata assetId) = none ∧ ∀ type, objects.get? (.image assetId type) = none

/-- The objects hold this under the identifier. -/
def HoldsAt (hexdigest : List UInt8 → Sha256) (objects : Files AssetKey FileContent)
    (assetId : UUID) : Slot → Prop
  | .absent => objects.get? (.tombstone assetId) = none ∧ Bare objects assetId
  | .present upload => upload.assetId = assetId ∧
      ∃ type stored, Holding hexdigest objects upload type stored
  | .closed => (∃ content, objects.get? (.tombstone assetId) = some content ∧
      content.size ≤ maxMetadata) ∧ Bare objects assetId

def Holds (hexdigest : List UInt8 → Sha256) (objects : Files AssetKey FileContent)
    (slots : UUID → Slot) : Prop :=
  ∀ assetId, HoldsAt hexdigest objects assetId (slots assetId)

theorem holds_empty (hexdigest : List UInt8 → Sha256) : Holds hexdigest ∅ fun _ => .absent :=
  fun _ => ⟨Files.get?_empty, Files.get?_empty, fun _ => Files.get?_empty⟩

theorem HoldsAt.congr {slot : Slot} (h : HoldsAt hexdigest objects assetId slot)
    (hsame : ∀ key, Consults assetId key → objects'.get? key = objects.get? key) :
    HoldsAt hexdigest objects' assetId slot := by
  have hbare (hbare : Bare objects assetId) : Bare objects' assetId :=
    ⟨(hsame _ .metadata).trans hbare.1, fun type => (hsame _ (.image type)).trans (hbare.2 type)⟩
  cases slot with
  | absent => exact ⟨(hsame _ .tombstone).trans h.1, hbare h.2⟩
  | closed =>
      obtain ⟨⟨content, hcontent, hsize⟩, hnone⟩ := h
      exact ⟨⟨content, (hsame _ .tombstone).trans hcontent, hsize⟩, hbare hnone⟩
  | present upload =>
      obtain ⟨rfl, type, stored, hholding⟩ := h
      exact ⟨rfl, type, stored,
        { check := hholding.check
          is_open := (hsame _ .tombstone).trans hholding.is_open
          metadata := (hsame _ .metadata).trans hholding.metadata
          image := (hsame _ (.image type)).trans hholding.image
          other := fun other hne => (hsame _ (.image other)).trans (hholding.other other hne) }⟩

/-- A change to the objects of one asset. -/
theorem Holds.update {slot : Slot} (h : Holds hexdigest objects slots)
    (hother : SameOff (Consults assetId) objects objects')
    (hsame : HoldsAt hexdigest objects' assetId slot) :
    Holds hexdigest objects' (Function.update slots assetId slot) := by
  intro other
  by_cases heq : other = assetId
  · subst heq
    rw [Function.update_self]
    exact hsame
  · rw [Function.update_of_ne heq]
    apply (h other).congr
    intro key hkey
    apply hother
    intro hconsults
    cases hkey with
    | tombstone => cases hconsults; exact heq rfl
    | metadata => cases hconsults; exact heq rfl
    | image type => cases hconsults; exact heq rfl

private theorem no_fault {goal : Prop} :
    (none : Option (Fault FileContent)) ≠ none → goal := fun hbad => absurd rfl hbad

/-- Where nothing is held, the upload is stored. -/
theorem ensures_store (hcheck : upload.check hexdigest = .ok (type, stored))
    (hopen : objects.get? (.tombstone upload.assetId) = none)
    (hbare : Bare objects upload.assetId) :
    Ensures (store hexdigest upload) ⟨objects, none⟩
      (fun result disk => result = stored ∧
        Holding hexdigest disk.files upload type stored ∧
        SameOff (Consults upload.assetId) objects disk.files)
      fun _ _ => False := by
  rw [store_of_check hcheck]
  apply ensures_bind
  apply (yields_requireOpen hopen).ensures
  apply ensures_bind
  apply ensures_tryCatch
  unfold place
  rw [(checked_of_check hcheck).assetId]
  apply ensures_bind
  apply ensures_put (fun _ => hbare.2 type) no_fault no_fault
  intro fault1 hfault1
  obtain rfl := hfault1 rfl
  apply ensures_put (fun _ => by simpa using hbare.1) no_fault no_fault
  intro fault2 hfault2
  apply ensures_pure
  refine ⟨rfl, ⟨hcheck, ?_, ?_, ?_, ?_⟩, ?_⟩
  · simpa using hopen
  · simp
  · simp
  · intro other hne
    simpa [hne] using hbare.2 other
  · exact (SameOff.write (.image type) objects _).trans (SameOff.write .metadata _ _)

/-- Unless an upload is held, the cloud store stores as the local one does. -/
theorem Holds.store (h : Holds hexdigest objects slots) (upload : Upload)
    (hfree : (slots upload.assetId).isPresent = false) :
    ∃ objects', FileProgram.run (store hexdigest upload) objects none =
        (storeResult hexdigest slots upload, objects') ∧
      Holds hexdigest objects' (storeSlots hexdigest slots upload) := by
  have hheld := h upload.assetId
  unfold storeResult storeSlots
  cases hcheck : upload.check hexdigest with
  | error error =>
      refine ⟨objects, ?_, h⟩
      rw [store_of_check_error hcheck]
      rfl
  | ok checked =>
      obtain ⟨type, stored⟩ := checked
      cases hslot : slots upload.assetId with
      | absent =>
          rw [hslot] at hheld
          rcases (ensures_store hcheck hheld.1 hheld.2).run with
            ⟨_, disk, hrun, rfl, hholding, hother⟩ | ⟨_, _, -, hfalse⟩
          · exact ⟨disk.files, hrun, h.update hother ⟨rfl, type, _, hholding⟩⟩
          · exact hfalse.elim
      | present other =>
          rw [hslot] at hfree
          cases hfree
      | closed =>
          rw [hslot] at hheld
          obtain ⟨content, hcontent, hsize⟩ := hheld.1
          have hrefused : Yields (Cloud.store hexdigest upload) objects
              (.error .assetLifecycleClosedError) := by
            rw [store_of_check hcheck]
            exact yields_bind_error (yields_requireOpen_closed hcontent hsize)
          exact ⟨objects, hrefused.run, h⟩

/-- Where an upload is held, nothing is stored. -/
theorem Holds.store_present (h : Holds hexdigest objects slots) {held : Upload}
    (hslot : slots upload.assetId = .present held)
    (hcheck : upload.check hexdigest = .ok (type, stored)) :
    ∃ error, (FileProgram.run (Cloud.store hexdigest upload) objects none).1 = .error error := by
  have hheld := h upload.assetId
  rw [hslot] at hheld
  obtain ⟨hid, heldType, heldStored, hholding⟩ := hheld
  have hopen := hholding.is_open
  have hmetadata := hholding.metadata
  rw [hid] at hopen hmetadata
  have hstore : Ensures (Cloud.store hexdigest upload) ⟨objects, none⟩ _ _ :=
    ensures_store_found hcheck hopen hmetadata
  rcases hstore.run with ⟨_, _, -, hfalse⟩ | ⟨error, _, hrun, -⟩
  · exact hfalse.elim
  · exact ⟨error, by rw [hrun]⟩

/-- The times decide what a load of a stored asset returns. -/
theorem Holding.yields_load (h : Holding hexdigest objects upload type stored) (now : Datetime) :
    Yields (load hexdigest upload.assetId now) objects
      (loadedAt .assetLifecycleClosedError stored upload.data now) := by
  have hchecked := checked_of_check h.check
  obtain ⟨expiresAt, hexpires, -⟩ := hchecked.expiresAt
  have hsize : (AssetStorage.metadata stored).render.length ≤ maxMetadata :=
    Nat.le_of_succ_le (length_metadata hchecked)
  have hread := readMetadata_metadata stored
  have hclosed (hfresh : requireFresh upload.assetId now stored =
      .error .assetLifecycleClosedError) :
      Yields (load hexdigest upload.assetId now) objects (.error .assetLifecycleClosedError) := by
    have hasset : Yields (readAsset upload.assetId now) objects
        (.error .assetLifecycleClosedError) := by
      apply yields_bind_ok (yields_get h.metadata hsize)
      refine yields_bind_ok (yields_ofExcept (.ok (AssetStorage.metadata stored)) objects) ?_
      rw [hread]
      refine yields_bind_ok (yields_ofExcept (.ok stored) objects) ?_
      rw [hfresh]
      exact yields_bind_error (yields_ofExcept (.error _) objects)
    apply yields_bind_ok (yields_requireOpen h.is_open)
    exact yields_bind_error (yields_tryCatch_error hasset rfl)
  rw [loadedAt, AssetStorage.requireFresh, hexpires]
  by_cases hcreated : stored.createdAt ≤ now
  · have hsound : stored.asset.assetId = upload.assetId ∧ stored.createdAt ≤ now :=
      ⟨hchecked.assetId, hcreated⟩
    rw [require_of _ hcreated, ok_bind]
    by_cases hfresh : now < expiresAt
    · dsimp only
      rw [require_of _ hfresh]
      have hfound : Found hexdigest objects upload.assetId now stored upload.data :=
        { is_open := h.is_open
          metadata := ⟨_, h.metadata, hsize, hread⟩
          fresh := by
            rw [requireFresh, require_of _ hsound, ok_bind, hexpires, orRaise_some, ok_bind,
              require_of _ hfresh]
          image := ⟨type, by rw [hchecked.mediaType]; exact type.ofValue?_mediaType, h.image⟩
          bounded := hchecked.bounded
          intact := ⟨hchecked.sizeBytes.symm, hchecked.sha256.symm⟩ }
      rw [ok_bind]
      exact hfound.yields_load
    · dsimp only
      rw [require, if_neg hfresh, error_bind]
      apply hclosed
      rw [requireFresh, require_of _ hsound, ok_bind, hexpires, orRaise_some, ok_bind, require,
        if_neg hfresh]
  · rw [require, if_neg hcreated, error_bind]
    apply hclosed
    have hnot : ¬(stored.asset.assetId = upload.assetId ∧ stored.createdAt ≤ now) :=
      fun hsound => hcreated hsound.2
    rw [requireFresh, require, if_neg hnot, error_bind]

theorem Holds.load (h : Holds hexdigest objects slots) (assetId : UUID) (now : Datetime) :
    FileProgram.run (load hexdigest assetId now) objects none =
      (loadResult hexdigest .assetLifecycleClosedError slots assetId now, objects) := by
  have hheld := h assetId
  unfold loadResult
  cases hslot : slots assetId with
  | absent =>
      rw [hslot] at hheld
      have hmissing : Yields (Cloud.load hexdigest assetId now) objects (.error readFailed) := by
        apply yields_bind_ok (yields_requireOpen hheld.1)
        apply yields_bind_error
        exact yields_tryCatch_error (yields_bind_error (yields_get_none hheld.2.1)) rfl
      exact hmissing.run
  | closed =>
      rw [hslot] at hheld
      obtain ⟨content, hcontent, hsize⟩ := hheld.1
      exact Yields.run (yields_bind_error (yields_requireOpen_closed hcontent hsize))
  | present upload =>
      rw [hslot] at hheld
      obtain ⟨rfl, type, stored, hholding⟩ := hheld
      dsimp only
      rw [hholding.check, ok_bind]
      exact (hholding.yields_load now).run

theorem readType_metadata (h : Checked hexdigest upload type stored) :
    readType (metadata stored) = some type := by
  have htype : (StrEnum.ofValue? stored.asset.mediaType.text : Option AssetType) = some type := by
    rw [h.mediaType]
    exact type.ofValue?_mediaType
  exact htype

/-- A tombstone can be read. -/
theorem size_tombstone (now : Datetime) :
    (FileContent.text (.obj [("deleted_at", .str (now.isoformat utcZone)),
      ("reason", .str "deleted")])).size ≤ maxMetadata := by
  have hdeleted : (Json.str (now.isoformat utcZone)).render.length ≤ 6 * 32 + 2 :=
    length_render_str (length_isoformat now _)
  have hreason : (Json.str "deleted").render.length ≤ 6 * 7 + 2 := length_render_str le_rfl
  have hnames : (Json.quote "deleted_at").length = 12 ∧ (Json.quote "reason").length = 8 := by
    decide
  obtain ⟨hname1, hname2⟩ := hnames
  simp only [FileContent.size, Json.render, Json.renderMembers, List.length_cons,
    List.length_append, List.length_nil, hname1, hname2, maxMetadata] at *
  omega

/-- Everything of an asset is removed but its tombstone. -/
theorem ensures_delete (hexdigest : List UInt8 → Sha256) {existed : Bool}
    (hexisting : Yields (existing assetId) objects (.ok (existed, type)))
    (hothers : ∀ other, other ≠ type → other ≠ .jpeg →
      objects.get? (.image assetId other) = none) :
    Ensures (delete assetId now "deleted") ⟨objects, none⟩
      (fun result disk => result = existed ∧
        HoldsAt hexdigest disk.files assetId .closed ∧
        SameOff (Consults assetId) objects disk.files)
      fun _ _ => False := by
  apply ensures_bind
  apply hexisting.ensures
  apply ensures_bind
  apply ensures_tryCatch
  apply ensures_bind
  apply ensures_put (fun hcreate => by cases hcreate) no_fault no_fault
  intro fault1 hfault1
  obtain rfl := hfault1 rfl
  apply ensures_bind
  apply ensures_deleteObjects
  apply ensures_pure
  apply ensures_pure
  refine ⟨rfl, ⟨⟨_, by simp, size_tombstone now⟩, by simp, fun other => ?_⟩, ?_⟩
  · by_cases hsame : other = type
    · simp [hsame]
    · by_cases hjpeg : other = .jpeg
      · simp [hjpeg]
      · simp [hsame, hjpeg, hothers other hsame hjpeg]
  · refine (SameOff.write .tombstone objects _).trans (SameOff.removeAll ?_ _)
    intro key hkey
    simp only [List.mem_cons, List.not_mem_nil, or_false] at hkey
    rcases hkey with rfl | rfl | rfl
    · exact .metadata
    · exact .image type
    · exact .image .jpeg

theorem yields_existing_none (h : objects.get? (.metadata assetId) = none) :
    Yields (existing assetId) objects (.ok (false, .png)) :=
  yields_tryCatch_error (yields_bind_error (yields_get_none h)) rfl

theorem Holding.yields_existing (h : Holding hexdigest objects upload type stored) :
    Yields (existing upload.assetId) objects (.ok (true, type)) := by
  have hchecked := checked_of_check h.check
  apply yields_tryCatch_ok
  apply yields_bind_ok (yields_get h.metadata (Nat.le_of_succ_le (length_metadata hchecked)))
  have hread : (FileContent.text (AssetStorage.metadata stored)).json?.bind readType = some type :=
    readType_metadata hchecked
  rw [hread]
  exact yields_bind_ok (yields_ofExcept (.ok type) objects) rfl

theorem Holds.delete (h : Holds hexdigest objects slots) (assetId : UUID) (now : Datetime) :
    ∃ objects', FileProgram.run (delete assetId now "deleted") objects none =
        (.ok (slots assetId).isPresent, objects') ∧
      Holds hexdigest objects' (Function.update slots assetId .closed) := by
  have hheld := h assetId
  have hrun {existed : Bool} {type : AssetType}
      (hexisting : Yields (existing assetId) objects (.ok (existed, type)))
      (hothers : ∀ other, other ≠ type → other ≠ .jpeg →
        objects.get? (.image assetId other) = none) :
      ∃ objects', FileProgram.run (Cloud.delete assetId now "deleted") objects none =
          (.ok existed, objects') ∧
        Holds hexdigest objects' (Function.update slots assetId .closed) := by
    have hdelete : Ensures (Cloud.delete assetId now "deleted") ⟨objects, none⟩ _ _ :=
      ensures_delete hexdigest hexisting hothers
    rcases hdelete.run with ⟨_, disk, hdone, rfl, hclosed, hother⟩ | ⟨_, _, -, hfalse⟩
    · exact ⟨disk.files, hdone, h.update hother hclosed⟩
    · exact hfalse.elim
  cases hslot : slots assetId with
  | absent =>
      rw [hslot] at hheld
      exact hrun (yields_existing_none hheld.2.1) fun other _ _ => hheld.2.2 other
  | closed =>
      rw [hslot] at hheld
      exact hrun (yields_existing_none hheld.2.1) fun other _ _ => hheld.2.2 other
  | present upload =>
      rw [hslot] at hheld
      obtain ⟨rfl, type, stored, hholding⟩ := hheld
      exact hrun hholding.yields_existing fun other hne _ => hholding.other other hne

end Cloud

/-! ## Both stores -/

inductive Call
  | store (upload : Upload)
  | load (assetId : UUID) (now : Datetime)
  | delete (assetId : UUID) (now : Datetime)

/-- What a call returns or raises. -/
inductive Outcome
  | stored (result : Except Exc StoredAsset)
  | loaded (result : Except Exc LoadedAsset)
  | deleted (result : Except Exc Bool)

/-- The class of an exception, whatever its message. -/
def errorClass : Exc → Exc
  | .assetStorageError _ => .assetStorageError ""
  | error => error

/-- An outcome up to the messages of its exceptions. -/
def Outcome.classified : Outcome → Outcome
  | .stored result => .stored (result.mapError errorClass)
  | .loaded result => .loaded (result.mapError errorClass)
  | .deleted result => .deleted (result.mapError errorClass)

/-- A directory and an object store, and what the calls so far have stored and not deleted. -/
structure Stores where
  files : Files AssetPath FileContent
  objects : Files AssetKey FileContent
  slots : UUID → Slot

namespace Stores

variable (hexdigest : List UInt8 → Sha256)

def empty : Stores := ⟨∅, ∅, fun _ => .absent⟩

def locally (stores : Stores) : Call → Outcome × Files AssetPath FileContent
  | .store upload =>
      (FileProgram.run (AssetStorage.store hexdigest upload) stores.files none).map .stored id
  | .load assetId now =>
      (FileProgram.run (AssetStorage.load hexdigest assetId now) stores.files none).map .loaded id
  | .delete assetId now =>
      (FileProgram.run (AssetStorage.delete hexdigest assetId now "deleted") stores.files none).map
        .deleted id

def inCloud (stores : Stores) : Call → Outcome × Files AssetKey FileContent
  | .store upload =>
      (FileProgram.run (Cloud.store hexdigest upload) stores.objects none).map .stored id
  | .load assetId now =>
      (FileProgram.run (Cloud.load hexdigest assetId now) stores.objects none).map .loaded id
  | .delete assetId now =>
      (FileProgram.run (Cloud.delete assetId now "deleted") stores.objects none).map .deleted id

def slotsAfter (stores : Stores) : Call → UUID → Slot
  | .store upload => storeSlots hexdigest stores.slots upload
  | .load _ _ => stores.slots
  | .delete assetId _ => Function.update stores.slots assetId .closed

/-- The same call on both stores. -/
def step (stores : Stores) (call : Call) : Stores :=
  ⟨(stores.locally hexdigest call).2, (stores.inCloud hexdigest call).2,
    stores.slotsAfter hexdigest call⟩

/-- Both stores return the same or raise exceptions of the same class. -/
def SameOutcome (stores : Stores) (call : Call) : Prop :=
  (stores.locally hexdigest call).1.classified = (stores.inCloud hexdigest call).1.classified

/-- A store of an upload that passes its checks, or a load from before the creation, where an
asset is stored and not deleted. -/
def Distinguishes (stores : Stores) : Call → Prop
  | .store upload => (∃ checked, upload.check hexdigest = .ok checked) ∧
      (stores.slots upload.assetId).isPresent = true
  | .load assetId now => ∃ held, stores.slots assetId = .present held ∧ now < held.now
  | .delete _ _ => False

/-- Both stores hold what was stored and not deleted. -/
def Agree (stores : Stores) : Prop :=
  Holds hexdigest stores.files stores.slots ∧ Cloud.Holds hexdigest stores.objects stores.slots

variable {hexdigest} {stores : Stores}

theorem agree_empty : Agree hexdigest empty := ⟨holds_empty hexdigest, Cloud.holds_empty hexdigest⟩

theorem Agree.store (h : Agree hexdigest stores) (upload : Upload)
    (hfree : (stores.slots upload.assetId).isPresent = false) :
    SameOutcome hexdigest stores (.store upload) ∧
      Agree hexdigest (stores.step hexdigest (.store upload)) := by
  obtain ⟨files', hlocal, hfiles⟩ := h.1.store upload
  obtain ⟨objects', hcloud, hobjects⟩ := h.2.store upload hfree
  unfold SameOutcome step locally inCloud
  dsimp only
  rw [hlocal, hcloud]
  exact ⟨rfl, hfiles, hobjects⟩

theorem Agree.store_refused (h : Agree hexdigest stores) {upload : Upload} {error : Exc}
    (hcheck : upload.check hexdigest = .error error) :
    SameOutcome hexdigest stores (.store upload) ∧
      Agree hexdigest (stores.step hexdigest (.store upload)) := by
  unfold SameOutcome step locally inCloud
  dsimp only
  rw [AssetStorage.store_of_check_error hcheck, Cloud.store_of_check_error hcheck]
  refine ⟨rfl, ?_⟩
  have hslots : stores.slotsAfter hexdigest (.store upload) = stores.slots := by
    rw [slotsAfter, storeSlots, hcheck]
  rw [hslots]
  exact h

/-- Only the local store takes an upload where one is held. -/
theorem Agree.store_present (h : Agree hexdigest stores) {upload : Upload}
    (hdistinguishes : Distinguishes hexdigest stores (.store upload)) :
    ¬SameOutcome hexdigest stores (.store upload) := by
  obtain ⟨⟨⟨type, stored⟩, hcheck⟩, hpresent⟩ := hdistinguishes
  cases hslot : stores.slots upload.assetId with
  | absent =>
      rw [hslot] at hpresent
      cases hpresent
  | closed =>
      rw [hslot] at hpresent
      cases hpresent
  | present held =>
      obtain ⟨files', hlocal, -⟩ := h.1.store upload
      obtain ⟨error, hcloud⟩ := h.2.store_present hslot hcheck
      have hresult : storeResult hexdigest stores.slots upload = .ok stored := by
        rw [storeResult, hcheck, ok_bind]
        dsimp only
        rw [hslot]
      intro hsame
      unfold SameOutcome locally inCloud at hsame
      dsimp only [Prod.map] at hsame
      rw [hlocal, hresult, hcloud] at hsame
      cases hsame

theorem Agree.load_iff (h : Agree hexdigest stores) (assetId : UUID) (now : Datetime) :
    SameOutcome hexdigest stores (.load assetId now) ↔
      ¬Distinguishes hexdigest stores (.load assetId now) := by
  have hheld := h.1.slot assetId
  unfold SameOutcome locally inCloud
  dsimp only [Prod.map]
  rw [h.1.load, h.2.load, loadResult, loadResult, Distinguishes]
  cases hslot : stores.slots assetId with
  | absent => simp
  | closed => simp
  | present held =>
      rw [hslot] at hheld
      obtain ⟨rfl, -, -, type, stored, hholding⟩ := hheld
      have hcreated : stored.createdAt = held.now := (checked_of_check hholding.check).createdAt
      dsimp only
      rw [hholding.check, ok_bind, ok_bind]
      dsimp only
      rw [loadedAt, loadedAt, hcreated]
      by_cases hlate : held.now ≤ now
      · rw [require_of _ hlate, require_of _ hlate, ok_bind]
        constructor
        · rintro - ⟨other, heq, hearly⟩
          cases heq
          exact absurd hlate (not_le.mpr hearly)
        · exact fun _ => rfl
      · rw [require, if_neg hlate, require, if_neg hlate]
        constructor
        · intro hsame
          cases hsame
        · exact fun hnot => absurd ⟨held, rfl, not_le.mp hlate⟩ hnot

theorem Agree.load (h : Agree hexdigest stores) (assetId : UUID) (now : Datetime) :
    Agree hexdigest (stores.step hexdigest (.load assetId now)) := by
  unfold step locally inCloud slotsAfter
  dsimp only
  rw [h.1.load, h.2.load]
  exact h

theorem Agree.delete (hinjective : Function.Injective (tombstoneDigest hexdigest))
    (h : Agree hexdigest stores) (assetId : UUID) (now : Datetime) :
    SameOutcome hexdigest stores (.delete assetId now) ∧
      Agree hexdigest (stores.step hexdigest (.delete assetId now)) := by
  obtain ⟨files', hlocal, hfiles⟩ := h.1.delete hinjective assetId now "deleted"
  obtain ⟨objects', hcloud, hobjects⟩ := h.2.delete assetId now
  unfold SameOutcome step locally inCloud
  dsimp only
  rw [hlocal, hcloud]
  exact ⟨rfl, hfiles, hobjects⟩

end Stores

end AssetStorage

end CultureShift
