/-
# Purging the local asset store

A purge closes what has expired, and takes away the tombstones that are a week
old. Every method of the store does to the directory what is done to a map with
expiry and closing.
-/

import CultureShift.AssetStores
import CultureShift.Sequential.Expiring
import CultureShift.Storage.Listing

namespace CultureShift

open Serialization Relational Storage Sequential

namespace AssetStorage

open CompositionStorage (FileContent utcZone)

open FileProgram

/-! ## purge_expired -/

/-- `*.meta.json` -/
def AssetPath.metadataOf? : AssetPath → Option UUID
  | .metadata assetId => some assetId
  | _ => none

/-- `tombstones/*.json` -/
def AssetPath.tombstoneOf? : AssetPath → Option Sha256
  | .tombstone digest => some digest
  | _ => none

def metadataInvalid : Exc := .assetStorageError "temporary asset metadata is invalid"

/-- The member of a file that is to be an object. -/
def readMember {α : Type} [Codec α] (file : FileContent) (name : String) : Except Exc α := do
  match ← orRaise file.json? .validationError with
  | .obj members => orRaise (Json.field members name) .validationError
  | _ => .error (.other "TypeError")

def HasExpired (asset : SourceAdAssetRef) (now : Datetime) : Prop :=
  ∃ expiresAt ∈ asset.expiresAt, expiresAt ≤ now

instance (asset : SourceAdAssetRef) (now : Datetime) : Decidable (HasExpired asset now) :=
  inferInstanceAs (Decidable (∃ _ ∈ _, _))

/-- The identifiers in the metadata of assets that have expired. -/
def expiredAssets (now : Datetime) : List UUID → StoreIO (List UUID)
  | [] => return []
  | named :: rest => do
      let file ← FileProgram.read .osError (.metadata named)
      let asset : SourceAdAssetRef ← FileProgram.ofExcept (readMember file "asset")
      let expired ← expiredAssets now rest
      return if HasExpired asset now then asset.assetId :: expired else expired

section

variable (hexdigest : List UInt8 → Sha256)

/-- Delete these assets, and count those that were there. -/
def deleteExpired (now : Datetime) : List UUID → StoreIO Nat
  | [] => return 0
  | assetId :: rest => do
      let existed ← delete hexdigest assetId now "expired"
      let removed ← deleteExpired now rest
      return existed.toNat + removed

/-- When a deletion took place. -/
def readDeletedAt (file : FileContent) : Except Exc Datetime := do
  let deletedAt ← readMember file "deleted_at"
  orRaise (Datetime.ofIsoformat? utcZone deletedAt) (.valueError "time must use UTC")

/-- Take a tombstone away if it is old enough. What cannot be read is left alone. -/
def dropTombstone (cutoff : Datetime) (digest : Sha256) : StoreIO Unit :=
  tryCatch
    (do
      let file ← FileProgram.read .osError (.tombstone digest)
      let deletedAt ← FileProgram.ofExcept (readDeletedAt file)
      if deletedAt ≤ cutoff then FileProgram.unlink .osError (.tombstone digest))
    fun
    | .osError | .validationError | .valueError _ => return ()
    | error => throw error

def dropTombstones (cutoff : Datetime) : List Sha256 → StoreIO Unit
  | [] => return ()
  | digest :: rest => do
      dropTombstone cutoff digest
      dropTombstones cutoff rest

/-- `TemporaryAssetStore.purge_expired` -/
def purgeExpired (now : Datetime) : StoreIO Nat := do
  let named ← FileProgram.list AssetPath.metadataOf?
  let expired ← tryCatch (expiredAssets now named) fun
    | .osError | .validationError | .valueError _ => throw metadataInvalid
    | error => throw error
  let removed ← deleteExpired hexdigest now expired
  let cutoff ← FileProgram.ofExcept (orRaise (now.daysBefore? 7) .overflowError)
  let tombstones ← FileProgram.list AssetPath.tombstoneOf?
  dropTombstones cutoff tombstones
  return removed

end

/-! ## The directory as a map -/

abbrev AssetCell := Cell LoadedAsset Datetime

/-- What is held is what the cell keeps. -/
inductive Matches (hexdigest : List UInt8 → Sha256) : Slot → AssetCell → Prop
  | absent : Matches hexdigest .absent .absent
  | closed (since : Datetime) : Matches hexdigest .closed (.closed since)
  | live {upload : Upload} {type : AssetType} {stored : StoredAsset} {expiresAt : Datetime}
      (hcheck : upload.check hexdigest = .ok (type, stored))
      (hexpires : stored.asset.expiresAt = some expiresAt) :
      Matches hexdigest (.present upload) (.live ⟨stored.asset, upload.data⟩ expiresAt)

/-- The directory keeps exactly this, and its tombstones say since when. -/
structure Keeps (hexdigest : List UInt8 → Sha256) (files : Files AssetPath FileContent)
    (slots : UUID → Slot) (cells : UUID → AssetCell) : Prop where
  holds : Holds hexdigest files slots
  cell : ∀ assetId, Matches hexdigest (slots assetId) (cells assetId)
  dated : ∀ digest content, files.get? (.tombstone digest) = some content →
    ∃ assetId since reason existed, digest = tombstoneDigest hexdigest assetId ∧
      cells assetId = .closed since ∧
      content = .text (Tombstone.payload ⟨since, reason, existed⟩)

variable {hexdigest : List UInt8 → Sha256} {files : Files AssetPath FileContent}
  {slots : UUID → Slot} {cells : UUID → AssetCell} {assetId : UUID} {now : Datetime}

theorem keeps_empty (hexdigest : List UInt8 → Sha256) :
    Keeps hexdigest ∅ (fun _ => .absent) fun _ => .absent where
  holds := holds_empty hexdigest
  cell _ := .absent
  dated digest content h := by
    rw [Files.get?_empty] at h
    cases h

theorem Matches.absent_iff {slot : Slot} {cell : AssetCell} (h : Matches hexdigest slot cell) :
    slot = .absent ↔ cell = .absent := by
  cases h <;> simp

theorem Matches.isLive {slot : Slot} {cell : AssetCell} (h : Matches hexdigest slot cell) :
    slot.isPresent = cell.isLive := by
  cases h <;> rfl

/-- What a store answers. -/
def storeAnswer (hexdigest : List UInt8 → Sha256) (cells : UUID → AssetCell) (upload : Upload) :
    Except Exc StoredAsset := do
  let (_, stored) ← upload.check hexdigest
  match cells upload.assetId with
  | .closed _ => .error .assetLifecycleClosedError
  | _ => .ok stored

/-- What a load answers. -/
def loadAnswer (cells : UUID → AssetCell) (assetId : UUID) (now : Datetime) :
    Except Exc LoadedAsset :=
  match (cells assetId).read now with
  | .missing => .error readFailed
  | .closed => .error .assetLifecycleClosedError
  | .value loaded => .ok loaded

/-- What a store changes. -/
def storeChanges (hexdigest : List UInt8 → Sha256) (upload : Upload) :
    List (Change UUID LoadedAsset Datetime) :=
  match upload.check hexdigest with
  | .error _ => []
  | .ok (_, stored) =>
      stored.asset.expiresAt.toList.map (.put upload.assetId ⟨stored.asset, upload.data⟩)

/-! ## store, load and delete -/

theorem Keeps.tombstones_same (h : Keeps hexdigest files slots cells)
    {files' : Files AssetPath FileContent} {cells' : UUID → AssetCell}
    (hsame : SameOff (· ∈ assetPaths assetId) files files')
    (hcells : ∀ other since, cells other = .closed since → cells' other = .closed since)
    (digest : Sha256) (content : FileContent)
    (hcontent : files'.get? (.tombstone digest) = some content) :
    ∃ assetId since reason existed, digest = tombstoneDigest hexdigest assetId ∧
      cells' assetId = .closed since ∧
      content = .text (Tombstone.payload ⟨since, reason, existed⟩) := by
  rw [hsame _ (by simp [assetPaths])] at hcontent
  obtain ⟨other, since, reason, existed, hdigest, hclosed, hpayload⟩ := h.dated _ _ hcontent
  exact ⟨other, since, reason, existed, hdigest, hcells other since hclosed, hpayload⟩

theorem Matches.storeAnswer {upload : Upload}
    (h : Matches hexdigest (slots upload.assetId) (cells upload.assetId)) :
    storeResult hexdigest slots upload = storeAnswer hexdigest cells upload := by
  unfold storeResult AssetStorage.storeAnswer
  cases upload.check hexdigest with
  | error error => rfl
  | ok checked =>
      rw [ok_bind, ok_bind]
      dsimp only
      revert h
      generalize slots upload.assetId = slot
      generalize cells upload.assetId = cell
      rintro (_ | ⟨since⟩ | ⟨hcheck, hexpires⟩)
      · rfl
      · rfl
      · rfl

/-- The slot after an upload that passes its checks. -/
def Slot.put (upload : Upload) : Slot → Slot
  | .closed => .closed
  | _ => .present upload

section Stored

variable {upload : Upload} {type : AssetType} {stored : StoredAsset} {expiresAt : Datetime}

theorem storeSlots_of_check (hcheck : upload.check hexdigest = .ok (type, stored)) :
    storeSlots hexdigest slots upload =
      Function.update slots upload.assetId ((slots upload.assetId).put upload) := by
  unfold storeSlots
  rw [hcheck]
  cases hslot : slots upload.assetId with
  | absent => rfl
  | present held => rfl
  | closed => exact (hslot ▸ Function.update_eq_self upload.assetId slots).symm

theorem storeChanges_of_check (hcheck : upload.check hexdigest = .ok (type, stored))
    (hexpires : stored.asset.expiresAt = some expiresAt) :
    storeChanges hexdigest upload =
      [.put upload.assetId ⟨stored.asset, upload.data⟩ expiresAt] := by
  unfold storeChanges
  rw [hcheck]
  dsimp only
  rw [hexpires]
  rfl

theorem storeChanges_of_error {error : Exc} (hcheck : upload.check hexdigest = .error error) :
    storeChanges hexdigest upload = [] := by
  unfold storeChanges
  rw [hcheck]

theorem Matches.put {slot : Slot} {cell : AssetCell} (h : Matches hexdigest slot cell)
    (hcheck : upload.check hexdigest = .ok (type, stored))
    (hexpires : stored.asset.expiresAt = some expiresAt) :
    Matches hexdigest (slot.put upload) (cell.put ⟨stored.asset, upload.data⟩ expiresAt) := by
  cases h with
  | absent => exact .live hcheck hexpires
  | closed since => exact .closed since
  | live => exact .live hcheck hexpires

theorem Matches.update (h : ∀ other, Matches hexdigest (slots other) (cells other)) {slot : Slot}
    {cell : AssetCell} (hmatches : Matches hexdigest slot cell) (other : UUID) :
    Matches hexdigest (Function.update slots assetId slot other)
      (Function.update cells assetId cell other) := by
  by_cases heq : other = assetId
  · rw [heq, Function.update_self, Function.update_self]
    exact hmatches
  · rw [Function.update_of_ne heq, Function.update_of_ne heq]
    exact h other

end Stored

theorem Keeps.store (h : Keeps hexdigest files slots cells) (upload : Upload) :
    ∃ files', FileProgram.run (store hexdigest upload) files none =
        (storeAnswer hexdigest cells upload, files') ∧
      Keeps hexdigest files' (storeSlots hexdigest slots upload)
        (after change cells (storeChanges hexdigest upload)) := by
  obtain ⟨files', hrun, hholds⟩ := h.holds.store upload
  have hsame := (touches_store upload : Touches _ (AssetStorage.store hexdigest upload)).run files
    none
  rw [hrun] at hsame
  have hown := h.cell upload.assetId
  refine ⟨files', hown.storeAnswer ▸ hrun, hholds, ?_, ?_⟩
  · cases hcheck : upload.check hexdigest with
    | error error =>
        rw [storeSlots, hcheck, storeChanges_of_error hcheck]
        exact h.cell
    | ok checked =>
        obtain ⟨expiresAt, hexpires, -⟩ := (checked_of_check hcheck).expiresAt
        rw [storeSlots_of_check hcheck, storeChanges_of_check hcheck hexpires]
        exact Matches.update h.cell (hown.put hcheck hexpires)
  · apply h.tombstones_same hsame
    intro other since hclosed
    cases hcheck : upload.check hexdigest with
    | error error =>
        rw [storeChanges_of_error hcheck]
        exact hclosed
    | ok checked =>
        obtain ⟨expiresAt, hexpires, -⟩ := (checked_of_check hcheck).expiresAt
        rw [storeChanges_of_check hcheck hexpires]
        exact (change_of_closed hclosed id :
          change cells (.put upload.assetId ⟨_, upload.data⟩ expiresAt) other = _)

/-- No asset was created after this time. -/
def CreatedBy (slots : UUID → Slot) (now : Datetime) : Prop :=
  ∀ assetId upload, slots assetId = .present upload → upload.now ≤ now

theorem Keeps.load (h : Keeps hexdigest files slots cells) (hcreated : CreatedBy slots now)
    (assetId : UUID) :
    FileProgram.run (load hexdigest assetId now) files none =
      (loadAnswer cells assetId now, files) := by
  rw [h.holds.load, loadResult, loadAnswer]
  have hown := h.cell assetId
  cases hslot : slots assetId with
  | absent => rw [hown.absent_iff.mp hslot]; rfl
  | closed =>
      rw [hslot] at hown
      cases hcell : cells assetId with
      | closed since => rfl
      | _ => rw [hcell] at hown; cases hown
  | present upload =>
      have hbefore := hcreated assetId upload hslot
      rw [hslot] at hown
      generalize cells assetId = cell at hown ⊢
      cases hown with
      | @live _ type stored expiresAt hcheck hexpires =>
          have hcreatedAt : stored.createdAt ≤ now := (checked_of_check hcheck).createdAt ▸ hbefore
          dsimp only
          rw [hcheck, ok_bind]
          dsimp only
          rw [loadedAt, require_of _ hcreatedAt, ok_bind, requireFresh, hexpires]
          by_cases hfresh : now < expiresAt
          · dsimp only
            rw [require_of _ hfresh, ok_bind, Cell.read, if_pos hfresh]
            rfl
          · dsimp only
            rw [require_eq_error.mpr ⟨hfresh, rfl⟩, error_bind, Cell.read, if_neg hfresh]

/-- A deletion closes the identifier; its tombstone says when. -/
theorem Keeps.delete (hinjective : Function.Injective (tombstoneDigest hexdigest))
    (h : Keeps hexdigest files slots cells) (assetId : UUID) (now : Datetime) (reason : String) :
    ∃ files', FileProgram.run (delete hexdigest assetId now reason) files none =
        (.ok (cells assetId).isLive, files') ∧
      Keeps hexdigest files' (Function.update slots assetId .closed)
        (change cells (.close assetId now)) := by
  obtain ⟨files', hrun, hholds⟩ := h.holds.delete hinjective assetId now reason
  have hown := h.cell assetId
  rw [hown.isLive] at hrun
  have hdelete : Ensures (AssetStorage.delete hexdigest assetId now reason) ⟨files, none⟩ _ _ :=
    ensures_delete (h.holds.tombstonePart _)
  rcases hdelete.run with ⟨existed, disk, hdone, -, hdeleted⟩ | ⟨_, _, -, hfalse⟩
  · rw [hdone] at hrun
    obtain ⟨-, rfl⟩ := Prod.mk.inj hrun
    refine ⟨disk.files, hrun ▸ hdone, hholds, ?_, fun digest content hcontent => ?_⟩
    · apply Matches.update h.cell
      cases cells assetId with
      | absent => exact .closed now
      | live value expiresAt => exact .closed now
      | closed since => exact .closed since
    · by_cases htombstone : digest = tombstoneDigest hexdigest assetId
      · subst htombstone
        rw [hdeleted.tombstone] at hcontent
        cases hstands : files.get? (.tombstone (tombstoneDigest hexdigest assetId)) with
        | none =>
            rw [hstands, Option.none_or] at hcontent
            obtain rfl := Option.some.inj hcontent
            have hopen : (cells assetId).close now = .closed now := by
              have hslot := h.holds.slot assetId
              cases hcell : cells assetId with
              | absent => rfl
              | live value expiresAt => rfl
              | closed since =>
                  rw [hcell] at hown
                  generalize slots assetId = slot at hown hslot
                  cases hown
                  exact absurd hstands hslot.1
            refine ⟨assetId, now, reason, existed, rfl, ?_, rfl⟩
            rw [change, Function.update_self, hopen]
        | some standing =>
            rw [hstands, Option.some_or] at hcontent
            obtain rfl := Option.some.inj hcontent
            obtain ⟨other, since, reason', existed', hdigest, hclosed, hpayload⟩ :=
              h.dated _ _ hstands
            exact ⟨other, since, reason', existed', hdigest, change_of_closed hclosed id, hpayload⟩
      · have hsame := hdeleted.other (.tombstone digest) (by
          rintro (hmem | heq)
          · simp [assetPaths] at hmem
          · exact htombstone (AssetPath.tombstone.inj heq))
        rw [hsame] at hcontent
        obtain ⟨other, since, reason', existed', hdigest, hclosed, hpayload⟩ :=
          h.dated _ _ hcontent
        exact ⟨other, since, reason', existed', hdigest, change_of_closed hclosed id, hpayload⟩
  · exact hfalse.elim

/-! ## What a purge reads -/

/-- There is metadata of exactly what is present. -/
theorem Holds.metadata_iff (h : Holds hexdigest files slots) (assetId : UUID) :
    files.get? (.metadata assetId) ≠ none ↔ (slots assetId).isPresent = true := by
  have hslot := h.slot assetId
  cases hheld : slots assetId with
  | absent =>
      rw [hheld] at hslot
      simp [hslot.2 (.metadata assetId) (by simp [assetPaths]), Slot.isPresent]
  | closed =>
      rw [hheld] at hslot
      simp [hslot.2 (.metadata assetId) (by simp [assetPaths]), Slot.isPresent]
  | present upload =>
      rw [hheld] at hslot
      obtain ⟨rfl, -, -, type, stored, hholding⟩ := hslot
      simp [hholding.metadata, Slot.isPresent]

theorem Keeps.listed (h : Keeps hexdigest files slots cells) (assetId : UUID) :
    assetId ∈ files.keys.filterMap AssetPath.metadataOf? ↔ (cells assetId).isLive = true := by
  rw [mem_listed, ← (h.cell assetId).isLive, ← h.holds.metadata_iff]
  constructor
  · rintro ⟨path, hpath, hnamed⟩
    cases path with
    | metadata other =>
        obtain rfl := Option.some.inj hnamed
        exact hpath
    | _ => cases hnamed
  · exact fun hpath => ⟨.metadata assetId, hpath, rfl⟩

theorem readMember_metadata (stored : StoredAsset) :
    (readMember (.text (metadata stored)) "asset" : Except Exc SourceAdAssetRef) =
      .ok stored.asset := by
  have hfield : (Json.field [("asset", encode stored.asset),
      ("created_at", .str (stored.createdAt.isoformat utcZone)),
      ("size_bytes", encode stored.sizeBytes)] "asset" : Option SourceAdAssetRef) =
        some stored.asset := by
    simp
  unfold readMember
  rw [show (FileContent.text (metadata stored)).json? = some (metadata stored) from rfl,
    orRaise_some, ok_bind]
  exact orRaise_eq_ok.mpr hfield

theorem Matches.expired_iff {slot : Slot} {value : LoadedAsset} {expiresAt : Datetime}
    (h : Matches hexdigest slot (.live value expiresAt)) :
    HasExpired value.asset now ↔ (Cell.live value expiresAt).Expired now := by
  cases h with
  | live hcheck hexpires =>
      rw [HasExpired, hexpires, Cell.expired_live]
      simp

/-- The metadata names what has expired. -/
theorem Keeps.yields_expiredAssets (h : Keeps hexdigest files slots cells) {named : List UUID}
    (hnamed : ∀ assetId ∈ named, (cells assetId).isLive = true) :
    Yields (expiredAssets now named) files
      (.ok (named.filter fun assetId => (cells assetId).Expired now)) := by
  induction named with
  | nil => exact rfl
  | cons assetId rest ih =>
      have hlive := hnamed assetId List.mem_cons_self
      have hown := h.cell assetId
      have hslot := h.holds.slot assetId
      have hpresent := hown.isLive.trans hlive
      cases hheld : slots assetId with
      | absent => rw [hheld] at hpresent; cases hpresent
      | closed => rw [hheld] at hpresent; cases hpresent
      | present upload =>
          rw [hheld] at hown hslot
          obtain ⟨rfl, -, -, type, stored, hholding⟩ := hslot
          cases hcell : cells upload.assetId with
          | absent => rw [hcell] at hlive; cases hlive
          | closed since => rw [hcell] at hlive; cases hlive
          | live value expiresAt =>
              rw [hcell] at hown
              have hasset : value.asset = stored.asset := by
                cases hown with
                | live hcheck hexpires =>
                    rw [hholding.check] at hcheck
                    cases hcheck
                    rfl
              apply yields_bind_ok (yields_read hholding.metadata)
              rw [readMember_metadata]
              apply yields_bind_ok (yields_ofExcept (.ok stored.asset) files)
              apply yields_bind_ok
                (ih fun other hother => hnamed other (List.mem_cons_of_mem _ hother))
              have hexpired : HasExpired stored.asset now ↔ (cells upload.assetId).Expired now := by
                rw [← hasset, hcell]
                exact hown.expired_iff
              rw [List.filter_cons, (checked_of_check hholding.check).assetId]
              by_cases hdone : HasExpired stored.asset now
              · rw [if_pos hdone, if_pos (decide_eq_true (hexpired.mp hdone))]
                exact rfl
              · rw [if_neg hdone, if_neg (by simpa using fun hold => hdone (hexpired.mpr hold))]
                exact rfl

/-! ## What a purge closes -/

theorem calm_delete (assetId : UUID) (now : Datetime) (reason : String) :
    Calm (delete hexdigest assetId now reason) := by
  apply Calm.bind (calm_glob _)
  intro activePaths
  apply Calm.bind
  · apply Calm.bind (calm_isFile _)
    intro closed
    cases closed with
    | true => exact calm_pure _
    | false =>
        apply Calm.bind calm_operation
        intro _
        apply Calm.tryCatch
        · exact Calm.bind calm_operation fun _ => calm_operation
        · intro error
          cases error with
          | osError => exact Calm.bind calm_operation fun _ => calm_throw _
          | _ => exact calm_throw _
  · intro _
    refine Calm.bind ((calm_unlinkAll _).tryCatch fun error => ?_) fun _ => calm_pure _
    cases error with
    | _ => exact calm_throw _

/-- Close these cells. -/
def closeAll (cells : UUID → AssetCell) (now : Datetime) (assetIds : List UUID) :
    UUID → AssetCell :=
  after change cells (assetIds.map fun assetId => .close assetId now)

theorem closeAll_cons (assetId : UUID) (assetIds : List UUID) :
    closeAll cells now (assetId :: assetIds) =
      closeAll (change cells (.close assetId now)) now assetIds := rfl

theorem closeAll_apply (assetIds : List UUID) (assetId : UUID) :
    closeAll cells now assetIds assetId =
      if assetId ∈ assetIds then (cells assetId).close now else cells assetId := by
  induction assetIds generalizing cells with
  | nil => rfl
  | cons first assetIds ih =>
      rw [closeAll_cons, ih, change]
      by_cases heq : assetId = first
      · subst heq
        rw [Function.update_self, if_pos List.mem_cons_self]
        cases cells assetId with
        | absent => exact ite_self _
        | live value expiresAt => exact ite_self _
        | closed since => exact ite_self _
      · rw [Function.update_of_ne heq]
        simp [heq]

variable (now) in
theorem Keeps.deleteExpired (hinjective : Function.Injective (tombstoneDigest hexdigest))
    {expired : List UUID} (hnodup : expired.Nodup) (h : Keeps hexdigest files slots cells)
    (hexpired : ∀ assetId ∈ expired, (cells assetId).isLive = true) :
    ∃ files' slots', FileProgram.run (deleteExpired hexdigest now expired) files none =
        (.ok expired.length, files') ∧
      Keeps hexdigest files' slots' (closeAll cells now expired) ∧
      ∀ later, CreatedBy slots later → CreatedBy slots' later := by
  induction expired generalizing files slots cells with
  | nil => exact ⟨files, slots, rfl, h, fun _ => id⟩
  | cons assetId rest ih =>
      obtain ⟨hfresh, hrest⟩ := List.nodup_cons.mp hnodup
      obtain ⟨files₁, hdelete, hkeeps⟩ := h.delete hinjective assetId now "expired"
      rw [hexpired assetId List.mem_cons_self] at hdelete
      obtain ⟨files', slots', hrun, hkeeps', hcreated⟩ := ih hrest hkeeps fun other hother => by
        have hne : other ≠ assetId := by
          rintro rfl
          exact hfresh hother
        rw [change, Function.update_of_ne hne]
        exact hexpired other (List.mem_cons_of_mem _ hother)
      refine ⟨files', slots', ?_, hkeeps', fun later hbefore => hcreated later ?_⟩
      · refine ((calm_delete assetId now "expired").run_bind hdelete).trans ?_
        refine (run_bind_pure (fun removed => true.toNat + removed) files₁ none).trans ?_
        rw [hrun, List.length_cons, Nat.add_comm]
        rfl
      · intro other upload hother
        by_cases heq : other = assetId
        · rw [heq, Function.update_self] at hother
          cases hother
        · rw [Function.update_of_ne heq] at hother
          exact hbefore other upload hother

theorem calm_deleteExpired (expired : List UUID) :
    Calm (deleteExpired hexdigest now expired) := by
  induction expired with
  | nil => exact calm_pure _
  | cons assetId rest ih =>
      exact Calm.bind (calm_delete _ _ _) fun _ => Calm.bind ih fun _ => calm_pure _

/-! ## What a purge takes away -/

theorem readDeletedAt_payload (tombstone : Tombstone) :
    readDeletedAt (.text tombstone.payload) = .ok tombstone.deletedAt := by
  have hfield : (Json.field [("deleted_at", .str (tombstone.deletedAt.isoformat utcZone)),
      ("reason", .str tombstone.reason),
      ("result", .str (if tombstone.existed then "removed" else "already_absent"))]
        "deleted_at" : Option String) = some (tombstone.deletedAt.isoformat utcZone) := rfl
  have hmember : (readMember (.text tombstone.payload) "deleted_at" : Except Exc String) =
      .ok (tombstone.deletedAt.isoformat utcZone) := by
    unfold readMember
    rw [show (FileContent.text tombstone.payload).json? = some tombstone.payload from rfl,
      orRaise_some, ok_bind]
    exact orRaise_eq_ok.mpr hfield
  rw [readDeletedAt, hmember, ok_bind,
    tombstone.deletedAt.ofIsoformat?_isoformat (by decide : utcZone.head? ≠ some '.')]
  rfl

variable {cutoff : Datetime}

variable (cutoff) in
/-- A tombstone of this store is taken away exactly when it is old enough. -/
theorem run_dropTombstone {digest : Sha256} {tombstone : Tombstone}
    (h : files.get? (.tombstone digest) = some (.text tombstone.payload)) :
    FileProgram.run (dropTombstone cutoff digest) files none =
      (.ok (), if tombstone.deletedAt ≤ cutoff then files.remove (.tombstone digest)
        else files) := by
  have hdrop : Ensures (dropTombstone cutoff digest) ⟨files, none⟩
      (fun _ disk => disk.files = if tombstone.deletedAt ≤ cutoff then
        files.remove (.tombstone digest) else files) fun _ _ => False := by
    apply ensures_tryCatch
    apply ensures_bind
    apply (yields_read h).ensures
    rw [readDeletedAt_payload]
    apply ensures_bind
    apply (yields_ofExcept (.ok tombstone.deletedAt) files).ensures
    split_ifs
    · exact ensures_unlink rfl
    · exact ensures_pure rfl
  rcases hdrop.run with ⟨_, disk, hrun, hfiles⟩ | ⟨_, _, -, hfalse⟩
  · rw [hrun, hfiles]
  · exact hfalse.elim

theorem calm_dropTombstone (digest : Sha256) : Calm (dropTombstone cutoff digest) := by
  apply Calm.tryCatch
  · apply Calm.bind calm_operation
    intro file
    apply Calm.bind (calm_ofExcept _)
    intro deletedAt
    split_ifs
    · exact calm_operation
    · exact calm_pure _
  · intro error
    cases error with
    | osError => exact calm_pure _
    | validationError => exact calm_pure _
    | valueError message => exact calm_pure _
    | _ => exact calm_throw _

/-- Without its tombstone, a closed identifier is free again. -/
theorem Keeps.remove (hinjective : Function.Injective (tombstoneDigest hexdigest))
    (h : Keeps hexdigest files slots cells) {since : Datetime}
    (hclosed : cells assetId = .closed since) :
    Keeps hexdigest (files.remove (.tombstone (tombstoneDigest hexdigest assetId)))
      (Function.update slots assetId .absent) (Function.update cells assetId .absent) where
  holds :=
    { slot := by
        intro other
        by_cases heq : other = assetId
        · subst heq
          have hslot := h.holds.slot other
          have hown := h.cell other
          rw [hclosed] at hown
          rw [Function.update_self]
          generalize slots other = slot at hown hslot
          cases hown
          refine ⟨by simp, fun path hpath => ?_⟩
          rw [Files.get?_remove, if_neg (by rintro rfl; simp [assetPaths] at hpath)]
          exact hslot.2 path hpath
        · rw [Function.update_of_ne heq]
          apply (h.holds.slot other).congr
          · have hdigest : tombstoneDigest hexdigest other ≠ tombstoneDigest hexdigest assetId :=
              fun hsame => heq (hinjective hsame)
            simp [hdigest]
          · intro path hpath
            rw [Files.get?_remove, if_neg]
            rintro rfl
            simp [assetPaths] at hpath
      tombstonePart := by
        intro digest
        simpa using h.holds.tombstonePart digest }
  cell := Matches.update h.cell .absent
  dated := by
    intro digest content hcontent
    have hne : digest ≠ tombstoneDigest hexdigest assetId := by
      rintro rfl
      simp at hcontent
    rw [Files.get?_remove, if_neg (by simpa using hne)] at hcontent
    obtain ⟨other, since', reason, existed, rfl, hother, hpayload⟩ := h.dated _ _ hcontent
    refine ⟨other, since', reason, existed, rfl, ?_, hpayload⟩
    rw [Function.update_of_ne fun heq => hne (congrArg (tombstoneDigest hexdigest) heq)]
    exact hother

/-- The cells without the marks under these tombstones that are old enough. -/
def reopenAll (hexdigest : List UInt8 → Sha256) (cells : UUID → AssetCell) (cutoff : Datetime)
    (digests : List Sha256) (assetId : UUID) : AssetCell :=
  if tombstoneDigest hexdigest assetId ∈ digests then (cells assetId).reopen cutoff
  else cells assetId

variable (cutoff) in
theorem Keeps.dropTombstones (hinjective : Function.Injective (tombstoneDigest hexdigest))
    {digests : List Sha256} (hnodup : digests.Nodup) (h : Keeps hexdigest files slots cells)
    (hstand : ∀ digest ∈ digests, files.get? (.tombstone digest) ≠ none) :
    ∃ files' slots', FileProgram.run (dropTombstones cutoff digests) files none =
        (.ok (), files') ∧
      Keeps hexdigest files' slots' (reopenAll hexdigest cells cutoff digests) ∧
      ∀ later, CreatedBy slots later → CreatedBy slots' later := by
  induction digests generalizing files slots cells with
  | nil => exact ⟨files, slots, rfl, h, fun _ => id⟩
  | cons digest rest ih =>
      obtain ⟨hfresh, hrest⟩ := List.nodup_cons.mp hnodup
      obtain ⟨content, hcontent⟩ :=
        Option.ne_none_iff_exists'.mp (hstand digest List.mem_cons_self)
      obtain ⟨assetId, since, reason, existed, rfl, hclosed, rfl⟩ := h.dated _ _ hcontent
      have hdrop := run_dropTombstone cutoff hcontent
      by_cases hold : since ≤ cutoff
      · rw [if_pos hold] at hdrop
        obtain ⟨files', slots', hrun, hkeeps, hcreated⟩ :=
          ih hrest (h.remove hinjective hclosed) fun other hother => by
            have hne : other ≠ tombstoneDigest hexdigest assetId := by
              rintro rfl
              exact hfresh hother
            rw [Files.get?_remove, if_neg (by simpa using hne)]
            exact hstand other (List.mem_cons_of_mem _ hother)
        refine ⟨files', slots', ?_, ?_, fun later hbefore => hcreated later ?_⟩
        · exact ((calm_dropTombstone _).run_bind hdrop).trans hrun
        · convert hkeeps using 1
          funext other
          unfold reopenAll
          by_cases heq : other = assetId
          · subst heq
            rw [if_pos List.mem_cons_self, if_neg hfresh, Function.update_self, hclosed,
              Cell.reopen_closed, if_pos hold]
          · have hne : tombstoneDigest hexdigest other ≠ tombstoneDigest hexdigest assetId :=
              fun hsame => heq (hinjective hsame)
            rw [Function.update_of_ne heq]
            simp [hne]
        · intro other upload hother
          by_cases heq : other = assetId
          · rw [heq, Function.update_self] at hother
            cases hother
          · rw [Function.update_of_ne heq] at hother
            exact hbefore other upload hother
      · rw [if_neg hold] at hdrop
        obtain ⟨files', slots', hrun, hkeeps, hcreated⟩ :=
          ih hrest h fun other hother => hstand other (List.mem_cons_of_mem _ hother)
        refine ⟨files', slots', ?_, ?_, hcreated⟩
        · exact ((calm_dropTombstone _).run_bind hdrop).trans hrun
        · convert hkeeps using 1
          funext other
          unfold reopenAll
          by_cases heq : other = assetId
          · subst heq
            rw [if_pos List.mem_cons_self, if_neg hfresh, hclosed, Cell.reopen_closed, if_neg hold]
          · have hne : tombstoneDigest hexdigest other ≠ tombstoneDigest hexdigest assetId :=
              fun hsame => heq (hinjective hsame)
            simp [hne]

/-- A purge finds every tombstone. -/
theorem Keeps.reopenAll_listed (h : Keeps hexdigest files slots cells) (assetId : UUID) :
    reopenAll hexdigest cells cutoff (files.keys.filterMap AssetPath.tombstoneOf?) assetId =
      (cells assetId).reopen cutoff := by
  unfold reopenAll
  split_ifs with hlisted
  · rfl
  · cases hcell : cells assetId with
    | absent => rfl
    | live value expiresAt => rfl
    | closed since =>
        have hslot := h.holds.slot assetId
        have hown := h.cell assetId
        rw [hcell] at hown
        generalize slots assetId = slot at hown hslot
        cases hown
        exact (hlisted (mem_listed.mpr ⟨_, hslot.1, rfl⟩)).elim

/-! ## A purge -/

/-- A purge closes what has expired and counts it; then it takes away the tombstones that are
a week old. -/
theorem Keeps.purge (hinjective : Function.Injective (tombstoneDigest hexdigest))
    (h : Keeps hexdigest files slots cells) (hcutoff : now.daysBefore? 7 = some cutoff) :
    ∃ files' slots', FileProgram.run (purgeExpired hexdigest now) files none =
        (.ok {assetId | (cells assetId).Expired now}.ncard, files') ∧
      Keeps hexdigest files' slots' (change cells (.purge now cutoff)) ∧
      ∀ later, CreatedBy slots later → CreatedBy slots' later := by
  let named := files.keys.filterMap AssetPath.metadataOf?
  let expired := named.filter fun assetId => (cells assetId).Expired now
  have hlive : ∀ assetId ∈ named, (cells assetId).isLive = true := fun assetId =>
    (h.listed assetId).mp
  have hnodup : expired.Nodup := by
    apply List.Nodup.filter
    apply nodup_listed
    intro path path' name hpath hpath'
    cases path <;> cases path' <;> simp_all [AssetPath.metadataOf?]
  have hmem : ∀ assetId, assetId ∈ expired ↔ (cells assetId).Expired now := by
    intro assetId
    rw [List.mem_filter, decide_eq_true_eq, h.listed]
    constructor
    · exact And.right
    · intro hexpired
      refine ⟨?_, hexpired⟩
      cases hcell : cells assetId with
      | live value expiresAt => rfl
      | absent => rw [hcell] at hexpired; exact hexpired.elim
      | closed since => rw [hcell] at hexpired; exact hexpired.elim
  have hcount : {assetId | (cells assetId).Expired now}.ncard = expired.length := by
    rw [← List.toFinset_card_of_nodup hnodup, ← Set.ncard_coe_finset]
    congr 1
    ext assetId
    simp [hmem]
  obtain ⟨files₁, slots₁, hdeleted, hkeeps₁, hcreated₁⟩ :=
    h.deleteExpired now hinjective hnodup fun assetId hassetId =>
      hlive assetId (List.mem_of_mem_filter hassetId)
  have hstand : ∀ digest ∈ files₁.keys.filterMap AssetPath.tombstoneOf?,
      files₁.get? (.tombstone digest) ≠ none := by
    intro digest hdigest
    obtain ⟨path, hpath, hnamed⟩ := mem_listed.mp hdigest
    cases path with
    | tombstone other =>
        obtain rfl := Option.some.inj hnamed
        exact hpath
    | _ => cases hnamed
  have hdigests : (files₁.keys.filterMap AssetPath.tombstoneOf?).Nodup := by
    apply nodup_listed
    intro path path' name hpath hpath'
    cases path <;> cases path' <;> simp_all [AssetPath.tombstoneOf?]
  obtain ⟨files', slots', hdropped, hkeeps', hcreated'⟩ :=
    hkeeps₁.dropTombstones cutoff hinjective hdigests hstand
  refine ⟨files', slots', ?_, ?_, fun later hbefore => hcreated' later (hcreated₁ later hbefore)⟩
  · refine (yields_list _ files).run_bind.trans ?_
    refine Yields.run_bind (yields_tryCatch_ok (h.yields_expiredAssets hlive)) |>.trans ?_
    refine ((calm_deleteExpired expired).run_bind hdeleted).trans ?_
    rw [hcutoff]
    refine (yields_ofExcept (.ok cutoff) files₁).run_bind.trans ?_
    refine (yields_list _ files₁).run_bind.trans ?_
    refine (run_bind_pure (fun _ => expired.length) files₁ none).trans ?_
    rw [hdropped, hcount]
    rfl
  · convert hkeeps' using 1
    funext assetId
    change ((cells assetId).expire now).reopen cutoff = _
    rw [hkeeps₁.reopenAll_listed, closeAll_apply, Cell.expire]
    simp only [hmem]

theorem yields_dropTombstones {digests : List Sha256} (h : Keeps hexdigest files slots cells)
    (hyoung : ∀ assetId since, cells assetId = .closed since → cutoff < since)
    (hstand : ∀ digest ∈ digests, files.get? (.tombstone digest) ≠ none) :
    Yields (dropTombstones cutoff digests) files (.ok ()) := by
  induction digests with
  | nil => exact rfl
  | cons digest rest ih =>
      obtain ⟨content, hcontent⟩ :=
        Option.ne_none_iff_exists'.mp (hstand digest List.mem_cons_self)
      obtain ⟨assetId, since, reason, existed, rfl, hclosed, rfl⟩ := h.dated _ _ hcontent
      have hkept : Yields (dropTombstone cutoff (tombstoneDigest hexdigest assetId)) files
          (.ok ()) := by
        apply yields_tryCatch_ok
        apply yields_bind_ok (yields_read hcontent)
        rw [readDeletedAt_payload]
        apply yields_bind_ok (yields_ofExcept (.ok since) files)
        rw [if_neg (not_le.mpr (hyoung assetId since hclosed))]
        exact rfl
      exact yields_bind_ok hkept
        (ih fun other hother => hstand other (List.mem_cons_of_mem _ hother))

/-- Where nothing has expired a purge only looks at the tombstones. -/
theorem Keeps.yields_purgeExpired (h : Keeps hexdigest files slots cells)
    (hfresh : ∀ assetId, ¬(cells assetId).Expired now) {outcome : Except Exc Nat}
    (hrest : Yields (do
      let cutoff ← FileProgram.ofExcept (orRaise (now.daysBefore? 7) .overflowError)
      let tombstones ← FileProgram.list AssetPath.tombstoneOf?
      AssetStorage.dropTombstones cutoff tombstones
      return 0) files outcome) : Yields (purgeExpired hexdigest now) files outcome := by
  have hexpired : (files.keys.filterMap AssetPath.metadataOf?).filter
      (fun assetId => (cells assetId).Expired now) = [] := by
    apply List.filter_eq_nil_iff.mpr
    intro assetId _
    simpa using hfresh assetId
  apply yields_bind_ok (yields_list _ files)
  apply yields_bind_ok (yields_tryCatch_ok (h.yields_expiredAssets fun assetId =>
    (h.listed assetId).mp))
  rw [hexpired]
  exact yields_bind_ok
    (rfl : Yields (AssetStorage.deleteExpired hexdigest now []) files (.ok 0)) hrest

/-- A purge that finds nothing to do changes no file. -/
theorem Keeps.purge_idle (h : Keeps hexdigest files slots cells)
    (hcutoff : now.daysBefore? 7 = some cutoff)
    (hfresh : ∀ assetId, ¬(cells assetId).Expired now)
    (hyoung : ∀ assetId since, cells assetId = .closed since → cutoff < since) :
    Yields (purgeExpired hexdigest now) files (.ok 0) := by
  apply h.yields_purgeExpired hfresh
  rw [hcutoff]
  apply yields_bind_ok (yields_ofExcept (.ok cutoff) files)
  apply yields_bind_ok (yields_list _ files)
  refine yields_bind_ok (yields_dropTombstones h hyoung fun digest hdigest => ?_) rfl
  obtain ⟨path, hpath, hnamed⟩ := mem_listed.mp hdigest
  cases path with
  | tombstone other =>
      obtain rfl := Option.some.inj hnamed
      exact hpath
  | _ => cases hnamed

end AssetStorage

end CultureShift
