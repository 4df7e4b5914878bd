/-
# The cloud asset store

The same assets as objects under their keys. Unlike the local store, this one
never overwrites: a store of an asset that is already there fails, and then it
cleans up by key, whoever created the objects.
-/

import CultureShift.AssetStorage

namespace CultureShift

open Serialization Relational Storage

namespace AssetStorage

open CompositionStorage (FileContent utcZone maxMetadata)

inductive AssetKey
  | image (assetId : UUID) (type : AssetType)
  | metadata (assetId : UUID)
  | tombstone (assetId : UUID)
deriving DecidableEq

abbrev CloudIO := FileProgram AssetKey FileContent Exc

namespace Cloud

def get (key : AssetKey) (maxBytes : Nat) : CloudIO FileContent :=
  FileProgram.get .objectStorageError .objectNotFoundError FileContent.size key maxBytes

def put (key : AssetKey) (content : FileContent) (createOnly : Bool) : CloudIO Unit :=
  FileProgram.put .objectStorageError .fileExistsError key content createOnly

def requireOpen (assetId : UUID) : CloudIO Unit :=
  tryCatch
    (do
      let _ ← get (.tombstone assetId) maxMetadata
      throw .assetLifecycleClosedError)
    fun
    | .objectNotFoundError => pure ()
    | error => throw error

def place (type : AssetType) (stored : StoredAsset) (data : List UInt8) : CloudIO Unit := do
  put (.image stored.asset.assetId type) (.bytes data) true
  put (.metadata stored.asset.assetId) (.text (metadata stored)) true

/-- The objects that a failed store removes. -/
def keys (assetId : UUID) (type : AssetType) : List AssetKey :=
  [.image assetId type, .metadata assetId]

/-- Remove what a failed store may have written. -/
def abandon (assetId : UUID) (type : AssetType) : Exc → CloudIO Unit
  | .objectStorageError | .objectNotFoundError | .fileExistsError => do
      let _ ← FileProgram.deleteObjects .objectStorageError (keys assetId type)
      throw writeFailed
  | error => throw error

variable (hexdigest : List UInt8 → Sha256)

/-- `CloudAssetStore.store` -/
def store (upload : Upload) : CloudIO StoredAsset := do
  let (type, stored) ← FileProgram.ofExcept (upload.check hexdigest)
  requireOpen upload.assetId
  tryCatch (place type stored upload.data) (abandon upload.assetId type)
  return stored

/-- The checks of metadata, with the expiry that an asset must have. -/
def requireFresh (assetId : UUID) (now : Datetime) (stored : StoredAsset) : Except Exc Unit := do
  require (stored.asset.assetId = assetId ∧ stored.createdAt ≤ now) .assetLifecycleClosedError
  let expiresAt ← orRaise stored.asset.expiresAt (.other "TypeError")
  require (now < expiresAt) .assetLifecycleClosedError

/-- The metadata and the content of an asset. -/
def readAsset (assetId : UUID) (now : Datetime) : CloudIO (StoredAsset × FileContent) := do
  let object ← get (.metadata assetId) maxMetadata
  let json ← FileProgram.ofExcept (orRaise object.json? .validationError)
  let stored ← FileProgram.ofExcept (orRaise (readMetadata json) .validationError)
  FileProgram.ofExcept (requireFresh assetId now stored)
  let type : AssetType ← FileProgram.ofExcept
    (orRaise (StrEnum.ofValue? stored.asset.mediaType.text) (.other "KeyError"))
  let image ← get (.image assetId type) maxAssetBytes
  return (stored, image)

/-- `CloudAssetStore.load` -/
def load (assetId : UUID) (now : Datetime) : CloudIO LoadedAsset := do
  requireOpen assetId
  let (stored, image) ← tryCatch (readAsset assetId now) fun
    | .assetLifecycleClosedError => throw .assetLifecycleClosedError
    | _ => throw readFailed
  let content ← FileProgram.ofExcept (orRaise image.bytes? integrityFailed)
  if content.length = stored.sizeBytes ∧ hexdigest content = stored.asset.sha256 then
    return ⟨stored.asset, content⟩
  else throw integrityFailed

/-- The media type that metadata names. -/
def readType : Json → Option AssetType
  | .obj members =>
      match members.lookup "asset" with
      | some (.obj asset) => do StrEnum.ofValue? (← Json.field asset "media_type")
      | _ => none
  | _ => none

/-- Whether metadata can be read, and the media type that it names. -/
def existing (assetId : UUID) : CloudIO (Bool × AssetType) :=
  tryCatch
    (do
      let object ← get (.metadata assetId) maxMetadata
      let type ← FileProgram.ofExcept (orRaise (object.json?.bind readType) .validationError)
      return (true, type))
    fun _ => return (false, .png)

/-- `CloudAssetStore.delete` -/
def delete (assetId : UUID) (now : Datetime) (reason : String) : CloudIO Bool := do
  let (existed, type) ← existing assetId
  let tombstone := Json.obj
    [("deleted_at", .str (now.isoformat utcZone)), ("reason", .str reason)]
  tryCatch
    (do
      put (.tombstone assetId) (.text tombstone) false
      let _ ← FileProgram.deleteObjects .objectStorageError
        [.metadata assetId, .image assetId type, .image assetId .jpeg]
      return ())
    fun
    | .objectStorageError | .objectNotFoundError => throw deletionFailed
    | error => throw error
  return existed

/-! ## What the methods touch and read -/

open FileProgram

variable {hexdigest} {assetId : UUID} {now : Datetime} {upload : Upload}
  {objects objects' : Files AssetKey FileContent} {fault : Option (Fault FileContent)}

/-- The objects of an asset that a store writes. -/
inductive Writes (assetId : UUID) (type : AssetType) : AssetKey → Prop
  | image : Writes assetId type (.image assetId type)
  | metadata : Writes assetId type (.metadata assetId)

/-- The objects that a load reads. -/
inductive Consults (assetId : UUID) : AssetKey → Prop
  | tombstone : Consults assetId (.tombstone assetId)
  | metadata : Consults assetId (.metadata assetId)
  | image (type : AssetType) : Consults assetId (.image assetId type)

theorem touches_requireOpen {keys : AssetKey → Prop} (assetId : UUID) :
    Touches keys (requireOpen assetId) := by
  apply Touches.tryCatch
  · exact Touches.bind (touches_get _ _ _) fun _ => touches_throw _
  · intro error
    cases error with
    | objectNotFoundError => exact touches_pure _
    | _ => exact touches_throw _

theorem touches_abandon (type : AssetType) (error : Exc) :
    Touches (Writes assetId type) (abandon assetId type error) := by
  have hremove : Touches (Writes assetId type)
      (do
        let _ ← FileProgram.deleteObjects Exc.objectStorageError (keys assetId type)
        throw writeFailed : CloudIO Unit) := by
    apply Touches.bind
    · apply touches_deleteObjects
      intro key hkey
      rcases List.mem_pair.mp hkey with rfl | rfl
      · exact .image
      · exact .metadata
    · exact fun _ => touches_throw _
  cases error with
  | objectStorageError => exact hremove
  | objectNotFoundError => exact hremove
  | fileExistsError => exact hremove
  | _ => exact touches_throw _

/-- A store of an upload that its checks let through. -/
theorem store_of_check {type : AssetType} {stored : StoredAsset}
    (h : upload.check hexdigest = .ok (type, stored)) :
    store hexdigest upload = (do
      requireOpen upload.assetId
      tryCatch (place type stored upload.data) (abandon upload.assetId type)
      return stored) := by
  rw [store, h]
  rfl

theorem store_of_check_error {error : Exc} (h : upload.check hexdigest = .error error) :
    store hexdigest upload = throw error := by
  rw [store, h]
  rfl

theorem touches_place (type : AssetType) (stored : StoredAsset) (data : List UInt8) :
    Touches (Writes stored.asset.assetId type) (place type stored data) :=
  Touches.bind (touches_put .image _ _) fun _ => touches_put .metadata _ _

theorem touches_store {type : AssetType} {stored : StoredAsset}
    (h : upload.check hexdigest = .ok (type, stored)) :
    Touches (Writes upload.assetId type) (store hexdigest upload) := by
  have hplace := touches_place type stored upload.data
  rw [(checked_of_check h).assetId] at hplace
  rw [store_of_check h]
  apply Touches.bind (touches_requireOpen _)
  intro _
  exact Touches.bind (hplace.tryCatch fun error => touches_abandon type error) fun _ =>
    touches_pure _

theorem reads_requireOpen : Reads (Consults assetId) (requireOpen assetId) := by
  apply Reads.tryCatch
  · exact Reads.bind (reads_get .tombstone _ _) fun _ => reads_throw _
  · intro error
    cases error with
    | objectNotFoundError => exact reads_pure _
    | _ => exact reads_throw _

theorem reads_readAsset : Reads (Consults assetId) (readAsset assetId now) := by
  apply Reads.bind (reads_get .metadata _ _)
  intro object
  apply Reads.bind (reads_ofExcept _)
  intro json
  apply Reads.bind (reads_ofExcept _)
  intro stored
  apply Reads.bind (reads_ofExcept _)
  intro _
  apply Reads.bind (reads_ofExcept _)
  intro type
  exact Reads.bind (reads_get (.image type) _ _) fun _ => reads_pure _

theorem reads_load : Reads (Consults assetId) (load hexdigest assetId now) := by
  apply Reads.bind reads_requireOpen
  intro _
  apply Reads.bind
  · apply reads_readAsset.tryCatch
    intro error
    cases error with
    | _ => exact reads_throw _
  · intro result
    apply Reads.bind (reads_ofExcept _)
    intro content
    split_ifs
    · exact reads_pure _
    · exact reads_throw _

/-! ## What is loaded -/

/-- A load returns this asset. -/
def Loads (hexdigest : List UInt8 → Sha256) (objects : Files AssetKey FileContent) (assetId : UUID)
    (now : Datetime) (loaded : LoadedAsset) : Prop :=
  (FileProgram.run (load hexdigest assetId now) objects none).1 = .ok loaded

/-- The objects that a load of this asset finds. -/
structure Found (hexdigest : List UInt8 → Sha256) (objects : Files AssetKey FileContent)
    (assetId : UUID) (now : Datetime) (stored : StoredAsset) (content : List UInt8) : Prop where
  is_open : objects.get? (.tombstone assetId) = none
  metadata : ∃ json, objects.get? (.metadata assetId) = some (.text json) ∧
    json.render.length ≤ maxMetadata ∧ readMetadata json = some stored
  fresh : requireFresh assetId now stored = .ok ()
  image : ∃ type, StrEnum.ofValue? stored.asset.mediaType.text = some type ∧
    objects.get? (.image assetId type) = some (.bytes content)
  bounded : content.length ≤ maxAssetBytes
  intact : content.length = stored.sizeBytes ∧ hexdigest content = stored.asset.sha256

theorem yields_requireOpen (h : objects.get? (.tombstone assetId) = none) :
    Yields (requireOpen assetId) objects (.ok ()) :=
  yields_tryCatch_error (yields_bind_error (yields_get_none h)) rfl

/-- Where a tombstone can be read, an asset is closed. -/
theorem yields_requireOpen_closed {content : FileContent}
    (h : objects.get? (.tombstone assetId) = some content) (hsize : content.size ≤ maxMetadata) :
    Yields (requireOpen assetId) objects (.error .assetLifecycleClosedError) :=
  yields_tryCatch_error (yields_bind_ok (yields_get h hsize) rfl) rfl

theorem yields_requireOpen_large {content : FileContent}
    (h : objects.get? (.tombstone assetId) = some content) (hsize : ¬content.size ≤ maxMetadata) :
    Yields (requireOpen assetId) objects (.error .objectStorageError) :=
  yields_tryCatch_error (yields_bind_error (yields_get_large h hsize)) rfl

theorem Found.yields_load {stored : StoredAsset} {content : List UInt8}
    (h : Found hexdigest objects assetId now stored content) :
    Yields (load hexdigest assetId now) objects (.ok ⟨stored.asset, content⟩) := by
  obtain ⟨json, hmetadata, hsize, hread⟩ := h.metadata
  obtain ⟨type, htype, himage⟩ := h.image
  have hasset : Yields (readAsset assetId now) objects (.ok (stored, .bytes content)) := by
    apply yields_bind_ok (yields_get hmetadata hsize)
    refine yields_bind_ok (yields_ofExcept (.ok json) objects) ?_
    rw [hread]
    refine yields_bind_ok (yields_ofExcept (.ok stored) objects) ?_
    rw [h.fresh]
    refine yields_bind_ok (yields_ofExcept (.ok ()) objects) ?_
    rw [htype]
    refine yields_bind_ok (yields_ofExcept (.ok type) objects) ?_
    exact yields_bind_ok (yields_get himage h.bounded) rfl
  apply yields_bind_ok (yields_requireOpen h.is_open)
  apply yields_bind_ok (yields_tryCatch_ok hasset)
  refine yields_bind_ok (yields_ofExcept (.ok content) objects) ?_
  rw [if_pos h.intact]
  rfl

theorem ensures_get {key : AssetKey} {maxBytes : Nat}
    {post : FileContent → Disk AssetKey FileContent → Prop}
    (h : ∀ content, objects.get? key = some content → content.size ≤ maxBytes →
      post content ⟨objects, none⟩) :
    Ensures (get key maxBytes) ⟨objects, none⟩ post fun _ _ => True := by
  cases hobject : objects.get? key with
  | none => exact (yields_get_none hobject).ensures_error trivial
  | some content =>
      by_cases hsize : content.size ≤ maxBytes
      · exact (yields_get hobject hsize).ensures (h content hobject hsize)
      · exact (yields_get_large hobject hsize).ensures_error trivial

theorem ensures_readAsset :
    Ensures (readAsset assetId now) ⟨objects, none⟩
      (fun result disk => disk = ⟨objects, none⟩ ∧
        (∃ json, objects.get? (.metadata assetId) = some (.text json) ∧
          json.render.length ≤ maxMetadata ∧ readMetadata json = some result.1) ∧
        requireFresh assetId now result.1 = .ok () ∧ result.2.size ≤ maxAssetBytes ∧
        ∃ type, StrEnum.ofValue? result.1.asset.mediaType.text = some type ∧
          objects.get? (.image assetId type) = some result.2)
      fun _ _ => True := by
  apply ensures_bind
  apply ensures_get
  intro object hmetadata hsize
  apply ensures_bind
  apply ensures_ofExcept _ fun _ _ => trivial
  intro json hjson
  obtain rfl : object = .text json := by
    rw [orRaise_eq_ok] at hjson
    cases object with
    | text found => exact congrArg FileContent.text (Option.some.inj hjson)
    | _ => cases hjson
  apply ensures_bind
  apply ensures_ofExcept _ fun _ _ => trivial
  intro stored hread
  apply ensures_bind
  apply ensures_ofExcept _ fun _ _ => trivial
  intro _ hfresh
  apply ensures_bind
  apply ensures_ofExcept _ fun _ _ => trivial
  intro type htype
  apply ensures_bind
  apply ensures_get
  intro image himage hbound
  apply ensures_pure
  exact ⟨rfl, ⟨json, hmetadata, hsize, orRaise_eq_ok.mp hread⟩, hfresh, hbound, type,
    orRaise_eq_ok.mp htype, himage⟩

theorem ensures_load (hexdigest : List UInt8 → Sha256) (objects : Files AssetKey FileContent)
    (assetId : UUID) (now : Datetime) :
    Ensures (load hexdigest assetId now) ⟨objects, none⟩
      (fun loaded _ => ∃ stored content, Found hexdigest objects assetId now stored content ∧
        loaded = ⟨stored.asset, content⟩) fun _ _ => True := by
  apply ensures_bind
  cases htombstone : objects.get? (.tombstone assetId) with
  | some content =>
      by_cases hsize : content.size ≤ maxMetadata
      · exact (yields_requireOpen_closed htombstone hsize).ensures_error trivial
      · exact (yields_requireOpen_large htombstone hsize).ensures_error trivial
  | none =>
      apply (yields_requireOpen htombstone).ensures
      apply ensures_bind
      apply ensures_tryCatch
      apply ensures_readAsset.mono
      · rintro ⟨stored, image⟩ disk ⟨rfl, hmetadata, hfresh, hbound, type, htype, himage⟩
        apply ensures_bind
        apply ensures_ofExcept _ fun _ _ => trivial
        intro content hcontent
        obtain rfl : image = .bytes content := by
          rw [orRaise_eq_ok] at hcontent
          cases image with
          | bytes found => exact congrArg FileContent.bytes (Option.some.inj hcontent)
          | _ => cases hcontent
        split_ifs with hintact
        · exact ensures_pure ⟨stored, content,
            ⟨htombstone, hmetadata, hfresh, ⟨type, htype, himage⟩, hbound, hintact⟩, rfl⟩
        · exact ensures_throw trivial
      · intro error disk _
        cases error with
        | _ => exact ensures_throw trivial

/-- A load returns what it finds. -/
theorem loads_iff {loaded : LoadedAsset} : Loads hexdigest objects assetId now loaded ↔
    ∃ stored content, Found hexdigest objects assetId now stored content ∧
      loaded = ⟨stored.asset, content⟩ := by
  constructor
  · intro hloads
    rcases (ensures_load hexdigest objects assetId now).run with
      ⟨value, _, hrun, hfound⟩ | ⟨_, _, hrun, -⟩
    · rw [Loads, hrun] at hloads
      cases hloads
      exact hfound
    · rw [Loads, hrun] at hloads
      cases hloads
  · rintro ⟨stored, content, hfound, rfl⟩
    rw [Loads, hfound.yields_load.run]

theorem loads_congr (h : ∀ key, Consults assetId key → objects'.get? key = objects.get? key)
    {loaded : LoadedAsset} :
    Loads hexdigest objects' assetId now loaded ↔ Loads hexdigest objects assetId now loaded := by
  unfold Loads
  rw [reads_load.run_eq h]

/-! ## A store that fails -/

/-- Which request cleans up after a store that finds metadata in its way. -/
def cleanupRequest (objects : Files AssetKey FileContent) (assetId : UUID) (type : AssetType) :
    Nat :=
  if (objects.get? (.image assetId type)).isSome then 2 else 3

/-- The cleanup removes the metadata, unless it is struck. -/
theorem ensures_abandon {type : AssetType} {error : Exc}
    (herror : error = .objectStorageError ∨ error = .fileExistsError)
    {post : Unit → Disk AssetKey FileContent → Prop}
    {failed : Exc → Disk AssetKey FileContent → Prop}
    (hstruck : ∀ damage, fault = some ⟨0, damage⟩ →
      failed .objectStorageError ⟨objects.removeAll (damage.among (keys assetId type)), none⟩)
    (hremoved : ¬Strikes fault 0 → ∀ after : Files AssetKey FileContent,
      after.get? (.metadata assetId) = none → ∀ fault', failed writeFailed ⟨after, fault'⟩) :
    Ensures (abandon assetId type error) ⟨objects, fault⟩ post failed := by
  have hcleanup : Ensures
      (do
        let _ ← FileProgram.deleteObjects Exc.objectStorageError (keys assetId type)
        throw writeFailed : CloudIO Unit) ⟨objects, fault⟩ post failed := by
    apply ensures_bind
    apply ensures_deleteObjects_struck hstruck
    intro hnot
    apply ensures_throw
    apply hremoved hnot
    simp [keys]
  rcases herror with rfl | rfl
  · exact hcleanup
  · exact hcleanup

/-- The cleanup of a store that was struck before removes the metadata. -/
theorem ensures_abandon_unstruck {type : AssetType}
    {post : Unit → Disk AssetKey FileContent → Prop}
    {failed : Exc → Disk AssetKey FileContent → Prop}
    (hremoved : ∀ after : Files AssetKey FileContent,
      after.get? (.metadata assetId) = none → ∀ fault', failed writeFailed ⟨after, fault'⟩) :
    Ensures (abandon assetId type .objectStorageError) ⟨objects, none⟩ post failed :=
  ensures_abandon (Or.inl rfl) nofun fun _ => hremoved

theorem ensures_requireOpen (h : objects.get? (.tombstone assetId) = none)
    {post : Unit → Disk AssetKey FileContent → Prop}
    {failed : Exc → Disk AssetKey FileContent → Prop}
    (hstruck : Strikes fault 0 → failed .objectStorageError ⟨objects, none⟩)
    (hopen : ¬Strikes fault 0 → post () ⟨objects, next fault⟩) :
    Ensures (requireOpen assetId) ⟨objects, fault⟩ post failed := by
  apply ensures_tryCatch
  apply ensures_bind
  exact ensures_get_none_struck h hstruck hopen

/-- Of the objects that were there, those are gone that a struck cleanup has removed. -/
def CleanedUp (objects objects' : Files AssetKey FileContent) (removed : List AssetKey) : Prop :=
  ∀ key, objects.get? key ≠ none →
    objects'.get? key = if key ∈ removed then none else objects.get? key

/-- A store that finds metadata in its way fails with its first request, or its cleanup is
struck, or it leaves no metadata. -/
theorem ensures_store_found {type : AssetType} {stored : StoredAsset} {other : FileContent}
    (hcheck : upload.check hexdigest = .ok (type, stored))
    (htombstone : objects.get? (.tombstone upload.assetId) = none)
    (hmetadata : objects.get? (.metadata upload.assetId) = some other) :
    Ensures (store hexdigest upload) ⟨objects, fault⟩ (fun _ _ => False) fun _ disk =>
      Strikes fault 0 ∧ CleanedUp objects disk.files [] ∨
      (∃ damage, fault = some ⟨cleanupRequest objects upload.assetId type, damage⟩ ∧
        CleanedUp objects disk.files (damage.among (keys upload.assetId type))) ∨
      ¬(Strikes fault 0 ∨ Strikes fault (cleanupRequest objects upload.assetId type)) ∧
        disk.files.get? (.metadata upload.assetId) = none := by
  rw [store_of_check hcheck]
  apply ensures_bind
  apply ensures_requireOpen htombstone
  · exact fun hstrikes => Or.inl ⟨hstrikes, fun _ _ => rfl⟩
  · intro h0
    apply ensures_bind
    apply ensures_tryCatch
    unfold place
    rw [(checked_of_check hcheck).assetId]
    apply ensures_bind
    cases himage : objects.get? (.image upload.assetId type) with
    | some content =>
        have hcleanup : cleanupRequest objects upload.assetId type = 2 := by
          simp [cleanupRequest, himage]
        rw [hcleanup]
        apply ensures_put_taken_struck himage
        · intro h1
          rw [strikes_next_iff h0] at h1
          apply ensures_abandon_unstruck
          refine fun after hafter _ => Or.inr (Or.inr ⟨?_, hafter⟩)
          rintro (hfirst | hlast)
          · exact h0 hfirst
          · exact absurd (h1.unique hlast) (by decide)
        · intro h1
          apply ensures_abandon (Or.inr rfl)
          · intro damage hdamage
            rw [next_eq_some_iff h1, next_eq_some_iff h0] at hdamage
            exact Or.inr (Or.inl ⟨damage, hdamage, fun key _ => Files.get?_removeAll⟩)
          · intro h2 after hafter _
            rw [strikes_next_iff h1, strikes_next_iff h0] at h2
            exact Or.inr (Or.inr ⟨not_or.mpr ⟨h0, h2⟩, hafter⟩)
    | none =>
        have hcleanup : cleanupRequest objects upload.assetId type = 3 := by
          simp [cleanupRequest, himage]
        have hkept : ∀ key, objects.get? key ≠ none →
            (objects.write (.image upload.assetId type) (.bytes upload.data)).get? key =
              objects.get? key := by
          intro key hkey
          rw [Files.get?_write, if_neg]
          rintro rfl
          exact hkey himage
        rw [hcleanup]
        apply ensures_put_struck fun _ => himage
        · intro h1
          rw [strikes_next_iff h0] at h1
          have hnot : ¬(Strikes fault 0 ∨ Strikes fault 3) := by
            rintro (hfirst | hlast)
            · exact h0 hfirst
            · exact absurd (h1.unique hlast) (by decide)
          constructor
          · exact ensures_abandon_unstruck fun _ hafter _ => Or.inr (Or.inr ⟨hnot, hafter⟩)
          · exact ensures_abandon_unstruck fun _ hafter _ => Or.inr (Or.inr ⟨hnot, hafter⟩)
        · intro h1
          have htaken := (hkept (.metadata upload.assetId) (by simp [hmetadata])).trans hmetadata
          apply ensures_put_taken_struck htaken
          · intro h2
            rw [strikes_next_iff h1, strikes_next_iff h0] at h2
            apply ensures_abandon_unstruck
            refine fun after hafter _ => Or.inr (Or.inr ⟨?_, hafter⟩)
            rintro (hfirst | hlast)
            · exact h0 hfirst
            · exact absurd (h2.unique hlast) (by decide)
          · intro h2
            apply ensures_abandon (Or.inr rfl)
            · intro damage hdamage
              rw [next_eq_some_iff h2, next_eq_some_iff h1, next_eq_some_iff h0] at hdamage
              refine Or.inr (Or.inl ⟨damage, hdamage, fun key hkey => ?_⟩)
              rw [Files.get?_removeAll, hkept key hkey]
            · intro h3 after hafter _
              rw [strikes_next_iff h2, strikes_next_iff h1, strikes_next_iff h0] at h3
              exact Or.inr (Or.inr ⟨not_or.mpr ⟨h0, h3⟩, hafter⟩)

/-- Whatever could be loaded still can. -/
def Kept (hexdigest : List UInt8 → Sha256) (objects objects' : Files AssetKey FileContent) :
    Prop :=
  ∀ assetId now loaded, Loads hexdigest objects assetId now loaded →
    Loads hexdigest objects' assetId now loaded

/-- An asset that can be loaded, and whose image has this type. -/
def HoldsImage (hexdigest : List UInt8 → Sha256) (objects : Files AssetKey FileContent)
    (assetId : UUID) (type : AssetType) : Prop :=
  ∃ now loaded, Loads hexdigest objects assetId now loaded ∧ assetType? loaded.asset = some type

/-- What a store has removed spares its asset. -/
def Spares (hexdigest : List UInt8 → Sha256) (objects : Files AssetKey FileContent)
    (assetId : UUID) (type : AssetType) (removed : List AssetKey) : Prop :=
  .metadata assetId ∉ removed ∧
    (.image assetId type ∉ removed ∨ ¬HoldsImage hexdigest objects assetId type)

/-- The request that fails is the first one, or the cleanup, which has not removed what a load
needs. -/
def StoppedInTime (hexdigest : List UInt8 → Sha256) (objects : Files AssetKey FileContent)
    (fault : Option (Fault FileContent)) (assetId : UUID) (type : AssetType) : Prop :=
  Strikes fault 0 ∨
    ∃ damage, fault = some ⟨cleanupRequest objects assetId type, damage⟩ ∧
      Spares hexdigest objects assetId type (damage.among (keys assetId type))

section CleanedUp

variable {type : AssetType} {removed : List AssetKey} {loaded : LoadedAsset}

theorem CleanedUp.loads (h : CleanedUp objects objects' removed)
    (hremoved : ∀ key ∈ removed, key ∈ keys assetId type)
    (hspared : Spares hexdigest objects assetId type removed)
    (htombstone : objects'.get? (.tombstone assetId) = objects.get? (.tombstone assetId))
    (hloads : Loads hexdigest objects assetId now loaded) :
    Loads hexdigest objects' assetId now loaded := by
  obtain ⟨stored, content, hfound, rfl⟩ := loads_iff.mp hloads
  obtain ⟨json, hmetadata, hsize, hread⟩ := hfound.metadata
  obtain ⟨named, hnamed, himage⟩ := hfound.image
  have hkept : .image assetId named ∉ removed := by
    intro hmem
    obtain rfl : named = type := by simpa [keys] using hremoved _ hmem
    rcases hspared.2 with hout | hnone
    · exact hout hmem
    · exact hnone ⟨now, _, hloads, hnamed⟩
  refine loads_iff.mpr ⟨stored, content, ?_, rfl⟩
  exact
    { is_open := htombstone.trans hfound.is_open
      metadata := ⟨json, by rw [h _ (by simp [hmetadata]), if_neg hspared.1, hmetadata], hsize,
        hread⟩
      fresh := hfound.fresh
      image := ⟨named, hnamed, by rw [h _ (by simp [himage]), if_neg hkept, himage]⟩
      bounded := hfound.bounded
      intact := hfound.intact }

/-- A cleanup that does not spare an asset destroys it. -/
theorem CleanedUp.not_kept (h : CleanedUp objects objects' removed)
    (hloads : Loads hexdigest objects assetId now loaded)
    (hdestroyed : ¬Spares hexdigest objects assetId type removed) :
    ¬Kept hexdigest objects objects' := by
  intro hkept
  apply hdestroyed
  constructor
  · intro hmem
    obtain ⟨_, _, hfound, -⟩ := loads_iff.mp hloads
    obtain ⟨_, hpresent, -⟩ := hfound.metadata
    obtain ⟨_, _, hafter, -⟩ := loads_iff.mp (hkept _ now loaded hloads)
    obtain ⟨_, hstill, -⟩ := hafter.metadata
    rw [h _ (by simp [hpresent]), if_pos hmem] at hstill
    cases hstill
  · rw [or_iff_not_imp_right, not_not]
    rintro ⟨read, held, hheld, htype⟩ hmem
    obtain ⟨stored, content, hfound, rfl⟩ := loads_iff.mp hheld
    obtain ⟨named, hnamed, hpresent⟩ := hfound.image
    obtain rfl : named = type := Option.some.inj (hnamed.symm.trans htype)
    obtain ⟨after, _, hafter, hsame⟩ := loads_iff.mp (hkept _ read _ hheld)
    have hasset : stored.asset = after.asset := congrArg LoadedAsset.asset hsame
    obtain ⟨other, hother, hstill⟩ := hafter.image
    rw [← hasset, hnamed] at hother
    cases hother
    rw [h _ (by simp [hpresent]), if_pos hmem] at hstill
    cases hstill

end CleanedUp

/-- Where its identifier names an asset that can be loaded, a store keeps the asset exactly when
the failing request stops it in time. -/
theorem kept_iff_stoppedInTime {type : AssetType} {stored : StoredAsset} {loaded : LoadedAsset}
    (hcheck : upload.check hexdigest = .ok (type, stored))
    (hloads : Loads hexdigest objects upload.assetId now loaded) :
    Kept hexdigest objects (FileProgram.run (store hexdigest upload) objects fault).2 ↔
      StoppedInTime hexdigest objects fault upload.assetId type := by
  have hoff := (touches_store hcheck).run objects fault
  obtain ⟨found, content, hfound, -⟩ := loads_iff.mp hloads
  obtain ⟨json, hmetadata, -⟩ := hfound.metadata
  -- Other assets have other objects.
  have hkept {removed : List AssetKey}
      (hremoved : ∀ key ∈ removed, key ∈ keys upload.assetId type)
      (hcleaned : CleanedUp objects
        (FileProgram.run (store hexdigest upload) objects fault).2 removed)
      (hspared : Spares hexdigest objects upload.assetId type removed) :
      Kept hexdigest objects (FileProgram.run (store hexdigest upload) objects fault).2 := by
    intro other now loaded hloads
    by_cases hsame : other = upload.assetId
    · exact hsame ▸ hcleaned.loads hremoved hspared (hoff _ nofun) (hsame ▸ hloads)
    · refine (loads_congr fun key hkey => hoff key fun hwrites => ?_).mpr hloads
      cases hwrites with
      | image => cases hkey; exact hsame rfl
      | metadata => cases hkey; exact hsame rfl
  have hstore : Ensures (store hexdigest upload) ⟨objects, fault⟩ _ _ :=
    ensures_store_found hcheck hfound.is_open hmetadata
  rcases hstore.run with ⟨_, _, -, hfalse⟩ |
    ⟨_, disk, hrun, ⟨hfirst, hcleaned⟩ | ⟨damage, hdamage, hcleaned⟩ | ⟨hstruck, hmissing⟩⟩
  · exact hfalse.elim
  · rw [hrun] at hkept ⊢
    refine iff_of_true ?_ (Or.inl hfirst)
    exact hkept (fun _ hmem => absurd hmem List.not_mem_nil) hcleaned
      ⟨List.not_mem_nil, Or.inl List.not_mem_nil⟩
  · rw [hrun] at hkept ⊢
    by_cases hspared : Spares hexdigest objects upload.assetId type
        (damage.among (keys upload.assetId type))
    · exact iff_of_true (hkept (fun _ => damage.mem_of_mem_among) hcleaned hspared)
        (Or.inr ⟨damage, hdamage, hspared⟩)
    · apply iff_of_false (hcleaned.not_kept hloads hspared)
      have hlast : Strikes fault (cleanupRequest objects upload.assetId type) := ⟨damage, hdamage⟩
      rintro (hfirst | ⟨damage', hdamage', hspared'⟩)
      · have hzero := hfirst.unique hlast
        unfold cleanupRequest at hzero
        split_ifs at hzero
      · cases hdamage.symm.trans hdamage'
        exact hspared hspared'
  · rw [hrun]
    apply iff_of_false
    · intro hkept
      obtain ⟨_, _, hafter, -⟩ := loads_iff.mp (hkept _ now loaded hloads)
      obtain ⟨_, hpresent, -⟩ := hafter.metadata
      rw [hmissing] at hpresent
      cases hpresent
    · rintro (hfirst | ⟨damage, hdamage, -⟩)
      · exact hstruck (Or.inl hfirst)
      · exact hstruck (Or.inr ⟨damage, hdamage⟩)

/-- A store destroys an asset exactly when it has passed its checks, its identifier names an
asset that can be loaded, and no failing request stops it in time. -/
theorem kept_iff :
    Kept hexdigest objects (FileProgram.run (store hexdigest upload) objects fault).2 ↔
      (∃ refused, upload.check hexdigest = .error refused) ∨
        (¬∃ now loaded, Loads hexdigest objects upload.assetId now loaded) ∨
        ∃ type stored, upload.check hexdigest = .ok (type, stored) ∧
          StoppedInTime hexdigest objects fault upload.assetId type := by
  cases hcheck : upload.check hexdigest with
  | error refused =>
      rw [store_of_check_error hcheck]
      exact iff_of_true (fun _ _ _ => id) (Or.inl ⟨refused, rfl⟩)
  | ok checked =>
      obtain ⟨type, stored⟩ := checked
      by_cases hloadable : ∃ now loaded, Loads hexdigest objects upload.assetId now loaded
      · obtain ⟨now, loaded, hloads⟩ := id hloadable
        rw [kept_iff_stoppedInTime hcheck hloads]
        constructor
        · exact fun hstopped => Or.inr (Or.inr ⟨type, stored, rfl, hstopped⟩)
        · rintro (⟨_, hrefused⟩ | hnone | ⟨_, _, hsame, hstopped⟩)
          · cases hrefused
          · exact absurd hloadable hnone
          · cases hsame
            exact hstopped
      · refine iff_of_true (fun other now loaded hloads => ?_) (Or.inr (Or.inl hloadable))
        have hne : other ≠ upload.assetId := by
          rintro rfl
          exact hloadable ⟨now, loaded, hloads⟩
        have hoff := (touches_store hcheck).run objects fault
        refine (loads_congr fun key hkey => hoff key fun hwrites => ?_).mpr hloads
        cases hwrites with
        | image => cases hkey; exact hne rfl
        | metadata => cases hkey; exact hne rfl

end Cloud

end AssetStorage

end CultureShift
