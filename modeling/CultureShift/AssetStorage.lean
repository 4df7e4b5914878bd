/-
# The local asset store

A source ad is an image and its metadata: two files, moved into place one after
the other. A deletion leaves a tombstone, and where one stands nothing is
stored and nothing is loaded.
-/

import CultureShift.App
import CultureShift.CloudCompositionStorage
import CultureShift.Storage.Frames

namespace CultureShift

open Serialization Relational Storage

/-- The media types that have an extension. -/
inductive AssetType
  | png | jpeg
deriving DecidableEq

instance : StrEnum AssetType where
  values := [.png, .jpeg]
  value
    | .png => "image/png"
    | .jpeg => "image/jpeg"
  find_value member := by cases member <;> rfl

/-- The media type as the contracts have it. -/
def AssetType.mediaType : AssetType → MediaType
  | .png => ⟨String.ofList "image/png".toList, strip_ofList rfl, accepts_ofList rfl⟩
  | .jpeg => ⟨String.ofList "image/jpeg".toList, strip_ofList rfl, accepts_ofList rfl⟩

theorem AssetType.ofValue?_mediaType (type : AssetType) :
    (StrEnum.ofValue? type.mediaType.text : Option AssetType) = some type := by
  cases type <;> rfl

structure StoredAsset where
  asset : SourceAdAssetRef
  sizeBytes : Nat
  createdAt : Datetime

namespace AssetStorage

open CompositionStorage (FileContent utcZone maxMetadata length_quote length_uuid length_sha256
  length_isoformat)

def maxAssetBytes : Nat := 10 * 1024 * 1024

/-- The arguments of `store`. -/
structure Upload where
  data : List UInt8
  declaredMediaType : String
  provenanceRef : String
  rightsRef : String
  now : Datetime
  assetId : UUID

/-- What an upload stores: all checks that a store makes before it looks at what it holds. -/
def Upload.check (hexdigest : List UInt8 → Sha256) (upload : Upload) :
    Except Exc (AssetType × StoredAsset) := do
  let declared : AssetType ← orRaise (StrEnum.ofValue? upload.declaredMediaType)
    .unsupportedAssetTypeError
  require (upload.data ≠ []) .assetEmptyError
  require (upload.data.length ≤ maxAssetBytes) .assetTooLargeError
  require (detectMediaType upload.data = some (StrEnum.value declared)) .assetTypeMismatchError
  let safeProvenance ← orRaise (PatternText.validate upload.provenanceRef) .assetMetadataError
  let safeRights ← orRaise (PatternText.validate upload.rightsRef) .assetMetadataError
  let expiresAt ← orRaise upload.now.nextDay? .overflowError
  return (declared,
    { asset :=
        { assetId := upload.assetId
          mediaType := declared.mediaType
          sha256 := hexdigest upload.data
          provenanceRef := safeProvenance
          rightsRef := safeRights
          expiresAt := some expiresAt }
      sizeBytes := upload.data.length
      createdAt := upload.now })

def metadata (stored : StoredAsset) : Json := .obj
  [("asset", encode stored.asset), ("created_at", .str (stored.createdAt.isoformat utcZone)),
    ("size_bytes", encode stored.sizeBytes)]

def readMetadata : Json → Option StoredAsset
  | .obj members => do
      let asset ← Json.field members "asset"
      let sizeBytes ← Json.field members "size_bytes"
      let createdAt ← Json.field members "created_at"
      let createdAt ← Datetime.ofIsoformat? utcZone createdAt
      pure ⟨asset, sizeBytes, createdAt⟩
  | _ => none

theorem readMetadata_metadata (stored : StoredAsset) :
    readMetadata (metadata stored) = some stored := by
  have hstr : (decode (.str (stored.createdAt.isoformat utcZone)) : Option String) =
      some (stored.createdAt.isoformat utcZone) := rfl
  simp [readMetadata, metadata, hstr,
    stored.createdAt.ofIsoformat?_isoformat (by decide : utcZone.head? ≠ some '.')]

/-- The files of the directory. -/
inductive AssetPath
  | part (assetId : UUID)
  | metadataPart (assetId : UUID)
  | image (assetId : UUID) (type : AssetType)
  | metadata (assetId : UUID)
  | tombstone (digest : Sha256)
  | tombstonePart (digest : Sha256)
deriving DecidableEq

abbrev StoreIO := FileProgram AssetPath FileContent Exc

def writeFailed : Exc := .assetStorageError "temporary asset write failed"

def readFailed : Exc := .assetStorageError "temporary asset read failed"

def integrityFailed : Exc := .assetStorageError "temporary asset integrity check failed"

def deletionFailed : Exc := .assetStorageError "asset deletion failed"

/-- How many bytes a file has. Metadata ends with a line break. -/
def size : FileContent → Nat
  | .text json => json.render.length + 1
  | content => content.size

/-- `_read_bounded` -/
def readBounded (path : AssetPath) (limit : Nat) : StoreIO FileContent := do
  let content ← FileProgram.read readFailed path
  if limit < size content then throw readFailed
  return content

variable (hexdigest : List UInt8 → Sha256)

/-- `_tombstone_path`, by the digest in its name. -/
def tombstoneDigest (assetId : UUID) : Sha256 := hexdigest assetId.text.toUTF8.data.toList

/-- `_is_closed` -/
def isClosed (assetId : UUID) : StoreIO Bool :=
  FileProgram.isFile (.tombstone (tombstoneDigest hexdigest assetId))

def requireOpen (assetId : UUID) : StoreIO Unit := do
  let closed ← isClosed hexdigest assetId
  if closed then throw .assetLifecycleClosedError

/-- Write both parts, then move both into place. -/
def place (type : AssetType) (stored : StoredAsset) (data : List UInt8) : StoreIO Unit := do
  let assetId := stored.asset.assetId
  FileProgram.mkdir .osError
  FileProgram.exclusiveWrite .osError (.part assetId) (.bytes data)
  FileProgram.exclusiveWrite .osError (.metadataPart assetId) (.text (metadata stored))
  requireOpen hexdigest assetId
  FileProgram.replace .osError (.part assetId) (.image assetId type)
  requireOpen hexdigest assetId
  FileProgram.replace .osError (.metadataPart assetId) (.metadata assetId)
  requireOpen hexdigest assetId

/-- The files that a failed store removes. -/
def paths (assetId : UUID) (type : AssetType) : List AssetPath :=
  [.part assetId, .metadataPart assetId, .image assetId type, .metadata assetId]

/-- Remove what a failed store has written. -/
def abandon (assetId : UUID) (type : AssetType) : Exc → StoreIO Unit
  | .assetLifecycleClosedError => do
      FileProgram.unlinkAll .osError (paths assetId type)
      throw .assetLifecycleClosedError
  | .osError => do
      FileProgram.unlinkAll .osError (paths assetId type)
      throw writeFailed
  | error => throw error

/-- `TemporaryAssetStore.store` -/
def store (upload : Upload) : StoreIO StoredAsset := do
  let (type, stored) ← FileProgram.ofExcept (upload.check hexdigest)
  requireOpen hexdigest upload.assetId
  tryCatch (place hexdigest type stored upload.data) (abandon upload.assetId type)
  return stored

/-- The checks of metadata. -/
def Sound (assetId : UUID) (now : Datetime) (stored : StoredAsset) : Prop :=
  stored.asset.assetId = assetId ∧ 1 ≤ stored.sizeBytes ∧ stored.sizeBytes ≤ maxAssetBytes ∧
    stored.createdAt ≤ now

instance (assetId : UUID) (now : Datetime) (stored : StoredAsset) :
    Decidable (Sound assetId now stored) := inferInstanceAs (Decidable (_ ∧ _ ∧ _ ∧ _))

/-- An asset that expires is closed from then on. -/
def requireFresh (asset : SourceAdAssetRef) (now : Datetime) : Except Exc Unit :=
  match asset.expiresAt with
  | some expiresAt => require (now < expiresAt) .assetLifecycleClosedError
  | none => .ok ()

/-- The checks of content. -/
def Intact (stored : StoredAsset) (content : List UInt8) : Prop :=
  content.length = stored.sizeBytes ∧
    detectMediaType content = some stored.asset.mediaType.text ∧
    hexdigest content = stored.asset.sha256

instance (stored : StoredAsset) (content : List UInt8) :
    Decidable (Intact hexdigest stored content) := inferInstanceAs (Decidable (_ ∧ _ ∧ _))

/-- The metadata of an asset, once it has passed its checks. -/
def readStored (assetId : UUID) (now : Datetime) : StoreIO StoredAsset := do
  let file ← readBounded (.metadata assetId) maxMetadata
  let json ← FileProgram.ofExcept (orRaise file.json? .validationError)
  let stored ← FileProgram.ofExcept (orRaise (readMetadata json) .validationError)
  FileProgram.ofExcept (require (Sound assetId now stored) (.valueError "invalid metadata"))
  FileProgram.ofExcept (requireFresh stored.asset now)
  return stored

/-- The content of the image that metadata describes. -/
def readImage (assetId : UUID) (stored : StoredAsset) : StoreIO (List UInt8) := do
  let type : AssetType ← FileProgram.ofExcept
    (orRaise (StrEnum.ofValue? stored.asset.mediaType.text) (.other "KeyError"))
  let image ← FileProgram.read .osError (.image assetId type)
  FileProgram.ofExcept (require (size image = stored.sizeBytes) readFailed)
  let image ← readBounded (.image assetId type) maxAssetBytes
  FileProgram.ofExcept (orRaise image.bytes? integrityFailed)

def readAsset (assetId : UUID) (now : Datetime) : StoreIO (StoredAsset × List UInt8) := do
  let stored ← readStored assetId now
  let content ← readImage assetId stored
  return (stored, content)

/-- `TemporaryAssetStore.load` -/
def load (assetId : UUID) (now : Datetime) : StoreIO LoadedAsset := do
  requireOpen hexdigest assetId
  let (stored, content) ← tryCatch (readAsset assetId now) fun
    | .assetLifecycleClosedError => throw .assetLifecycleClosedError
    | .assetStorageError message => throw (.assetStorageError message)
    | _ => throw readFailed
  if Intact hexdigest stored content then return ⟨stored.asset, content⟩
  else throw integrityFailed

/-- Everything under the name of an asset. -/
def assetPaths (assetId : UUID) : List AssetPath :=
  [.part assetId, .metadataPart assetId, .image assetId .png, .image assetId .jpeg,
    .metadata assetId]

/-- What a tombstone says. -/
structure Tombstone where
  deletedAt : Datetime
  reason : String
  existed : Bool

def Tombstone.payload (tombstone : Tombstone) : Json := .obj
  [("deleted_at", .str (tombstone.deletedAt.isoformat utcZone)), ("reason", .str tombstone.reason),
    ("result", .str (if tombstone.existed then "removed" else "already_absent"))]

/-- Write a tombstone, and move it into place. -/
def writeTombstone (digest : Sha256) (tombstone : Tombstone) : StoreIO Unit := do
  FileProgram.mkdir .osError
  tryCatch
    (do
      FileProgram.exclusiveWrite .osError (.tombstonePart digest) (.text tombstone.payload)
      FileProgram.replace .osError (.tombstonePart digest) (.tombstone digest))
    fun
    | .osError => do
        FileProgram.unlink .osError (.tombstonePart digest)
        throw deletionFailed
    | error => throw error

/-- Unless a tombstone stands, put one up. -/
def bury (assetId : UUID) (tombstone : Tombstone) : StoreIO Unit := do
  let closed ← isClosed hexdigest assetId
  if closed then return ()
  else writeTombstone (tombstoneDigest hexdigest assetId) tombstone

/-- `TemporaryAssetStore.delete` -/
def delete (assetId : UUID) (now : Datetime) (reason : String) : StoreIO Bool := do
  let activePaths ← FileProgram.glob (assetPaths assetId)
  let existed := !activePaths.isEmpty
  bury hexdigest assetId ⟨now, reason, existed⟩
  tryCatch (FileProgram.unlinkAll .osError activePaths) fun
    | .osError => throw deletionFailed
    | error => throw error
  return existed

/-! ## Uploads that are stored -/

section Checked

variable {hexdigest} {upload : Upload} {type : AssetType} {stored : StoredAsset}

/-- What the checks of an upload have established. -/
structure Checked (hexdigest : List UInt8 → Sha256) (upload : Upload) (type : AssetType)
    (stored : StoredAsset) : Prop where
  nonempty : 1 ≤ upload.data.length
  bounded : upload.data.length ≤ maxAssetBytes
  detected : detectMediaType upload.data = some (StrEnum.value type)
  assetId : stored.asset.assetId = upload.assetId
  mediaType : stored.asset.mediaType = type.mediaType
  sha256 : stored.asset.sha256 = hexdigest upload.data
  expiresAt : ∃ expiresAt, stored.asset.expiresAt = some expiresAt ∧
    upload.now.nextDay? = some expiresAt
  sizeBytes : stored.sizeBytes = upload.data.length
  createdAt : stored.createdAt = upload.now

theorem checked_of_check
    (h : upload.check hexdigest = .ok (type, stored)) : Checked hexdigest upload type stored := by
  simp only [Upload.check, bind_eq_ok, orRaise_eq_ok, require_eq_ok] at h
  obtain ⟨declared, -, _, hnonempty, _, hbounded, _, hdetected, _, -, _, -, expiresAt, hexpires,
    hresult⟩ := h
  cases hresult
  exact
    { nonempty := List.length_pos_iff.mpr hnonempty
      bounded := hbounded
      detected := hdetected
      assetId := rfl
      mediaType := rfl
      sha256 := rfl
      expiresAt := ⟨expiresAt, rfl, hexpires⟩
      sizeBytes := rfl
      createdAt := rfl }

theorem length_publicReference (reference : PublicReference) : reference.text.length ≤ 256 := by
  have h := reference.accepted
  simp only [isPublicReference, Bool.and_eq_true, decide_eq_true_eq, String.length_toList] at h
  exact h.1.1

theorem length_render_str {limit : Nat} {text : String} (h : text.length ≤ limit) :
    (Json.str text).render.length ≤ 6 * limit + 2 := by
  have hquote := length_quote text
  rw [Json.render]
  omega

/-- Metadata stays below the bound of its read. -/
theorem length_metadata
    (h : Checked hexdigest upload type stored) :
    (metadata stored).render.length + 1 ≤ maxMetadata := by
  obtain ⟨expiresAt, hexpires, -⟩ := h.expiresAt
  have hid : (encode stored.asset.assetId).render.length ≤ 6 * 36 + 2 :=
    length_render_str (length_uuid _).le
  have hsha : (encode stored.asset.sha256).render.length ≤ 6 * 64 + 2 :=
    length_render_str (length_sha256 _).le
  have hprovenance : (encode stored.asset.provenanceRef).render.length ≤ 6 * 256 + 2 :=
    length_render_str (length_publicReference _)
  have hrights : (encode stored.asset.rightsRef).render.length ≤ 6 * 256 + 2 :=
    length_render_str (length_publicReference _)
  have hexpiry : (encode expiresAt).render.length ≤ 6 * 27 + 2 :=
    length_render_str (length_isoformat expiresAt _)
  have hcreated : (Json.str (stored.createdAt.isoformat utcZone)).render.length ≤ 6 * 32 + 2 :=
    length_render_str (length_isoformat stored.createdAt _)
  have htype : (encode stored.asset.mediaType).render.length ≤ 6 * 10 + 2 := by
    apply length_render_str
    rw [h.mediaType]
    cases type with
    | png => exact (by decide : (9 : Nat) ≤ 10)
    | jpeg => exact le_rfl
  have hkind : (encode (⟨⟩ : Codec.Constant "source_ad")).render.length ≤ 6 * 9 + 2 :=
    length_render_str le_rfl
  have hcount : (encode stored.sizeBytes).render.length ≤ 8 := by
    have hsize : stored.sizeBytes < 10 ^ 8 :=
      h.sizeBytes ▸ lt_of_le_of_lt h.bounded (by decide)
    have hdigits : (Nat.toDigits 10 stored.sizeBytes).length ≤ 8 :=
      (Nat.length_toDigits_le_iff (by omega) (by omega)).mpr hsize
    have hrender : (encode stored.sizeBytes).render = Nat.toDigits 10 stored.sizeBytes := by
      rw [← Nat.toList_repr]
      rfl
    rw [hrender]
    exact hdigits
  have hnames : (Json.quote "asset_id").length = 10 ∧ (Json.quote "kind").length = 6 ∧
      (Json.quote "media_type").length = 12 ∧ (Json.quote "sha256").length = 8 ∧
      (Json.quote "provenance_ref").length = 16 ∧ (Json.quote "rights_ref").length = 12 ∧
      (Json.quote "expires_at").length = 12 ∧ (Json.quote "asset").length = 7 ∧
      (Json.quote "created_at").length = 12 ∧ (Json.quote "size_bytes").length = 12 := by
    decide
  obtain ⟨hn1, hn2, hn3, hn4, hn5, hn6, hn7, hn8, hn9, hn10⟩ := hnames
  have hasset : encode stored.asset = .obj
      [("asset_id", encode stored.asset.assetId),
        ("kind", encode (⟨⟩ : Codec.Constant "source_ad")),
        ("media_type", encode stored.asset.mediaType), ("sha256", encode stored.asset.sha256),
        ("provenance_ref", encode stored.asset.provenanceRef),
        ("rights_ref", encode stored.asset.rightsRef), ("expires_at", encode expiresAt)] := by
    rw [← show encode stored.asset.expiresAt = encode expiresAt by rw [hexpires]; rfl]
    rfl
  simp only [metadata, hasset, Json.render, Json.renderMembers, List.length_cons,
    List.length_append, List.length_nil, hn1, hn2, hn3, hn4, hn5, hn6, hn7, hn8, hn9, hn10,
    maxMetadata] at *
  omega
end Checked

/-! ## What the methods touch and read -/

open FileProgram

variable {hexdigest} {assetId : UUID} {now : Datetime} {upload : Upload}
  {files files' : Files AssetPath FileContent} {fault : Option (Fault FileContent)}

theorem mem_assetPaths {type : AssetType} {path : AssetPath} (h : path ∈ paths assetId type) :
    path ∈ assetPaths assetId := by
  cases type with
  | png => simp only [paths, assetPaths, List.mem_cons, List.not_mem_nil, or_false] at h ⊢; tauto
  | jpeg => simp only [paths, assetPaths, List.mem_cons, List.not_mem_nil, or_false] at h ⊢; tauto

/-- The tests for a tombstone touch nothing. -/
theorem touches_requireOpen {paths : AssetPath → Prop} (assetId : UUID) :
    Touches paths (requireOpen hexdigest assetId) := by
  apply Touches.bind (touches_isFile _)
  intro closed
  cases closed with
  | true => exact touches_throw _
  | false => exact touches_pure _

theorem touches_place (type : AssetType) (stored : StoredAsset) (data : List UInt8) :
    Touches (· ∈ paths stored.asset.assetId type) (place hexdigest type stored data) := by
  apply Touches.bind touches_mkdir
  intro _
  apply Touches.bind (touches_exclusiveWrite (by simp [paths]) _)
  intro _
  apply Touches.bind (touches_exclusiveWrite (by simp [paths]) _)
  intro _
  apply Touches.bind (touches_requireOpen _)
  intro _
  apply Touches.bind (touches_replace (by simp [paths]) (by simp [paths]))
  intro _
  apply Touches.bind (touches_requireOpen _)
  intro _
  apply Touches.bind (touches_replace (by simp [paths]) (by simp [paths]))
  intro _
  exact touches_requireOpen _

/-- A store of an upload that its checks let through. -/
theorem store_of_check {type : AssetType} {stored : StoredAsset}
    (h : upload.check hexdigest = .ok (type, stored)) :
    store hexdigest upload = (do
      requireOpen hexdigest upload.assetId
      tryCatch (place hexdigest type stored upload.data) (abandon upload.assetId type)
      return stored) := by
  rw [store, h]
  rfl

theorem store_of_check_error {error : Exc} (h : upload.check hexdigest = .error error) :
    store hexdigest upload = throw error := by
  rw [store, h]
  rfl

theorem touches_abandon (type : AssetType) (error : Exc) :
    Touches (· ∈ paths assetId type) (abandon assetId type error) := by
  have hremove {error : Exc} : Touches (· ∈ paths assetId type)
      (do FileProgram.unlinkAll .osError (paths assetId type); throw error : StoreIO Unit) :=
    Touches.bind (touches_unlinkAll fun _ hpath => hpath) fun _ => touches_throw error
  cases error with
  | assetLifecycleClosedError => exact hremove
  | osError => exact hremove
  | _ => exact touches_throw _

theorem touches_store (upload : Upload) :
    Touches (· ∈ assetPaths upload.assetId) (store hexdigest upload) := by
  cases hcheck : upload.check hexdigest with
  | error error =>
      rw [store_of_check_error hcheck]
      exact touches_throw error
  | ok checked =>
      obtain ⟨type, stored⟩ := checked
      rw [store_of_check hcheck]
      apply Touches.bind (touches_requireOpen _)
      intro _
      apply Touches.bind _ fun _ => touches_pure _
      have hplace : Touches _ (place hexdigest type stored upload.data) := touches_place _ _ _
      rw [(checked_of_check hcheck).assetId] at hplace
      exact (hplace.tryCatch fun error => touches_abandon type error).mono fun _ => mem_assetPaths

/-- What a load reads. -/
inductive Consults (hexdigest : List UInt8 → Sha256) (assetId : UUID) : AssetPath → Prop
  | tombstone : Consults hexdigest assetId (.tombstone (tombstoneDigest hexdigest assetId))
  | metadata : Consults hexdigest assetId (.metadata assetId)
  | image (type : AssetType) : Consults hexdigest assetId (.image assetId type)

theorem reads_readBounded {paths : AssetPath → Prop} {path : AssetPath} (hpath : paths path)
    (limit : Nat) : Reads paths (readBounded path limit) := by
  apply Reads.bind (reads_read hpath)
  intro content
  dsimp only
  split_ifs
  · exact Reads.bind (reads_throw _) fun _ => reads_pure _
  · exact reads_pure _

theorem reads_requireOpen : Reads (Consults hexdigest assetId) (requireOpen hexdigest assetId) := by
  apply Reads.bind (reads_isFile .tombstone)
  intro closed
  cases closed with
  | true => exact reads_throw _
  | false => exact reads_pure _

theorem reads_readStored {paths : AssetPath → Prop} (hpath : paths (.metadata assetId)) :
    Reads paths (readStored assetId now) := by
  apply Reads.bind (reads_readBounded hpath _)
  intro file
  apply Reads.bind (reads_ofExcept _)
  intro json
  apply Reads.bind (reads_ofExcept _)
  intro stored
  apply Reads.bind (reads_ofExcept _)
  intro _
  exact Reads.bind (reads_ofExcept _) fun _ => reads_pure _

/-- The type of an asset, where its media type has an extension. -/
def assetType? (asset : SourceAdAssetRef) : Option AssetType :=
  StrEnum.ofValue? asset.mediaType.text

theorem readImage_of_type {stored : StoredAsset} {type : AssetType}
    (h : assetType? stored.asset = some type) :
    readImage assetId stored = (do
      let image ← FileProgram.read .osError (.image assetId type)
      FileProgram.ofExcept (require (size image = stored.sizeBytes) readFailed)
      let image ← readBounded (.image assetId type) maxAssetBytes
      FileProgram.ofExcept (orRaise image.bytes? integrityFailed)) := by
  unfold readImage
  rw [show (StrEnum.ofValue? stored.asset.mediaType.text : Option AssetType) = some type from h]
  rfl

theorem readImage_of_none {stored : StoredAsset} (h : assetType? stored.asset = none) :
    readImage assetId stored = throw (.other "KeyError") := by
  unfold readImage
  rw [show (StrEnum.ofValue? stored.asset.mediaType.text : Option AssetType) = none from h]
  rfl

theorem reads_readImage {paths : AssetPath → Prop} {stored : StoredAsset}
    (hpath : ∀ type, assetType? stored.asset = some type → paths (.image assetId type)) :
    Reads paths (readImage assetId stored) := by
  cases htype : assetType? stored.asset with
  | none =>
      rw [readImage_of_none htype]
      exact reads_throw _
  | some type =>
      rw [readImage_of_type htype]
      apply Reads.bind (reads_read (hpath type htype))
      intro image
      apply Reads.bind (reads_ofExcept _)
      intro _
      exact Reads.bind (reads_readBounded (hpath type htype) _) fun _ => reads_ofExcept _

theorem reads_readAsset : Reads (Consults hexdigest assetId) (readAsset assetId now) :=
  Reads.bind (reads_readStored .metadata) fun _ =>
    Reads.bind (reads_readImage fun type _ => .image type) fun _ => reads_pure _

theorem reads_load : Reads (Consults hexdigest assetId) (load hexdigest assetId now) := by
  apply Reads.bind reads_requireOpen
  intro _
  apply Reads.bind
  · apply reads_readAsset.tryCatch
    intro error
    cases error with
    | _ => exact reads_throw _
  · intro result
    dsimp only
    split_ifs
    · exact reads_pure _
    · exact reads_throw _

/-! ## A store that fails -/

/-- A load returns this asset. -/
def Loads (hexdigest : List UInt8 → Sha256) (files : Files AssetPath FileContent) (assetId : UUID)
    (now : Datetime) (loaded : LoadedAsset) : Prop :=
  (FileProgram.run (load hexdigest assetId now) files none).1 = .ok loaded

/-- What another asset's load reads is not among the files of this one. -/
theorem not_mem_assetPaths {other : UUID} (hne : other ≠ assetId) {path : AssetPath}
    (h : Consults hexdigest other path) : path ∉ assetPaths assetId := by
  cases h with
  | tombstone => simp [assetPaths]
  | metadata => simpa [assetPaths] using hne
  | image type => simp [assetPaths, hne]

/-- Other assets are loaded as before. -/
theorem loads_iff_of_sameOff {other : UUID} (hne : other ≠ assetId)
    (h : SameOff (· ∈ assetPaths assetId) files files') {loaded : LoadedAsset} :
    Loads hexdigest files' other now loaded ↔ Loads hexdigest files other now loaded := by
  unfold Loads
  rw [reads_load.run_eq fun path hpath => h path (not_mem_assetPaths hne hpath)]

/-- Whether a tombstone stands decides whether an asset is open. -/
theorem ensures_requireOpen {post : Unit → Disk AssetPath FileContent → Prop}
    {failed : Exc → Disk AssetPath FileContent → Prop}
    (hopen : files.get? (.tombstone (tombstoneDigest hexdigest assetId)) = none →
      post () ⟨files, fault⟩)
    (hclosed : files.get? (.tombstone (tombstoneDigest hexdigest assetId)) ≠ none →
      failed .assetLifecycleClosedError ⟨files, fault⟩) :
    Ensures (requireOpen hexdigest assetId) ⟨files, fault⟩ post failed := by
  apply ensures_bind
  apply ensures_isFile
  cases htombstone : files.get? (.tombstone (tombstoneDigest hexdigest assetId)) with
  | none => exact hopen htombstone
  | some content => exact hclosed (by simp [htombstone])

theorem yields_requireOpen
    (h : files.get? (.tombstone (tombstoneDigest hexdigest assetId)) = none) :
    Yields (requireOpen hexdigest assetId) files (.ok ()) := by
  simp [Yields, requireOpen, isClosed, isFile, bind, EStateM.bind, h]
  rfl

theorem yields_requireOpen_closed
    (h : files.get? (.tombstone (tombstoneDigest hexdigest assetId)) ≠ none) :
    Yields (requireOpen hexdigest assetId) files (.error .assetLifecycleClosedError) := by
  obtain ⟨content, hcontent⟩ := Option.ne_none_iff_exists'.mp h
  simp [Yields, requireOpen, isClosed, isFile, bind, EStateM.bind, hcontent]
  rfl

/-- Nothing is loaded where a tombstone stands. -/
theorem yields_load_closed
    (h : files.get? (.tombstone (tombstoneDigest hexdigest assetId)) ≠ none) (now : Datetime) :
    Yields (load hexdigest assetId now) files (.error .assetLifecycleClosedError) :=
  yields_bind_error (yields_requireOpen_closed h)

/-- Nothing is loaded without metadata. -/
theorem yields_load_missing
    (h : files.get? (.tombstone (tombstoneDigest hexdigest assetId)) = none)
    (hmetadata : files.get? (.metadata assetId) = none) (now : Datetime) :
    Yields (load hexdigest assetId now) files (.error readFailed) := by
  apply yields_bind_ok (yields_requireOpen h)
  apply yields_bind_error
  have hread : Yields (readAsset assetId now) files (.error readFailed) :=
    yields_bind_error (yields_bind_error (yields_bind_error (yields_read_none hmetadata)))
  exact yields_tryCatch_error hread rfl

theorem not_loads_of_missing (h : files.get? (.metadata assetId) = none) (loaded : LoadedAsset) :
    ¬Loads hexdigest files assetId now loaded := by
  intro hloads
  by_cases hclosed : files.get? (.tombstone (tombstoneDigest hexdigest assetId)) = none
  · rw [Loads, (yields_load_missing hclosed h now).run] at hloads
    cases hloads
  · rw [Loads, (yields_load_closed hclosed now).run] at hloads
    cases hloads

theorem not_loads_of_closed
    (h : files.get? (.tombstone (tombstoneDigest hexdigest assetId)) ≠ none)
    (loaded : LoadedAsset) : ¬Loads hexdigest files assetId now loaded := by
  intro hloads
  rw [Loads, (yields_load_closed h now).run] at hloads
  cases hloads

/-! ## What is loaded -/

theorem yields_load (h : files.get? (.tombstone (tombstoneDigest hexdigest assetId)) = none)
    {stored : StoredAsset} {content : List UInt8}
    (hasset : Yields (readAsset assetId now) files (.ok (stored, content))) :
    Yields (load hexdigest assetId now) files
      (if Intact hexdigest stored content then .ok ⟨stored.asset, content⟩
        else .error integrityFailed) := by
  apply yields_bind_ok (yields_requireOpen h)
  apply yields_bind_ok (yields_tryCatch_ok hasset)
  dsimp only
  split_ifs
  · exact rfl
  · exact rfl

theorem not_loads_of_error
    (h : files.get? (.tombstone (tombstoneDigest hexdigest assetId)) = none) {error : Exc}
    (hasset : Yields (readAsset assetId now) files (.error error)) (loaded : LoadedAsset) :
    ¬Loads hexdigest files assetId now loaded := by
  intro hloads
  obtain ⟨raised, hload⟩ : ∃ raised, Yields (load hexdigest assetId now) files (.error raised) := by
    cases error with
    | _ => exact ⟨_, yields_bind_ok (yields_requireOpen h)
        (yields_bind_error (yields_tryCatch_error hasset rfl))⟩
  rw [Loads, hload.run] at hloads
  cases hloads

/-- The metadata and the content that a load finds. -/
structure Found (hexdigest : List UInt8 → Sha256) (files : Files AssetPath FileContent)
    (assetId : UUID) (now : Datetime) (stored : StoredAsset) (content : List UInt8) : Prop where
  is_open : files.get? (.tombstone (tombstoneDigest hexdigest assetId)) = none
  metadata : Yields (readStored assetId now) files (.ok stored)
  image : Yields (readImage assetId stored) files (.ok content)
  intact : Intact hexdigest stored content

/-- A load returns what it finds. -/
theorem loads_iff {loaded : LoadedAsset} : Loads hexdigest files assetId now loaded ↔
    ∃ stored content, Found hexdigest files assetId now stored content ∧
      loaded = ⟨stored.asset, content⟩ := by
  constructor
  · intro hloads
    have hopen : files.get? (.tombstone (tombstoneDigest hexdigest assetId)) = none := by
      by_contra hclosed
      exact not_loads_of_closed hclosed loaded hloads
    have hreads : Reads (fun _ => True) (readStored assetId now) := reads_readStored trivial
    obtain ⟨result, hmetadata, -⟩ := hreads files files fun _ _ => rfl
    cases result with
    | error error =>
        exact absurd hloads (not_loads_of_error hopen (yields_bind_error hmetadata) loaded)
    | ok stored =>
        have hreads : Reads (fun _ => True) (readImage assetId stored) :=
          reads_readImage fun _ _ => trivial
        obtain ⟨result, himage, -⟩ := hreads files files fun _ _ => rfl
        cases result with
        | error error =>
            exact absurd hloads
              (not_loads_of_error hopen (yields_bind_ok hmetadata (yields_bind_error himage))
                loaded)
        | ok content =>
            have hasset : Yields (readAsset assetId now) files (.ok (stored, content)) :=
              yields_bind_ok hmetadata (yields_bind_ok himage rfl)
            rw [Loads, (yields_load hopen hasset).run] at hloads
            split_ifs at hloads with hintact
            cases hloads
            exact ⟨stored, content, ⟨hopen, hmetadata, himage, hintact⟩, rfl⟩
  · rintro ⟨stored, content, h, rfl⟩
    have hasset : Yields (readAsset assetId now) files (.ok (stored, content)) :=
      yields_bind_ok h.metadata (yields_bind_ok h.image rfl)
    rw [Loads, (yields_load h.is_open hasset).run, if_pos h.intact]

section Found

variable {stored : StoredAsset} {content : List UInt8}

/-- Of the images, a load reads the one of the type that the metadata names. -/
theorem Found.congr (h : Found hexdigest files assetId now stored content)
    (htombstone : files'.get? (.tombstone (tombstoneDigest hexdigest assetId)) =
      files.get? (.tombstone (tombstoneDigest hexdigest assetId)))
    (hmetadata : files'.get? (.metadata assetId) = files.get? (.metadata assetId))
    (himage : ∀ type, assetType? stored.asset = some type →
      files'.get? (.image assetId type) = files.get? (.image assetId type)) :
    Found hexdigest files' assetId now stored content := by
  have hreadsStored : Reads (· = .metadata assetId) (readStored assetId now) :=
    reads_readStored rfl
  obtain ⟨result, hresult, hresult'⟩ := hreadsStored files files' (by rintro _ rfl; exact hmetadata)
  obtain rfl := hresult.unique h.metadata
  have hreadsImage : Reads
      (fun path => ∃ type, assetType? stored.asset = some type ∧ path = .image assetId type)
      (readImage assetId stored) := reads_readImage fun type htype => ⟨type, htype, rfl⟩
  obtain ⟨result, hresult, hread⟩ :=
    hreadsImage files files' (by rintro _ ⟨type, htype, rfl⟩; exact himage type htype)
  obtain rfl := hresult.unique h.image
  exact ⟨htombstone.trans h.is_open, hresult', hread, h.intact⟩

theorem Found.image_ne_none (h : Found hexdigest files assetId now stored content)
    {type : AssetType} (htype : assetType? stored.asset = some type) :
    files.get? (.image assetId type) ≠ none := by
  intro hmissing
  have himage := h.image
  rw [readImage_of_type htype] at himage
  cases himage.unique (yields_bind_error (yields_read_none hmissing))

end Found

/-! ## A store that fails -/

/-- The first operation of the cleanup that a part left by another store brings about. -/
def cleanupOperation (files : Files AssetPath FileContent) (assetId : UUID) : Option Nat :=
  if (files.get? (.part assetId)).isSome then some 2
  else if (files.get? (.metadataPart assetId)).isSome then some 3
  else none

/-- How a store is interrupted: it is struck, and then its cleanup is not; or it finds a part
in its way, and the fault is still to come. -/
inductive Interrupted (files : Files AssetPath FileContent) (fault : Option (Fault FileContent))
    (assetId : UUID) (disk : Disk AssetPath FileContent) : Prop
  | struck (hfault : disk.fault = none)
      (hstart : ∀ start count, cleanupOperation files assetId = some start →
        ¬Strikes fault (start + count))
  | blocked (start : Nat) (hstart : cleanupOperation files assetId = some start)
      (hfault : ∀ count, Strikes disk.fault count ↔ Strikes fault (start + count))
      (hsame : SameOff (· ∈ [.part assetId, .metadataPart assetId]) files disk.files)

theorem two_le_cleanupOperation {start : Nat} (h : cleanupOperation files assetId = some start) :
    2 ≤ start := by
  unfold cleanupOperation at h
  split_ifs at h
  · exact (Option.some.inj h).le
  · exact (by decide : 2 ≤ 3).trans (Option.some.inj h).le

/-- What is struck before the cleanup begins leaves the cleanup alone. -/
theorem not_strikes_cleanup {early : Nat} (h : Strikes fault early)
    (hearly : ∀ start, cleanupOperation files assetId = some start → early < start)
    (start count : Nat) (hstart : cleanupOperation files assetId = some start) :
    ¬Strikes fault (start + count) := by
  intro hstrikes
  have hsame := h.unique hstrikes
  have hbefore := hearly start hstart
  omega

theorem ensures_place {type : AssetType} {stored : StoredAsset} {data : List UInt8}
    (hid : stored.asset.assetId = assetId)
    (hopen : files.get? (.tombstone (tombstoneDigest hexdigest assetId)) = none) :
    Ensures (place hexdigest type stored data) ⟨files, fault⟩ (fun _ _ => True)
      fun error disk => error = .osError ∧ Interrupted files fault assetId disk := by
  unfold place
  rw [hid]
  apply ensures_bind
  apply ensures_mkdir_struck
  · intro h0
    refine ⟨rfl, .struck rfl (not_strikes_cleanup h0 fun start hstart => ?_)⟩
    exact Nat.lt_of_lt_of_le Nat.zero_lt_two (two_le_cleanupOperation hstart)
  intro h0
  apply ensures_bind
  cases hpart : files.get? (.part assetId) with
  | some content =>
      have hstart : cleanupOperation files assetId = some 2 := by simp [cleanupOperation, hpart]
      apply ensures_exclusiveWrite_taken (by simp [hpart])
      · intro h1
        rw [strikes_next_iff h0] at h1
        refine ⟨rfl, .struck rfl (not_strikes_cleanup h1 fun start hsame => ?_)⟩
        exact two_le_cleanupOperation hsame
      · intro h1
        refine ⟨rfl, .blocked 2 hstart (fun count => ?_) (SameOff.refl files)⟩
        rw [strikes_next_iff h1, strikes_next_iff h0, Nat.add_comm 2 count]
  | none =>
      apply ensures_exclusiveWrite_struck hpart
      · intro h1 left
        rw [strikes_next_iff h0] at h1
        refine ⟨rfl, .struck rfl (not_strikes_cleanup h1 fun start hstart => ?_)⟩
        exact two_le_cleanupOperation hstart
      intro h1
      apply ensures_bind
      cases hmetadataPart : files.get? (.metadataPart assetId) with
      | some content =>
          have hstart : cleanupOperation files assetId = some 3 := by
            simp [cleanupOperation, hpart, hmetadataPart]
          apply ensures_exclusiveWrite_taken (by simp [hmetadataPart])
          · intro h2
            rw [strikes_next_iff h1, strikes_next_iff h0] at h2
            refine ⟨rfl, .struck rfl (not_strikes_cleanup h2 fun start hsame => ?_)⟩
            obtain rfl := Option.some.inj (hstart.symm.trans hsame)
            exact Nat.lt_succ_self 2
          · intro h2
            refine ⟨rfl, .blocked 3 hstart (fun count => ?_) (SameOff.write (.head _) _ _)⟩
            rw [strikes_next_iff h2, strikes_next_iff h1, strikes_next_iff h0, Nat.add_comm 3 count]
      | none =>
          -- Nothing is in the way, so only a fault can interrupt the rest.
          have hnever : ∀ start count, cleanupOperation files assetId = some start →
              ¬Strikes fault (start + count) := by
            intro start count hstart
            simp [cleanupOperation, hpart, hmetadataPart] at hstart
          apply ensures_exclusiveWrite (by simpa using hmetadataPart)
            fun _ _ => ⟨rfl, .struck rfl hnever⟩
          intro _ _
          apply ensures_bind
          apply ensures_requireOpen _ fun hclosed => absurd (by simpa using hopen) hclosed
          intro _
          apply ensures_bind
          apply ensures_replace (by simp; rfl) fun _ => ⟨rfl, .struck rfl hnever⟩
          intro _ _
          apply ensures_bind
          apply ensures_requireOpen _ fun hclosed => absurd (by simpa using hopen) hclosed
          intro _
          apply ensures_bind
          apply ensures_replace (by simp; rfl) fun _ => ⟨rfl, .struck rfl hnever⟩
          intro _ _
          apply ensures_requireOpen _ fun hclosed => absurd (by simpa using hopen) hclosed
          exact fun _ => trivial

/-- The cleanup has removed this many of the files, and of the others at most the parts have
changed. -/
structure CleanedUp (files files' : Files AssetPath FileContent) (assetId : UUID)
    (type : AssetType) (count : Nat) : Prop where
  removed : ∀ path ∈ (paths assetId type).take count, files'.get? path = none
  other : ∀ path, path ≠ .part assetId → path ≠ .metadataPart assetId →
    path ∉ (paths assetId type).take count → files'.get? path = files.get? path

/-- A store that fails leaves no metadata, unless its cleanup is struck. -/
theorem ensures_store_failed {type : AssetType} {stored : StoredAsset}
    (hcheck : upload.check hexdigest = .ok (type, stored))
    (hopen : files.get? (.tombstone (tombstoneDigest hexdigest upload.assetId)) = none) :
    Ensures (store hexdigest upload) ⟨files, fault⟩ (fun _ _ => True) fun _ disk =>
      (∃ start count, cleanupOperation files upload.assetId = some start ∧ count < 4 ∧
        Strikes fault (start + count) ∧ CleanedUp files disk.files upload.assetId type count) ∨
      (∀ start count, cleanupOperation files upload.assetId = some start → count < 4 →
        ¬Strikes fault (start + count)) ∧ disk.files.get? (.metadata upload.assetId) = none := by
  rw [store_of_check hcheck]
  apply ensures_bind
  apply ensures_requireOpen _ fun hclosed => absurd hopen hclosed
  intro _
  apply ensures_bind
  apply ensures_tryCatch
  apply (ensures_place (checked_of_check hcheck).assetId hopen).mono
  · exact fun _ _ _ => trivial
  rintro _ ⟨placed, later⟩ ⟨rfl, hinterrupted⟩
  apply ensures_bind
  have hmissing : (placed.removeAll (paths upload.assetId type)).get?
      (.metadata upload.assetId) = none := by simp [paths]
  cases hinterrupted with
  | struck hfault hstart =>
      cases hfault
      apply ensures_unlinkAll
      apply ensures_throw
      exact Or.inr ⟨fun start count hsame _ => hstart start count hsame, hmissing⟩
  | blocked start hstart hfault hsame =>
      apply ensures_unlinkAll_struck
      · intro count hcount hstrikes
        refine Or.inl ⟨start, count, hstart, hcount, (hfault count).mp hstrikes, ?_, ?_⟩
        · intro path hpath
          rw [Files.get?_removeAll, if_pos hpath]
        · intro path hpart hmetadataPart hpath
          rw [Files.get?_removeAll, if_neg hpath]
          exact hsame path (by simp [hpart, hmetadataPart])
      · intro hnone fault'
        apply ensures_throw
        refine Or.inr ⟨fun start' count hstart' hcount hstrikes => ?_, hmissing⟩
        obtain rfl := Option.some.inj (hstart.symm.trans hstart')
        exact hnone count hcount ((hfault count).mpr hstrikes)

/-- Whatever could be loaded still can. -/
def Kept (hexdigest : List UInt8 → Sha256) (files files' : Files AssetPath FileContent) : Prop :=
  ∀ assetId now loaded, Loads hexdigest files assetId now loaded →
    Loads hexdigest files' assetId now loaded

/-- An asset that can be loaded, and whose image has this type. -/
def HoldsImage (hexdigest : List UInt8 → Sha256) (files : Files AssetPath FileContent)
    (assetId : UUID) (type : AssetType) : Prop :=
  ∃ now loaded, Loads hexdigest files assetId now loaded ∧ assetType? loaded.asset = some type

/-- As long as the cleanup has not come to the image, nothing is lost. -/
theorem CleanedUp.loads {type : AssetType} {count : Nat} {loaded : LoadedAsset}
    (h : CleanedUp files files' assetId type count) (hcount : count < 4)
    (hspared : count ≤ 2 ∨ ¬HoldsImage hexdigest files assetId type)
    (hloads : Loads hexdigest files assetId now loaded) :
    Loads hexdigest files' assetId now loaded := by
  have hmem {path : AssetPath} (hpath : path ∈ (paths assetId type).take count) :
      path ∈ [.part assetId, .metadataPart assetId, .image assetId type] := by
    have hthree := List.take_subset_take_left (paths assetId type) (Nat.le_of_lt_succ hcount) hpath
    exact hthree
  obtain ⟨stored, content, hfound, rfl⟩ := loads_iff.mp hloads
  refine loads_iff.mpr ⟨stored, content, hfound.congr ?_ ?_ fun named hnamed => ?_, rfl⟩
  · exact h.other _ nofun nofun fun hpath => by simpa using hmem hpath
  · exact h.other _ nofun nofun fun hpath => by simpa using hmem hpath
  · refine h.other _ nofun nofun fun hpath => ?_
    obtain rfl : named = type := by simpa using hmem hpath
    rcases hspared with htwo | hnone
    · have hparts := List.take_subset_take_left (paths assetId named) htwo hpath
      simp [paths] at hparts
    · exact hnone ⟨now, _, hloads, hnamed⟩

/-- The unlink that fails belongs to the cleanup that a part left by another store brings about,
and it comes before an image that can be loaded is lost. -/
def StoppedInTime (hexdigest : List UInt8 → Sha256) (files : Files AssetPath FileContent)
    (fault : Option (Fault FileContent)) (assetId : UUID) (type : AssetType) : Prop :=
  ∃ start count, cleanupOperation files assetId = some start ∧ Strikes fault (start + count) ∧
    count < 4 ∧ (count ≤ 2 ∨ ¬HoldsImage hexdigest files assetId type)

/-- A cleanup that is not stopped in time destroys an asset that can be loaded. -/
theorem CleanedUp.not_kept {type : AssetType}
    (h : CleanedUp files files' assetId type 3) (hheld : HoldsImage hexdigest files assetId type) :
    ¬Kept hexdigest files files' := by
  obtain ⟨now, loaded, hloads, htype⟩ := hheld
  intro hkept
  obtain ⟨stored, content, hfound, rfl⟩ := loads_iff.mp (hkept _ now loaded hloads)
  exact hfound.image_ne_none htype (h.removed _ (by simp [paths]))

/-- Where its identifier names an asset that can be loaded, a store that raises keeps the asset
exactly when a failing unlink stops its cleanup in time. -/
theorem kept_iff_stoppedInTime {type : AssetType} {stored : StoredAsset} {loaded : LoadedAsset}
    {error : Exc} (hcheck : upload.check hexdigest = .ok (type, stored))
    (hloads : Loads hexdigest files upload.assetId now loaded)
    (h : (FileProgram.run (store hexdigest upload) files fault).1 = .error error) :
    Kept hexdigest files (FileProgram.run (store hexdigest upload) files fault).2 ↔
      StoppedInTime hexdigest files fault upload.assetId type := by
  have htouches : Touches _ (store hexdigest upload) := touches_store upload
  have hother := htouches.run files fault
  obtain ⟨found, content, hfound, -⟩ := loads_iff.mp hloads
  have hfailed : Ensures (store hexdigest upload) ⟨files, fault⟩ _ _ :=
    ensures_store_failed hcheck hfound.is_open
  rcases hfailed.run with ⟨_, _, hrun, -⟩ |
    ⟨_, disk, hrun, ⟨start, count, hstart, hcount, hstrikes, hcleaned⟩ | ⟨hnone, hmissing⟩⟩
  · rw [hrun] at h
    cases h
  · rw [hrun] at hother ⊢
    by_cases hspared : count ≤ 2 ∨ ¬HoldsImage hexdigest files upload.assetId type
    · refine iff_of_true ?_ ⟨start, count, hstart, hstrikes, hcount, hspared⟩
      intro other now loaded hloads
      by_cases hsame : other = upload.assetId
      · exact hsame ▸ hcleaned.loads hcount hspared (hsame ▸ hloads)
      · exact (loads_iff_of_sameOff hsame hother).mpr hloads
    · obtain ⟨hlate, hheld⟩ := not_or.mp hspared
      obtain rfl : count = 3 := by omega
      apply iff_of_false (hcleaned.not_kept (not_not.mp hheld))
      rintro ⟨start', count', hstart', hstrikes', -, hspared'⟩
      obtain rfl := Option.some.inj (hstart.symm.trans hstart')
      have hcounts := hstrikes.unique hstrikes'
      exact hspared (hspared'.imp_left fun hearly => by omega)
  · rw [hrun]
    apply iff_of_false
    · exact fun hkept => not_loads_of_missing hmissing loaded (hkept _ now loaded hloads)
    · rintro ⟨start, count, hstart, hstrikes, hcount, -⟩
      exact hnone start count hstart hcount hstrikes

/-- A store that raises destroys an asset exactly when it has passed its checks, its identifier
names an asset that can be loaded, and no failing unlink stops its cleanup in time. -/
theorem kept_iff {error : Exc}
    (h : (FileProgram.run (store hexdigest upload) files fault).1 = .error error) :
    Kept hexdigest files (FileProgram.run (store hexdigest upload) files fault).2 ↔
      (∃ refused, upload.check hexdigest = .error refused) ∨
        (¬∃ now loaded, Loads hexdigest files upload.assetId now loaded) ∨
        ∃ type stored, upload.check hexdigest = .ok (type, stored) ∧
          StoppedInTime hexdigest files fault upload.assetId type := by
  cases hcheck : upload.check hexdigest with
  | error refused =>
      rw [store_of_check_error hcheck]
      exact iff_of_true (fun _ _ _ => id) (Or.inl ⟨refused, rfl⟩)
  | ok checked =>
      obtain ⟨type, stored⟩ := checked
      by_cases hloadable : ∃ now loaded, Loads hexdigest files upload.assetId now loaded
      · obtain ⟨now, loaded, hloads⟩ := id hloadable
        rw [kept_iff_stoppedInTime hcheck hloads h]
        constructor
        · exact fun hstopped => Or.inr (Or.inr ⟨type, stored, rfl, hstopped⟩)
        · rintro (⟨_, hrefused⟩ | hnone | ⟨_, _, hsame, hstopped⟩)
          · cases hrefused
          · exact absurd hloadable hnone
          · cases hsame
            exact hstopped
      · refine iff_of_true (fun other now loaded hloads => ?_) (Or.inr (Or.inl hloadable))
        have htouches : Touches _ (store hexdigest upload) := touches_store upload
        have hne : other ≠ upload.assetId := by
          rintro rfl
          exact hloadable ⟨now, loaded, hloads⟩
        exact (loads_iff_of_sameOff hne (htouches.run files fault)).mpr hloads

end AssetStorage

end CultureShift
