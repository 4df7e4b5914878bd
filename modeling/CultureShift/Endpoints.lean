/-
# The other endpoints

Besides the workflow, a run is read, a version is exported, and a source ad is
uploaded and deleted. Reading needs the capability for the run; deleting needs
one of its own, which the upload issues.
-/

import CultureShift.AssetStorage

namespace CultureShift

open Serialization Relational Concurrent

variable {κ : Type}

/-- An upload as it arrives: who sends it, the headers, and the body in chunks. -/
structure UploadRequest where
  client : Option String
  chunks : List (List UInt8)
  contentType : String
  provenanceRef : String
  rightsRef : String

/-- What an export answers. -/
structure Download where
  content : List UInt8
  mediaType : String
  headers : List (String × String)

/-- What `create_app` puts together, with what only these endpoints use. -/
structure Api (κ : Type) extends App κ where
  /-- `upload_limit.allow` -/
  allowUpload : String → Program κ Exc Bool
  /-- `assets.store`: the content, its declared media type, and both references. -/
  storeAsset : List UInt8 → String → String → String → Program κ Exc StoredAsset
  /-- `assets.delete`, with the reason. -/
  removeAsset : UUID → String → Program κ Exc Bool

namespace Api

variable (api : Api κ)

/-! ## get_run -/

def getRun (runId : UUID) (request : HttpRequest) : Program (World κ) Exc RunSnapshot := do
  api.requireCapability .readProjectRun runId request
  let run ← App.orNotFound (api.runs.get runId)
  .ofExcept <| validated <|
    RunSnapshot.validate run.id run.direction run.status run.warningCodes run.createdAt
      run.updatedAt

/-! ## export_composition_png and export_composition_json -/

def exportStatus : CompositionExportErrorCode → Nat
  | .runNotFound => 404
  | .compositionUnavailable => 409
  | .artifactUnavailable => 410

/-- The file that a browser makes of it. -/
def download (runId : UUID) (content : List UInt8) (mediaType extension : String) : Download where
  content := content
  mediaType := mediaType
  headers :=
    [("Content-Disposition",
        "attachment; filename=\"cultureshift-" ++ runId.text ++ "." ++ extension ++ "\""),
      ("X-Content-Type-Options", "nosniff")]

/-- What both endpoints check before they call the service, and how they report its errors. -/
def exporting {α : Type} (runId : UUID) (request : HttpRequest)
    (program : Program (World κ) Exc α) : Program (World κ) Exc α := do
  api.requireCapability .readProjectRun runId request
  program.tryCatch fun
  | .compositionExportError code => App.httpError (exportStatus code) (StrEnum.value code)
  | error => .raise error

def exportCompositionPng (runId : UUID) (version : ResultVersion) (request : HttpRequest) :
    Program (World κ) Exc Download := do
  let exported ← api.exporting runId request (api.exports.exportPng runId version)
  return download runId exported.pngBytes "image/png" "png"

def exportCompositionJson (runId : UUID) (version : ResultVersion) (request : HttpRequest) :
    Program (World κ) Exc Download := do
  let encoded ← api.exporting runId request (api.exports.exportJson runId version)
  return download runId encoded.toUTF8.data.toList "application/json" "json"

/-! ## upload_asset -/

/-- The body, unless it exceeds the limit before it ends. -/
def receive : List UInt8 → List (List UInt8) → Option (List UInt8)
  | content, [] => some content
  | content, chunk :: chunks =>
      if AssetStorage.maxAssetBytes < (content ++ chunk).length then none
      else receive (content ++ chunk) chunks

/-- How the errors of an upload are reported. -/
def uploadFailure : Exc → Nat × String
  | .assetEmptyError => (400, "asset_empty")
  | .unsupportedAssetTypeError => (415, "unsupported_asset_type")
  | .assetTypeMismatchError => (415, "asset_type_mismatch")
  | .assetTooLargeError => (413, "asset_too_large")
  | .assetMetadataError => (422, "invalid_asset_metadata")
  | .assetLifecycleClosedError => (409, "asset_lifecycle_closed")
  | _ => (500, "asset_storage_failed")

/-- Store the content, and issue the capability to delete it. Without a capability the asset is
deleted again. -/
def storeUpload (request : UploadRequest) (content : List UInt8) :
    Program (World κ) Exc AssetUploaded := do
  let stored ← outside <|
    api.storeAsset content request.contentType request.provenanceRef request.rightsRef
  let token ← (outside <| api.tokens.issue stored.asset.assetId.text [.deleteAsset]).tryCatch
    fun error => do
      let _ ← outside (api.removeAsset stored.asset.assetId "token_issue_failed")
      .raise error
  .ofExcept <| validated <|
    AssetUploaded.validate stored.asset stored.sizeBytes stored.createdAt token

def uploadAsset (request : UploadRequest) : Program (World κ) Exc AssetUploaded := do
  let allowed ← outside (api.allowUpload (request.client.getD "unknown-client"))
  if allowed = false then App.httpError 429 "upload_rate_limited"
  else
    match receive [] request.chunks with
    | none => App.httpError 413 "asset_too_large"
    | some content =>
        (api.storeUpload request content).tryCatch fun error =>
          App.httpError (uploadFailure error).1 (uploadFailure error).2

/-! ## delete_asset -/

def deleteAsset (assetId : UUID) (request : HttpRequest) : Program (World κ) Exc Unit := do
  api.requireCapability .deleteAsset assetId request
  let _ ← (outside (api.removeAsset assetId "deleted")).tryCatch fun
    | .assetStorageError _ => App.httpError 500 "asset_deletion_failed"
    | error => .raise error
  return ()

/-! ## What they receive and read -/

end Api

end CultureShift
