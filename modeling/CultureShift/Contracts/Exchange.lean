/-
# Requests and responses

The bodies the endpoints accept and the responses they build. A response is
validated when it is built, so building one can fail.
-/

import CultureShift.Contracts.Artifacts

namespace CultureShift

open Serialization

inductive ProductCategory
  | aiSoftware | aiApplication
deriving DecidableEq

instance : StrEnum ProductCategory where
  values := [.aiSoftware, .aiApplication]
  value
    | .aiSoftware => "ai_software"
    | .aiApplication => "ai_application"
  find_value member := by cases member <;> rfl

/-! ## Creating a run -/

structure RunCreate where
  direction : LocalizationDirection
  executionMode : ExecutionMode
  sourceAsset : SourceAdAssetRef
  brandLock : BrandLock
  productCategory : ProductCategory
  fixture_only : executionMode = .fixture
deriving DecidableEq

namespace RunCreate

def validate (direction : LocalizationDirection) (executionMode : ExecutionMode)
    (sourceAsset : SourceAdAssetRef) (brandLock : BrandLock) (productCategory : ProductCategory) :
    Option RunCreate :=
  if h : executionMode = .fixture then
    some ⟨direction, executionMode, sourceAsset, brandLock, productCategory, h⟩
  else none

/-- The only one there is. -/
def creativeFormat (_request : RunCreate) : String := "static_ad"

theorem validate_self (request : RunCreate) :
    validate request.direction request.executionMode request.sourceAsset request.brandLock
        request.productCategory = some request :=
  dif_pos request.fixture_only

instance : Codec RunCreate where
  encode request := .obj
    [("direction", encode request.direction), ("execution_mode", encode request.executionMode),
      ("source_asset", encode request.sourceAsset), ("brand_lock", encode request.brandLock),
      ("product_category", encode request.productCategory),
      ("creative_format", encode (⟨⟩ : Codec.Constant "static_ad"))]
  decode json := do
    let members ← json.record
      ["direction", "execution_mode", "source_asset", "brand_lock", "product_category",
        "creative_format"]
    let _ ← (Json.field members "creative_format" : Option (Codec.Constant "static_ad"))
    validate (← Json.field members "direction") (← Json.field members "execution_mode")
      (← Json.field members "source_asset") (← Json.field members "brand_lock")
      (← Json.field members "product_category")
  decode_encode request := by
    rw [Json.record_obj (by rfl)]
    simp [request.validate_self]

end RunCreate

structure RunCreated where
  runId : UUID
  status : RunStatus
  capabilityToken : String
  createdAt : Datetime
  token_valid : 16 ≤ capabilityToken.length ∧ capabilityToken.length ≤ 4096

def RunCreated.validate (runId : UUID) (status : RunStatus) (capabilityToken : String)
    (createdAt : Datetime) : Option RunCreated :=
  if h : 16 ≤ (strip capabilityToken).length ∧ (strip capabilityToken).length ≤ 4096 then
    some ⟨runId, status, strip capabilityToken, createdAt, h⟩
  else none

structure RunSnapshot where
  runId : UUID
  direction : LocalizationDirection
  status : RunStatus
  warningCodes : List WarningCode
  createdAt : Datetime
  updatedAt : Datetime
  length_valid : warningCodes.length ≤ 32

def RunSnapshot.validate (runId : UUID) (direction : LocalizationDirection) (status : RunStatus)
    (warningCodes : List String) (createdAt updatedAt : Datetime) : Option RunSnapshot := do
  let codes ← warningCodes.mapM PatternText.validate
  if h : codes.length ≤ 32 then some ⟨runId, direction, status, codes, createdAt, updatedAt, h⟩
  else none

/-! ## Uploading an asset -/

structure AssetUploaded where
  asset : SourceAdAssetRef
  sizeBytes : Nat
  createdAt : Datetime
  deleteCapabilityToken : String
  size_valid : 1 ≤ sizeBytes ∧ sizeBytes ≤ 10 * 1024 * 1024
  token_valid : 16 ≤ deleteCapabilityToken.length ∧ deleteCapabilityToken.length ≤ 4096

def AssetUploaded.validate (asset : SourceAdAssetRef) (sizeBytes : Nat) (createdAt : Datetime)
    (deleteCapabilityToken : String) : Option AssetUploaded :=
  if h : (1 ≤ sizeBytes ∧ sizeBytes ≤ 10 * 1024 * 1024) ∧
      16 ≤ (strip deleteCapabilityToken).length ∧
      (strip deleteCapabilityToken).length ≤ 4096 then
    some ⟨asset, sizeBytes, createdAt, strip deleteCapabilityToken, h.1, h.2⟩
  else none

/-! ## Responses of the first version -/

structure AnalysisCompleted where
  runId : UUID
  analysis : AdAnalysis
  repairAttempted : Bool
  completedAt : Datetime

structure BrandLockConfirmed where
  runId : UUID
  brandLock : BrandLock
  confirmedAt : Datetime

/-- The locale and rule identifiers a draft must have, by direction. -/
def expectedDraft : LocalizationDirection → Locale × List String
  | .chinaToUk => (.enGB, ["ZEU-S1", "ZEU-S3"])
  | .ukToChina => (.zhCN, ["EZC-S1", "EZC-S3"])

/-- `preserve_directional_constraints`. -/
def DirectionalDraft (brief : CreativeBrief) (adCopy : AdCopy) (ruleIds : List String) : Prop :=
  (brief.targetLocale = (expectedDraft brief.direction).1 ∧
      adCopy.locale = (expectedDraft brief.direction).1) ∧
    adCopy.ctaActionMeaning = brief.brandLock.ctaActionMeaning ∧
    ruleIds = (expectedDraft brief.direction).2

instance (brief : CreativeBrief) (adCopy : AdCopy) (ruleIds : List String) :
    Decidable (DirectionalDraft brief adCopy ruleIds) :=
  inferInstanceAs (Decidable (_ ∧ _ ∧ _))

structure DraftGenerated where
  runId : UUID
  brief : CreativeBrief
  adCopy : AdCopy
  ruleIds : List String
  generatedAt : Datetime
  directional : DirectionalDraft brief adCopy ruleIds

def DraftGenerated.validate (runId : UUID) (brief : CreativeBrief) (adCopy : AdCopy)
    (ruleIds : List String) (generatedAt : Datetime) : Option DraftGenerated :=
  if h : DirectionalDraft brief adCopy (ruleIds.map strip) then
    some ⟨runId, brief, adCopy, ruleIds.map strip, generatedAt, h⟩
  else none

structure CritiqueCompleted where
  runId : UUID
  status : RunStatus
  critique : CritiqueReport
  initialGenerationCount : Nat
  humanRevisionCount : Nat
  technicalAttemptCount : Nat
  reviewedAt : Datetime
  status_valid : status = .ready ∨ status = .failedFinal
  counts_valid : initialGenerationCount ≤ 1 ∧ humanRevisionCount ≤ 1
  timestamp_matches : reviewedAt = critique.reviewedAt

def CritiqueCompleted.validate (runId : UUID) (status : RunStatus) (critique : CritiqueReport)
    (initialGenerationCount humanRevisionCount technicalAttemptCount : Nat)
    (reviewedAt : Datetime) : Option CritiqueCompleted :=
  if h : (status = .ready ∨ status = .failedFinal) ∧
      (initialGenerationCount ≤ 1 ∧ humanRevisionCount ≤ 1) ∧
      reviewedAt = critique.reviewedAt then
    some ⟨runId, status, critique, initialGenerationCount, humanRevisionCount,
      technicalAttemptCount, reviewedAt, h.1, h.2.1, h.2.2⟩
  else none

/-- A background is asked for in the locale of its direction, 1600 by 900, and
with the fixed guardrails. -/
structure BackgroundRequest where
  direction : LocalizationDirection
  targetLocale : Locale
  narrative : LongText
  useScenario : LongText
  locale_matches : targetLocale = (expectedDraft direction).1

def BackgroundRequest.validate (direction : LocalizationDirection) (targetLocale : Locale)
    (narrative useScenario : LongText) : Option BackgroundRequest :=
  if h : targetLocale = (expectedDraft direction).1 then
    some ⟨direction, targetLocale, narrative, useScenario, h⟩
  else none

/-! ## Revisions -/

inductive RevisionChange
  | shortenHeadline | shortenBody
deriving DecidableEq

instance : StrEnum RevisionChange where
  values := [.shortenHeadline, .shortenBody]
  value
    | .shortenHeadline => "shorten_headline"
    | .shortenBody => "shorten_body"
  find_value member := by cases member <;> rfl

structure FeedbackRequest where
  runId : UUID
  feedback : LongText
  requestedChanges : List RevisionChange
  submittedAt : Datetime
  changes_valid : (1 ≤ requestedChanges.length ∧ requestedChanges.length ≤ 2) ∧
    requestedChanges.Nodup
deriving DecidableEq

namespace FeedbackRequest

def validate (runId : UUID) (feedback : LongText) (requestedChanges : List RevisionChange)
    (submittedAt : Datetime) : Option FeedbackRequest :=
  if h : (1 ≤ requestedChanges.length ∧ requestedChanges.length ≤ 2) ∧
      requestedChanges.Nodup then
    some ⟨runId, feedback, requestedChanges, submittedAt, h⟩
  else none

theorem validate_self (request : FeedbackRequest) :
    validate request.runId request.feedback request.requestedChanges request.submittedAt =
      some request :=
  dif_pos request.changes_valid

instance : Codec FeedbackRequest where
  encode request := .obj
    [("run_id", encode request.runId), ("feedback", encode request.feedback),
      ("requested_changes", encode request.requestedChanges),
      ("submitted_at", encode request.submittedAt)]
  decode json := do
    let members ← json.record ["run_id", "feedback", "requested_changes", "submitted_at"]
    validate (← Json.field members "run_id") (← Json.field members "feedback")
      (← Json.field members "requested_changes") (← Json.field members "submitted_at")
  decode_encode request := by
    rw [Json.record_obj (by rfl)]
    simp [request.validate_self]

end FeedbackRequest

inductive ReasonCategory
  | validation | generation | review
deriving DecidableEq

instance : StrEnum ReasonCategory where
  values := [.validation, .generation, .review]
  value
    | .validation => "validation"
    | .generation => "generation"
    | .review => "review"
  find_value member := by cases member <;> rfl

structure RetryRequest where
  runId : UUID
  reasonCategory : ReasonCategory
deriving DecidableEq

instance : Codec RetryRequest where
  encode request := .obj
    [("run_id", encode request.runId), ("reason_category", encode request.reasonCategory)]
  decode json := do
    let members ← json.record ["run_id", "reason_category"]
    pure
      { runId := ← Json.field members "run_id"
        reasonCategory := ← Json.field members "reason_category" }
  decode_encode request := by
    rw [Json.record_obj (by rfl)]
    simp

/-- `preserve_revision_identity`. -/
def RevisionIdentity (runId : UUID) (status : RunStatus)
    (previousComposition : CompositionGenerated) (brief : CreativeBrief) (adCopy : AdCopy)
    (composition : CompositionGenerated) (critique : CritiqueReport) : Prop :=
  (previousComposition.runId = runId ∧ composition.runId = runId) ∧
    previousComposition.artifactId ≠ composition.artifactId ∧
    (adCopy.locale = brief.targetLocale ∧
      adCopy.ctaActionMeaning = brief.brandLock.ctaActionMeaning) ∧
    (critique.status = .reject ↔ status = .failedFinal)

instance (runId : UUID) (status : RunStatus) (previousComposition : CompositionGenerated)
    (brief : CreativeBrief) (adCopy : AdCopy) (composition : CompositionGenerated)
    (critique : CritiqueReport) :
    Decidable (RevisionIdentity runId status previousComposition brief adCopy composition
      critique) :=
  inferInstanceAs (Decidable (_ ∧ _ ∧ _ ∧ _))

/-- The response to a revision. It is version 2, counts one generation and one
human revision, and is stored so that it can be sent again. -/
structure RevisionCompleted where
  runId : UUID
  status : RunStatus
  previousComposition : CompositionGenerated
  brief : CreativeBrief
  adCopy : AdCopy
  composition : CompositionGenerated
  critique : CritiqueReport
  technicalAttemptCount : Nat
  revisedAt : Datetime
  status_valid : status = .ready ∨ status = .failedFinal
  identity : RevisionIdentity runId status previousComposition brief adCopy composition critique
deriving DecidableEq

namespace RevisionCompleted

def validate (runId : UUID) (status : RunStatus) (previousComposition : CompositionGenerated)
    (brief : CreativeBrief) (adCopy : AdCopy) (composition : CompositionGenerated)
    (critique : CritiqueReport) (technicalAttemptCount : Nat) (revisedAt : Datetime) :
    Option RevisionCompleted :=
  if h : (status = .ready ∨ status = .failedFinal) ∧
      RevisionIdentity runId status previousComposition brief adCopy composition critique then
    some ⟨runId, status, previousComposition, brief, adCopy, composition, critique,
      technicalAttemptCount, revisedAt, h.1, h.2⟩
  else none

theorem validate_self (response : RevisionCompleted) :
    validate response.runId response.status response.previousComposition response.brief
        response.adCopy response.composition response.critique response.technicalAttemptCount
        response.revisedAt = some response :=
  dif_pos ⟨response.status_valid, response.identity⟩

instance : Codec RevisionCompleted where
  encode response := .obj
    [("run_id", encode response.runId), ("status", encode response.status),
      ("result_version", encode (⟨⟩ : Codec.Constant (2 : Int))),
      ("previous_composition", encode response.previousComposition),
      ("brief", encode response.brief), ("copy", encode response.adCopy),
      ("composition", encode response.composition), ("critique", encode response.critique),
      ("initial_generation_count", encode (⟨⟩ : Codec.Constant (1 : Int))),
      ("human_revision_count", encode (⟨⟩ : Codec.Constant (1 : Int))),
      ("technical_attempt_count", encode response.technicalAttemptCount),
      ("revised_at", encode response.revisedAt)]
  decode json := do
    let members ← json.record
      ["run_id", "status", "result_version", "previous_composition", "brief", "copy",
        "composition", "critique", "initial_generation_count", "human_revision_count",
        "technical_attempt_count", "revised_at"]
    let _ ← (Json.field members "result_version" : Option (Codec.Constant (2 : Int)))
    let _ ← (Json.field members "initial_generation_count" : Option (Codec.Constant (1 : Int)))
    let _ ← (Json.field members "human_revision_count" : Option (Codec.Constant (1 : Int)))
    validate (← Json.field members "run_id") (← Json.field members "status")
      (← Json.field members "previous_composition") (← Json.field members "brief")
      (← Json.field members "copy") (← Json.field members "composition")
      (← Json.field members "critique") (← Json.field members "technical_attempt_count")
      (← Json.field members "revised_at")
  decode_encode response := by
    rw [Json.record_obj (by rfl)]
    simp [response.validate_self]

end RevisionCompleted

end CultureShift
