/-
# Artifacts

What a run produces: the analysis of a source ad, the Brand Lock, the brief and
copy of a draft, the composition and the Critic report. Each type carries the
checks of its contract as a field. `validate` runs the checks, and reading an
artifact from JSON validates it again.
-/

import CultureShift.Domain

namespace CultureShift

open Serialization

inductive Market
  | china | unitedKingdom
deriving DecidableEq

instance : StrEnum Market where
  values := [.china, .unitedKingdom]
  value
    | .china => "china"
    | .unitedKingdom => "united_kingdom"
  find_value member := by cases member <;> rfl

inductive Locale
  | zhCN | enGB
deriving DecidableEq

instance : StrEnum Locale where
  values := [.zhCN, .enGB]
  value
    | .zhCN => "zh-CN"
    | .enGB => "en-GB"
  find_value member := by cases member <;> rfl

inductive ExecutionMode
  | fixture | live
deriving DecidableEq

instance : StrEnum ExecutionMode where
  values := [.fixture, .live]
  value
    | .fixture => "fixture"
    | .live => "live"
  find_value member := by cases member <;> rfl

inductive LocalizableField
  | narrative | useScenario | trustInformation | language
deriving DecidableEq

instance : StrEnum LocalizableField where
  values := [.narrative, .useScenario, .trustInformation, .language]
  value
    | .narrative => "narrative"
    | .useScenario => "use_scenario"
    | .trustInformation => "trust_information"
    | .language => "language"
  find_value member := by cases member <;> rfl

/-! ## Analysis -/

/-- A reference to an uploaded source ad. -/
structure SourceAdAssetRef where
  assetId : UUID
  mediaType : MediaType
  sha256 : Sha256
  provenanceRef : PublicReference
  rightsRef : PublicReference
  expiresAt : Option Datetime
deriving DecidableEq

instance : Codec SourceAdAssetRef where
  encode asset := .obj
    [("asset_id", encode asset.assetId), ("kind", encode (⟨⟩ : Codec.Constant "source_ad")),
      ("media_type", encode asset.mediaType), ("sha256", encode asset.sha256),
      ("provenance_ref", encode asset.provenanceRef), ("rights_ref", encode asset.rightsRef),
      ("expires_at", encode asset.expiresAt)]
  decode json := do
    let members ← json.record
      ["asset_id", "kind", "media_type", "sha256", "provenance_ref", "rights_ref", "expires_at"]
    let _ ← (Json.field members "kind" : Option (Codec.Constant "source_ad"))
    pure
      { assetId := ← Json.field members "asset_id"
        mediaType := ← Json.field members "media_type"
        sha256 := ← Json.field members "sha256"
        provenanceRef := ← Json.field members "provenance_ref"
        rightsRef := ← Json.field members "rights_ref"
        expiresAt := ← Json.fieldOr members "expires_at" none }
  decode_encode asset := by
    rw [Json.record_obj (by rfl)]
    simp

inductive Uncertainty
  | low | medium | high
deriving DecidableEq

instance : StrEnum Uncertainty where
  values := [.low, .medium, .high]
  value
    | .low => "low"
    | .medium => "medium"
    | .high => "high"
  find_value member := by cases member <;> rfl

inductive ReviewStatus
  | pending | accepted | rejected
deriving DecidableEq

instance : StrEnum ReviewStatus where
  values := [.pending, .accepted, .rejected]
  value
    | .pending => "pending"
    | .accepted => "accepted"
    | .rejected => "rejected"
  find_value member := by cases member <;> rfl

structure CulturalHypothesis where
  hypothesisId : UUID
  targetMarket : Market
  claim : LongText
  evidenceRefs : List PublicReference
  uncertainty : Uncertainty
  rationale : LongText
  validationRequirements : List ShortText
  reviewStatus : ReviewStatus
  valid : (1 ≤ evidenceRefs.length ∧ evidenceRefs.length ≤ 32) ∧
    1 ≤ validationRequirements.length ∧ validationRequirements.length ≤ 16
deriving DecidableEq

namespace CulturalHypothesis

def validate (hypothesisId : UUID) (targetMarket : Market) (claim : LongText)
    (evidenceRefs : List PublicReference) (uncertainty : Uncertainty) (rationale : LongText)
    (validationRequirements : List ShortText) (reviewStatus : ReviewStatus) :
    Option CulturalHypothesis :=
  if h : (1 ≤ evidenceRefs.length ∧ evidenceRefs.length ≤ 32) ∧
      1 ≤ validationRequirements.length ∧ validationRequirements.length ≤ 16 then
    some ⟨hypothesisId, targetMarket, claim, evidenceRefs, uncertainty, rationale,
      validationRequirements, reviewStatus, h⟩
  else none

theorem validate_self (hypothesis : CulturalHypothesis) :
    validate hypothesis.hypothesisId hypothesis.targetMarket hypothesis.claim
        hypothesis.evidenceRefs hypothesis.uncertainty hypothesis.rationale
        hypothesis.validationRequirements hypothesis.reviewStatus = some hypothesis :=
  dif_pos hypothesis.valid

instance : Codec CulturalHypothesis where
  encode hypothesis := .obj
    [("hypothesis_id", encode hypothesis.hypothesisId),
      ("target_market", encode hypothesis.targetMarket), ("claim", encode hypothesis.claim),
      ("evidence_refs", encode hypothesis.evidenceRefs),
      ("uncertainty", encode hypothesis.uncertainty), ("rationale", encode hypothesis.rationale),
      ("validation_requirements", encode hypothesis.validationRequirements),
      ("review_status", encode hypothesis.reviewStatus)]
  decode json := do
    let members ← json.record
      ["hypothesis_id", "target_market", "claim", "evidence_refs", "uncertainty", "rationale",
        "validation_requirements", "review_status"]
    validate (← Json.field members "hypothesis_id") (← Json.field members "target_market")
      (← Json.field members "claim") (← Json.field members "evidence_refs")
      (← Json.field members "uncertainty") (← Json.field members "rationale")
      (← Json.field members "validation_requirements")
      (← Json.fieldOr members "review_status" .pending)
  decode_encode hypothesis := by
    rw [Json.record_obj (by rfl)]
    simp [hypothesis.validate_self]

end CulturalHypothesis

/-- What a localization must not change, and the fields it may. -/
structure BrandLock where
  logoAssetId : UUID
  productName : ShortText
  verifiedProductFacts : List ShortText
  productUiAssetIds : List UUID
  benefitOrder : List ShortText
  ctaActionMeaning : ShortText
  layoutTemplateAssetId : UUID
  localizableFields : List LocalizableField
  lengths_valid : (1 ≤ verifiedProductFacts.length ∧ verifiedProductFacts.length ≤ 32) ∧
    (1 ≤ productUiAssetIds.length ∧ productUiAssetIds.length ≤ 16) ∧
    (1 ≤ benefitOrder.length ∧ benefitOrder.length ≤ 16) ∧
    1 ≤ localizableFields.length ∧ localizableFields.length ≤ 4
  sequences_unique : verifiedProductFacts.Nodup ∧ productUiAssetIds.Nodup ∧ benefitOrder.Nodup ∧
    localizableFields.Nodup
deriving DecidableEq

namespace BrandLock

def validate (logoAssetId : UUID) (productName : ShortText)
    (verifiedProductFacts : List ShortText) (productUiAssetIds : List UUID)
    (benefitOrder : List ShortText) (ctaActionMeaning : ShortText) (layoutTemplateAssetId : UUID)
    (localizableFields : List LocalizableField) : Option BrandLock :=
  if h : ((1 ≤ verifiedProductFacts.length ∧ verifiedProductFacts.length ≤ 32) ∧
      (1 ≤ productUiAssetIds.length ∧ productUiAssetIds.length ≤ 16) ∧
      (1 ≤ benefitOrder.length ∧ benefitOrder.length ≤ 16) ∧
      1 ≤ localizableFields.length ∧ localizableFields.length ≤ 4) ∧
      (verifiedProductFacts.Nodup ∧ productUiAssetIds.Nodup ∧ benefitOrder.Nodup ∧
        localizableFields.Nodup) then
    some ⟨logoAssetId, productName, verifiedProductFacts, productUiAssetIds, benefitOrder,
      ctaActionMeaning, layoutTemplateAssetId, localizableFields, h.1, h.2⟩
  else none

theorem validate_self (lock : BrandLock) :
    validate lock.logoAssetId lock.productName lock.verifiedProductFacts lock.productUiAssetIds
        lock.benefitOrder lock.ctaActionMeaning lock.layoutTemplateAssetId
        lock.localizableFields = some lock :=
  dif_pos ⟨lock.lengths_valid, lock.sequences_unique⟩

instance : Codec BrandLock where
  encode lock := .obj
    [("logo_asset_id", encode lock.logoAssetId), ("product_name", encode lock.productName),
      ("verified_product_facts", encode lock.verifiedProductFacts),
      ("product_ui_asset_ids", encode lock.productUiAssetIds),
      ("benefit_order", encode lock.benefitOrder),
      ("cta_action_meaning", encode lock.ctaActionMeaning),
      ("layout_template_asset_id", encode lock.layoutTemplateAssetId),
      ("localizable_fields", encode lock.localizableFields)]
  decode json := do
    let members ← json.record
      ["logo_asset_id", "product_name", "verified_product_facts", "product_ui_asset_ids",
        "benefit_order", "cta_action_meaning", "layout_template_asset_id", "localizable_fields"]
    validate (← Json.field members "logo_asset_id") (← Json.field members "product_name")
      (← Json.field members "verified_product_facts")
      (← Json.field members "product_ui_asset_ids") (← Json.field members "benefit_order")
      (← Json.field members "cta_action_meaning")
      (← Json.field members "layout_template_asset_id")
      (← Json.field members "localizable_fields")
  decode_encode lock := by
    rw [Json.record_obj (by rfl)]
    simp [lock.validate_self]

end BrandLock

structure AdAnalysis where
  sourceAsset : SourceAdAssetRef
  detectedLocale : Locale
  brandLock : BrandLock
  hypotheses : List CulturalHypothesis
  warnings : List WarningCode
  valid : hypotheses.length ≤ 32 ∧ warnings.length ≤ 32
deriving DecidableEq

namespace AdAnalysis

def validate (sourceAsset : SourceAdAssetRef) (detectedLocale : Locale) (brandLock : BrandLock)
    (hypotheses : List CulturalHypothesis) (warnings : List WarningCode) : Option AdAnalysis :=
  if h : hypotheses.length ≤ 32 ∧ warnings.length ≤ 32 then
    some ⟨sourceAsset, detectedLocale, brandLock, hypotheses, warnings, h⟩
  else none

theorem validate_self (analysis : AdAnalysis) :
    validate analysis.sourceAsset analysis.detectedLocale analysis.brandLock analysis.hypotheses
        analysis.warnings = some analysis :=
  dif_pos analysis.valid

instance : Codec AdAnalysis where
  encode analysis := .obj
    [("source_asset", encode analysis.sourceAsset),
      ("detected_locale", encode analysis.detectedLocale),
      ("brand_lock", encode analysis.brandLock), ("hypotheses", encode analysis.hypotheses),
      ("warnings", encode analysis.warnings)]
  decode json := do
    let members ← json.record
      ["source_asset", "detected_locale", "brand_lock", "hypotheses", "warnings"]
    validate (← Json.field members "source_asset") (← Json.field members "detected_locale")
      (← Json.field members "brand_lock") (← Json.fieldOr members "hypotheses" [])
      (← Json.fieldOr members "warnings" [])
  decode_encode analysis := by
    rw [Json.record_obj (by rfl)]
    simp [analysis.validate_self]

end AdAnalysis

/-! ## Draft -/

structure CreativeBrief where
  direction : LocalizationDirection
  targetLocale : Locale
  brandLock : BrandLock
  hypotheses : List CulturalHypothesis
  narrative : LongText
  useScenario : LongText
  trustInformation : LongText
  valid : hypotheses.length ≤ 32
deriving DecidableEq

namespace CreativeBrief

def validate (direction : LocalizationDirection) (targetLocale : Locale) (brandLock : BrandLock)
    (hypotheses : List CulturalHypothesis) (narrative useScenario trustInformation : LongText) :
    Option CreativeBrief :=
  if h : hypotheses.length ≤ 32 then
    some ⟨direction, targetLocale, brandLock, hypotheses, narrative, useScenario,
      trustInformation, h⟩
  else none

theorem validate_self (brief : CreativeBrief) :
    validate brief.direction brief.targetLocale brief.brandLock brief.hypotheses brief.narrative
        brief.useScenario brief.trustInformation = some brief :=
  dif_pos brief.valid

instance : Codec CreativeBrief where
  encode brief := .obj
    [("direction", encode brief.direction), ("target_locale", encode brief.targetLocale),
      ("brand_lock", encode brief.brandLock), ("hypotheses", encode brief.hypotheses),
      ("narrative", encode brief.narrative), ("use_scenario", encode brief.useScenario),
      ("trust_information", encode brief.trustInformation)]
  decode json := do
    let members ← json.record
      ["direction", "target_locale", "brand_lock", "hypotheses", "narrative", "use_scenario",
        "trust_information"]
    validate (← Json.field members "direction") (← Json.field members "target_locale")
      (← Json.field members "brand_lock") (← Json.fieldOr members "hypotheses" [])
      (← Json.field members "narrative") (← Json.field members "use_scenario")
      (← Json.field members "trust_information")
  decode_encode brief := by
    rw [Json.record_obj (by rfl)]
    simp [brief.validate_self]

end CreativeBrief

structure AdCopy where
  locale : Locale
  headline : ShortText
  body : LongText
  ctaLabel : ShortText
  ctaActionMeaning : ShortText
deriving DecidableEq

instance : Codec AdCopy where
  encode copy := .obj
    [("locale", encode copy.locale), ("headline", encode copy.headline),
      ("body", encode copy.body), ("cta_label", encode copy.ctaLabel),
      ("cta_action_meaning", encode copy.ctaActionMeaning)]
  decode json := do
    let members ← json.record ["locale", "headline", "body", "cta_label", "cta_action_meaning"]
    pure
      { locale := ← Json.field members "locale"
        headline := ← Json.field members "headline"
        body := ← Json.field members "body"
        ctaLabel := ← Json.field members "cta_label"
        ctaActionMeaning := ← Json.field members "cta_action_meaning" }
  decode_encode copy := by
    rw [Json.record_obj (by rfl)]
    simp

/-! ## Composition -/

inductive CompositionLayerKind
  | background | productUi | logo | headline | body | cta | disclosure
deriving DecidableEq

instance : StrEnum CompositionLayerKind where
  values := [.background, .productUi, .logo, .headline, .body, .cta, .disclosure]
  value
    | .background => "background"
    | .productUi => "product_ui"
    | .logo => "logo"
    | .headline => "headline"
    | .body => "body"
    | .cta => "cta"
    | .disclosure => "disclosure"
  find_value member := by cases member <;> rfl

/-- Only the protected visual layers name a source asset, and the bounds lie on
the fixed canvas. -/
def ValidLayer (kind : CompositionLayerKind) (sourceAssetId : Option UUID)
    (left top right bottom width height : Int) : Prop :=
  ((kind = .logo ∨ kind = .productUi) ↔ sourceAssetId.isSome) ∧
    (1 ≤ width ∧ width ≤ 1600) ∧ (1 ≤ height ∧ height ≤ 900) ∧
    0 ≤ left ∧ 0 ≤ top ∧ right ≤ 1600 ∧ bottom ≤ 900 ∧ left < right ∧ top < bottom ∧
    right - left = width ∧ bottom - top = height

instance (kind : CompositionLayerKind) (sourceAssetId : Option UUID)
    (left top right bottom width height : Int) :
    Decidable (ValidLayer kind sourceAssetId left top right bottom width height) := by
  unfold ValidLayer
  infer_instance

structure CompositionLayer where
  kind : CompositionLayerKind
  sourceAssetId : Option UUID
  rgbaSha256 : Sha256
  left : Int
  top : Int
  right : Int
  bottom : Int
  width : Int
  height : Int
  valid : ValidLayer kind sourceAssetId left top right bottom width height
deriving DecidableEq

namespace CompositionLayer

def validate (kind : CompositionLayerKind) (sourceAssetId : Option UUID) (rgbaSha256 : Sha256)
    (bounds : List Int) (width height : Int) : Option CompositionLayer :=
  match bounds with
  | [left, top, right, bottom] =>
      if h : ValidLayer kind sourceAssetId left top right bottom width height then
        some ⟨kind, sourceAssetId, rgbaSha256, left, top, right, bottom, width, height, h⟩
      else none
  | _ => none

theorem validate_self (layer : CompositionLayer) :
    validate layer.kind layer.sourceAssetId layer.rgbaSha256
        [layer.left, layer.top, layer.right, layer.bottom] layer.width layer.height = some layer :=
  dif_pos layer.valid

instance : Codec CompositionLayer where
  encode layer := .obj
    [("kind", encode layer.kind), ("source_asset_id", encode layer.sourceAssetId),
      ("rgba_sha256", encode layer.rgbaSha256),
      ("bounds", encode [layer.left, layer.top, layer.right, layer.bottom]),
      ("width", encode layer.width), ("height", encode layer.height)]
  decode json := do
    let members ← json.record
      ["kind", "source_asset_id", "rgba_sha256", "bounds", "width", "height"]
    validate (← Json.field members "kind") (← Json.fieldOr members "source_asset_id" none)
      (← Json.field members "rgba_sha256") (← Json.field members "bounds")
      (← Json.field members "width") (← Json.field members "height")
  decode_encode layer := by
    rw [Json.record_obj (by rfl)]
    simp [layer.validate_self]

end CompositionLayer

/-- The layers stand in the fixed semantic order, with or without product UI. -/
def ValidLayerOrder (layers : List CompositionLayer) : Prop :=
  layers.map CompositionLayer.kind =
      [.background, .productUi, .logo, .headline, .body, .cta, .disclosure] ∨
    layers.map CompositionLayer.kind = [.background, .logo, .headline, .body, .cta, .disclosure]

instance (layers : List CompositionLayer) : Decidable (ValidLayerOrder layers) :=
  inferInstanceAs (Decidable (_ ∨ _))

/-- `layer_sources.get(kind)`: the source of the last layer of this kind that
names one. -/
def layerSource (layers : List CompositionLayer) (kind : CompositionLayerKind) : Option UUID :=
  (layers.reverse.find? fun layer => layer.kind = kind ∧ layer.sourceAssetId.isSome).bind
    CompositionLayer.sourceAssetId

abbrev disclosure : String := "Fixture Demo / 非实时模型"

/-- A stored composition. Its status, execution mode, size, media type and
disclosure have one value each. -/
structure CompositionGenerated where
  runId : UUID
  renderedSha256 : Sha256
  artifactId : UUID
  layers : List CompositionLayer
  generatedAt : Datetime
  layers_valid : ValidLayerOrder layers
deriving DecidableEq

namespace CompositionGenerated

def validate (runId : UUID) (renderedSha256 : Sha256) (artifactId : UUID)
    (layers : List CompositionLayer) (generatedAt : Datetime) : Option CompositionGenerated :=
  if h : ValidLayerOrder layers then
    some ⟨runId, renderedSha256, artifactId, layers, generatedAt, h⟩
  else none

theorem validate_self (composition : CompositionGenerated) :
    validate composition.runId composition.renderedSha256 composition.artifactId
        composition.layers composition.generatedAt = some composition :=
  dif_pos composition.layers_valid

instance : Codec CompositionGenerated where
  encode composition := .obj
    [("run_id", encode composition.runId),
      ("status", encode (⟨⟩ : Codec.Constant "in_progress")),
      ("execution_mode", encode (⟨⟩ : Codec.Constant "fixture")),
      ("width", encode (⟨⟩ : Codec.Constant (1600 : Int))),
      ("height", encode (⟨⟩ : Codec.Constant (900 : Int))),
      ("media_type", encode (⟨⟩ : Codec.Constant "image/png")),
      ("rendered_sha256", encode composition.renderedSha256),
      ("artifact_id", encode composition.artifactId), ("layers", encode composition.layers),
      ("disclosure", encode (⟨⟩ : Codec.Constant disclosure)),
      ("generated_at", encode composition.generatedAt)]
  decode json := do
    let members ← json.record
      ["run_id", "status", "execution_mode", "width", "height", "media_type", "rendered_sha256",
        "artifact_id", "layers", "disclosure", "generated_at"]
    let _ ← (Json.field members "status" : Option (Codec.Constant "in_progress"))
    let _ ← (Json.field members "execution_mode" : Option (Codec.Constant "fixture"))
    let _ ← (Json.field members "width" : Option (Codec.Constant (1600 : Int)))
    let _ ← (Json.field members "height" : Option (Codec.Constant (900 : Int)))
    let _ ← (Json.field members "media_type" : Option (Codec.Constant "image/png"))
    let _ ← (Json.field members "disclosure" : Option (Codec.Constant disclosure))
    validate (← Json.field members "run_id") (← Json.field members "rendered_sha256")
      (← Json.field members "artifact_id") (← Json.field members "layers")
      (← Json.field members "generated_at")
  decode_encode composition := by
    rw [Json.record_obj (by rfl)]
    simp [composition.validate_self]

end CompositionGenerated

/-! ## Critique -/

inductive CritiqueStatus
  | pass | revise | needsHumanReview | reject
deriving DecidableEq

instance : StrEnum CritiqueStatus where
  values := [.pass, .revise, .needsHumanReview, .reject]
  value
    | .pass => "pass"
    | .revise => "revise"
    | .needsHumanReview => "needs_human_review"
    | .reject => "reject"
  find_value member := by cases member <;> rfl

inductive CritiqueCategory
  | brandLock | fact | readability | culture | safety
deriving DecidableEq

instance : StrEnum CritiqueCategory where
  values := [.brandLock, .fact, .readability, .culture, .safety]
  value
    | .brandLock => "brand_lock"
    | .fact => "fact"
    | .readability => "readability"
    | .culture => "culture"
    | .safety => "safety"
  find_value member := by cases member <;> rfl

inductive CritiqueSeverity
  | warning | blocking
deriving DecidableEq

instance : StrEnum CritiqueSeverity where
  values := [.warning, .blocking]
  value
    | .warning => "warning"
    | .blocking => "blocking"
  find_value member := by cases member <;> rfl

structure CritiqueIssue where
  code : WarningCode
  category : CritiqueCategory
  severity : CritiqueSeverity
  message : ShortText
  requiresHumanReview : Bool
deriving DecidableEq

instance : Codec CritiqueIssue where
  encode issue := .obj
    [("code", encode issue.code), ("category", encode issue.category),
      ("severity", encode issue.severity), ("message", encode issue.message),
      ("requires_human_review", encode issue.requiresHumanReview)]
  decode json := do
    let members ← json.record
      ["code", "category", "severity", "message", "requires_human_review"]
    pure
      { code := ← Json.field members "code"
        category := ← Json.field members "category"
        severity := ← Json.field members "severity"
        message := ← Json.field members "message"
        requiresHumanReview := ← Json.fieldOr members "requires_human_review" false }
  decode_encode issue := by
    rw [Json.record_obj (by rfl)]
    simp

/-- `require_consistent_status`: the status of a report follows its issues. -/
def ConsistentStatus (status : CritiqueStatus) (issues : List CritiqueIssue)
    (brandLockPreserved requiresHumanReview : Bool) : Prop :=
  (brandLockPreserved = true ∨
      ∃ issue ∈ issues, issue.category = .brandLock ∧ issue.severity = .blocking) ∧
    ((∃ issue ∈ issues, issue.severity = .blocking) ↔ status = .reject) ∧
    (status = .pass → issues = [] ∧ requiresHumanReview = false) ∧
    (status = .needsHumanReview → requiresHumanReview = true)

instance (status : CritiqueStatus) (issues : List CritiqueIssue)
    (brandLockPreserved requiresHumanReview : Bool) :
    Decidable (ConsistentStatus status issues brandLockPreserved requiresHumanReview) := by
  unfold ConsistentStatus
  infer_instance

structure CritiqueReport where
  status : CritiqueStatus
  issues : List CritiqueIssue
  warnings : List WarningCode
  brandLockPreserved : Bool
  requiresHumanReview : Bool
  reviewedAt : Datetime
  lengths_valid : issues.length ≤ 32 ∧ warnings.length ≤ 32
  status_consistent : ConsistentStatus status issues brandLockPreserved requiresHumanReview
deriving DecidableEq

namespace CritiqueReport

def validate (status : CritiqueStatus) (issues : List CritiqueIssue) (warnings : List WarningCode)
    (brandLockPreserved requiresHumanReview : Bool) (reviewedAt : Datetime) :
    Option CritiqueReport :=
  if h : (issues.length ≤ 32 ∧ warnings.length ≤ 32) ∧
      ConsistentStatus status issues brandLockPreserved requiresHumanReview then
    some ⟨status, issues, warnings, brandLockPreserved, requiresHumanReview, reviewedAt, h.1, h.2⟩
  else none

theorem validate_self (report : CritiqueReport) :
    validate report.status report.issues report.warnings report.brandLockPreserved
        report.requiresHumanReview report.reviewedAt = some report :=
  dif_pos ⟨report.lengths_valid, report.status_consistent⟩

instance : Codec CritiqueReport where
  encode report := .obj
    [("status", encode report.status), ("issues", encode report.issues),
      ("warnings", encode report.warnings),
      ("brand_lock_preserved", encode report.brandLockPreserved),
      ("requires_human_review", encode report.requiresHumanReview),
      ("reviewed_at", encode report.reviewedAt)]
  decode json := do
    let members ← json.record
      ["status", "issues", "warnings", "brand_lock_preserved", "requires_human_review",
        "reviewed_at"]
    validate (← Json.field members "status") (← Json.fieldOr members "issues" [])
      (← Json.fieldOr members "warnings" []) (← Json.field members "brand_lock_preserved")
      (← Json.field members "requires_human_review") (← Json.field members "reviewed_at")
  decode_encode report := by
    rw [Json.record_obj (by rfl)]
    simp [report.validate_self]

end CritiqueReport

end CultureShift
