/-
# The fixture validator

How the web application reads a fixture: each function checks a part of the
value and gives back what the application keeps of it, and the first check that
fails refuses the whole fixture.
-/

import CultureShift.Contracts.Exchange
import CultureShift.Relational.Transaction
import CultureShift.Serialization.Values
import CultureShift.Web.StudioState

namespace CultureShift

namespace Web

open Serialization Relational

/-! ## Strings and their patterns -/

/-- The characters of a string, for patterns that are about ASCII only. A surrogate
stands as the character zero. -/
def characters (text : Text) : List Char := text.map fun c => Char.ofNat c.val

/-- What `String.prototype.trim` removes. -/
def isTrimmed (c : CodePoint) : Bool :=
  (0x09 ≤ c.val && c.val ≤ 0x0D) || c.val == 0x20 || c.val == 0xA0 || c.val == 0x1680 ||
    (0x2000 ≤ c.val && c.val ≤ 0x200A) || c.val == 0x2028 || c.val == 0x2029 || c.val == 0x202F ||
    c.val == 0x205F || c.val == 0x3000 || c.val == 0xFEFF

def includes (needle cs : List Char) : Bool := cs.tails.any needle.isPrefixOf

/-- The character class `[0-9a-f]`, in either case. -/
def isHex (c : Char) : Bool :=
  isDigit c || ('a' ≤ c && c ≤ 'f') || ('A' ≤ c && c ≤ 'F')

/-- `/^[0-9a-f]{8}-[0-9a-f]{4}-4[0-9a-f]{3}-[89ab][0-9a-f]{3}-[0-9a-f]{12}$/i` -/
def isUuidV4 (cs : List Char) : Bool :=
  let groups := cs.splitOn '-'
  groups.map List.length == [8, 4, 4, 4, 12] && groups.all (·.all isHex) &&
    (groups.getD 2 []).head? == some '4' &&
    ((groups.getD 3 []).head?.any fun c => c ∈ ['8', '9', 'a', 'b', 'A', 'B'])

/-- One of the schemes `fixture`, `rights` and `evidence`, then a path that starts with a
letter or digit, of any length. -/
def hasPublicScheme (cs : List Char) : Bool :=
  ["fixture:", "rights:", "evidence:"].any (fun scheme => scheme.toList.isPrefixOf cs) &&
    match (cs.dropWhile (· ≠ ':')).drop 1 with
    | [] => false
    | c :: rest =>
        isAlphanumeric c &&
          rest.all fun c => isAlphanumeric c || c == '.' || c == '_' || c == '/' || c == '-'

/-- `/[a-z][a-z0-9+.-]*:/i`, anywhere in the string. -/
def hasScheme (cs : List Char) : Bool :=
  cs.tails.any fun suffix =>
    (suffix.head?.any fun c => isAlphanumeric c && !isDigit c) &&
      (suffix.dropWhile fun c => isAlphanumeric c || c == '+' || c == '.' || c == '-').head? ==
        some ':'

/-! ## Equality -/

/-- `===`, where one of the values is not an object. -/
def same : Value → Value → Bool
  | .undefined, .undefined => true
  | .null, .null => true
  | .bool left, .bool right => left == right
  | .number left, .number right => left == right
  | .str left, .str right => left == right
  | _, _ => false

/-- The names are the same once they are sorted. -/
def sameKeys (left : List (Text × Value)) (right : List Text) : Bool :=
  (left.map Prod.fst).isPerm right

mutual

def structuralEqual : Value → Value → Bool
  | .arr left, .arr right => structuralEqualItems left right
  | .obj left, .obj right =>
      sameKeys left (right.map Prod.fst) && structuralEqualMembers left right
  | left, right => same left right

def structuralEqualItems : List Value → List Value → Bool
  | [], [] => true
  | item :: left, item' :: right => structuralEqual item item' && structuralEqualItems left right
  | _, _ => false

/-- The members of one object, each beside the member of its name in the other. -/
def structuralEqualMembers : List (Text × Value) → List (Text × Value) → Bool
  | [], _ => true
  | (key, value) :: left, right =>
      structuralEqual value (Value.lookup right key) && structuralEqualMembers left right

end

/-! ## Checks -/

def invalid {α : Type} (code : String) : Except String α := .error ("Invalid fixture: " ++ code)

/-- Refuse the fixture unless the condition holds. -/
def check (condition : Prop) [Decidable condition] (code : String) : Except String Unit :=
  require condition ("Invalid fixture: " ++ code)

def object : Value → String → Except String Value
  | .obj members, _ => .ok (.obj members)
  | _, code => invalid code

def text : Value → String → Except String Text
  | .str value, code => if value.all isTrimmed then invalid code else .ok value
  | _, code => invalid code

def strings : Value → String → Except String (List Text)
  | .arr [], code => invalid code
  | .arr items, code => items.mapM (text · code)
  | _, code => invalid code

def uuid (value : Value) (code : String) : Except String Text := do
  let result ← text value code
  check (isUuidV4 (characters result)) code
  pure result

def publicReference (value : Value) (code : String) : Except String Text := do
  let result ← text value code
  check (hasPublicScheme (characters result)) code
  pure result

def publicPath (value : Value) : Except String Text := do
  let result ← text value "unsafe_asset_path"
  let cs := characters result
  check ("/fixtures/orbit-ai/".toList.isPrefixOf cs ∧ '\\' ∉ cs ∧ ¬hasScheme cs ∧ '?' ∉ cs ∧
      '#' ∉ cs ∧ (∀ segment ∈ cs.splitOn '/', segment ≠ ['.'] ∧ segment ≠ ['.', '.']) ∧
      ".svg".toList.isSuffixOf cs)
    "unsafe_asset_path"
  pure result

def publicPngPath (value : Value) : Except String Text := do
  let result ← text value "unsafe_asset_path"
  let cs := characters result
  check ("/fixtures/orbit-ai/composed-".toList.isPrefixOf cs ∧ ".png".toList.isSuffixOf cs ∧
      '\\' ∉ cs ∧ ¬includes "..".toList cs ∧ '?' ∉ cs ∧ '#' ∉ cs)
    "unsafe_asset_path"
  pure result

def exactKeys (value : Value) (expected : List String) (code : String) : Except String Unit :=
  match value with
  | .obj members => check (sameKeys members (expected.map Text.ofString)) code
  | _ => invalid code

/-! ## Approved values -/

/-- An array of strings. -/
def texts (values : List Text) : Value := .arr (values.map .str)

def approvedBrandLock : Value :=
  .record
    [("logo_asset_id", .ofString "a1111111-1111-4111-8111-111111111111"),
      ("product_name", .ofString "Orbit AI"),
      ("verified_product_facts", .arr [.ofString "Turns approved notes into task summaries"]),
      ("product_ui_asset_ids", .arr [.ofString "a2222222-2222-4222-8222-222222222222"]),
      ("benefit_order", .arr [.ofString "Summarize", .ofString "Organize"]),
      ("cta_action_meaning", .ofString "Start a fixture demo"),
      ("layout_template_asset_id", .ofString "a3333333-3333-4333-8333-333333333333"),
      ("localizable_fields",
        .arr [.ofString "narrative", .ofString "use_scenario", .ofString "trust_information",
          .ofString "language"])]

structure ApprovedSource where
  direction : String
  sourceAsset : Value
  sourceAssetPath : String

def approvedSourceByFixture : FixtureId → ApprovedSource
  | .chinaToUk =>
      ⟨"china_to_uk",
        .record
          [("asset_id", .ofString "b1111111-1111-4111-8111-111111111111"),
            ("kind", .ofString "source_ad"), ("media_type", .ofString "image/svg+xml"),
            ("sha256",
              .ofString "58c22343c4cc16ee3ba25bdeed5c897dce442426d9b500a7a2704edeac3ccc39"),
            ("provenance_ref", .ofString "fixture:orbit-ai-source-zh-cn-001"),
            ("rights_ref", .ofString "rights:demo-assets-manifest")],
        "/fixtures/orbit-ai/source-zh-cn.svg"⟩
  | .ukToChina =>
      ⟨"uk_to_china",
        .record
          [("asset_id", .ofString "b2222222-2222-4222-8222-222222222222"),
            ("kind", .ofString "source_ad"), ("media_type", .ofString "image/svg+xml"),
            ("sha256",
              .ofString "f85f732a435126690b2908508597cc800e7b99fc07b98c9a035bddd0b9091d68"),
            ("provenance_ref", .ofString "fixture:orbit-ai-source-en-gb-001"),
            ("rights_ref", .ofString "rights:demo-assets-manifest")],
        "/fixtures/orbit-ai/source-en-gb.svg"⟩

structure ApprovedComposition where
  previewPath : String
  renderedSha256 : String
  backgroundProvenance : String

def approvedCompositionByFixture : FixtureId → ApprovedComposition
  | .chinaToUk =>
      ⟨"/fixtures/orbit-ai/composed-china-to-uk.png",
        "39d3233aa64533558579a5d9ad0ff345105555ea4ae69dfd8c26f5faaddb0d15",
        "fixture:day12-background-china_to_uk"⟩
  | .ukToChina =>
      ⟨"/fixtures/orbit-ai/composed-uk-to-china.png",
        "e64f1342a728d561c141accf9cf78b5d43f251b5f550cf7be616a00da049517f",
        "fixture:day12-background-uk_to_china"⟩

/-- The font of every composition. -/
def approvedFont : List (String × Value) :=
  [("path", .ofString "assets/fonts/NotoSansCJKsc-Regular.otf"),
    ("sha256", .ofString "2c76254f6fc379fddfce0a7e84fb5385bb135d3e399294f6eeb6680d0365b74b"),
    ("upstream_commit", .ofString "f8d157532fbfaeda587e826d4cd5b21a49186f7c")]

/-! ## The composition -/

structure FixtureComposition where
  previewPath : String
  renderedSha256 : String
  backgroundProvenance : String
  layers : List Value
  limitation : Text

def expectedKinds : List String :=
  ["background", "product_ui", "logo", "headline", "body", "cta", "disclosure"]

/-- An array of integers. -/
def integers? : Value → Option (List Int)
  | .arr items => items.mapM integer?
  | _ => none
where
  integer? : Value → Option Int
    | .number value => value.integer?
    | _ => none

/-- The asset that a layer of this kind shows. -/
def expectedSource (lock kind : Value) : Value :=
  if same kind (.ofString "logo") then lock.get "logo_asset_id"
  else if same kind (.ofString "product_ui") then
    (lock.get "product_ui_asset_ids").items.headD .undefined
  else .null

def compositionLayer (lock : Value) (rawLayer : Value) (expectedKind : String) :
    Except String Value := do
  let layer ← object rawLayer "invalid_composition"
  exactKeys layer ["kind", "source_asset_id", "rgba_sha256", "bounds", "width", "height"]
    "invalid_composition"
  check (same (layer.get "kind") (.ofString expectedKind)) "invalid_composition"
  let digest ← text (layer.get "rgba_sha256") "invalid_composition"
  check (isSha256 (characters digest)) "invalid_composition"
  match integers? (layer.get "bounds"), integers?.integer? (layer.get "width"),
      integers?.integer? (layer.get "height") with
  | some [left, top, right, bottom], some width, some height =>
      check (¬(left < 0 ∨ top < 0 ∨ right > 1600 ∨ bottom > 900 ∨
          Number.round (right - left) ≠ some width ∨ Number.round (bottom - top) ≠ some height))
        "invalid_composition"
      let source := expectedSource lock (layer.get "kind")
      check (same (layer.get "source_asset_id") source) "invalid_composition"
      pure (.record
        [("kind", layer.get "kind"), ("source_asset_id", source),
          ("rgba_sha256", layer.get "rgba_sha256"), ("bounds", layer.get "bounds"),
          ("width", layer.get "width"), ("height", layer.get "height")])
  | _, _, _ => invalid "invalid_composition"

def compositionLayers (lock : Value) : List Value → List String → Except String (List Value)
  | rawLayer :: rawLayers, kind :: kinds => do
      let layer ← compositionLayer lock rawLayer kind
      let layers ← compositionLayers lock rawLayers kinds
      pure (layer :: layers)
  | _, _ => pure []

def sevenLayers (lock : Value) : Value → Except String (List Value)
  | .arr rawLayers => do
      check (rawLayers.length = 7) "invalid_composition"
      compositionLayers lock rawLayers expectedKinds
  | _ => invalid "invalid_composition"

def compositionEvidence (value : Value) (fixtureId : FixtureId) (lock : Value) :
    Except String FixtureComposition := do
  let composition ← object value "invalid_composition"
  exactKeys composition
    ["execution_mode", "width", "height", "media_type", "preview_path", "rendered_sha256",
      "background_provenance", "layers", "font", "disclosure", "limitation"]
    "invalid_composition"
  let approved := approvedCompositionByFixture fixtureId
  check (same (composition.get "execution_mode") (.ofString "fixture") ∧
      same (composition.get "width") (.ofInt 1600) ∧ same (composition.get "height") (.ofInt 900) ∧
      same (composition.get "media_type") (.ofString "image/png"))
    "invalid_composition"
  let previewPath ← publicPngPath (composition.get "preview_path")
  check (previewPath = Text.ofString approved.previewPath) "invalid_composition"
  let rendered ← text (composition.get "rendered_sha256") "invalid_composition"
  check (rendered = Text.ofString approved.renderedSha256) "invalid_composition"
  let provenance ←
    publicReference (composition.get "background_provenance") "invalid_composition"
  check (provenance = Text.ofString approved.backgroundProvenance ∧
      same (composition.get "disclosure") (.ofString disclosure))
    "invalid_composition"
  let layers ← sevenLayers lock (composition.get "layers")
  let font ← object (composition.get "font") "invalid_composition"
  exactKeys font (approvedFont.map Prod.fst) "invalid_composition"
  check (∀ field ∈ approvedFont, same (font.get field.1) field.2) "invalid_composition"
  let limitation ← text (composition.get "limitation") "invalid_composition"
  check (includes "fixture-only composition; human review required".toList
      ((characters limitation).map Char.toLower))
    "invalid_composition"
  pure ⟨approved.previewPath, approved.renderedSha256, approved.backgroundProvenance, layers,
    limitation⟩

/-! ## The request -/

def brandLock (value : Value) : Except String Value := do
  let lock ← object value "brand_lock_mismatch"
  check (structuralEqual lock approvedBrandLock) "brand_lock_mismatch"
  let localizable ← strings (lock.get "localizable_fields") "brand_lock_mismatch"
  check (∀ field ∈ localizable, field ∈
      ["narrative", "use_scenario", "trust_information", "language"].map Text.ofString)
    "brand_lock_mismatch"
  let logo ← uuid (lock.get "logo_asset_id") "brand_lock_mismatch"
  let product ← text (lock.get "product_name") "brand_lock_mismatch"
  let facts ← strings (lock.get "verified_product_facts") "brand_lock_mismatch"
  let uis ← strings (lock.get "product_ui_asset_ids") "brand_lock_mismatch"
  let uis ← uis.mapM fun id => uuid (.str id) "brand_lock_mismatch"
  let benefits ← strings (lock.get "benefit_order") "brand_lock_mismatch"
  let action ← text (lock.get "cta_action_meaning") "brand_lock_mismatch"
  let layout ← uuid (lock.get "layout_template_asset_id") "brand_lock_mismatch"
  pure (.record
    [("logo_asset_id", .str logo), ("product_name", .str product),
      ("verified_product_facts", texts facts), ("product_ui_asset_ids", texts uis),
      ("benefit_order", texts benefits), ("cta_action_meaning", .str action),
      ("layout_template_asset_id", .str layout), ("localizable_fields", texts localizable)])

def runCreate (value : Value) : Except String Value := do
  let request ← object value "invalid_request"
  check (same (request.get "execution_mode") (.ofString "fixture")) "live_execution"
  check (same (request.get "direction") (.ofString "china_to_uk") ∨
    same (request.get "direction") (.ofString "uk_to_china")) "invalid_direction"
  check (same (request.get "product_category") (.ofString "ai_software") ∨
    same (request.get "product_category") (.ofString "ai_application")) "invalid_request"
  check (same (request.get "creative_format") (.ofString "static_ad")) "invalid_request"
  let asset ← object (request.get "source_asset") "invalid_request"
  check (same (asset.get "kind") (.ofString "source_ad")) "invalid_request"
  let digest ← text (asset.get "sha256") "invalid_request"
  check (isSha256 (characters digest)) "invalid_request"
  let mediaType ← text (asset.get "media_type") "invalid_request"
  check (isMediaType (characters mediaType)) "invalid_request"
  let assetId ← uuid (asset.get "asset_id") "invalid_request"
  let provenance ← publicReference (asset.get "provenance_ref") "rights_missing"
  let rights ← publicReference (asset.get "rights_ref") "rights_missing"
  let lock ← brandLock (request.get "brand_lock")
  pure (.record
    [("direction", request.get "direction"), ("execution_mode", .ofString "fixture"),
      ("product_category", request.get "product_category"),
      ("creative_format", .ofString "static_ad"),
      ("source_asset", .record
        [("asset_id", .str assetId), ("kind", .ofString "source_ad"),
          ("media_type", asset.get "media_type"), ("sha256", asset.get "sha256"),
          ("provenance_ref", .str provenance), ("rights_ref", .str rights)]),
      ("brand_lock", lock)])

/-! ## Hypotheses -/

def hypothesis (targetMarket requiredId requiredEvidence : String) (item : Value) :
    Except String Value := do
  let hypothesis ← object item "hypothesis_mapping"
  check (same (hypothesis.get "review_status") (.ofString "pending")) "hypothesis_not_pending"
  check (same (hypothesis.get "target_market") (.ofString targetMarket) ∧
    same (hypothesis.get "hypothesis_id") (.ofString requiredId)) "hypothesis_mapping"
  let references ← strings (hypothesis.get "evidence_refs") "hypothesis_mapping"
  let evidence ←
    references.mapM fun reference => publicReference (.str reference) "hypothesis_mapping"
  check (evidence = [Text.ofString requiredEvidence]) "hypothesis_mapping"
  let requirements ← strings (hypothesis.get "validation_requirements") "hypothesis_not_pending"
  check (same (hypothesis.get "uncertainty") (.ofString "low") ∨
    same (hypothesis.get "uncertainty") (.ofString "medium") ∨
    same (hypothesis.get "uncertainty") (.ofString "high")) "hypothesis_not_pending"
  let id ← uuid (hypothesis.get "hypothesis_id") "hypothesis_not_pending"
  let claim ← text (hypothesis.get "claim") "hypothesis_not_pending"
  let rationale ← text (hypothesis.get "rationale") "hypothesis_not_pending"
  pure (.record
    [("hypothesis_id", .str id), ("target_market", hypothesis.get "target_market"),
      ("claim", .str claim), ("evidence_refs", texts evidence),
      ("uncertainty", hypothesis.get "uncertainty"), ("rationale", .str rationale),
      ("validation_requirements", texts requirements), ("review_status", .ofString "pending")])

def hypotheses (value : Value) (targetMarket requiredId requiredEvidence : String) :
    Except String (List Value) :=
  match value with
  | .arr [item] => do
      let observed ← hypothesis targetMarket requiredId requiredEvidence item
      pure [observed]
  | _ => invalid "hypothesis_mapping"

/-! ## The fixture -/

structure FixtureDraft where
  brief : Value
  adCopy : Value
  ruleIds : List Text
  promptSummary : String

structure FixturePreview where
  sourceAssetPath : Text
  logoAssetPath : Text
  productUiAssetPath : Text
  sourceCopy : Value
  localizedCopy : Value
  brandLock : Value
  ruleIds : List Text
  hypotheses : List Value
  warnings : List Text
  limitation : Text

structure FixtureBundle where
  fixtureId : FixtureId
  sourceLocale : String
  targetLocale : String
  request : Value
  draft : FixtureDraft
  composition : FixtureComposition
  preview : FixturePreview

/-- What a fixture must say, by its direction. -/
structure Expectation where
  fixtureId : String
  sourceLocale : String
  targetLocale : String
  targetMarket : String
  ruleIds : List String
  hypothesisId : String
  hypothesisEvidence : String
  requiredPrompt : String

def expectation : FixtureId → Expectation
  | .chinaToUk =>
      { fixtureId := "china-to-uk"
        sourceLocale := "zh-CN"
        targetLocale := "en-GB"
        targetMarket := "united_kingdom"
        ruleIds := ["ZEU-S1", "ZEU-S3"]
        hypothesisId := "c1111111-1111-4111-8111-111111111111"
        hypothesisEvidence := "evidence:day3-zeu-h1"
        requiredPrompt := "Use verified facts and ZEU-S1/ZEU-S3; preserve Brand Lock." }
  | .ukToChina =>
      { fixtureId := "uk-to-china"
        sourceLocale := "en-GB"
        targetLocale := "zh-CN"
        targetMarket := "china"
        ruleIds := ["EZC-S1", "EZC-S3"]
        hypothesisId := "c2222222-2222-4222-8222-222222222222"
        hypothesisEvidence := "evidence:day3-ezc-h1"
        requiredPrompt := "仅使用已验证事实与 EZC-S1/EZC-S3；保持品牌锁定。" }

/-- The draft, from its raw value and from what the preview and the request have shown. -/
def validateDraft (expected : Expectation) (request localized : Value)
    (observedRules : List Text) (observedHypotheses : List Value) (value : Value) :
    Except String FixtureDraft := do
  let draft ← object value "invalid_draft"
  let draftBrief ← object (draft.get "brief") "invalid_draft"
  let draftCopy ← object (draft.get "copy") "invalid_draft"
  let rawDraftLock ← object (draftBrief.get "brand_lock") "invalid_draft"
  let action := (request.get "brand_lock").get "cta_action_meaning"
  check (structuralEqual rawDraftLock (request.get "brand_lock")) "invalid_draft"
  let draftLock ← brandLock rawDraftLock
  let draftRules ← strings (draft.get "rule_ids") "invalid_draft"
  check (same (draftBrief.get "direction") (request.get "direction") ∧
      same (draftBrief.get "target_locale") (.ofString expected.targetLocale) ∧
      structuralEqual draftLock (request.get "brand_lock") ∧
      structuralEqual (draftBrief.get "hypotheses") (.arr observedHypotheses) ∧
      structuralEqual (texts draftRules) (texts (expected.ruleIds.map Text.ofString)) ∧
      structuralEqual (texts draftRules) (texts observedRules) ∧
      same (draftCopy.get "locale") (.ofString expected.targetLocale) ∧
      same (draftCopy.get "cta_action_meaning") action ∧
      same (draft.get "prompt_summary") (.ofString expected.requiredPrompt))
    "invalid_draft"
  let narrative ← text (draftBrief.get "narrative") "invalid_draft"
  let useScenario ← text (draftBrief.get "use_scenario") "invalid_draft"
  let trustInformation ← text (draftBrief.get "trust_information") "invalid_draft"
  check (trustInformation = Text.ofString disclosure) "invalid_draft"
  let headline ← text (draftCopy.get "headline") "invalid_draft"
  let body ← text (draftCopy.get "body") "invalid_draft"
  let ctaLabel ← text (draftCopy.get "cta_label") "invalid_draft"
  let adCopy : Value := .record
    [("locale", .ofString expected.targetLocale), ("headline", .str headline),
      ("body", .str body), ("cta_label", .str ctaLabel), ("cta_action_meaning", action)]
  check (structuralEqual adCopy (.record
      [("locale", .ofString expected.targetLocale), ("headline", localized.get "headline"),
        ("body", localized.get "body"), ("cta_label", localized.get "cta_label"),
        ("cta_action_meaning", localized.get "cta_action_meaning")]))
    "invalid_draft"
  pure
    { brief := .record
        [("direction", request.get "direction"),
          ("target_locale", .ofString expected.targetLocale), ("brand_lock", draftLock),
          ("hypotheses", .arr observedHypotheses), ("narrative", .str narrative),
          ("use_scenario", .str useScenario), ("trust_information", .str trustInformation)]
      adCopy := adCopy
      ruleIds := draftRules
      promptSummary := expected.requiredPrompt }

def validateFixture (raw : Value) (expectedId : FixtureId) : Except String FixtureBundle := do
  let fixture ← object raw "invalid_shape"
  let expected := expectation expectedId
  let approvedSource := approvedSourceByFixture expectedId
  check (same (fixture.get "fixture_id") (.ofString expected.fixtureId)) "id_mismatch"
  check (same (fixture.get "disclosure") (.ofString disclosure)) "invalid_disclosure"
  check (same (fixture.get "source_locale") (.ofString expected.sourceLocale) ∧
      same (fixture.get "target_locale") (.ofString expected.targetLocale))
    "invalid_locale_pair"
  let request ← runCreate (fixture.get "request")
  check (same (request.get "direction") (.ofString approvedSource.direction)) "invalid_direction"
  check (structuralEqual (request.get "source_asset") approvedSource.sourceAsset)
    "source_asset_mismatch"
  let preview ← object (fixture.get "preview") "invalid_shape"
  let composition ←
    compositionEvidence (fixture.get "composition") expectedId (request.get "brand_lock")
  let sourceAssetPath ← publicPath (preview.get "source_asset_path")
  check (sourceAssetPath = Text.ofString approvedSource.sourceAssetPath) "source_asset_mismatch"
  let previewLock ← brandLock (preview.get "brand_lock")
  check (structuralEqual (request.get "brand_lock") previewLock) "brand_lock_mismatch"
  let observedRules ← strings (preview.get "rule_ids") "invalid_rules"
  check (structuralEqual (texts observedRules) (texts (expected.ruleIds.map Text.ofString)))
    "invalid_rules"
  let warningCodes ← strings (preview.get "warnings") "invalid_warning"
  check (Text.ofString "HUMAN_REVIEW_REQUIRED" ∈ warningCodes) "invalid_warning"
  let limitation ← text (preview.get "limitation") "invalid_limitation"
  check (includes "not cultural, legal, or performance validation".toList
      ((characters limitation).map Char.toLower))
    "invalid_limitation"
  let action := (request.get "brand_lock").get "cta_action_meaning"
  let localized ← object (preview.get "localized_copy") "invalid_shape"
  check (same (localized.get "locale") (.ofString expected.targetLocale) ∧
      same (localized.get "cta_action_meaning") action)
    "brand_lock_mismatch"
  let sourceCopy ← object (preview.get "source_copy") "invalid_shape"
  let observedHypotheses ← hypotheses (preview.get "hypotheses") expected.targetMarket
    expected.hypothesisId expected.hypothesisEvidence
  let draft ← validateDraft expected request localized observedRules observedHypotheses
    (fixture.get "draft")
  let logoAssetPath ← publicPath (preview.get "logo_asset_path")
  let productUiAssetPath ← publicPath (preview.get "product_ui_asset_path")
  let sourceHeadline ← text (sourceCopy.get "headline") "invalid_shape"
  let sourceBody ← text (sourceCopy.get "body") "invalid_shape"
  let headline ← text (localized.get "headline") "invalid_shape"
  let body ← text (localized.get "body") "invalid_shape"
  let ctaLabel ← text (localized.get "cta_label") "invalid_shape"
  pure
    { fixtureId := expectedId
      sourceLocale := expected.sourceLocale
      targetLocale := expected.targetLocale
      request := request
      draft := draft
      composition := composition
      preview :=
        { sourceAssetPath := sourceAssetPath
          logoAssetPath := logoAssetPath
          productUiAssetPath := productUiAssetPath
          sourceCopy := .record [("headline", .str sourceHeadline), ("body", .str sourceBody)]
          localizedCopy := .record
            [("locale", .ofString expected.targetLocale), ("headline", .str headline),
              ("body", .str body), ("cta_label", .str ctaLabel), ("cta_action_meaning", action)]
          brandLock := previewLock
          ruleIds := observedRules
          hypotheses := observedHypotheses
          warnings := warningCodes
          limitation := limitation } }

end Web

end CultureShift
