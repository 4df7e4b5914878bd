/-
# The fixture demo

The inputs of the demo that the scripts and tests of the repository run: one
source ad for Orbit AI, its Brand Lock, and a provider that answers at once.
-/

import CultureShift.AnalysisPipeline

namespace CultureShift.Demo

open Serialization Relational Concurrent

variable {κ : Type}

/-! ## A source ad and its Brand Lock -/

def now : Datetime := ⟨2026, 8, 25, 12, 0, 0, 0, by decide, by decide⟩

def tomorrow : Datetime := ⟨2026, 8, 26, 12, 0, 0, 0, by decide, by decide⟩

theorem nextDay?_now : now.nextDay? = some tomorrow := rfl

def logoId : UUID := ⟨0xa1111111111141118111111111111111, by decide⟩

def uiId : UUID := ⟨0xa2222222222242228222222222222222, by decide⟩

def layoutId : UUID := ⟨0xa3333333333343338333333333333333, by decide⟩

def assetId : UUID := ⟨0xa4444444444444448444444444444444, by decide⟩

def digest : Sha256 :=
  ⟨String.ofList (List.replicate 64 'a'), strip_ofList (by decide), accepts_ofList (by decide)⟩

def otherDigest : Sha256 :=
  ⟨String.ofList (List.replicate 64 'b'), strip_ofList (by decide), accepts_ofList (by decide)⟩

/-- A composed ad: the signature of a PNG file and one more byte. -/
def artifactBytes : List UInt8 := [0x89, 0x50, 0x4E, 0x47, 0x0D, 0x0A, 0x1A, 0x0A, 0x00]

/-- A digest that tells the composed ad from everything else. -/
def hexdigest (bytes : List UInt8) : Sha256 := if bytes = artifactBytes then digest else otherDigest

def sourceAsset : SourceAdAssetRef where
  assetId := assetId
  mediaType := ⟨"image/png", strip_ofList (by decide), accepts_ofList (by decide)⟩
  sha256 := digest
  provenanceRef := ⟨"fixture:source-ad", strip_ofList (by decide), accepts_ofList (by decide)⟩
  rightsRef := ⟨"rights:fixture", strip_ofList (by decide), accepts_ofList (by decide)⟩
  expiresAt := none

def summarize : ShortText := ⟨"Summarize", strip_ofList (by decide), length_ofList (by decide)⟩

def organize : ShortText := ⟨"Organize", strip_ofList (by decide), length_ofList (by decide)⟩

theorem summarize_ne_organize : summarize ≠ organize := by
  intro heq
  have htext := congrArg (fun text : ShortText => text.text.toList.length) heq
  revert htext
  decide

/-- The Brand Lock of the demo, with its benefits in the given order. -/
def brandLock (benefitOrder : List ShortText)
    (hlength : 1 ≤ benefitOrder.length ∧ benefitOrder.length ≤ 16) (hunique : benefitOrder.Nodup) :
    BrandLock where
  logoAssetId := logoId
  productName := ⟨"Orbit AI", strip_ofList (by decide), length_ofList (by decide)⟩
  verifiedProductFacts :=
    [⟨"Turns approved notes into task summaries", strip_ofList (by decide),
      length_ofList (by decide)⟩]
  productUiAssetIds := [uiId]
  benefitOrder := benefitOrder
  ctaActionMeaning :=
    ⟨"Start a fixture demo", strip_ofList (by decide), length_ofList (by decide)⟩
  layoutTemplateAssetId := layoutId
  localizableFields := [.narrative, .useScenario, .trustInformation, .language]
  lengths_valid := ⟨by simp, by simp, hlength, by simp⟩
  sequences_unique := ⟨by simp, by simp, hunique, by decide⟩

def lock : BrandLock :=
  brandLock [summarize, organize] (by simp) (by simp [summarize_ne_organize])

/-- The same Brand Lock after the benefits have been reordered. -/
def reorderedLock : BrandLock :=
  brandLock [organize, summarize] (by simp) (by simp [summarize_ne_organize.symm])

theorem lock_ne_reorderedLock : lock ≠ reorderedLock := by
  intro heq
  have hbenefits : [summarize, organize] = [organize, summarize] :=
    congrArg BrandLock.benefitOrder heq
  exact summarize_ne_organize (List.cons.inj hbenefits).1

def runCreate : RunCreate :=
  ⟨.chinaToUk, .fixture, sourceAsset, lock, .aiSoftware, rfl⟩

/-! ## Its analysis -/

/-- The signature of a PNG file. -/
def content : List UInt8 := [0x89, 0x50, 0x4E, 0x47, 0x0D, 0x0A, 0x1A, 0x0A]

def visionRequest : VisionAnalysisRequest :=
  ⟨content, sourceAsset, .chinaToUk, lock, StrEnum.value ProductCategory.aiSoftware, "static_ad"⟩

theorem noWarnings : ([] : List WarningCode).length ≤ 32 := Nat.zero_le 32

/-- An answer without hypotheses, with these warnings. -/
def visionResult (warnings : List WarningCode) (h : warnings.length ≤ 32) : VisionProviderResult :=
  ⟨.zhCN, [], warnings, false, false, by simp, h⟩

/-- It returns a validated result. -/
def provider (result : VisionProviderResult) : VisionProvider κ where
  Object := VisionProviderResult
  analyze _ _ := pure result
  modelValidate := .ok

def analysis (warnings : List WarningCode) (h : warnings.length ≤ 32) : AdAnalysis :=
  ⟨sourceAsset, .zhCN, lock, [], warnings, by simp, h⟩

theorem detectMediaType_content : detectMediaType content = some sourceAsset.mediaType.text := by
  simp only [detectMediaType, content, List.isPrefixOf, beq_self_eq_true, Bool.and_self, if_true]
  rfl

theorem validateRequest_visionRequest : SafetyGate.validateRequest visionRequest now = .ok () := by
  refine bind_eq_ok.mpr ⟨(), require_of _ detectMediaType_content, ?_⟩
  refine bind_eq_ok.mpr ⟨(), require_of _ ⟨.head _, rfl⟩, ?_⟩
  exact require_of _ fun expiresAt hexpires => nomatch hexpires

theorem validateResult_visionResult (warnings : List WarningCode) (h : warnings.length ≤ 32) :
    SafetyGate.validateResult visionRequest (visionResult warnings h) = .ok () := by
  refine bind_eq_ok.mpr ⟨(), require_of _ rfl, bind_eq_ok.mpr ⟨(), require_of _ rfl, ?_⟩⟩
  exact require_of _ fun hypothesis hmem => nomatch hmem

theorem validate_visionResult (warnings : List WarningCode) (h : warnings.length ≤ 32) :
    AdAnalysis.validate visionRequest.sourceAsset (visionResult warnings h).detectedLocale
      visionRequest.brandLock (visionResult warnings h).hypotheses
      (visionResult warnings h).warnings = some (analysis warnings h) :=
  dif_pos ⟨by simp [visionResult], h⟩

theorem analyze_visionRequest (warnings : List WarningCode) (h : warnings.length ≤ 32) :
    AnalysisPipeline.analyze (provider (visionResult warnings h)) (pure now) visionRequest =
      (pure ⟨analysis warnings h, false⟩ : Program κ Exc AnalysisOutcome) := by
  have hask : AnalysisPipeline.askTwice (provider (visionResult warnings h)) visionRequest =
      (pure (visionResult warnings h, false) :
        Program κ Exc (VisionProviderResult × Bool)) := rfl
  simp only [AnalysisPipeline.analyze, Program.pure_eq_ret, Program.bind_ret,
    validateRequest_visionRequest, hask, validateResult_visionResult, validate_visionResult,
    validated_some, Program.ofExcept_ok]

end CultureShift.Demo
