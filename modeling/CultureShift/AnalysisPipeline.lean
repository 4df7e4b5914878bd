/-
# The analysis pipeline

A source ad is checked, sent to the vision provider at most twice, and the
provider's answer is checked again. The second attempt is made only when the
first answer does not validate.

What a provider returns is any object, and pydantic's `model_validate` reads it.
Both are parameters here.
-/

import CultureShift.Concurrent.Program
import CultureShift.Contracts.Exchange
import CultureShift.Relational.Transaction

namespace CultureShift

open Serialization Relational Concurrent

variable {κ : Type}

/-- A dataclass: its literals are not checked when it is built. -/
structure VisionAnalysisRequest where
  content : List UInt8
  sourceAsset : SourceAdAssetRef
  direction : LocalizationDirection
  brandLock : BrandLock
  productCategory : String
  creativeFormat : String := "static_ad"

structure VisionProviderResult where
  detectedLocale : Locale
  hypotheses : List CulturalHypothesis
  warnings : List WarningCode
  instructionLikeContentDetected : Bool
  prohibitedContentDetected : Bool
  valid : hypotheses.length ≤ 32 ∧ warnings.length ≤ 32

/-- What `model_validate` raises on an object that it does not read. -/
inductive ValidationFailure
  | typeError | validationError

inductive Attempt
  | initial | repair
deriving DecidableEq

/-- A vision provider outside the database, and how the objects that it returns
are validated. -/
structure VisionProvider (κ : Type) where
  Object : Type
  analyze : VisionAnalysisRequest → Attempt → Program κ Exc Object
  modelValidate : Object → Except ValidationFailure VisionProviderResult

structure AnalysisOutcome where
  analysis : AdAnalysis
  repairAttempted : Bool

/-- `detect_media_type`. -/
def detectMediaType (data : List UInt8) : Option String :=
  if [0x89, 0x50, 0x4E, 0x47, 0x0D, 0x0A, 0x1A, 0x0A].isPrefixOf data then some "image/png"
  else if [0xFF, 0xD8, 0xFF].isPrefixOf data && [0xFF, 0xD9].isSuffixOf data then
    some "image/jpeg"
  else none

namespace SafetyGate

def supportedCategories : List String := ["ai_software", "ai_application"]

def validateRequest (request : VisionAnalysisRequest) (now : Datetime) : Except Exc Unit := do
  require (detectMediaType request.content = some request.sourceAsset.mediaType.text)
    (.analysisPipelineError .invalidInput)
  require
    (request.productCategory ∈ supportedCategories ∧ request.creativeFormat = "static_ad")
    (.analysisPipelineError .unsupportedScope)
  require (∀ expiresAt ∈ request.sourceAsset.expiresAt, now < expiresAt)
    (.analysisPipelineError .assetClosed)

def expectedMarket : LocalizationDirection → Market
  | .chinaToUk => .unitedKingdom
  | .ukToChina => .china

def validateResult (request : VisionAnalysisRequest) (result : VisionProviderResult) :
    Except Exc Unit := do
  require (result.instructionLikeContentDetected = false)
    (.analysisPipelineError .instructionLikeContent)
  require (result.prohibitedContentDetected = false) (.analysisPipelineError .prohibitedContent)
  require
    (∀ hypothesis ∈ result.hypotheses, hypothesis.reviewStatus = .pending ∧
      hypothesis.targetMarket = expectedMarket request.direction)
    (.analysisPipelineError .unsafeHypothesis)

end SafetyGate

namespace AnalysisPipeline

/-- `_call_provider`: every exception of the provider counts as a failure. -/
def callProvider (provider : VisionProvider κ) (request : VisionAnalysisRequest)
    (attempt : Attempt) : Program κ Exc provider.Object :=
  (provider.analyze request attempt).tryCatch fun _ =>
    .raise (.analysisPipelineError .providerFailed)

/-- `_validate_provider_result`. -/
def validateProviderResult {Object : Type}
    (modelValidate : Object → Except ValidationFailure VisionProviderResult) (object : Object) :
    Except Exc VisionProviderResult :=
  match modelValidate object with
  | .ok result => .ok result
  | .error _ => .error (.analysisPipelineError .providerOutputInvalid)

/-- One call of the provider, validated. -/
def ask (provider : VisionProvider κ) (request : VisionAnalysisRequest) (attempt : Attempt) :
    Program κ Exc VisionProviderResult := do
  let object ← callProvider provider request attempt
  .ofExcept (validateProviderResult provider.modelValidate object)

/-- Ask again, once, when the first answer was invalid. -/
def askTwice (provider : VisionProvider κ) (request : VisionAnalysisRequest) :
    Program κ Exc (VisionProviderResult × Bool) :=
  Program.tryCatch
    (do
      let result ← ask provider request .initial
      return (result, false))
    fun
    | .analysisPipelineError .providerOutputInvalid => do
        let result ← ask provider request .repair
        return (result, true)
    | error => .raise error

def analyze (provider : VisionProvider κ) (now : Program κ Exc Datetime)
    (request : VisionAnalysisRequest) : Program κ Exc AnalysisOutcome := do
  let checkedAt ← now
  Program.ofExcept (SafetyGate.validateRequest request checkedAt)
  let (result, repairAttempted) ← askTwice provider request
  Program.ofExcept (SafetyGate.validateResult request result)
  let analysis ← Program.ofExcept <| validated <|
    AdAnalysis.validate request.sourceAsset result.detectedLocale request.brandLock
      result.hypotheses result.warnings
  return ⟨analysis, repairAttempted⟩

/-- What the pipeline guarantees of an outcome, whatever the provider answers. -/
structure Sound (request : VisionAnalysisRequest) (analysis : AdAnalysis) : Prop where
  sourceAsset : analysis.sourceAsset = request.sourceAsset
  brandLock : analysis.brandLock = request.brandLock
  hypotheses : ∀ hypothesis ∈ analysis.hypotheses, hypothesis.reviewStatus = .pending ∧
    hypothesis.targetMarket = SafetyGate.expectedMarket request.direction

theorem sound_of_validate {request : VisionAnalysisRequest} {result : VisionProviderResult}
    {analysis : AdAnalysis} {gate : Unit}
    (hgate : SafetyGate.validateResult request result = .ok gate)
    (hanalysis : AdAnalysis.validate request.sourceAsset result.detectedLocale request.brandLock
      result.hypotheses result.warnings = some analysis) : Sound request analysis := by
  simp only [SafetyGate.validateResult, bind_eq_ok, require_eq_ok] at hgate
  obtain ⟨-, -, -, -, hhypotheses⟩ := hgate
  unfold AdAnalysis.validate at hanalysis
  split_ifs at hanalysis
  cases hanalysis
  exact ⟨rfl, rfl, hhypotheses⟩

theorem analyze_returns (provider : VisionProvider κ) (now : Program κ Exc Datetime)
    (request : VisionAnalysisRequest) :
    (analyze provider now request).Returns fun outcome => Sound request outcome.analysis := by
  refine Program.meets_bind (Program.meets_mono (Program.returns_true now) (fun checkedAt _ => ?_)
    fun _ h => h)
  refine Program.meets_bind (Program.meets_ofExcept (fun _ _ => ?_) fun _ _ => trivial)
  refine Program.meets_bind (Program.meets_mono (Program.returns_true _) (fun answer _ => ?_)
    fun _ h => h)
  refine Program.meets_bind (Program.meets_ofExcept (fun _ hgate => ?_) fun _ _ => trivial)
  refine Program.meets_bind (Program.meets_ofExcept (fun analysis hanalysis => ?_)
    fun _ _ => trivial)
  cases hvalidate : AdAnalysis.validate request.sourceAsset answer.1.detectedLocale
      request.brandLock answer.1.hypotheses answer.1.warnings with
  | none => simp [hvalidate] at hanalysis
  | some analysis' =>
      obtain rfl : analysis' = analysis := by simpa [hvalidate] using hanalysis
      exact sound_of_validate hgate hvalidate

end AnalysisPipeline

end CultureShift
