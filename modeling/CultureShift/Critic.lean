/-
# The Critic

The Critic compares a version with the confirmed Brand Lock and the persisted
evidence, collects issues in a fixed order, and derives the status from them.
Python's `casefold` is a parameter: nothing below depends on how case is
folded.
-/

import CultureShift.Concurrent.Program
import CultureShift.Repository.Queries

namespace CultureShift

open Serialization Relational Concurrent

variable {κ : Type}

structure CriticRequest where
  analysis : AdAnalysis
  confirmedBrandLock : BrandLock
  draft : DraftRecord
  composition : CompositionGenerated
  warningCodes : List String

namespace Critic

/-- `_SAFETY_REFUSALS`. -/
def safetyRefusals : List String :=
  ["prohibited_content", "instruction_like_content", "safety_refusal"]

/-- `_ABSOLUTE_CULTURAL_PHRASES`. -/
def absoluteCulturalPhrases : List String :=
  ["all british people", "british people always", "all chinese people", "chinese people always",
    "所有英国人", "英国人都", "所有中国人", "中国人都"]

/-- `_STEREOTYPE_PHRASES`. -/
def stereotypePhrases : List String :=
  ["british people are reserved", "chinese users only like red", "英国人很保守",
    "中国用户只喜欢红色"]

/-- `any(phrase in claim for phrase in phrases)`. -/
def mentions (phrases : List String) (claim : String) : Bool :=
  phrases.any fun phrase => claim.toList.tails.any fun rest => phrase.toList.isPrefixOf rest

def safetyRefusal : CritiqueIssue where
  code := ⟨"safety_refusal", strip_ofList (by decide), accepts_ofList (by decide)⟩
  category := .safety
  severity := .blocking
  message := ⟨"Persisted safety evidence blocks this concept.", strip_ofList (by decide),
    length_ofList (by decide)⟩
  requiresHumanReview := false

def brandLockMismatch : CritiqueIssue where
  code := ⟨"brand_lock_mismatch", strip_ofList (by decide), accepts_ofList (by decide)⟩
  category := .brandLock
  severity := .blocking
  message := ⟨"Protected Brand Lock evidence does not match the confirmation.",
    strip_ofList (by decide), length_ofList (by decide)⟩
  requiresHumanReview := false

def unsupportedFact : CritiqueIssue where
  code := ⟨"unsupported_fact", strip_ofList (by decide), accepts_ofList (by decide)⟩
  category := .fact
  severity := .blocking
  message := ⟨"Copy evidence includes an unsupported product fact.", strip_ofList (by decide),
    length_ofList (by decide)⟩
  requiresHumanReview := false

def copyUnreadable : CritiqueIssue where
  code := ⟨"copy_unreadable", strip_ofList (by decide), accepts_ofList (by decide)⟩
  category := .readability
  severity := .warning
  message := ⟨"Copy exceeds the deterministic fixture readability limit.",
    strip_ofList (by decide), length_ofList (by decide)⟩
  requiresHumanReview := false

def absoluteCulturalClaim : CritiqueIssue where
  code := ⟨"absolute_cultural_claim", strip_ofList (by decide), accepts_ofList (by decide)⟩
  category := .culture
  severity := .warning
  message := ⟨"A population-wide cultural claim must be rewritten as a hypothesis.",
    strip_ofList (by decide), length_ofList (by decide)⟩
  requiresHumanReview := false

def possibleStereotype : CritiqueIssue where
  code := ⟨"possible_stereotype", strip_ofList (by decide), accepts_ofList (by decide)⟩
  category := .culture
  severity := .warning
  message := ⟨"A possible stereotype requires accountable human review.",
    strip_ofList (by decide), length_ofList (by decide)⟩
  requiresHumanReview := true

def culturalHypothesisPending : CritiqueIssue where
  code := ⟨"cultural_hypothesis_pending", strip_ofList (by decide), accepts_ofList (by decide)⟩
  category := .culture
  severity := .warning
  message := ⟨"A cultural hypothesis remains pending human review.", strip_ofList (by decide),
    length_ofList (by decide)⟩
  requiresHumanReview := true

/-- The warnings of the analysis and of the run, each once, in order of first
appearance. -/
def warnings (request : CriticRequest) : List String :=
  (request.analysis.warnings.map (·.text) ++ request.warningCodes).eraseDups

/-- The evidence of the version agrees with the confirmed Brand Lock. -/
def BrandLockPreserved (request : CriticRequest) : Prop :=
  request.analysis.brandLock = request.confirmedBrandLock ∧
    request.draft.brief.brandLock = request.confirmedBrandLock ∧
    request.draft.adCopy.ctaActionMeaning = request.confirmedBrandLock.ctaActionMeaning ∧
    layerSource request.composition.layers .logo = some request.confirmedBrandLock.logoAssetId ∧
    ∃ assetId ∈ request.confirmedBrandLock.productUiAssetIds,
      layerSource request.composition.layers .productUi = some assetId

instance (request : CriticRequest) : Decidable (BrandLockPreserved request) :=
  inferInstanceAs (Decidable (_ ∧ _ ∧ _ ∧ _ ∧ _))

/-- The draft refers to verified facts, and to at least one. -/
def FactsSupported (request : CriticRequest) : Prop :=
  request.draft.factReferences ≠ [] ∧
    ∀ fact ∈ request.draft.factReferences, fact ∈ request.confirmedBrandLock.facts

instance (request : CriticRequest) : Decidable (FactsSupported request) :=
  inferInstanceAs (Decidable (_ ∧ _))

/-- The copy exceeds one of the readability limits. -/
def Unreadable (copy : AdCopy) : Prop :=
  80 < copy.headline.text.length ∨ 220 < copy.body.text.length ∨
    32 < copy.ctaLabel.text.length

instance (copy : AdCopy) : Decidable (Unreadable copy) :=
  inferInstanceAs (Decidable (_ ∨ _ ∨ _))

/-- The one issue a hypothesis can raise. -/
def hypothesisIssue (casefold : String → String) (hypothesis : CulturalHypothesis) :
    Option CritiqueIssue :=
  let claim := casefold hypothesis.claim.text
  if mentions absoluteCulturalPhrases claim then some absoluteCulturalClaim
  else if mentions stereotypePhrases claim then some possibleStereotype
  else if hypothesis.reviewStatus = .pending then some culturalHypothesisPending
  else none

/-- All issues, in the order in which the Critic looks for them. -/
def issues (casefold : String → String) (request : CriticRequest) : List CritiqueIssue :=
  (if ∃ code ∈ warnings request, code ∈ safetyRefusals then [safetyRefusal] else []) ++
    (if BrandLockPreserved request then [] else [brandLockMismatch]) ++
    (if FactsSupported request then [] else [unsupportedFact]) ++
    (if Unreadable request.draft.adCopy then [copyUnreadable] else []) ++
    request.analysis.hypotheses.filterMap (hypothesisIssue casefold)

/-- The status that a list of issues calls for. -/
def statusOf (issues : List CritiqueIssue) : CritiqueStatus :=
  if ∃ issue ∈ issues, issue.severity = .blocking then .reject
  else if ∃ issue ∈ issues, issue.requiresHumanReview = true then .needsHumanReview
  else if issues ≠ [] then .revise
  else .pass

def review (casefold : String → String) (now : Program κ Exc Datetime)
    (request : CriticRequest) : Program κ Exc CritiqueReport := do
  let found := issues casefold request
  let reviewedAt ← now
  let codes ← Program.ofExcept <| validated <|
    (warnings request).mapM (PatternText.validate : String → Option WarningCode)
  Program.ofExcept <| validated <|
    CritiqueReport.validate (statusOf found) found codes (decide (BrandLockPreserved request))
      (found.any (·.requiresHumanReview)) reviewedAt

end Critic

end CultureShift
