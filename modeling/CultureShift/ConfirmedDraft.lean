/-
# Drafting a confirmed run

Three components accept a Brand Lock on its way to a draft: the gate of the
analysis, the validator of the confirmation and the draft generator. The
generator accepts less than the two before it.
-/

import CultureShift.AnalysisPipeline
import CultureShift.BrandLockConfirmation
import CultureShift.DraftGeneration
import CultureShift.FixtureDemo

namespace CultureShift

open Serialization Relational Concurrent

variable {κ : Type}

/-! ## What the generator accepts -/

/-- The brief that the generator writes for a confirmed Brand Lock. -/
def draftBrief (analysis : AdAnalysis) (confirmed : BrandLock)
    (direction : LocalizationDirection) : CreativeBrief where
  direction := direction
  targetLocale := (draftFixture direction).targetLocale
  brandLock := confirmed
  hypotheses := analysis.hypotheses
  narrative := (draftFixture direction).narrative
  useScenario := (draftFixture direction).useScenario
  trustInformation := trustInformation
  valid := analysis.valid.1

/-- What the fixture copywriter makes of that brief. -/
def fixtureDraft (analysis : AdAnalysis) (confirmed : BrandLock)
    (direction : LocalizationDirection) : DraftArtifacts :=
  let copy := fixtureCopy (draftBrief analysis confirmed direction) (draftFixture direction).ruleIds
  ⟨draftBrief analysis confirmed direction, copy.adCopy, copy.factReferences, copy.ruleIds⟩

section Generator

variable {analysis : AdAnalysis} {confirmed : BrandLock} {direction : LocalizationDirection}

theorem generateDraftArtifacts_eq_fixtureDraft (hlock : analysis.brandLock = confirmed)
    (hlocale : analysis.detectedLocale = (draftFixture direction).sourceLocale)
    (hpending : ∀ hypothesis ∈ analysis.hypotheses, hypothesis.reviewStatus = .pending) :
    generateDraftArtifacts (fixtureCopywriter : Copywriter κ) analysis confirmed direction =
      pure (fixtureDraft analysis confirmed direction) := by
  have hbrief : CreativeBrief.validate direction (draftFixture direction).targetLocale confirmed
      analysis.hypotheses (draftFixture direction).narrative (draftFixture direction).useScenario
      trustInformation = some (draftBrief analysis confirmed direction) :=
    dif_pos analysis.valid.1
  rw [generateDraftArtifacts, require_of _ hlock, Program.ofExcept_ok, Program.bind_ret]
  dsimp only
  rw [require_of _ hlocale, Program.ofExcept_ok, Program.bind_ret, require_of _ hpending,
    Program.ofExcept_ok, Program.bind_ret, hbrief, validated_some, Program.ofExcept_ok,
    Program.bind_ret]
  exact congrArg (· >>= fun _ => _)
    (congrArg Program.ofExcept (require_of _ ⟨rfl, rfl, rfl, rfl⟩))

theorem generateDraftArtifacts_of_lock_ne (copywriter : Copywriter κ)
    (hlock : analysis.brandLock ≠ confirmed) :
    generateDraftArtifacts copywriter analysis confirmed direction =
      .raise (.draftGenerationError .brandLockUnconfirmed) := by
  rw [generateDraftArtifacts, require, if_neg hlock]
  rfl

theorem generateDraftArtifacts_of_locale_ne (copywriter : Copywriter κ)
    (hlock : analysis.brandLock = confirmed)
    (hlocale : analysis.detectedLocale ≠ (draftFixture direction).sourceLocale) :
    generateDraftArtifacts copywriter analysis confirmed direction =
      .raise (.draftGenerationError .outputInvalid) := by
  rw [generateDraftArtifacts, require_of _ hlock, Program.ofExcept_ok, Program.bind_ret]
  dsimp only
  rw [require, if_neg hlocale]
  rfl

end Generator

/-! ## Confirmed, but not drafted -/

/-- The generator returns a draft for the confirmed Brand Lock. -/
def Drafts (analysis : AdAnalysis) (confirmed : BrandLock) (direction : LocalizationDirection) :
    Prop :=
  ∃ artifacts, generateDraftArtifacts (fixtureCopywriter : Copywriter Unit) analysis confirmed
      direction = pure artifacts ∧
    artifacts.brief.brandLock = confirmed

/-- A confirmed run is drafted exactly when the confirmation edited nothing and
the provider has detected the locale that the direction starts from. -/
theorem drafts_iff {provider : VisionProvider κ} {now : Program κ Exc Datetime}
    {request : VisionAnalysisRequest} {outcome : AnalysisOutcome} {rest rest' : κ}
    {proposed confirmed : BrandLock}
    (hanalyzed : (AnalysisPipeline.analyze provider now request).Solo rest (.ok outcome) rest')
    (hconfirmed : validateBrandLockConfirmation proposed outcome.analysis.brandLock =
      .ok confirmed) :
    Drafts outcome.analysis confirmed request.direction ↔
      proposed = request.brandLock ∧
        outcome.analysis.detectedLocale = (draftFixture request.direction).sourceLocale := by
  obtain ⟨-, hbrandLock, hhypotheses⟩ :=
    Program.Meets.returned (AnalysisPipeline.analyze_returns provider now request) hanalyzed
  obtain ⟨rfl, -⟩ := validateBrandLockConfirmation_eq_ok_iff.mp hconfirmed
  rw [← hbrandLock]
  constructor
  · rintro ⟨artifacts, hgenerate, -⟩
    by_cases hlock : outcome.analysis.brandLock = confirmed
    · refine ⟨hlock.symm, ?_⟩
      by_contra hlocale
      rw [generateDraftArtifacts_of_locale_ne _ hlock hlocale] at hgenerate
      cases hgenerate
    · rw [generateDraftArtifacts_of_lock_ne _ hlock] at hgenerate
      cases hgenerate
  · rintro ⟨hlock, hlocale⟩
    exact ⟨fixtureDraft outcome.analysis confirmed request.direction,
      generateDraftArtifacts_eq_fixtureDraft hlock.symm hlocale
        fun hypothesis hmem => (hhypotheses hypothesis hmem).1, rfl⟩

theorem drafts_lock : Drafts (Demo.analysis [] Demo.noWarnings) Demo.lock .chinaToUk :=
  (drafts_iff
    (Program.solo_of_exec
      (congrArg (Program.exec · ()) (Demo.analyze_visionRequest [] Demo.noWarnings)))
    (validateBrandLockConfirmation_eq_ok_iff.mpr ⟨rfl, ⟨rfl, rfl, rfl, rfl, rfl, rfl⟩,
      ⟨rfl, fun _ h => h, fun _ h => h⟩, fun _ h => h⟩)).mpr ⟨rfl, rfl⟩

theorem confirms_reorderedLock :
    validateBrandLockConfirmation Demo.reorderedLock Demo.lock = .ok Demo.reorderedLock := by
  refine validateBrandLockConfirmation_eq_ok_iff.mpr ⟨rfl, ⟨rfl, rfl, rfl, rfl, rfl, rfl⟩,
    ⟨rfl, ?_, ?_⟩, fun _ hfield => hfield⟩
  · intro benefit hbenefit
    simpa [Demo.lock, Demo.brandLock, Demo.reorderedLock, or_comm] using hbenefit
  · intro benefit hbenefit
    simpa [Demo.lock, Demo.brandLock, Demo.reorderedLock, or_comm] using hbenefit

/-- Two benefits have been reordered: the confirmation is stored, and then
nothing can be drafted. -/
theorem not_drafts_reorderedLock :
    ¬∀ (request : VisionAnalysisRequest) (result : VisionProviderResult)
      (outcome : AnalysisOutcome) (proposed confirmed : BrandLock),
      (AnalysisPipeline.analyze (Demo.provider result) (pure Demo.now) request).Solo ()
        (.ok outcome) () →
      validateBrandLockConfirmation proposed outcome.analysis.brandLock = .ok confirmed →
      Drafts outcome.analysis confirmed request.direction := by
  intro hdrafts
  have hanalyzed := Program.solo_of_exec
    (congrArg (Program.exec · ()) (Demo.analyze_visionRequest [] Demo.noWarnings))
  obtain ⟨artifacts, hgenerate, -⟩ :=
    hdrafts _ _ _ _ _ hanalyzed confirms_reorderedLock
  rw [generateDraftArtifacts_of_lock_ne _ Demo.lock_ne_reorderedLock] at hgenerate
  cases hgenerate

end CultureShift
