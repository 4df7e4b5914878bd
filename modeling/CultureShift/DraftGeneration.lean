/-
# Draft generation

A draft is written from the analysis and the confirmed Brand Lock. The
copywriter is replaceable; whatever it returns is checked against the fixture
of the direction and the Brand Lock.
-/

import CultureShift.Concurrent.Program
import CultureShift.Repository.Queries

namespace CultureShift

open Serialization Relational Concurrent

variable {κ : Type}

structure CopywriterResult where
  adCopy : AdCopy
  factReferences : List String
  ruleIds : List String

/-- A copywriter outside the database. -/
structure Copywriter (κ : Type) where
  write : CreativeBrief → List String → Program κ Exc CopywriterResult

structure DraftArtifacts where
  brief : CreativeBrief
  adCopy : AdCopy
  factReferences : List String
  ruleIds : List String

structure DirectionFixture where
  targetLocale : Locale
  sourceLocale : Locale
  ruleIds : List String
  narrative : LongText
  useScenario : LongText
  headline : ShortText
  body : LongText
  ctaLabel : ShortText

/-- `_FIXTURES`. -/
def draftFixture : LocalizationDirection → DirectionFixture
  | .chinaToUk =>
      { targetLocale := .enGB
        sourceLocale := .zhCN
        ruleIds := ["ZEU-S1", "ZEU-S3"]
        narrative :=
          ⟨"Present approved-note summarisation as a clear, reviewable workflow.",
            strip_ofList (by decide), length_ofList (by decide)⟩
        useScenario :=
          ⟨"A UK team reviews approved meeting notes before organising task summaries.",
            strip_ofList (by decide), length_ofList (by decide)⟩
        headline :=
          ⟨"Turn approved notes into clear task summaries", strip_ofList (by decide),
            length_ofList (by decide)⟩
        body :=
          ⟨"Orbit AI helps teams organise approved meeting notes into task summaries.",
            strip_ofList (by decide), length_ofList (by decide)⟩
        ctaLabel :=
          ⟨"Try the fixture demo", strip_ofList (by decide), length_ofList (by decide)⟩ }
  | .ukToChina =>
      { targetLocale := .zhCN
        sourceLocale := .enGB
        ruleIds := ["EZC-S1", "EZC-S3"]
        narrative :=
          ⟨"以清晰、可复核的工作流程呈现已批准笔记的整理过程。", strip_ofList (by decide),
            length_ofList (by decide)⟩
        useScenario :=
          ⟨"中国团队在整理任务摘要前复核已批准的会议笔记。", strip_ofList (by decide),
            length_ofList (by decide)⟩
        headline :=
          ⟨"把已批准笔记整理成清晰任务摘要", strip_ofList (by decide), length_ofList (by decide)⟩
        body :=
          ⟨"Orbit AI 帮助团队将已批准的会议笔记整理为任务摘要。", strip_ofList (by decide),
            length_ofList (by decide)⟩
        ctaLabel := ⟨"体验示例演示", strip_ofList (by decide), length_ofList (by decide)⟩ }

def trustInformation : LongText := ⟨disclosure, strip_ofList (by decide), length_ofList (by decide)⟩

/-- `FixtureCopywriter.write`. -/
def fixtureCopy (brief : CreativeBrief) (ruleIds : List String) : CopywriterResult where
  adCopy :=
    { locale := (draftFixture brief.direction).targetLocale
      headline := (draftFixture brief.direction).headline
      body := (draftFixture brief.direction).body
      ctaLabel := (draftFixture brief.direction).ctaLabel
      ctaActionMeaning := brief.brandLock.ctaActionMeaning }
  factReferences := brief.brandLock.facts
  ruleIds := ruleIds

def fixtureCopywriter : Copywriter κ where
  write brief ruleIds := pure (fixtureCopy brief ruleIds)

/-- `DraftGenerator.generate`. -/
def generateDraftArtifacts (copywriter : Copywriter κ) (analysis : AdAnalysis)
    (confirmed : BrandLock) (direction : LocalizationDirection) :
    Program κ Exc DraftArtifacts := do
  Program.ofExcept <| require (analysis.brandLock = confirmed)
    (.draftGenerationError .brandLockUnconfirmed)
  let fixture := draftFixture direction
  Program.ofExcept <| require (analysis.detectedLocale = fixture.sourceLocale)
    (.draftGenerationError .outputInvalid)
  Program.ofExcept <| require
    (∀ hypothesis ∈ analysis.hypotheses, hypothesis.reviewStatus = .pending)
    (.draftGenerationError .outputInvalid)
  let brief ← Program.ofExcept <| validated <|
    CreativeBrief.validate direction fixture.targetLocale confirmed analysis.hypotheses
      fixture.narrative fixture.useScenario trustInformation
  let result ← copywriter.write brief fixture.ruleIds
  Program.ofExcept <| require
    (result.adCopy.locale = fixture.targetLocale ∧
      result.adCopy.ctaActionMeaning = confirmed.ctaActionMeaning ∧
      result.ruleIds = fixture.ruleIds ∧ result.factReferences = confirmed.facts)
    (.draftGenerationError .outputInvalid)
  return ⟨brief, result.adCopy, result.factReferences, result.ruleIds⟩

end CultureShift
