/-
# The revision engine

A revision replaces the headline or the body of the stored copy by a shorter
fixture; everything else of the draft is kept.
-/

import CultureShift.Repository.Queries

namespace CultureShift

open Serialization Relational

structure RevisionArtifacts where
  brief : CreativeBrief
  adCopy : AdCopy
  factReferences : List String
  ruleIds : List String

structure RevisionFixture where
  headline : ShortText
  body : LongText

/-- `_REVISIONS`. -/
def revisionFixture : LocalizationDirection → RevisionFixture
  | .chinaToUk =>
      { headline :=
          ⟨"Turn approved notes into task summaries", strip_ofList (by decide),
            length_ofList (by decide)⟩
        body :=
          ⟨"Orbit AI organises approved notes into task summaries.", strip_ofList (by decide),
            length_ofList (by decide)⟩ }
  | .ukToChina =>
      { headline :=
          ⟨"把已批准笔记整理为任务摘要", strip_ofList (by decide), length_ofList (by decide)⟩
        body :=
          ⟨"Orbit AI 将已批准笔记整理为任务摘要。", strip_ofList (by decide),
            length_ofList (by decide)⟩ }

/-- `FixtureRevisionEngine.revise`. -/
def revise (direction : LocalizationDirection) (draft : DraftRecord)
    (requestedChanges : List RevisionChange) : Except Exc RevisionArtifacts := do
  require (draft.brief.direction = direction)
    (.valueError "revision direction must match persisted draft")
  let fixture := revisionFixture direction
  return {
    brief := draft.brief
    adCopy :=
      { draft.adCopy with
        headline :=
          if .shortenHeadline ∈ requestedChanges then fixture.headline else draft.adCopy.headline
        body := if .shortenBody ∈ requestedChanges then fixture.body else draft.adCopy.body }
    factReferences := draft.factReferences
    ruleIds := draft.ruleIds }

end CultureShift
