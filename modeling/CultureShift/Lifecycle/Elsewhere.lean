/-
# What the components leave alone

A view of the state outside the database, and the programs that do not change
what it shows.
-/

import CultureShift.App

namespace CultureShift

open Serialization Relational Concurrent

variable {κ α β : Type} {seen : κ → β}

/-- The program does not touch the shelf, or whatever else is looked at. -/
def Elsewhere (onShelf : κ → β) (program : Program κ Exc α) : Prop :=
  program.Meets (fun _ => True) (fun before after => onShelf after = onShelf before)
    (fun _ => True) fun _ => True

namespace Elsewhere

theorem ret (value : α) : Elsewhere seen (.ret value : Program κ Exc α) := trivial

theorem bind {γ : Type} {program : Program κ Exc α} {rest : α → Program κ Exc γ}
    (h : Elsewhere seen program) (hrest : ∀ value, Elsewhere seen (rest value)) :
    Elsewhere seen (program >>= rest) :=
  Program.meets_bind (Program.meets_mono h (fun value _ => hrest value) fun _ h => h)

theorem tryCatch {program : Program κ Exc α} {handler : Exc → Program κ Exc α}
    (h : Elsewhere seen program) (hhandler : ∀ failure, Elsewhere seen (handler failure)) :
    Elsewhere seen (program.tryCatch handler) :=
  Program.meets_tryCatch (Program.meets_mono h (fun _ h => h) fun failure _ => hhandler failure)

theorem ofExcept (body : Except Exc α) :
    Elsewhere seen (.ofExcept body : Program κ Exc α) :=
  Program.meets_ofExcept (fun _ _ => trivial) fun _ _ => trivial

/-- Where nothing is looked at, anything may be done. -/
theorem of_unseen (program : Program κ Exc α) : Elsewhere (fun _ => ()) program :=
  Program.meets_weaken Program.meets_trivial fun _ _ _ _ => rfl

end Elsewhere

/-! ## The pipelines -/

theorem elsewhere_analyze {provider : VisionProvider κ} {now : Program κ Exc Datetime}
    (hprovider : ∀ request attempt, Elsewhere seen (provider.analyze request attempt))
    (hnow : Elsewhere seen now) (request : VisionAnalysisRequest) :
    Elsewhere seen (AnalysisPipeline.analyze provider now request) := by
  have hask (attempt : Attempt) :
      Elsewhere seen (AnalysisPipeline.ask provider request attempt) :=
    .bind (.tryCatch (hprovider request attempt) fun _ => trivial) fun _ => .ofExcept _
  refine .bind hnow fun _ => .bind (.ofExcept _) fun _ => .bind (.tryCatch ?_ fun failure => ?_)
    fun _ => .bind (.ofExcept _) fun _ => .bind (.ofExcept _) fun _ => trivial
  · exact .bind (hask .initial) fun _ => trivial
  · split
    · exact .bind (hask .repair) fun _ => trivial
    · trivial

theorem elsewhere_generateDraftArtifacts {copywriter : Copywriter κ}
    (hwrite : ∀ brief ruleIds, Elsewhere seen (copywriter.write brief ruleIds))
    (analysis : AdAnalysis) (confirmed : BrandLock) (direction : LocalizationDirection) :
    Elsewhere seen (generateDraftArtifacts copywriter analysis confirmed direction) :=
  .bind (.ofExcept _) fun _ => .bind (.ofExcept _) fun _ => .bind (.ofExcept _) fun _ =>
    .bind (.ofExcept _) fun _ => .bind (hwrite _ _) fun _ => .bind (.ofExcept _) fun _ => trivial

theorem elsewhere_review {now : Program κ Exc Datetime} (hnow : Elsewhere seen now)
    (casefold : String → String) (request : CriticRequest) :
    Elsewhere seen (Critic.review casefold now request) :=
  .bind hnow fun _ => .bind (.ofExcept _) fun _ => .ofExcept _

/-! ## The components -/

structure Repository.Elsewhere (repository : Repository κ) (onShelf : κ → β) : Prop where
  connect : CultureShift.Elsewhere onShelf repository.connect
  utcNow : CultureShift.Elsewhere onShelf repository.utcNow

structure Studio.Spares (studio : Studio κ) (seen : κ → β) : Prop where
  uuid4 : Elsewhere seen studio.uuid4
  generateBackground : ∀ request, Elsewhere seen (studio.generateBackground request)
  resolve : ∀ assetId, Elsewhere seen (studio.resolve assetId)
  compose : ∀ request, Elsewhere seen (studio.compose request)
  save : ∀ artifactId pngBytes expiresAt,
    Elsewhere seen (studio.artifactStore.save artifactId pngBytes expiresAt)
  delete : ∀ artifactId, Elsewhere seen (studio.artifactStore.delete artifactId)

structure CompositionService.Spares (service : CompositionService κ) (seen : κ → β) : Prop where
  repository : service.repository.Elsewhere seen
  studio : service.studio.Spares seen

structure RevisionService.Spares (service : RevisionService κ) (seen : κ → β) : Prop where
  repository : service.repository.Elsewhere seen
  revise : ∀ direction draft changes,
    Elsewhere seen (service.revise direction draft changes)
  studio : service.studio.Spares seen
  review : ∀ request, Elsewhere seen (service.review request)

/-- Only the issue of a token changes what is seen. -/
structure App.Spares (app : App κ) (seen : κ → β) : Prop where
  runs : app.runs.Elsewhere seen
  verify : ∀ token required, Elsewhere seen (app.tokens.verify token required)
  assets : ∀ assetId, Elsewhere seen (app.assets.load assetId)
  provider : ∀ request attempt, Elsewhere seen (app.provider.analyze request attempt)
  copywriter : ∀ brief ruleIds, Elsewhere seen (app.copywriter.write brief ruleIds)
  compositions : app.compositions.Spares seen
  review : ∀ request, Elsewhere seen (app.review request)
  revisions : app.revisions.Spares seen
  uuid4 : Elsewhere seen app.uuid4
  pipelineNow : Elsewhere seen app.pipelineNow

theorem Repository.elsewhere_of_unseen (repository : Repository κ) :
    repository.Elsewhere fun _ => () :=
  ⟨.of_unseen _, .of_unseen _⟩

theorem Studio.spares_of_unseen (studio : Studio κ) : studio.Spares fun _ => () where
  uuid4 := .of_unseen _
  generateBackground _ := .of_unseen _
  resolve _ := .of_unseen _
  compose _ := .of_unseen _
  save _ _ _ := .of_unseen _
  delete _ := .of_unseen _

theorem App.spares_of_unseen (app : App κ) : app.Spares fun _ => () where
  runs := app.runs.elsewhere_of_unseen
  verify _ _ := .of_unseen _
  assets _ := .of_unseen _
  provider _ _ := .of_unseen _
  copywriter _ _ := .of_unseen _
  compositions := ⟨Repository.elsewhere_of_unseen _, Studio.spares_of_unseen _⟩
  review _ := .of_unseen _
  revisions := ⟨Repository.elsewhere_of_unseen _, fun _ _ _ => .of_unseen _,
    Studio.spares_of_unseen _, fun _ => .of_unseen _⟩
  uuid4 := .of_unseen _
  pipelineNow := .of_unseen _

end CultureShift
