/-
# The workflow

Any number of requests at once, each to one of the endpoints or straight to the
revision service, from an empty database. Every configuration that such a run
reaches keeps the discipline, so every run in it is absent or at a stage of its
life cycle.
-/

import CultureShift.Lifecycle.Claiming

namespace CultureShift

open Serialization Relational Concurrent

variable {ι κ : Type} {certifies : CriticRequest → CritiqueReport → Prop}

/-! ## Requests -/

inductive Request
  | createRun (body : RunCreate)
  | analyzeRun (runId : UUID) (request : HttpRequest)
  | confirmBrandLock (runId : UUID) (brandLock : BrandLock) (request : HttpRequest)
  | generateDraft (runId : UUID) (request : HttpRequest)
  | generateComposition (runId : UUID) (request : HttpRequest)
  | runCritic (runId : UUID) (request : HttpRequest)
  | submitFeedback (runId : UUID) (feedback : FeedbackRequest) (request : HttpRequest)
  | retryRevision (runId : UUID) (retry : RetryRequest) (request : HttpRequest)
  /-- A call to the revision service itself. -/
  | feedbackCall (feedback : FeedbackRequest) (key : String)
  | retryCall (retry : RetryRequest) (key : String)

inductive Response
  | created (response : RunCreated)
  | analyzed (response : AnalysisCompleted)
  | confirmed (response : BrandLockConfirmed)
  | drafted (response : DraftGenerated)
  | composed (response : CompositionGenerated)
  | reviewed (response : CritiqueCompleted)
  | revised (response : RevisionCompleted)

/-- What a request runs. -/
def App.handle (app : App κ) : Request → Program (World κ) Exc Response
  | .createRun body => do return .created (← app.createRun body)
  | .analyzeRun runId request => do return .analyzed (← app.analyzeRun runId request)
  | .confirmBrandLock runId brandLock request => do
      return .confirmed (← app.confirmBrandLock runId brandLock request)
  | .generateDraft runId request => do return .drafted (← app.generateDraft runId request)
  | .generateComposition runId request => do
      return .composed (← app.generateComposition runId request)
  | .runCritic runId request => do return .reviewed (← app.runCritic runId request)
  | .submitFeedback runId feedback request => do
      return .revised (← app.submitFeedback runId feedback request)
  | .retryRevision runId retry request => do
      return .revised (← app.retryRevision runId retry request)
  | .feedbackCall feedback key => do return .revised (← app.revisions.submitFeedback feedback key)
  | .retryCall retry key => do return .revised (← app.revisions.retry retry key)

/-- The requests are about to be handled, and no run has been created. -/
def workflow (app : App κ) (rest : κ) (requests : ι → Request) :
    Config ι (World κ) Exc Response where
  state := ⟨.empty, rest⟩
  threads i := app.handle (requests i)

/-! ## What becomes of a call to the revision service -/

/-- A call of the revision service: direct or through an endpoint, feedback or
retry. -/
structure ServiceCall where
  direct : Bool
  retrying : Bool
  runId : UUID
  key : String
  fingerprint : String

def Request.call? (service : RevisionService κ) : Request → Option ServiceCall
  | .submitFeedback _ feedback request =>
      some ⟨false, false, feedback.runId, request.idempotencyKey, service.fingerprint feedback⟩
  | .retryRevision _ retry request =>
      some ⟨false, true, retry.runId, request.idempotencyKey, service.fingerprint retry⟩
  | .feedbackCall feedback key =>
      some ⟨true, false, feedback.runId, key, service.fingerprint feedback⟩
  | .retryCall retry key => some ⟨true, true, retry.runId, key, service.fingerprint retry⟩
  | _ => none

/-- A call that has returned is completed. -/
def Request.Completed (service : RevisionService κ) (request : Request) (response : Response)
    (tokens : Set Token) (later : World κ) : Prop :=
  ∀ call, request.call? service = some call → ∃ revision, response = .revised revision ∧
    Completes service call.retrying call.runId call.key call.fingerprint revision tokens later

/-- A call that has raised is declined; the endpoints report that by a failure
of their own. -/
def Request.Declined (service : RevisionService κ) (assumes : World κ → Prop) (request : Request)
    (failure : Exc) (tokens : Set Token) (later : World κ) : Prop :=
  ∀ call, request.call? service = some call → ∃ reason,
    Declines (service.Dependable call.retrying assumes) call.retrying call.runId reason tokens
        later ∧
      (call.direct = true → reason = failure)

section Safety

variable {assumes : World κ → Prop} {tokens : Set Token} {world : World κ} (app : App κ)

/-- A request that does not call the revision service has nothing to complete. -/
theorem safe_of_orderly {α : Type} {program : Program (World κ) Exc α}
    {respond : α → Response} {request : Request} (hcall : request.call? app.revisions = none)
    (h : Orderly certifies program) :
    Discipline.Safe (requests certifies) assumes (request.Completed app.revisions)
      (request.Declined app.revisions assumes) tokens world
      (program >>= fun value => .ret (respond value)) := by
  refine Discipline.safe_bind (((h.safe tokens world).assuming fun _ _ => trivial).mono
    (fun value _ _ _ => Discipline.safe_ret fun _ _ call hsome => ?_) fun _ _ _ _ call hsome => ?_)
  · rw [hcall] at hsome
    cases hsome
  · rw [hcall] at hsome
    cases hsome

/-- Checking a capability leaves the request with what it owns. -/
theorem App.safe_requireCapability {required : Capability} {runId : UUID} {request : HttpRequest}
    {post : Unit → Set Token → World κ → Prop} {error : Exc → Set Token → World κ → Prop}
    (hpost : ∀ later, post () tokens later) (herror : ∀ failure later, error failure tokens later) :
    Discipline.Safe (requests certifies) assumes post error tokens world
      (app.requireCapability required runId request) := by
  unfold App.requireCapability
  split
  · exact Discipline.safe_raise fun _ _ => herror _ _
  · refine Discipline.safe_bind (Discipline.safe_tryCatch (safe_outside (Program.returns_true _)
      (Program.raises_true _) (fun claims _ _ _ => ?_) fun failure _ _ _ => ?_))
    · split_ifs
      · exact Discipline.safe_ret fun _ _ => hpost _
      · exact Discipline.safe_raise fun _ _ => herror _ _
    · cases failure <;> exact Discipline.safe_raise fun _ _ => herror _ _

/-- The endpoint of a call does what the call does. -/
theorem App.safe_revising {retrying : Bool} {runId bodyRunId : UUID} {request : HttpRequest}
    {fingerprint : String} {program : String → Program (World κ) Exc RevisionCompleted}
    (hnone : NoReceipt tokens)
    (hprogram : ∀ key later, Discipline.Safe (requests certifies) assumes
      (Completes app.revisions retrying bodyRunId key fingerprint)
      (Declines (app.revisions.Dependable retrying assumes) retrying bodyRunId) tokens later
      (program key)) :
    Discipline.Safe (requests certifies) assumes
      (Completes app.revisions retrying bodyRunId request.idempotencyKey fingerprint)
      (fun _ tokens' later => ∃ reason,
        Declines (app.revisions.Dependable retrying assumes) retrying bodyRunId reason tokens'
          later)
      tokens world (app.revising runId bodyRunId request program) := by
  have hrefused (later : World κ) : ∃ reason,
      Declines (app.revisions.Dependable retrying assumes) retrying bodyRunId reason tokens later :=
    ⟨.osError, hnone.declines _ nofun⟩
  refine Discipline.safe_bind (app.safe_requireCapability (fun later => ?_)
    fun _ later => hrefused later)
  split_ifs
  · exact Discipline.safe_raise fun later _ => hrefused later
  · exact Discipline.safe_raise fun later _ => hrefused later
  · refine Discipline.safe_tryCatch ((hprogram _ _).mono (fun _ _ _ h => h)
      fun failure tokens' later hdeclines => ?_)
    have hraise {later' : World κ}
        (hlater : (requests certifies).Rely tokens' later later') : ∃ reason,
        Declines (app.revisions.Dependable retrying assumes) retrying bodyRunId reason tokens'
          later' :=
      ⟨failure, hdeclines.of_rely hlater⟩
    cases failure <;> exact Discipline.safe_raise fun _ hlater => hraise hlater

/-- Every request keeps the discipline. -/
theorem App.safe_handle (hreview : ∀ request, (app.review request).Returns (certifies request))
    (hrevise : ∀ request, (app.revisions.review request).Returns (certifies request))
    (hnone : NoReceipt tokens) (request : Request) :
    Discipline.Safe (requests certifies) assumes (request.Completed app.revisions)
      (request.Declined app.revisions assumes) tokens world (app.handle request) := by
  -- What the two calls leave behind is what is asked of the requests that make them.
  have hcompleted {request : Request} {call : ServiceCall} {revision : RevisionCompleted}
      {tokens' : Set Token} {later : World κ} (hcall : request.call? app.revisions = some call)
      (h : Completes app.revisions call.retrying call.runId call.key call.fingerprint revision
        tokens' later) : request.Completed app.revisions (.revised revision) tokens' later := by
    intro other hother
    obtain rfl := Option.some.inj (hcall.symm.trans hother)
    exact ⟨revision, rfl, h⟩
  have hdeclined {request : Request} {call : ServiceCall} {failure reason : Exc}
      {tokens' : Set Token} {later : World κ} (hcall : request.call? app.revisions = some call)
      (h : Declines (app.revisions.Dependable call.retrying assumes) call.retrying call.runId
        reason tokens' later) (hdirect : call.direct = true → reason = failure) :
      request.Declined app.revisions assumes failure tokens' later := by
    intro other hother
    obtain rfl := Option.some.inj (hcall.symm.trans hother)
    exact ⟨reason, h, hdirect⟩
  cases request with
  | createRun body => exact safe_of_orderly app rfl (app.orderly_createRun body)
  | analyzeRun runId request => exact safe_of_orderly app rfl (app.orderly_analyzeRun runId request)
  | confirmBrandLock runId brandLock request =>
      exact safe_of_orderly app rfl (app.orderly_confirmBrandLock runId request brandLock)
  | generateDraft runId request =>
      exact safe_of_orderly app rfl (app.orderly_generateDraft runId request)
  | generateComposition runId request =>
      exact safe_of_orderly app rfl (app.orderly_generateComposition runId request)
  | runCritic runId request =>
      exact safe_of_orderly app rfl (app.orderly_runCritic runId request hreview)
  | submitFeedback runId feedback request =>
      exact Discipline.safe_bind ((app.safe_revising hnone fun key _ =>
        safe_submitFeedback app.revisions feedback key hnone hrevise).mono
        (fun _ _ _ h => Discipline.safe_ret fun _ hlater => hcompleted rfl (h.of_rely hlater))
        fun _ _ _ ⟨_, h⟩ => hdeclined rfl h nofun)
  | retryRevision runId retry request =>
      exact Discipline.safe_bind ((app.safe_revising hnone fun key _ =>
        safe_retry app.revisions retry key hnone hrevise).mono
        (fun _ _ _ h => Discipline.safe_ret fun _ hlater => hcompleted rfl (h.of_rely hlater))
        fun _ _ _ ⟨_, h⟩ => hdeclined rfl h nofun)
  | feedbackCall feedback key =>
      exact Discipline.safe_bind
        ((safe_submitFeedback app.revisions feedback key hnone hrevise).mono
        (fun _ _ _ h => Discipline.safe_ret fun _ hlater => hcompleted rfl (h.of_rely hlater))
        fun _ _ _ h => hdeclined rfl h fun _ => rfl)
  | retryCall retry key =>
      exact Discipline.safe_bind ((safe_retry app.revisions retry key hnone hrevise).mono
        (fun _ _ _ h => Discipline.safe_ret fun _ hlater => hcompleted rfl (h.of_rely hlater))
        fun _ _ _ h => hdeclined rfl h fun _ => rfl)

end Safety

/-! ## Every run of the workflow -/

section Runs

variable {assumes : ι → World κ → Prop} {app : App κ} {rest : κ} {inbox : ι → Request}

theorem empty_absent (runId : UUID) : Database.empty.Absent runId := ⟨rfl, rfl, rfl, rfl⟩

/-- Nobody holds anything before the first step. -/
theorem not_held_empty (rest : κ) (token : Token) :
    ¬(requests certifies).held token (⟨.empty, rest⟩ : World κ) := by
  intro hheld
  rcases token with ⟨runId, hold⟩ | ⟨runId, hold⟩
  · obtain ⟨stage, hshows, -⟩ := hheld
    exact hshows.not_absent (empty_absent runId)
  · obtain ⟨stage, hshows, -⟩ := hheld
    exact hshows.not_absent (empty_absent runId)

variable (assumes) in
theorem workflow_keeps (hreview : ∀ request, (app.review request).Returns (certifies request))
    (hrevise : ∀ request, (app.revisions.review request).Returns (certifies request)) :
    Discipline.Keeps (requests certifies) assumes
      (fun i => (inbox i).Completed app.revisions)
      (fun i => (inbox i).Declined app.revisions (assumes i)) (fun _ => ∅)
      (workflow app rest inbox) :=
  Discipline.keeps_of_safe (fun runId => .inl (empty_absent runId)) (not_held_empty rest)
    fun i => app.safe_handle hreview hrevise noReceipt_empty (inbox i)

variable [DecidableEq ι] {config : Config ι (World κ) Exc Response}

variable (certifies) in
/-- The invariant of the workflow: in every reachable state every run is absent
or at a stage, and every stored report is certified. -/
theorem lifecycle_of_reaches (hreview : ∀ request, (app.review request).Returns (certifies request))
    (hrevise : ∀ request, (app.revisions.review request).Returns (certifies request))
    (hreaches : Reaches (workflow app rest inbox) config) :
    (lifecycle certifies).inv config.state.database := by
  obtain ⟨log, hruns⟩ := hreaches
  obtain ⟨owns, hkeeps, -⟩ := Discipline.keeps_of_runs hruns
    (workflow_keeps (fun _ _ => True) hreview hrevise) fun _ _ => trivial
  exact hkeeps.inv

variable (certifies) in
/-- A run that is stored is at a stage. -/
theorem stage_of_reaches (hreview : ∀ request, (app.review request).Returns (certifies request))
    (hrevise : ∀ request, (app.revisions.review request).Returns (certifies request))
    (hreaches : Reaches (workflow app rest inbox) config) {runId : UUID} {row : RunRow}
    (hrow : config.state.database.runs.find runId = some row) :
    ∃ stage, config.state.database.Shows runId stage ∧ stage.Certified certifies ∧
      row.status = stage.status := by
  rcases lifecycle_of_reaches certifies hreview hrevise hreaches runId with
    habsent | ⟨stage, hshows, hstage⟩
  · rw [habsent.run] at hrow
    cases hrow
  · obtain ⟨row', hrow', -, hstatus⟩ := hshows.run
    obtain rfl := Option.some.inj (hrow.symm.trans hrow')
    exact ⟨stage, hshows, hstage, hstatus⟩

end Runs

end CultureShift
