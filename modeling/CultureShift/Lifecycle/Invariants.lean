/-
# What holds of every stored run

The invariant of the workflow, said of the tables: the status of a run agrees
with the evidence that is stored, there is at most one revision, and a version
that is ready has kept the confirmed Brand Lock.
-/

import CultureShift.Lifecycle.SecondVersion

namespace CultureShift

open Serialization Relational Concurrent

variable {ι κ : Type}

/-! ## Status and evidence -/

/-- A query has found something. -/
def Stored {α : Type} (answer : Except Exc (Option α)) : Prop := ∃ value, answer = .ok (some value)

/-- A query has found nothing. -/
def Missing {α : Type} (answer : Except Exc (Option α)) : Prop := answer = .ok none

theorem stored_ok {α : Type} {value : Option α} :
    Stored (.ok value : Except Exc (Option α)) ↔ value.isSome := by
  cases value <;> simp [Stored]

theorem missing_ok {α : Type} {value : Option α} :
    Missing (.ok value : Except Exc (Option α)) ↔ value = none := by
  simp [Missing]

namespace Database

variable (db : Database) (runId : UUID)

/-- Each piece of evidence rests on the one before. -/
structure EvidenceOrdered : Prop where
  composed : Stored (db.getCritique runId) → Stored (db.getComposition runId)
  drafted : Stored (db.getComposition runId) → Stored (db.getDraft runId)
  confirmed : Stored (db.getDraft runId) → Stored (db.getConfirmedBrandLock runId)
  analyzed : Stored (db.getConfirmedBrandLock runId) → Stored (db.getAnalysis runId)

/-- Nothing but the request is stored. -/
structure NoEvidence : Prop where
  analysis : Missing (db.getAnalysis runId)
  confirmation : Missing (db.getConfirmedBrandLock runId)
  draft : Missing (db.getDraft runId)
  composition : Missing (db.getComposition runId)
  critique : Missing (db.getCritique runId)

/-- No operation of the run is being carried out. -/
def Idle : Prop := ∀ row ∈ db.operations.ofRun runId, row.progress.state ≠ .inProgress

/-- What each status says about the evidence. -/
structure StatusAgrees (status : ProjectRunStatus) : Prop where
  ordered : db.EvidenceOrdered runId
  pending : status = .pending → db.NoEvidence runId ∧ db.operations.ofRun runId = []
  awaiting : status = .awaitingBrandLock →
    Stored (db.getAnalysis runId) ∧ Missing (db.getConfirmedBrandLock runId)
  ready : status = .ready →
    (∃ record, db.getCritique runId = .ok (some record) ∧ record.report.status ≠ .reject) ∧
      db.Idle runId
  refused : status = .failed ∨ status = .blocked → Missing (db.getAnalysis runId)
  revised : (db.revisions.find runId).isSome → status = .ready ∨ status = .failedFinal

variable {db runId} {stage : Stage}

theorem Shows.evidenceOrdered (h : db.Shows runId stage) : db.EvidenceOrdered runId := by
  constructor
  · rw [h.getCritique, h.getComposition, stored_ok, stored_ok]
    cases stage <;> simp [Stage.composed?, Stage.reviewed?]
  · rw [h.getComposition, h.getDraft, stored_ok, stored_ok]
    cases stage <;> simp [Stage.drafted?, Stage.composed?, Stage.reviewed?]
  · rw [h.getDraft, h.getConfirmedBrandLock, stored_ok, stored_ok]
    cases stage <;> simp [Stage.confirmed?, Stage.drafted?, Stage.composed?, Stage.reviewed?]
  · rw [h.getConfirmedBrandLock, h.getAnalysis, stored_ok, stored_ok]
    cases stage <;>
      simp [Stage.analyzed?, Stage.confirmed?, Stage.drafted?, Stage.composed?, Stage.reviewed?]

theorem reviewedStatus_cases (report : CritiqueReport) :
    (report.status = .reject ∧ reviewedStatus report = .failedFinal) ∨
      (report.status ≠ .reject ∧ reviewedStatus report = .ready) := by
  by_cases h : report.status = .reject
  · exact .inl ⟨h, if_pos h⟩
  · exact .inr ⟨h, if_neg h⟩

/-- A ready run has a report that accepts its first version, and nothing is
being done about it. -/
theorem Shows.accepted_of_ready (h : db.Shows runId stage) (hready : stage.status = .ready) :
    (∃ evidence : Accepted, stage.reviewed? = some evidence.toReviewed) ∧
      stage.hold? = none ∧
      ∀ revision, stage.revised? = some revision → revision.critique.status ≠ .reject := by
  cases stage <;> simp only [Stage.status, reduceCtorEq] at hready
  case refused request blocked => split at hready <;> cases hready
  case ready evidence =>
    refine ⟨⟨evidence, rfl⟩, rfl, fun revision hrevision => ?_⟩
    cases hrevision
  case revised evidence feedback retry revision =>
    refine ⟨⟨evidence, rfl⟩, rfl, fun other hother => ?_⟩
    obtain rfl := Option.some.inj hother
    rcases reviewedStatus_cases revision.critique with ⟨-, hstatus⟩ | ⟨haccepted, -⟩
    · rw [hstatus] at hready
      cases hready
    · exact haccepted

/-- An operation in progress is what the stage waits for. -/
theorem Shows.idle_of_hold (h : db.Shows runId stage) (hfree : stage.hold? = none) :
    db.Idle runId := by
  intro row hrow hstate
  rw [h.operations] at hrow
  rcases Stage.hold_of_inProgress hrow hstate with
    ⟨_, _, rfl, -⟩ | ⟨_, _, _, _, rfl, -⟩ <;> cases hfree

theorem Shows.statusAgrees (h : db.Shows runId stage) : db.StatusAgrees runId stage.status where
  ordered := h.evidenceOrdered
  pending := by
    intro hpending
    obtain ⟨request, rfl⟩ := Stage.eq_pending hpending
    exact ⟨⟨h.getAnalysis, h.getConfirmedBrandLock, h.getDraft, h.getComposition, h.getCritique⟩,
      h.operations⟩
  awaiting := by
    intro hawaiting
    obtain ⟨evidence, rfl⟩ := Stage.eq_awaiting hawaiting
    exact ⟨⟨_, h.getAnalysis⟩, h.getConfirmedBrandLock⟩
  ready := by
    intro hready
    obtain ⟨⟨evidence, hreviewed⟩, hfree, -⟩ := h.accepted_of_ready hready
    refine ⟨⟨⟨evidence.critique, evidence.critique.reviewedAt⟩, ?_, evidence.accepted⟩,
      h.idle_of_hold hfree⟩
    rw [h.getCritique, hreviewed, Option.map_some]
  refused := by
    intro hrefused
    rw [h.getAnalysis, missing_ok]
    cases stage <;> simp only [Stage.status, reduceCtorEq, or_self] at hrefused <;> try rfl
    case revised evidence feedback retry revision =>
      rcases reviewedStatus_cases revision.critique with ⟨-, hstatus⟩ | ⟨-, hstatus⟩ <;>
        simp [hstatus] at hrefused
  revised := by
    intro hrevision
    rw [h.revision, Option.isSome_map] at hrevision
    cases stage <;> simp only [Stage.revised?, Option.isSome_none, Bool.false_eq_true] at hrevision
    case revised evidence feedback retry revision =>
      rcases reviewedStatus_cases revision.critique with ⟨-, hstatus⟩ | ⟨-, hstatus⟩
      · exact .inr hstatus
      · exact .inl hstatus

/-! ## One revision -/

variable (db runId) in
/-- The counters of a run count its rows, and there is one revision at most:
revisions have the run as their key, so at most one row is ever found. -/
structure RevisionsCounted (status : ProjectRunStatus) (context : ContextRow) : Prop where
  humanRevisionCount :
    context.humanRevisionCount = if (db.revisions.find runId).isSome then 1 else 0
  initialGenerationCount :
    context.initialGenerationCount = if context.composition.isSome then 1 else 0
  oneActive :
    ((db.operations.ofRun runId).filter fun row => row.progress.state = .inProgress).length ≤ 1
  activeInProgress : ∀ row ∈ db.operations.ofRun runId, row.progress.state = .inProgress →
    status = .inProgress
  technicalAttemptCount : context.technicalAttemptCount =
    ((db.operations.ofRun runId).filter fun row => row.kind = .retry).length
  oneRetry : context.technicalAttemptCount ≤ 1
  retryable : status = .failedRetryable → db.revisions.find runId = none ∧
    (∀ row ∈ db.operations.ofRun runId, row.kind ≠ .retry) ∧
    ∃ row ∈ db.operations.ofRun runId, row.kind = .feedback ∧
      row.progress.state = .failedRetryable ∧ row.progress.retryCondition.isSome ∧
      row.progress.retryAction.isSome

theorem Shows.revisionsCounted (h : db.Shows runId stage) :
    db.RevisionsCounted runId stage.status stage.context where
  humanRevisionCount := by rw [h.revision, Option.isSome_map]; rfl
  initialGenerationCount := by simp [Stage.context]
  oneActive := by
    rw [h.operations]
    cases stage
    case revised evidence feedback retry revision =>
      cases retry <;> simp [Stage.operations, Feedback.row, Claim.retryRow, Stage.retryDecision]
    all_goals simp [Stage.operations, Feedback.row, Claim.retryRow, Stage.retryDecision]
  activeInProgress := by
    intro row hrow hstate
    rw [h.operations] at hrow
    rcases Stage.hold_of_inProgress hrow hstate with ⟨_, _, rfl, -⟩ | ⟨_, _, _, _, rfl, -⟩ <;> rfl
  technicalAttemptCount := by
    rw [h.operations]
    cases stage <;> try rfl
    case revised evidence feedback retry revision => cases retry <;> rfl
  oneRetry := by
    change stage.retries ≤ 1
    cases stage
    case revised evidence feedback retry revision => cases retry <;> simp [Stage.retries]
    all_goals simp [Stage.retries]
  retryable := by
    intro hretryable
    obtain ⟨evidence, feedback, failedAt, rfl⟩ := Stage.eq_retryable hretryable
    rw [h.operations]
    refine ⟨h.revision, fun row hrow => ?_, _, List.mem_singleton_self _, rfl, rfl, rfl, rfl⟩
    obtain rfl := List.mem_singleton.mp hrow
    intro hkind
    cases hkind

end Database

section Reached

variable [DecidableEq ι] {app : App κ} {rest : κ} {inbox : ι → Request}
  {config : Config ι (World κ) Exc Response}

/-- In every state that requests can reach, the status of a run agrees with the
evidence that is stored of it. -/
theorem status_agrees_of_reaches (hreaches : Reaches (workflow app rest inbox) config)
    {runId : UUID} {row : RunRow} (hrow : config.state.database.runs.find runId = some row) :
    config.state.database.StatusAgrees runId row.status := by
  obtain ⟨stage, hshows, -, hstatus⟩ := stage_of_reaches (fun _ _ => True)
    (fun _ => Program.returns_true _) (fun _ => Program.returns_true _) hreaches hrow
  rw [hstatus]
  exact hshows.statusAgrees

/-- The demo takes a run to its second version, and the run is ready then. -/
theorem exists_revised_row : ∃ config row,
    Reaches (workflow Demo.fixtureApp () Demo.feedbackRequests) config ∧
      config.state.database.runs.find Demo.runId = some row ∧ row.status = .ready ∧
      ∃ revised, config.state.database.revisions.find Demo.runId = some revised := by
  obtain ⟨config, hreaches, ⟨id, revision, hshows, -, hcritique⟩, -⟩ := Demo.exists_revised
    (fun _ => .feedbackCall Demo.feedback Demo.feedbackKey) rfl
  obtain ⟨row, hrow, -, hstatus⟩ := hshows.run
  refine ⟨config, row, hreaches, hrow, ?_, _, hshows.revision⟩
  rw [hstatus, Stage.status, hcritique]
  rfl

theorem status_agrees_revised : ∃ config row,
    Reaches (workflow Demo.fixtureApp () Demo.feedbackRequests) config ∧
      config.state.database.runs.find Demo.runId = some row ∧ row.status = .ready ∧
      config.state.database.StatusAgrees Demo.runId row.status := by
  obtain ⟨config, row, hreaches, hrow, hready, -⟩ := exists_revised_row
  exact ⟨config, row, hreaches, hrow, hready, status_agrees_of_reaches hreaches hrow⟩

/-- However many requests there are and however they interleave, a run is
revised at most once and the counters say so. -/
theorem revisions_counted_of_reaches (hreaches : Reaches (workflow app rest inbox) config)
    {runId : UUID} {row : RunRow} (hrow : config.state.database.runs.find runId = some row) :
    ∃ context, config.state.database.contexts.find runId = some context ∧
      config.state.database.RevisionsCounted runId row.status context := by
  obtain ⟨stage, hshows, -, hstatus⟩ := stage_of_reaches (fun _ _ => True)
    (fun _ => Program.returns_true _) (fun _ => Program.returns_true _) hreaches hrow
  rw [hstatus]
  exact ⟨stage.context, hshows.context, hshows.revisionsCounted⟩

theorem revisions_counted_revised : ∃ config, ∃ row : RunRow, ∃ context : ContextRow,
    Reaches (workflow Demo.fixtureApp () Demo.feedbackRequests) config ∧
      config.state.database.contexts.find Demo.runId = some context ∧
      config.state.database.RevisionsCounted Demo.runId row.status context ∧
      ∃ revised, config.state.database.revisions.find Demo.runId = some revised := by
  obtain ⟨config, row, hreaches, hrow, -, hrevised⟩ := exists_revised_row
  obtain ⟨context, hcontext, hcounted⟩ := revisions_counted_of_reaches hreaches hrow
  exact ⟨config, row, context, hreaches, hcontext, hcounted, hrevised⟩

end Reached

/-! ## The Brand Lock -/

namespace Critic

/-- A report that does not reject has found the evidence in order. -/
def Accepts (request : CriticRequest) (report : CritiqueReport) : Prop :=
  report.status ≠ .reject → BrandLockPreserved request ∧ FactsSupported request

theorem accepts_of_statusOf {casefold : String → String} {request : CriticRequest}
    (h : statusOf (issues casefold request) ≠ .reject) :
    BrandLockPreserved request ∧ FactsSupported request := by
  have hclear : ∀ issue ∈ issues casefold request, issue.severity ≠ .blocking := by
    intro issue hissue hblocking
    refine h ?_
    rw [statusOf, if_pos ⟨issue, hissue, hblocking⟩]
  -- An issue that is raised whenever the check fails is not in the list.
  constructor
  · by_contra hlock
    exact hclear brandLockMismatch (by simp [issues, hlock]) rfl
  · by_contra hfacts
    exact hclear unsupportedFact (by simp [issues, hfacts]) rfl

/-- Whatever the clock says and however case is folded, the Critic accepts only
what has kept the Brand Lock. -/
theorem review_returns (casefold : String → String) (now : Program κ Exc Datetime)
    (request : CriticRequest) : (review casefold now request).Returns (Accepts request) := by
  refine Program.meets_bind (Program.meets_mono (Program.returns_true now) (fun reviewedAt _ => ?_)
    fun _ h => h)
  refine Program.meets_bind (Program.meets_ofExcept (fun codes _ => ?_) fun _ _ => trivial)
  refine Program.meets_ofExcept (fun report hreport hstatus => ?_) fun _ _ => trivial
  unfold CritiqueReport.validate at hreport
  split_ifs at hreport with hvalid
  · cases hreport
    exact accepts_of_statusOf hstatus
  · cases hreport

end Critic

/-- The application with the Critic of the source in place of any other review. -/
def App.reviewedBy (app : App κ) (casefold : String → String) (now : Program κ Exc Datetime) :
    App κ :=
  { app with
    review := Critic.review casefold now
    revisions := { app.revisions with review := Critic.review casefold now } }

namespace Database

/-- A version has kept the Brand Lock that the run confirmed. -/
structure KeepsBrandLock (lock : BrandLock) (analysis : AdAnalysis) (draft : DraftRecord)
    (composition : CompositionGenerated) : Prop where
  analysis : analysis.brandLock = lock
  brief : draft.brief.brandLock = lock
  ctaActionMeaning : draft.adCopy.ctaActionMeaning = lock.ctaActionMeaning
  logo : layerSource composition.layers .logo = some lock.logoAssetId
  productUi : ∃ assetId ∈ lock.productUiAssetIds,
    layerSource composition.layers .productUi = some assetId
  factsNonempty : draft.factReferences ≠ []
  factsVerified : ∀ fact ∈ draft.factReferences, fact ∈ lock.facts

theorem KeepsBrandLock.of_critic {request : CriticRequest}
    (h : Critic.BrandLockPreserved request ∧ Critic.FactsSupported request) :
    KeepsBrandLock request.confirmedBrandLock request.analysis request.draft request.composition :=
  ⟨h.1.1, h.1.2.1, h.1.2.2.1, h.1.2.2.2.1, h.1.2.2.2.2, h.2.1, h.2.2⟩

/-- Both versions of a ready run have kept the confirmed Brand Lock. -/
structure BrandLockKept (db : Database) (runId : UUID) : Prop where
  first : ∃ analysis confirmation draft composition, db.getAnalysis runId = .ok (some analysis) ∧
    db.getConfirmedBrandLock runId = .ok (some confirmation) ∧
    db.getDraft runId = .ok (some draft) ∧ db.getComposition runId = .ok (some composition) ∧
    KeepsBrandLock confirmation.brandLock analysis draft composition
  second : (db.revisions.find runId).isSome →
    ∃ analysis confirmation revision, db.getAnalysis runId = .ok (some analysis) ∧
      db.getConfirmedBrandLock runId = .ok (some confirmation) ∧
      db.getRevision runId = .ok (some revision) ∧
      KeepsBrandLock confirmation.brandLock analysis revision.draft revision.composition

theorem Shows.brandLockKept {db : Database} {runId : UUID} {stage : Stage}
    (h : db.Shows runId stage) (hcertified : stage.Certified Critic.Accepts)
    (hready : stage.status = .ready) : db.BrandLockKept runId := by
  obtain ⟨⟨evidence, hreviewed⟩, -, haccepted⟩ := h.accepted_of_ready hready
  obtain ⟨-, hanalyzed, hconfirmed, hdrafted, hcomposed⟩ := Stage.evidence_of_reviewed? hreviewed
  have hanalysis := h.getAnalysis
  have hconfirmation := h.getConfirmedBrandLock
  rw [hanalyzed, Option.map_some] at hanalysis
  rw [hconfirmed, Option.map_some] at hconfirmation
  constructor
  · obtain ⟨codes, haccepts⟩ := hcertified.reviewed _ hreviewed
    refine ⟨_, _, _, _, hanalysis, hconfirmation, ?_, ?_, .of_critic (haccepts evidence.accepted)⟩
    · rw [h.getDraft, hdrafted, Option.map_some]
    · rw [h.getComposition, hcomposed, Option.map_some]
  · intro hrevision
    rw [h.revision, Option.isSome_map, Option.isSome_iff_exists] at hrevision
    obtain ⟨revision, hrevised⟩ := hrevision
    obtain ⟨codes, generatedAt, haccepts⟩ := hcertified.revised _ revision hreviewed hrevised
    have hkept := KeepsBrandLock.of_critic (haccepts (haccepted revision hrevised))
    refine ⟨_, _, _, hanalysis, hconfirmation, by rw [h.getRevision, hrevised, Option.map_some], ?_⟩
    exact ⟨hkept.analysis, hkept.brief, hkept.ctaActionMeaning, hkept.logo, hkept.productUi,
      hkept.factsNonempty, hkept.factsVerified⟩

end Database

section Reviewed

variable [DecidableEq ι] {app : App κ} {rest : κ} {inbox : ι → Request}
  {config : Config ι (World κ) Exc Response}

/-- Whatever the other collaborators answer, a run that the Critic has let
through has kept the Brand Lock in each of its versions. -/
theorem brand_lock_kept_of_reaches {casefold : String → String} {now : Program κ Exc Datetime}
    (hreaches : Reaches (workflow (app.reviewedBy casefold now) rest inbox) config)
    {runId : UUID} {row : RunRow} (hrow : config.state.database.runs.find runId = some row)
    (hready : row.status = .ready) : config.state.database.BrandLockKept runId := by
  obtain ⟨stage, hshows, hcertified, hstatus⟩ := stage_of_reaches Critic.Accepts
    (Critic.review_returns casefold now) (Critic.review_returns casefold now) hreaches hrow
  exact hshows.brandLockKept hcertified (hstatus.symm.trans hready)

theorem brand_lock_kept_revised : ∃ config,
    Reaches (workflow (Demo.fixtureApp.reviewedBy id (pure Demo.now)) () Demo.feedbackRequests)
      config ∧
      config.state.database.BrandLockKept Demo.runId ∧
      ∃ revised, config.state.database.revisions.find Demo.runId = some revised := by
  obtain ⟨config, row, hreaches, hrow, hready, hrevised⟩ := exists_revised_row
  have hreviewed : Reaches (workflow (Demo.fixtureApp.reviewedBy id (pure Demo.now)) ()
      Demo.feedbackRequests) config := hreaches
  exact ⟨config, hreviewed, brand_lock_kept_of_reaches hreviewed hrow hready, hrevised⟩

end Reviewed

end CultureShift
