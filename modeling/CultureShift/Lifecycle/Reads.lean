/-
# Reading a stage

What the queries answer for a run at a known stage: the evidence of the stage,
and never a broken record. A run that is absent is not found.
-/

import CultureShift.Lifecycle.Evolution

namespace CultureShift

open Serialization Relational

/-- No table has a row of the run. -/
structure Database.Absent (db : Database) (runId : UUID) : Prop where
  run : db.runs.find runId = none
  context : db.contexts.find runId = none
  revision : db.revisions.find runId = none
  operations : db.operations.ofRun runId = []

namespace Stage

variable (stage : Stage)

/-! ## The columns of a stage -/

theorem confirmationRecord_context :
    confirmationRecord stage.context.confirmedBrandLock stage.context.brandLockConfirmedAt =
      .ok (stage.confirmed?.map fun evidence => evidence.confirmation) := by
  cases hconfirmed : stage.confirmed? <;>
    simp [context, hconfirmed, confirmationRecord, pure, Except.pure]

theorem draftRecord_context :
    draftRecord stage.context.creativeBrief stage.context.adCopy
        stage.context.draftFactReferences stage.context.draftRuleIds
        stage.context.draftGeneratedAt =
      .ok (stage.drafted?.map fun evidence => evidence.draft) := by
  cases hdrafted : stage.drafted? <;> simp [context, hdrafted, draftRecord, pure, Except.pure]

theorem critiqueRecord_context :
    critiqueRecord stage.context.critique stage.context.criticReviewedAt =
      .ok (stage.reviewed?.map fun evidence =>
        ⟨evidence.critique, evidence.critique.reviewedAt⟩) := by
  cases hreviewed : stage.reviewed? <;>
    simp [context, hreviewed, critiqueRecord, pure, Except.pure]

end Stage

/-! ## The queries -/

namespace Database

variable {db : Database} {runId : UUID} {stage : Stage}

theorem Shows.contextOf (h : db.Shows runId stage) : db.contextOf runId = .ok stage.context := by
  rw [Database.contextOf, h.context, orRaise_some]

theorem Shows.getRequest (h : db.Shows runId stage) :
    db.getRequest runId = .ok stage.request := by
  rw [Database.getRequest, h.contextOf]
  exact load_dump stage.request

theorem Shows.getAnalysis (h : db.Shows runId stage) :
    db.getAnalysis runId = .ok (stage.analyzed?.map fun evidence => evidence.analysis) := by
  rw [Database.getAnalysis, h.contextOf, ok_bind]
  cases hanalyzed : stage.analyzed? <;> simp [Stage.context, hanalyzed, loadOption, Except.map]

theorem Shows.getConfirmedBrandLock (h : db.Shows runId stage) :
    db.getConfirmedBrandLock runId =
      .ok (stage.confirmed?.map fun evidence => evidence.confirmation) := by
  rw [Database.getConfirmedBrandLock, h.contextOf]
  exact stage.confirmationRecord_context

theorem Shows.getDraft (h : db.Shows runId stage) :
    db.getDraft runId = .ok (stage.drafted?.map fun evidence => evidence.draft) := by
  rw [Database.getDraft, h.contextOf]
  exact stage.draftRecord_context

theorem Shows.getComposition (h : db.Shows runId stage) :
    db.getComposition runId = .ok (stage.composed?.map fun evidence => evidence.composition) := by
  rw [Database.getComposition, h.contextOf, ok_bind]
  cases hcomposed : stage.composed? <;> simp [Stage.context, hcomposed, loadOption, Except.map]

theorem Shows.getCritique (h : db.Shows runId stage) :
    db.getCritique runId = .ok (stage.reviewed?.map fun evidence =>
      ⟨evidence.critique, evidence.critique.reviewedAt⟩) := by
  rw [Database.getCritique, h.contextOf]
  exact stage.critiqueRecord_context

theorem Shows.getRevision (h : db.Shows runId stage) :
    db.getRevision runId = .ok (stage.revised?.map fun revision => revision.record runId) := by
  rw [Database.getRevision, h.revision]
  cases hrevised : stage.revised? <;>
    simp [revisionRecord, Revised.row, Revised.record, Revised.draft, Except.map, pure,
      Except.pure]

/-- What a run that was read has in common with the stage. -/
structure ReadsAs (run : ProjectRun) (runId : UUID) (stage : Stage) : Prop where
  id : run.id = runId
  direction : run.direction = stage.request.direction
  status : run.status = stage.status
  initialGenerationCount : run.initialGenerationCount = stage.context.initialGenerationCount
  humanRevisionCount : run.humanRevisionCount = stage.context.humanRevisionCount
  technicalAttemptCount : run.technicalAttemptCount = stage.retries

theorem Shows.get (h : db.Shows runId stage) {run : ProjectRun} (hget : db.get runId = .ok run) :
    ReadsAs run runId stage := by
  obtain ⟨row, hrow, hdirection, hstatus⟩ := h.run
  simp only [Database.get, hrow, h.context, orRaise_some, ok_bind, bind_eq_ok] at hget
  obtain ⟨codes, -, hvalidate⟩ := hget
  obtain ⟨hid, hd, hs, -, hi, hh, ht, -, -⟩ := ProjectRun.of_validate hvalidate
  exact ⟨hid, hd.trans hdirection, hs.trans hstatus, by simpa using hi, by simpa using hh,
    by simpa [Stage.context] using ht⟩

/-- A run at a stage can only be read wrongly in its own row. -/
theorem Shows.get_error (h : db.Shows runId stage) {failure : Exc}
    (hget : db.get runId = .error failure) : failure = .validationError := by
  obtain ⟨row, hrow, -⟩ := h.run
  simp only [Database.get, hrow, h.context, orRaise_some, ok_bind] at hget
  cases hload : load row.warningCodes with
  | error error =>
      obtain ⟨codes, heq⟩ := row.warningCodes.exists_dump
      simp [heq] at hload
  | ok codes =>
      rw [hload, ok_bind, ProjectRun.validate] at hget
      split_ifs at hget
      exact (Except.error.inj hget).symm

theorem Shows.joined (h : db.Shows runId stage) {row : RunRow} {context : Option ContextRow}
    (hjoined : db.joined runId = .ok (row, context)) :
    db.runs.find runId = some row ∧ row.status = stage.status ∧ context = some stage.context := by
  obtain ⟨row', hrow, -, hstatus⟩ := h.run
  simp only [Database.joined, hrow, h.context, orRaise_some, ok_bind] at hjoined
  cases hjoined
  exact ⟨hrow, hstatus, rfl⟩

theorem Shows.not_absent (h : db.Shows runId stage) : ¬db.Absent runId := by
  intro habsent
  obtain ⟨row, hrow, -⟩ := h.run
  rw [habsent.run] at hrow
  cases hrow

theorem Absent.get (h : db.Absent runId) :
    db.get runId = .error (.projectRunNotFoundError runId) := by
  rw [Database.get, h.run, orRaise_none, error_bind]

theorem Absent.joined (h : db.Absent runId) :
    db.joined runId = .error (.projectRunNotFoundError runId) := by
  rw [Database.joined, h.run, orRaise_none, error_bind]

end Database

/-! ## Recognising a stage -/

namespace Stage

variable {stage : Stage}

theorem eq_pending (hstatus : stage.status = .pending) : ∃ request, stage = .pending request := by
  cases stage <;> simp [status, Database.reviewedStatus] at hstatus ⊢ <;>
    split at hstatus <;> cases hstatus

theorem eq_analyzing (hhold : stage.hold? = some .analysis) :
    ∃ request, stage = .analyzing request := by
  cases stage <;> simp [hold?] at hhold ⊢

theorem eq_awaiting (hstatus : stage.status = .awaitingBrandLock) :
    ∃ evidence, stage = .awaiting evidence := by
  cases stage <;> simp [status, Database.reviewedStatus] at hstatus ⊢ <;>
    split at hstatus <;> cases hstatus

theorem eq_ready (hstatus : stage.status = .ready) (hrevised : stage.revised? = none) :
    ∃ evidence, stage = .ready evidence := by
  cases stage <;> simp [status, revised?] at hstatus hrevised ⊢
  split at hstatus <;> cases hstatus

theorem eq_retryable (hstatus : stage.status = .failedRetryable) :
    ∃ evidence feedback failedAt, stage = .retryable evidence feedback failedAt := by
  cases stage <;> simp [status, Database.reviewedStatus] at hstatus ⊢ <;>
    split at hstatus <;> cases hstatus

theorem eq_confirmed (hstatus : stage.status = .inProgress) (hconfirmed : stage.confirmed?.isSome)
    (hdrafted : stage.drafted? = none) : ∃ evidence, stage = .confirmed evidence := by
  cases stage <;>
    simp [status, confirmed?, drafted?, composed?, reviewed?] at hstatus hconfirmed hdrafted ⊢

theorem eq_drafted (hstatus : stage.status = .inProgress) (hdrafted : stage.drafted?.isSome)
    (hcomposed : stage.composed? = none) : ∃ evidence, stage = .drafted evidence := by
  cases stage <;> simp [status, drafted?, composed?, reviewed?] at hstatus hdrafted hcomposed ⊢

theorem eq_composed (hstatus : stage.status = .inProgress) (hcomposed : stage.composed?.isSome)
    (hreviewed : stage.reviewed? = none) : ∃ evidence, stage = .composed evidence := by
  cases stage <;> simp [status, composed?, reviewed?] at hstatus hcomposed hreviewed ⊢

/-- An operation that is in progress holds the stage. -/
theorem hold_of_inProgress {runId : UUID} {row : OperationRow}
    (hrow : row ∈ stage.operations runId) (hstate : row.progress.state = .inProgress) :
    (∃ evidence feedback, stage = .revising evidence feedback ∧ row.id = feedback.id ∧
        row.kind = .feedback) ∨
      ∃ evidence feedback failedAt retry, stage = .retrying evidence feedback failedAt retry ∧
        row.id = retry.id ∧ row.kind = .retry := by
  cases stage
  case revising evidence feedback =>
    obtain rfl : row = _ := List.mem_singleton.mp hrow
    exact .inl ⟨evidence, feedback, rfl, rfl, rfl⟩
  case retrying evidence feedback failedAt retry =>
    rcases List.mem_pair.mp hrow with rfl | rfl
    · cases hstate
    · exact .inr ⟨evidence, feedback, failedAt, retry, rfl, rfl, rfl⟩
  case revised evidence feedback retry revision =>
    cases retry <;> simp only [operations, List.mem_cons, List.not_mem_nil, or_false] at hrow
    · subst hrow
      cases hstate
    · rcases hrow with rfl | rfl <;> cases hstate
  all_goals
    simp only [operations, List.mem_cons, List.not_mem_nil, or_false] at hrow
  case retryable =>
    subst hrow
    cases hstate
  case exhausted =>
    rcases hrow with rfl | rfl <;> cases hstate

/-- An operation that has succeeded answers with the response of the revision,
whether the revision was its own or that of the retry after it. -/
theorem revised_of_succeeded {runId : UUID} {row : OperationRow}
    (hrow : row ∈ stage.operations runId) (hstate : row.progress.state = .succeeded) :
    ∃ revision claim, stage.revised? = some revision ∧
      row.progress.publicResponse = some (.dump revision.response) ∧
      stage.claim? (row.kind = .retry) = some claim ∧ claim.keyDigest = row.keyDigest ∧
      claim.fingerprint = row.fingerprint := by
  cases stage
  case revised evidence feedback retry revision =>
    cases retry <;> simp only [operations, List.mem_cons, List.not_mem_nil, or_false] at hrow
    case none =>
      subst hrow
      exact ⟨revision, feedback.toClaim, rfl, rfl, rfl, rfl, rfl⟩
    case some retry =>
      rcases hrow with rfl | rfl
      · exact ⟨revision, feedback.toClaim, rfl, rfl, rfl, rfl, rfl⟩
      · exact ⟨revision, retry, rfl, rfl, rfl, rfl, rfl⟩
  all_goals
    simp only [operations, List.mem_cons, List.not_mem_nil, or_false] at hrow
  case revising =>
    subst hrow
    cases hstate
  case retryable =>
    subst hrow
    cases hstate
  case retrying =>
    rcases hrow with rfl | rfl <;> cases hstate
  case exhausted =>
    rcases hrow with rfl | rfl <;> cases hstate

end Stage

end CultureShift
