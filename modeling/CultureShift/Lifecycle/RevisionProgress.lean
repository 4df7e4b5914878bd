/-
# Progress of an undisturbed revision

Feedback on a ready run is claimed, the second version is rendered from the
stored first one, and the operation is completed or, after a failure that the
service knows, released. Everything here is one client alone; the transactions
are those of the interleaved requests.
-/

import CultureShift.Lifecycle.Demo

namespace CultureShift

open Serialization Relational Concurrent

variable {κ : Type}

/-! ## A claim that commits -/

/-- A row under a key that no operation of its run has is inserted. -/
theorem OperationTable.insert_of_fresh (table : OperationTable) {runId : UUID}
    {kind : OperationKind} {keyDigest : String} (fingerprint : String)
    (requestedChanges : Option (Column (List RevisionChange))) (feedbackDigest : Option String)
    (createdAt : Datetime) (progress : OperationProgress)
    (hfresh : ∀ row ∈ table.ofRun runId, row.kind = kind → row.keyDigest ≠ keyDigest) :
    ∃ table', table.insert runId kind keyDigest fingerprint requestedChanges feedbackDigest
      createdAt progress = some (table', ⟨table.sequence + 1, runId, kind, keyDigest, fingerprint,
        requestedChanges, feedbackDigest, createdAt, progress⟩) := by
  have hkey : (runId, kind, keyDigest) ∉ table.rows.map OperationRow.key := by
    intro hmem
    obtain ⟨row, hrow, heq⟩ := List.mem_map.mp hmem
    obtain ⟨hrun, hkind, hdigest⟩ : row.runId = runId ∧ row.kind = kind ∧
        row.keyDigest = keyDigest := by
      simpa [OperationRow.key] using heq
    exact hfresh row (OperationTable.mem_ofRun.mpr ⟨hrow, hrun⟩) hkind hdigest
  exact ⟨_, dif_pos hkey⟩

namespace Database

variable {db : Database} {now : Datetime} {runId : UUID} {evidence : Accepted}

/-- Feedback on a ready run is claimed. -/
theorem At.claimFeedbackOperation (h : db.At now runId (.ready evidence))
    (keyDigest fingerprint feedbackDigest : String) (requestedChanges : List RevisionChange) :
    ∃ id record db', db.claimFeedbackOperation runId keyDigest fingerprint requestedChanges
        feedbackDigest now = .ok (record, db') ∧
      ClaimedAs record runId ⟨id, keyDigest, fingerprint, now⟩
        ⟨⟨id, keyDigest, fingerprint, now⟩, requestedChanges, feedbackDigest⟩ ∧
      record.feedbackDigest = some feedbackDigest ∧
      db'.At now runId (.revising evidence
        ⟨⟨id, keyDigest, fingerprint, now⟩, requestedChanges, feedbackDigest⟩) ∧
      ∀ row ∈ db.operations.rows, row.id ≠ id := by
  obtain ⟨row, hrow, hdirection, hstatus, hcodes, hcreated⟩ := h.row
  have hready : row.status = .ready := hstatus
  have hnone : db.operations.ofRun runId = [] := h.shows.operations
  have hrevision : db.revisions.find runId = none := h.shows.revision
  have hfresh : ∀ row ∈ db.operations.ofRun runId, row.kind = .feedback →
      row.keyDigest ≠ keyDigest := by
    simp [hnone]
  obtain ⟨operations, hinsert⟩ := db.operations.insert_of_fresh fingerprint
    (some (.dump requestedChanges)) (some feedbackDigest) now
    ⟨.inProgress, none, none, none, now⟩ hfresh
  obtain ⟨-, hrows, -⟩ := OperationTable.insert_eq_some hinsert
  let feedback : Feedback :=
    ⟨⟨db.operations.sequence + 1, keyDigest, fingerprint, now⟩, requestedChanges, feedbackDigest⟩
  let record : OperationRecord :=
    ⟨feedback.id, runId, .feedback, keyDigest, fingerprint, .inProgress, requestedChanges,
      some feedbackDigest, none, none, none, now, now⟩
  have hcommit : db.claimFeedbackOperation runId keyDigest fingerprint requestedChanges
      feedbackDigest now = .ok (record, { db with
        operations := operations
        runs := db.runs.set runId { row with status := .inProgress, updatedAt := now } }) := by
    rw [Database.claimFeedbackOperation, OperationTable.find_eq_ofRun, hnone, List.find?_nil]
    refine bind_eq_ok.mpr ⟨(), require_of _ (by rw [hrevision]; rfl), ?_⟩
    refine bind_eq_ok.mpr ⟨(), require_of _ ?_, ?_⟩
    · rw [OperationTable.find_eq_ofRun, hnone]
      rfl
    refine bind_eq_ok.mpr ⟨row, orRaise_eq_ok.mpr hrow, ?_⟩
    refine bind_eq_ok.mpr ⟨(), require_of _ hready, ?_⟩
    refine bind_eq_ok.mpr ⟨_, orRaise_eq_ok.mpr hinsert, ?_⟩
    refine bind_eq_ok.mpr
      ⟨_, orRaise_eq_ok.mpr (Table.updateWhere_of_some hrow (by simp [hready])), ?_⟩
    refine bind_eq_ok.mpr ⟨record, ?_, rfl⟩
    simp only [operationRecord, loadOption, load_dump, Except.map, ok_bind]
    rfl
  refine ⟨feedback.id, record, _, hcommit, ⟨rfl, rfl, rfl, rfl, rfl⟩, rfl, ⟨?_, ?_⟩, ?_⟩
  · refine ⟨⟨_, Table.find_set_self _ _ _, hdirection, rfl⟩, h.shows.context, hrevision, ?_⟩
    have hofRun : operations.ofRun runId = _ := OperationTable.ofRun_of_rows_self hrows rfl
    rw [hofRun, hnone]
    rfl
  · exact ⟨_, Table.find_set_self _ _ _, hcodes, hcreated, le_refl now⟩
  · intro other hother
    have hbound := db.operations.ids_bounded other hother
    simp only [feedback]
    omega

end Database

/-! ## A call served alone -/

namespace RevisionService

variable {service : RevisionService κ} {now : Datetime} {db : Database} {rest rest' : κ}
  {evidence : Accepted} {artifactId : UUID} {operation : OperationRecord}

/-- The claim is the first transaction of a call; the operation is executed
after it. -/
theorem exec_submitFeedback (hrepository : service.repository = .quiet now)
    {request : FeedbackRequest} {key : String} (hkey : isIdempotencyKey key = true)
    {record : OperationRecord} {db' : Database}
    (hclaim : db.claimFeedbackOperation request.runId (service.digest key)
      (service.fingerprint request) request.requestedChanges
      (service.digest request.feedback.text) now = .ok (record, db'))
    (hstate : record.state = .inProgress) :
    (service.submitFeedback request key).exec ⟨db, rest⟩ =
      (service.execute record false).exec ⟨db', rest⟩ := by
  have hdigest : service.keyDigest key = .ok (service.digest key) := by
    rw [RevisionService.keyDigest, require_of _ hkey]
    rfl
  refine (Program.exec_bind (exec_ofExcept hdigest _)).trans ?_
  rw [hrepository]
  refine (Program.exec_bind (exec_outside_pure rfl _)).trans ?_
  refine (Program.exec_bind (Program.exec_tryCatch (exec_transaction hclaim))).trans ?_
  rw [replayed, if_neg (by simp [hstate])]

/-- The first step of a call claims its operation. -/
theorem step_submitFeedback (hrepository : service.repository = .quiet now)
    {request : FeedbackRequest} {key : String} (hkey : isIdempotencyKey key = true)
    {record : OperationRecord} {db' : Database}
    (hclaim : db.claimFeedbackOperation request.runId (service.digest key)
      (service.fingerprint request) request.requestedChanges
      (service.digest request.feedback.text) now = .ok (record, db')) :
    ∃ program, (service.submitFeedback request key).Step ⟨db, rest⟩ program ⟨db', rest⟩ := by
  have hdigest : service.keyDigest key = .ok (service.digest key) := by
    rw [RevisionService.keyDigest, require_of _ hkey]
    rfl
  have hstep : ((Repository.quiet now).transaction fun db => db.claimFeedbackOperation
      request.runId (service.digest key) (service.fingerprint request) request.requestedChanges
      (service.digest request.feedback.text) now).Step ⟨db, rest⟩ (.ret record) ⟨db', rest⟩ :=
    step_transaction hclaim
  unfold submitFeedback
  rw [hdigest, hrepository, Program.ofExcept_ok, Program.bind_ret]
  exact ⟨_, (Program.Step.tryCatch hstep).bind⟩

/-- Everything that the second version is made from can be read, and the engine
is asked for the changes. -/
theorem exec_renderRevision (hrepository : service.repository = .quiet now) {stage : Stage}
    (hat : db.At now operation.runId stage) (hreviewed : stage.reviewed? = some evidence.toReviewed)
    {run : ProjectRun} (hget : db.get operation.runId = .ok run) :
    (service.renderRevision operation artifactId).exec ⟨db, rest⟩ =
      Program.exec (do
        let revised ← outside <|
          service.revise run.direction evidence.draft operation.requestedChanges
        let now ← (Repository.quiet now).now
        let composed ← service.studio.render run evidence.confirmation.brandLock revised.brief
          revised.adCopy
        let stored ← service.studio.saveArtifact artifactId composed now
        return ⟨run, evidence.analysis, evidence.confirmation, evidence.composition, revised,
          composed, stored, now⟩) ⟨db, rest⟩ := by
  obtain ⟨hrequest, hanalysis, hconfirmation, hdraft, hcomposition, hcritique⟩ :=
    hat.shows.reads_reviewed hreviewed
  unfold renderRevision
  rw [hrepository]
  refine (Program.exec_bind (exec_query hget)).trans ?_
  refine (Program.exec_bind (exec_query hrequest)).trans ?_
  refine (Program.exec_bind (exec_query hanalysis)).trans ?_
  refine (Program.exec_bind (exec_query hconfirmation)).trans ?_
  refine (Program.exec_bind (exec_query hdraft)).trans ?_
  refine (Program.exec_bind (exec_query hcomposition)).trans ?_
  refine (Program.exec_bind (exec_query hcritique)).trans ?_
  dsimp only
  rw [require_of _ evidence.request.fixture_only]
  simp only [Program.ofExcept_ok, Program.bind_ret, orRaise_some]
  rw [require_of _ evidence.accepted]
  rfl

/-- An engine that raises leaves an operation without an artifact to the
`except` clauses. -/
theorem exec_execute_error (hrepository : service.repository = .quiet now)
    (huuid : service.studio.uuid4 = pure artifactId) {stage : Stage}
    (hat : db.At now operation.runId stage) (hreviewed : stage.reviewed? = some evidence.toReviewed)
    {error : Exc} (hrevise : ∀ direction draft changes,
      service.revise direction draft changes = .raise error) (retrying : Bool) :
    (service.execute operation retrying).exec ⟨db, rest⟩ =
      (service.recover operation retrying artifactId false error).exec ⟨db, rest⟩ := by
  obtain ⟨run, hget, -, -⟩ := hat.get
  have hrender : (service.renderRevision operation artifactId).exec ⟨db, rest⟩ =
      some (.error error, ⟨db, rest⟩) := by
    rw [exec_renderRevision hrepository hat hreviewed hget, hrevise]
    rfl
  refine (Program.exec_bind (exec_outside_pure huuid _)).trans ?_
  exact Program.exec_bind (Program.exec_attempt hrender)

/-- A failure that no clause knows is reported, and that is all. -/
theorem exec_recover_osError {feedback : Feedback}
    (hshows : db.Shows operation.runId (.revising evidence feedback))
    (hid : operation.id = feedback.id) :
    ∃ db', (service.recover operation false artifactId false .osError).exec ⟨db, rest⟩ =
        some (.error (.revisionServiceError .revisionFailed), ⟨db', rest⟩) ∧
      ∃ row ∈ db'.operations.rows, row.id = operation.id ∧ row.progress.state = .inProgress := by
  obtain ⟨row, hrow, -, hrowId, hstate⟩ := hshows.active rfl (congrArg some hid.symm)
  exact ⟨db, rfl, row, hrow, hrowId, hstate⟩

/-- A failure that the service knows releases the operation before it is
reported. -/
theorem exec_recover_compositionError (hrepository : service.repository = .quiet now)
    {feedback : Feedback} (hshows : db.Shows operation.runId (.revising evidence feedback))
    (hid : operation.id = feedback.id) :
    ∃ db', (service.recover operation false artifactId false .compositionError).exec ⟨db, rest⟩ =
        some (.error (.revisionServiceError .revisionFailed), ⟨db', rest⟩) ∧
      ∃ row ∈ db'.operations.rows, row.id = operation.id ∧
        row.progress.state = .failedRetryable := by
  obtain ⟨record, db', hcommit⟩ := hshows.failRevisionOperation_commits rfl
    (congrArg some hid.symm) .connectionBeforeAcceptance .retryOnce now
  have hrelease : (service.release operation false).exec ⟨db, rest⟩ =
      some (.ok (), ⟨db', rest⟩) := by
    unfold release
    rw [hrepository]
    refine Program.exec_tryCatch ?_
    refine (Program.exec_bind (exec_outside_pure rfl _)).trans ?_
    exact Program.exec_bind (exec_transaction hcommit)
  refine ⟨db', Program.exec_bind hrelease, ?_⟩
  rcases hshows.failRevisionOperation hcommit with
    ⟨evidence', feedback', hstage, -, hadvances⟩ | ⟨_, _, _, _, hstage, -⟩
  · cases hstage
    obtain ⟨hrow, -⟩ := (hadvances rfl).shows.mem_operations.mp (List.mem_singleton_self _)
    exact ⟨_, hrow, hid.symm, rfl⟩
  · cases hstage

end RevisionService

/-! ## The demo -/

namespace Demo

def feedback : FeedbackRequest where
  runId := runId
  feedback := ⟨"Please shorten the headline", strip_ofList (by decide), length_ofList (by decide)⟩
  requestedChanges := [.shortenHeadline]
  submittedAt := now
  changes_valid := by decide

def feedbackKey : String := "demo-feedback-key"

theorem isIdempotencyKey_feedbackKey : isIdempotencyKey feedbackKey = true := by
  decide

/-- The demo with revisions that always fail like this. -/
abbrev failingApp (error : Exc) : App Unit :=
  app [] noWarnings answeringStore (revisionService (fun _ _ _ => .raise error) answeringStore)

/-- The first version of the demo, and feedback on it. -/
abbrev feedbackRequests : Nat → Request := requests fun _ => .feedbackCall feedback feedbackKey

section Failed

variable {error failure : Exc} {state : OperationState}
  (hrecover : ∀ (db : Database) (operation : OperationRecord) (evidence : Accepted)
    (claimed : Feedback), db.Shows operation.runId (.revising evidence claimed) →
    operation.id = claimed.id →
    ∃ db', ((failingApp error).revisions.recover operation false revisedArtifactId false
        error).exec ⟨db, ()⟩ = some (.error failure, ⟨db', ()⟩) ∧
      ∃ row ∈ db'.operations.rows, row.id = operation.id ∧ row.progress.state = state)
include hrecover

/-- The call claims its operation on the ready run and then fails. -/
theorem exec_feedback_failed {db : Database}
    (hat : db.At now feedback.runId (.ready ⟨⟨evidence [] noWarnings, passed⟩, by decide⟩)) :
    ∃ operationId db', ((failingApp error).handle (.feedbackCall feedback feedbackKey)).exec
        ⟨db, ()⟩ = some (.error failure, ⟨db', ()⟩) ∧
      (∀ row ∈ db.operations.rows, row.id ≠ operationId) ∧
      ∃ row ∈ db'.operations.rows, row.id = operationId ∧ row.progress.state = state := by
  obtain ⟨operationId, record, db₁, hclaim, hclaimed, -, hat₁, hfresh⟩ :=
    hat.claimFeedbackOperation feedbackKey ((failingApp error).revisions.fingerprint feedback)
      feedback.feedback.text feedback.requestedChanges
  have hrun : record.runId = feedback.runId := hclaimed.runId
  have hid : record.id = operationId := hclaimed.id
  rw [← hrun] at hat₁
  obtain ⟨db₂, hexec, row, hrow, hrowId, hstate⟩ := hrecover db₁ record _ _ hat₁.shows hid
  refine ⟨operationId, db₂, ?_, hfresh, row, hrow, hrowId.trans hid, hstate⟩
  apply Program.exec_bind_error
  refine (RevisionService.exec_submitFeedback rfl isIdempotencyKey_feedbackKey hclaim
    hclaimed.state).trans ?_
  refine (RevisionService.exec_execute_error rfl rfl hat₁ rfl (fun _ _ _ => rfl) false).trans ?_
  exact hexec

theorem exists_feedback_failed :
    ∃ log config operationId, Runs (workflow (failingApp error) () feedbackRequests) log config ∧
      config.threads 6 = .raise failure ∧
      (∃ event ∈ log, event.client = 6 ∧
        (∀ row ∈ event.before.database.operations.rows, row.id ≠ operationId) ∧
        ∃ row ∈ event.after.database.operations.rows, row.id = operationId) ∧
      ∃ row ∈ config.state.database.operations.rows, row.id = operationId ∧
        row.progress.state = state := by
  obtain ⟨⟨⟨db, ⟨⟩⟩, threads⟩, ⟨log, hready⟩, -, hat, hwaiting⟩ :=
    exists_ready (failingApp error).revisions (keeps_answeringStore _ ())
      fun _ => .feedbackCall feedback feedbackKey
  obtain ⟨operationId, db', hcall, hfresh, row, hrow, hid, hstate⟩ :=
    exec_feedback_failed hrecover hat
  obtain ⟨log', hruns, hclient⟩ := runs_of_solo (Program.solo_of_exec hcall) (hwaiting 0) rfl
  let present (world : World Unit) : Prop :=
    ∃ row ∈ world.database.operations.rows, row.id = operationId
  have habsent : ¬present ⟨db, ()⟩ := fun ⟨row, hrow, heq⟩ => hfresh row hrow heq
  obtain ⟨event, hevent, hbefore, hafter⟩ := hruns.exists_change habsent ⟨row, hrow, hid⟩
  refine ⟨log ++ log', _, operationId, hready.trans hruns, Config.move_threads_self _ _ _ _,
    ⟨event, List.mem_append_right _ hevent, hclient event hevent, ?_, hafter⟩, row, hrow, hid,
    hstate⟩
  intro other hother heq
  exact hbefore ⟨other, hother, heq⟩

end Failed

end Demo

end CultureShift
