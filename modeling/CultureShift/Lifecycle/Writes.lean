/-
# Writing a stage

Every transaction that commits on a run at a known stage either changes nothing
or makes one step of the life cycle, and leaves all other runs alone.
-/

import CultureShift.Lifecycle.Reads

namespace CultureShift

open Serialization Relational

/-- The stage that a first report leads to. -/
def Composed.review (evidence : Composed) (report : CritiqueReport) : Stage :=
  if hreject : report.status = .reject then .rejected ⟨⟨evidence, report⟩, hreject⟩
  else .ready ⟨⟨evidence, report⟩, hreject⟩

@[simp]
theorem Composed.reviewed?_review (evidence : Composed) (report : CritiqueReport) :
    (evidence.review report).reviewed? = some ⟨evidence, report⟩ := by
  unfold Composed.review
  split <;> rfl

/-- The revision that a record and its response describe. -/
def RevisionRecord.revised (record : RevisionRecord) (response : RevisionCompleted) : Revised :=
  ⟨record.requestedChanges, record.feedbackDigest, record.draft.brief, record.draft.adCopy,
    record.draft.factReferences, record.draft.ruleIds, record.composition, record.critique,
    record.revisedAt, response⟩

namespace Database

variable {db db' : Database} {runId : UUID} {stage : Stage}

/-- No row of another run has changed. -/
structure Frame (runId : UUID) (db db' : Database) : Prop where
  runs : ∀ other, other ≠ runId → db'.runs.find other = db.runs.find other
  contexts : ∀ other, other ≠ runId → db'.contexts.find other = db.contexts.find other
  revisions : ∀ other, other ≠ runId → db'.revisions.find other = db.revisions.find other
  operations : ∀ other, other ≠ runId → db'.operations.ofRun other = db.operations.ofRun other

theorem Frame.shows_iff (h : Frame runId db db') {other : UUID} (hne : other ≠ runId) :
    db'.Shows other stage ↔ db.Shows other stage := by
  constructor
  · rintro ⟨hrun, hcontext, hrevision, hoperations⟩
    rw [h.runs other hne] at hrun
    rw [h.contexts other hne] at hcontext
    rw [h.revisions other hne] at hrevision
    rw [h.operations other hne] at hoperations
    exact ⟨hrun, hcontext, hrevision, hoperations⟩
  · rintro ⟨hrun, hcontext, hrevision, hoperations⟩
    rw [← h.runs other hne] at hrun
    rw [← h.contexts other hne] at hcontext
    rw [← h.revisions other hne] at hrevision
    rw [← h.operations other hne] at hoperations
    exact ⟨hrun, hcontext, hrevision, hoperations⟩

theorem Frame.absent (h : Frame runId db db') {other : UUID} (hne : other ≠ runId)
    (habsent : db.Absent other) : db'.Absent other where
  run := (h.runs other hne).trans habsent.run
  context := (h.contexts other hne).trans habsent.context
  revision := (h.revisions other hne).trans habsent.revision
  operations := (h.operations other hne).trans habsent.operations

/-- The run has moved on to `stage`, and nothing else has changed. -/
structure Advances (runId : UUID) (db db' : Database) (stage : Stage) : Prop where
  shows : db'.Shows runId stage
  frame : Frame runId db db'

/-! ## Creation and analysis -/

theorem create_commits {run : ProjectRun} {request : RunCreate} {done : Unit}
    (habsent : db.Absent run.id) (hstatus : run.status = .pending)
    (hcommit : db.create run (some request) = .ok (done, db')) :
    Advances run.id db db' (.pending request) := by
  simp only [create, bind_eq_ok, orRaise_eq_ok, require_eq_ok] at hcommit
  obtain ⟨runs, hruns, -, hdirection, contexts, hcontexts, hvalue⟩ := hcommit
  cases hvalue
  obtain ⟨-, rfl⟩ := Table.insert_eq_some hruns
  obtain ⟨-, rfl⟩ := Table.insert_eq_some hcontexts
  refine ⟨⟨⟨_, Table.find_set_self _ _ _, hdirection.symm, hstatus⟩, Table.find_set_self _ _ _,
    habsent.revision, habsent.operations⟩, fun other hne => ?_, fun other hne => ?_,
    fun _ _ => rfl, fun _ _ => rfl⟩
  · exact Table.find_set_ne _ _ hne
  · exact Table.find_set_ne _ _ hne

theorem Shows.create {run : ProjectRun} (h : db.Shows run.id stage)
    (request : Option RunCreate) :
    db.create run request = .error (.duplicateProjectRunError run.id) := by
  obtain ⟨row, hrow, -⟩ := h.run
  simp only [Database.create, Table.insert, hrow, orRaise_none, error_bind]

theorem Shows.claimAnalysis (h : db.Shows runId stage) {claimedAt : Datetime} {claimed : Bool}
    (hcommit : db.claimAnalysis runId claimedAt = .ok (claimed, db')) :
    (claimed = false ∧ db' = db) ∨
      claimed = true ∧ ∃ request, stage = .pending request ∧
        Advances runId db db' (.analyzing request) := by
  obtain ⟨row, hrow, hdirection, hstatus⟩ := h.run
  unfold Database.claimAnalysis at hcommit
  split at hcommit
  · next runs hruns =>
      cases hcommit
      obtain ⟨row', hrow', hpending, rfl⟩ := Table.updateWhere_eq_some hruns
      obtain rfl : row = row' := Option.some.inj (hrow.symm.trans hrow')
      obtain ⟨request, rfl⟩ := Stage.eq_pending (hstatus.symm.trans (of_decide_eq_true hpending))
      refine .inr ⟨rfl, request, rfl, ⟨⟨_, Table.find_set_self _ _ _, hdirection, rfl⟩, h.context,
        h.revision, h.operations⟩, fun other hne => ?_, fun _ _ => rfl, fun _ _ => rfl,
        fun _ _ => rfl⟩
      exact Table.find_set_ne _ _ hne
  · cases hcommit
    exact .inl ⟨rfl, rfl⟩

theorem Absent.claimAnalysis (h : db.Absent runId) {claimedAt : Datetime} {claimed : Bool}
    (hcommit : db.claimAnalysis runId claimedAt = .ok (claimed, db')) :
    claimed = false ∧ db' = db := by
  simp only [Database.claimAnalysis, Table.updateWhere, h.run] at hcommit
  cases hcommit
  exact ⟨rfl, rfl⟩

/-- Whoever holds the analysis completes it. -/
theorem Shows.completeAnalysis {request : RunCreate} (h : db.Shows runId (.analyzing request))
    {analysis : AdAnalysis} {repairAttempted : Bool} {updatedAt : Datetime} {done : Unit}
    (hmatches : analysis.sourceAsset = request.sourceAsset ∧
      analysis.brandLock = request.brandLock)
    (hcommit : db.completeAnalysis runId analysis repairAttempted .awaitingBrandLock updatedAt =
      .ok (done, db')) :
    Advances runId db db' (.awaiting ⟨request, analysis, repairAttempted, hmatches⟩) := by
  obtain ⟨row, hrow, hdirection, hstatus⟩ := h.run
  simp only [Database.completeAnalysis, bind_eq_ok, orRaise_eq_ok] at hcommit
  obtain ⟨contexts, hcontexts, runs, hruns, hvalue⟩ := hcommit
  cases hvalue
  obtain ⟨context, hcontext, -, rfl⟩ := Table.updateWhere_eq_some hcontexts
  obtain ⟨row', hrow', -, rfl⟩ := Table.updateWhere_eq_some hruns
  obtain rfl : row = row' := Option.some.inj (hrow.symm.trans hrow')
  obtain rfl := Option.some.inj (h.context.symm.trans hcontext)
  refine ⟨⟨⟨_, Table.find_set_self _ _ _, hdirection, rfl⟩, Table.find_set_self _ _ _, h.revision,
    h.operations⟩, fun other hne => ?_, fun other hne => ?_, fun _ _ => rfl, fun _ _ => rfl⟩
  · exact Table.find_set_ne _ _ hne
  · exact Table.find_set_ne _ _ hne

/-- Whoever holds the analysis may refuse it. -/
theorem Shows.recordFailure {request : RunCreate} (h : db.Shows runId (.analyzing request))
    {blocked : Bool} {codes : List String} {updatedAt : Datetime} {done : Unit}
    (hcommit : db.recordFailure runId (if blocked then .blocked else .failed) codes updatedAt =
      .ok (done, db')) :
    Advances runId db db' (.refused request blocked) := by
  obtain ⟨row, hrow, hdirection, -⟩ := h.run
  simp only [Database.recordFailure, bind_eq_ok, orRaise_eq_ok] at hcommit
  obtain ⟨runs, hruns, hvalue⟩ := hcommit
  cases hvalue
  obtain ⟨row', hrow', -, rfl⟩ := Table.updateWhere_eq_some hruns
  obtain rfl : row = row' := Option.some.inj (hrow.symm.trans hrow')
  refine ⟨⟨⟨_, Table.find_set_self _ _ _, hdirection, rfl⟩, h.context, h.revision, h.operations⟩,
    fun other hne => ?_, fun _ _ => rfl, fun _ _ => rfl, fun _ _ => rfl⟩
  exact Table.find_set_ne _ _ hne

/-! ## The first version -/

theorem Shows.confirmBrandLock (h : db.Shows runId stage) {proposed : BrandLock}
    {confirmedAt : Datetime} {record : BrandLockConfirmationRecord}
    (hcommit : db.confirmBrandLock runId proposed confirmedAt = .ok (record, db')) :
    db' = db ∨ ∃ evidence : Confirmed, stage = .awaiting evidence.toAnalyzed ∧
      Advances runId db db' (.confirmed evidence) := by
  simp only [Database.confirmBrandLock, bind_eq_ok] at hcommit
  obtain ⟨⟨row, context⟩, hjoined, existing, hexisting, hcommit⟩ := hcommit
  obtain ⟨hrow, hstatus, rfl⟩ := h.joined hjoined
  cases existing with
  | some existing =>
      simp only [bind_eq_ok] at hcommit
      obtain ⟨-, -, hvalue⟩ := hcommit
      cases hvalue
      exact .inl rfl
  | none =>
      simp only [bind_eq_ok, require_eq_ok, orRaise_eq_ok] at hcommit
      obtain ⟨-, -, -, hawaiting, encoded, hencoded, analysis, hload, validated, hvalidated,
        contexts, hcontexts, runs, hruns, hvalue⟩ := hcommit
      cases hvalue
      obtain ⟨evidence, rfl⟩ := Stage.eq_awaiting (hstatus.symm.trans hawaiting)
      obtain rfl : Column.dump evidence.analysis = encoded := Option.some.inj hencoded
      obtain rfl : evidence.analysis = analysis := by simpa using hload
      obtain ⟨rfl, hconfirms⟩ := validateBrandLockConfirmation_eq_ok_iff.mp hvalidated
      obtain ⟨context, hcontext, -, rfl⟩ := Table.updateWhere_eq_some hcontexts
      obtain rfl := Option.some.inj (h.context.symm.trans hcontext)
      obtain ⟨row', hrow', -, rfl⟩ := Table.updateWhere_eq_some hruns
      obtain rfl : row = row' := Option.some.inj (hrow.symm.trans hrow')
      obtain ⟨_, hrow', hdirection, -⟩ := h.run
      obtain rfl := Option.some.inj (hrow.symm.trans hrow')
      refine .inr ⟨⟨evidence, ⟨validated, confirmedAt⟩, hconfirms⟩, rfl,
        ⟨⟨_, Table.find_set_self _ _ _, hdirection, rfl⟩, Table.find_set_self _ _ _, h.revision,
          h.operations⟩, fun other hne => ?_, fun other hne => ?_, fun _ _ => rfl, fun _ _ => rfl⟩
      · exact Table.find_set_ne _ _ hne
      · exact Table.find_set_ne _ _ hne

theorem Shows.saveDraft (h : db.Shows runId stage) {draft record : DraftRecord}
    (hcommit : db.saveDraft runId draft = .ok (record, db')) :
    db' = db ∨ ∃ evidence : Drafted, stage = .confirmed evidence.toConfirmed ∧
      Advances runId db db' (.drafted evidence) := by
  simp only [Database.saveDraft, bind_eq_ok] at hcommit
  obtain ⟨⟨row, context⟩, hjoined, existing, hexisting, hcommit⟩ := hcommit
  obtain ⟨hrow, hstatus, rfl⟩ := h.joined hjoined
  obtain rfl := Except.ok.inj (stage.draftRecord_context.symm.trans hexisting)
  cases hdrafted : stage.drafted? with
  | some existing =>
      simp only [hdrafted, Option.map_some, bind_eq_ok] at hcommit
      obtain ⟨-, -, hvalue⟩ := hcommit
      cases hvalue
      exact .inl rfl
  | none =>
      simp only [hdrafted, Option.map_none, bind_eq_ok, require_eq_ok, orRaise_eq_ok] at hcommit
      obtain ⟨-, hprogress, encoded, hencoded, confirmed, hload, -, hlock, -, hfacts, contexts,
        hcontexts, hvalue⟩ := hcommit
      cases hvalue
      have hsome : stage.confirmed?.isSome := by
        cases hconfirmed : stage.confirmed? with
        | some _ => rfl
        | none => simp [Stage.context, hconfirmed] at hencoded
      obtain ⟨evidence, rfl⟩ := Stage.eq_confirmed (hstatus.symm.trans hprogress) hsome hdrafted
      obtain rfl : Column.dump evidence.confirmation.brandLock = encoded :=
        Option.some.inj hencoded
      obtain rfl : evidence.confirmation.brandLock = confirmed := by simpa using hload
      obtain ⟨context, hcontext, -, rfl⟩ := Table.updateWhere_eq_some hcontexts
      obtain rfl := Option.some.inj (h.context.symm.trans hcontext)
      refine .inr ⟨⟨evidence, draft, hlock, hfacts⟩, rfl,
        ⟨h.run, Table.find_set_self _ _ _, h.revision, h.operations⟩, fun _ _ => rfl,
        fun other hne => ?_, fun _ _ => rfl, fun _ _ => rfl⟩
      exact Table.find_set_ne _ _ hne

theorem Shows.saveComposition (h : db.Shows runId stage)
    {composition stored : CompositionGenerated}
    (hcommit : db.saveComposition runId composition = .ok (stored, db')) :
    db' = db ∨ ∃ evidence : Composed, stage = .drafted evidence.toDrafted ∧
      Advances runId db db' (.composed evidence) := by
  simp only [Database.saveComposition, bind_eq_ok] at hcommit
  obtain ⟨⟨row, context⟩, hjoined, hcommit⟩ := hcommit
  obtain ⟨hrow, hstatus, rfl⟩ := h.joined hjoined
  cases hcomposed : stage.composed? with
  | some existing =>
      simp only [Stage.context, hcomposed, Option.bind_some, Option.map_some, bind_eq_ok] at hcommit
      obtain ⟨_, -, -, -, hvalue⟩ := hcommit
      cases hvalue
      exact .inl rfl
  | none =>
      simp only [Stage.context, hcomposed, Option.bind_some, Option.map_none, bind_eq_ok,
        require_eq_ok, orRaise_eq_ok] at hcommit
      obtain ⟨-, hprogress, encoded, hencoded, -, hdrafted, confirmed, hload, -, hsources,
        contexts, hcontexts, hvalue⟩ := hcommit
      cases hvalue
      obtain ⟨evidence, rfl⟩ := Stage.eq_drafted (hstatus.symm.trans hprogress)
        (by simpa using hdrafted) hcomposed
      obtain rfl : Column.dump evidence.confirmation.brandLock = encoded :=
        Option.some.inj hencoded
      obtain rfl : evidence.confirmation.brandLock = confirmed := by simpa using hload
      obtain ⟨context, hcontext, -, rfl⟩ := Table.updateWhere_eq_some hcontexts
      obtain rfl := Option.some.inj (h.context.symm.trans hcontext)
      refine .inr ⟨⟨evidence, composition, hsources⟩, rfl,
        ⟨h.run, Table.find_set_self _ _ _, h.revision, h.operations⟩, fun _ _ => rfl,
        fun other hne => ?_, fun _ _ => rfl, fun _ _ => rfl⟩
      exact Table.find_set_ne _ _ hne

theorem Shows.saveCritique (h : db.Shows runId stage) {report : CritiqueReport}
    {record : CritiqueRecord}
    (hcommit : db.saveCritique runId report = .ok (record, db')) :
    db' = db ∨ ∃ evidence : Composed, stage = .composed evidence ∧
      Advances runId db db' (evidence.review report) := by
  simp only [Database.saveCritique, bind_eq_ok] at hcommit
  obtain ⟨⟨row, context⟩, hjoined, -, -, existing, hexisting, hcommit⟩ := hcommit
  obtain ⟨hrow, hstatus, rfl⟩ := h.joined hjoined
  obtain rfl := Except.ok.inj (stage.critiqueRecord_context.symm.trans hexisting)
  cases hreviewed : stage.reviewed? with
  | some existing =>
      simp only [hreviewed, Option.map_some, bind_eq_ok] at hcommit
      obtain ⟨-, -, hvalue⟩ := hcommit
      cases hvalue
      exact .inl rfl
  | none =>
      simp only [hreviewed, Option.map_none, bind_eq_ok, require_eq_ok, orRaise_eq_ok] at hcommit
      obtain ⟨-, ⟨hprogress, -, -, hcomposed, -⟩, contexts, hcontexts, runs, hruns, hvalue⟩ :=
        hcommit
      cases hvalue
      obtain ⟨evidence, rfl⟩ := Stage.eq_composed (hstatus.symm.trans hprogress)
        (by simpa [Stage.context] using hcomposed) hreviewed
      obtain ⟨context, hcontext, -, rfl⟩ := Table.updateWhere_eq_some hcontexts
      obtain rfl := Option.some.inj (h.context.symm.trans hcontext)
      obtain ⟨row', hrow', -, rfl⟩ := Table.updateWhere_eq_some hruns
      obtain rfl : row = row' := Option.some.inj (hrow.symm.trans hrow')
      obtain ⟨_, hrow', hdirection, -⟩ := h.run
      obtain rfl := Option.some.inj (hrow.symm.trans hrow')
      have hshows : Advances runId db { db with
          runs := db.runs.set runId
            { row with status := reviewedStatus report, updatedAt := report.reviewedAt }
          contexts := db.contexts.set runId
            { (Stage.composed evidence).context with
              critique := some (.dump report)
              criticReviewedAt := some report.reviewedAt } } (evidence.review report) := by
        refine ⟨?_, fun other hne => ?_, fun other hne => ?_, fun _ _ => rfl, fun _ _ => rfl⟩
        · unfold Composed.review
          by_cases hreject : report.status = .reject
          · rw [dif_pos hreject]
            exact ⟨⟨_, Table.find_set_self _ _ _, hdirection, if_pos hreject⟩,
              Table.find_set_self _ _ _, h.revision, h.operations⟩
          · rw [dif_neg hreject]
            exact ⟨⟨_, Table.find_set_self _ _ _, hdirection, if_neg hreject⟩,
              Table.find_set_self _ _ _, h.revision, h.operations⟩
        · exact Table.find_set_ne _ _ hne
        · exact Table.find_set_ne _ _ hne
      exact .inr ⟨evidence, rfl, hshows⟩

/-! ## Operations -/

/-- Looking an operation of the run up only needs the operations of the stage. -/
theorem Shows.find_operation (h : db.Shows runId stage) (condition : OperationRow → Bool) :
    (db.operations.find fun row => row.runId = runId && condition row) =
      (stage.operations runId).find? condition := by
  rw [OperationTable.find_eq_ofRun, h.operations]

theorem Shows.mem_operations (h : db.Shows runId stage) {row : OperationRow} :
    row ∈ stage.operations runId ↔ row ∈ db.operations.rows ∧ row.runId = runId := by
  rw [← h.operations, OperationTable.mem_ofRun]

/-- An update that meets none of the operations of a run leaves them alone. -/
theorem ofRun_updateWhere_of_not {table : OperationTable} {condition : OperationRow → Bool}
    {change : OperationProgress → OperationProgress}
    (hnot : ∀ row ∈ table.ofRun runId, condition row = false) :
    (table.updateWhere condition change).ofRun runId = table.ofRun runId := by
  rw [OperationTable.ofRun_updateWhere]
  refine List.map_congr_left (fun row hrow => ?_) |>.trans (List.map_id _)
  simp [OperationRow.revise, hnot row hrow]

/-- What a record has in common with the row it was read from. -/
theorem of_operationRecord {row : OperationRow} {record : OperationRecord}
    (h : operationRecord row = .ok record) :
    record.id = row.id ∧ record.runId = row.runId ∧ record.fingerprint = row.fingerprint ∧
      record.state = row.progress.state ∧
      record.retryCondition = row.progress.retryCondition ∧
      record.retryAction = row.progress.retryAction := by
  simp only [operationRecord, bind_eq_ok] at h
  obtain ⟨_, -, _, -, hvalue⟩ := h
  cases hvalue
  exact ⟨rfl, rfl, rfl, rfl, rfl, rfl⟩

theorem replay_eq_ok {row : OperationRow} {fingerprint message : String}
    {record : OperationRecord} (h : replay row fingerprint message = .ok record) :
    operationRecord row = .ok record ∧ row.fingerprint = fingerprint ∧
      row.progress.state = .succeeded := by
  simp only [replay, bind_eq_ok, require_eq_ok] at h
  obtain ⟨_, hrecord, -, hfingerprint, -, hstate, hvalue⟩ := h
  cases hvalue
  obtain ⟨-, -, hfingerprint', hstate', -, -⟩ := of_operationRecord hrecord
  exact ⟨hrecord, hfingerprint'.symm.trans hfingerprint, hstate'.symm.trans hstate⟩

theorem replay_eq_error {row : OperationRow} {fingerprint message : String} {failure : Exc}
    (h : replay row fingerprint message = .error failure) :
    (∃ text, failure = .idempotencyConflictError text) ∨
      ∃ text, failure = .operationInProgressError text := by
  obtain ⟨record, hrecord⟩ := exists_operationRecord row
  simp only [replay, hrecord, ok_bind, bind_eq_error, require_eq_error] at h
  rcases h with ⟨-, rfl⟩ | ⟨_, -, ⟨-, rfl⟩ | ⟨_, -, h⟩⟩
  · exact .inl ⟨_, rfl⟩
  · exact .inr ⟨_, rfl⟩
  · cases h

/-- The record of a claim as it was made. -/
structure ClaimedAs (record : OperationRecord) (runId : UUID) (claim : Claim)
    (feedback : Feedback) : Prop where
  id : record.id = claim.id
  runId : record.runId = runId
  state : record.state = .inProgress
  requestedChanges : record.requestedChanges = feedback.requestedChanges
  publicResponse : record.publicResponse = none

/-- A claim is answered with an earlier success under the same key, or starts
the one revision of a ready run. -/
theorem Shows.claimFeedbackOperation (h : db.Shows runId stage)
    {keyDigest fingerprint feedbackDigest : String} {requestedChanges : List RevisionChange}
    {claimedAt : Datetime} {record : OperationRecord}
    (hcommit : db.claimFeedbackOperation runId keyDigest fingerprint requestedChanges
      feedbackDigest claimedAt = .ok (record, db')) :
    (db' = db ∧ ∃ row ∈ stage.operations runId, row.kind = .feedback ∧
        row.keyDigest = keyDigest ∧ row.fingerprint = fingerprint ∧
        row.progress.state = .succeeded ∧ operationRecord row = .ok record) ∨
      ∃ evidence feedback, stage = .ready evidence ∧ feedback.keyDigest = keyDigest ∧
        feedback.fingerprint = fingerprint ∧ ClaimedAs record runId feedback.toClaim feedback ∧
        Advances runId db db' (.revising evidence feedback) := by
  rw [Database.claimFeedbackOperation, h.find_operation] at hcommit
  cases hfind : (stage.operations runId).find? fun row =>
      row.kind = .feedback && row.keyDigest = keyDigest with
  | some existing =>
      simp only [hfind, bind_eq_ok] at hcommit
      obtain ⟨_, hreplay, hvalue⟩ := hcommit
      cases hvalue
      obtain ⟨hrecord, hfingerprint, hstate⟩ := replay_eq_ok hreplay
      have hkey := List.find?_some hfind
      rw [Bool.and_eq_true, decide_eq_true_iff, decide_eq_true_iff] at hkey
      exact .inl ⟨rfl, existing, List.mem_of_find?_eq_some hfind, hkey.1, hkey.2, hfingerprint,
        hstate, hrecord⟩
  | none =>
      simp only [hfind, bind_eq_ok, require_eq_ok, orRaise_eq_ok] at hcommit
      obtain ⟨-, hrevision, -, -, run, hrun, -, hready, ⟨operations, row⟩, hinsert, runs, hruns,
        _, hrecord, hvalue⟩ := hcommit
      cases hvalue
      obtain ⟨run', hrun', hdirection, hstatus⟩ := h.run
      obtain rfl : run = run' := Option.some.inj (hrun.symm.trans hrun')
      rw [h.revision, Option.isNone_map, Option.isNone_iff_eq_none] at hrevision
      obtain ⟨evidence, rfl⟩ := Stage.eq_ready (hstatus.symm.trans hready) hrevision
      obtain ⟨hrow, hrows, -⟩ := OperationTable.insert_eq_some hinsert
      obtain ⟨run', hrun', -, rfl⟩ := Table.updateWhere_eq_some hruns
      obtain rfl : run = run' := Option.some.inj (hrun.symm.trans hrun')
      let feedback : Feedback :=
        ⟨⟨db.operations.sequence + 1, keyDigest, fingerprint, claimedAt⟩, requestedChanges,
          feedbackDigest⟩
      obtain rfl : row = feedback.row runId ⟨.inProgress, none, none, none, claimedAt⟩ := hrow
      have hclaimed : ClaimedAs record runId feedback.toClaim feedback := by
        simp only [operationRecord, Feedback.row, loadOption, load_dump, Except.map, ok_bind]
          at hrecord
        cases hrecord
        exact ⟨rfl, rfl, rfl, rfl, rfl⟩
      refine .inr ⟨evidence, feedback, rfl, rfl, rfl, hclaimed,
        ⟨⟨_, Table.find_set_self _ _ _, hdirection, rfl⟩, h.context, h.revision, ?_⟩,
        fun other hne => ?_, fun _ _ => rfl, fun _ _ => rfl, fun other hne => ?_⟩
      · have hofRun : operations.ofRun runId = _ := OperationTable.ofRun_of_rows_self hrows rfl
        rw [hofRun, h.operations]
        rfl
      · exact Table.find_set_ne _ _ hne
      · exact OperationTable.ofRun_of_rows_ne hrows hne

theorem Shows.claimRetryOperation (h : db.Shows runId stage) {keyDigest fingerprint : String}
    {claimedAt : Datetime} {record : OperationRecord}
    (hcommit : db.claimRetryOperation runId keyDigest fingerprint claimedAt = .ok (record, db')) :
    (db' = db ∧ ∃ row ∈ stage.operations runId, row.kind = .retry ∧
        row.keyDigest = keyDigest ∧ row.fingerprint = fingerprint ∧
        row.progress.state = .succeeded ∧ operationRecord row = .ok record) ∨
      ∃ evidence feedback failedAt retry, stage = .retryable evidence feedback failedAt ∧
        retry.keyDigest = keyDigest ∧ retry.fingerprint = fingerprint ∧
        ClaimedAs record runId retry feedback ∧
        record.retryCondition = some .connectionBeforeAcceptance ∧
        record.retryAction = some .retryOnce ∧
        Advances runId db db' (.retrying evidence feedback failedAt retry) := by
  rw [Database.claimRetryOperation, h.find_operation] at hcommit
  cases hfind : (stage.operations runId).find? fun row =>
      row.kind = .retry && row.keyDigest = keyDigest with
  | some existing =>
      simp only [hfind, bind_eq_ok] at hcommit
      obtain ⟨_, hreplay, hvalue⟩ := hcommit
      cases hvalue
      obtain ⟨hrecord, hfingerprint, hstate⟩ := replay_eq_ok hreplay
      have hkey := List.find?_some hfind
      rw [Bool.and_eq_true, decide_eq_true_iff, decide_eq_true_iff] at hkey
      exact .inl ⟨rfl, existing, List.mem_of_find?_eq_some hfind, hkey.1, hkey.2, hfingerprint,
        hstate, hrecord⟩
  | none =>
      simp only [hfind, bind_eq_ok, require_eq_ok, orRaise_eq_ok] at hcommit
      obtain ⟨run, hrun, -, hretryable, source, hsource, sourceRecord, hsourceRecord,
        ⟨operations, row⟩, hinsert, _, hrecord, hvalue⟩ := hcommit
      cases hvalue
      obtain ⟨run', hrun', hdirection, hstatus⟩ := h.run
      obtain rfl : run = run' := Option.some.inj (hrun.symm.trans hrun')
      obtain ⟨evidence, feedback, failedAt, rfl⟩ :=
        Stage.eq_retryable (hstatus.symm.trans hretryable)
      obtain ⟨hrow, hrows, -⟩ := OperationTable.insert_eq_some hinsert
      -- The one failed operation is the source of the retry.
      rw [h.operations] at hsource
      obtain rfl : feedback.row runId (Stage.retryDecision .failedRetryable none failedAt) =
          source := Option.some.inj hsource
      simp only [operationRecord, Feedback.row, loadOption, load_dump, Except.map, ok_bind,
        Stage.retryDecision] at hsourceRecord
      cases hsourceRecord
      let retry : Claim := ⟨db.operations.sequence + 1, keyDigest, fingerprint, claimedAt⟩
      obtain rfl : row = retry.retryRow feedback runId
          (Stage.retryDecision .inProgress none claimedAt) := hrow
      simp only [operationRecord, Claim.retryRow, loadOption, load_dump, Except.map, ok_bind,
        Stage.retryDecision] at hrecord
      cases hrecord
      refine .inr ⟨evidence, feedback, failedAt, retry, rfl, rfl, rfl, ⟨rfl, rfl, rfl, rfl, rfl⟩,
        rfl, rfl, ⟨?_, ?_, h.revision, ?_⟩, fun other hne => ?_, fun other hne => ?_,
        fun _ _ => rfl, fun other hne => ?_⟩
      · rw [Table.update_of_some hrun]
        exact ⟨_, Table.find_set_self _ _ _, hdirection, rfl⟩
      · rw [Table.update_of_some h.context]
        exact Table.find_set_self _ _ _
      · have hofRun : operations.ofRun runId = _ := OperationTable.ofRun_of_rows_self hrows rfl
        rw [hofRun, h.operations]
        rfl
      · exact Table.find_update_ne _ _ hne
      · exact Table.find_update_ne _ _ hne
      · exact OperationTable.ofRun_of_rows_ne hrows hne

/-- A failure ends the operation of the stage. The condition and the action are
those with which the service reports it. -/
theorem Shows.failRevisionOperation (h : db.Shows runId stage) {operationId : Nat}
    {action : RetryAction} {failedAt : Datetime} {record : OperationRecord}
    (hcommit : db.failRevisionOperation runId operationId .connectionBeforeAcceptance action
      failedAt = .ok (record, db')) :
    (∃ evidence feedback, stage = .revising evidence feedback ∧ operationId = feedback.id ∧
        (action = .retryOnce → Advances runId db db' (.retryable evidence feedback failedAt))) ∨
      ∃ evidence feedback claimFailedAt retry,
        stage = .retrying evidence feedback claimFailedAt retry ∧ operationId = retry.id ∧
        (action = .doNotRetry →
          Advances runId db db' (.exhausted evidence feedback claimFailedAt retry failedAt)) := by
  simp only [Database.failRevisionOperation, bind_eq_ok, require_eq_ok] at hcommit
  obtain ⟨-, hactive, _, -, _, -, hvalue⟩ := hcommit
  cases hvalue
  rw [h.find_operation, Option.isSome_iff_exists] at hactive
  obtain ⟨row, hfind⟩ := hactive
  have hcondition := List.find?_some hfind
  rw [Bool.and_eq_true, beq_iff_eq, decide_eq_true_iff] at hcondition
  obtain ⟨hid, hstate⟩ := hcondition
  obtain ⟨run, hrun, hdirection, -⟩ := h.run
  have hothers : ∀ other, other ≠ runId → ∀ row ∈ db.operations.ofRun other,
      (decide (row.runId = runId) &&
        (row.id == operationId && decide (row.progress.state = .inProgress))) = false := by
    intro other hne row hrow
    simp [(OperationTable.mem_ofRun.mp hrow).2, hne]
  have hframe {status : ProjectRunStatus} {change : OperationProgress → OperationProgress} :
      Frame runId db
        { db with
          runs := db.runs.update runId fun row => { row with status, updatedAt := failedAt }
          operations := db.operations.updateWhere
            (fun row => row.runId = runId &&
              (row.id == operationId && row.progress.state = .inProgress)) change } :=
    ⟨fun other hne => Table.find_update_ne _ _ hne, fun _ _ => rfl, fun _ _ => rfl,
      fun other hne => ofRun_updateWhere_of_not (hothers other hne)⟩
  rcases Stage.hold_of_inProgress (List.mem_of_find?_eq_some hfind) hstate with
    ⟨evidence, feedback, rfl, hfeedback, -⟩ | ⟨evidence, feedback, claimFailedAt, retry, rfl,
      hretry, -⟩
  · refine .inl ⟨evidence, feedback, rfl, hid.symm.trans hfeedback, fun haction => ?_⟩
    subst haction
    refine ⟨⟨?_, h.context, h.revision, ?_⟩, hframe⟩
    · rw [Table.update_of_some hrun]
      exact ⟨_, Table.find_set_self _ _ _, hdirection, rfl⟩
    · rw [OperationTable.ofRun_updateWhere, h.operations]
      simp [Stage.operations, OperationRow.revise, Feedback.row, hid.symm.trans hfeedback,
        Stage.retryDecision, failedState, RetryAction.isRetryable]
  · refine .inr ⟨evidence, feedback, claimFailedAt, retry, rfl, hid.symm.trans hretry,
      fun haction => ?_⟩
    subst haction
    refine ⟨⟨?_, h.context, h.revision, ?_⟩, hframe⟩
    · rw [Table.update_of_some hrun]
      exact ⟨_, Table.find_set_self _ _ _, hdirection, rfl⟩
    · rw [OperationTable.ofRun_updateWhere, h.operations]
      simp [Stage.operations, OperationRow.revise, Feedback.row, Claim.retryRow,
        hid.symm.trans hretry, Stage.retryDecision, failedState, RetryAction.isRetryable]

/-- Completing the operation of the stage stores the one second version. -/
theorem Shows.completeRevision (h : db.Shows runId stage) {operationId : Nat}
    {record : RevisionRecord} {response : RevisionCompleted} {done : Unit}
    (hcommit : db.completeRevision runId operationId record response = .ok (done, db')) :
    (∃ evidence feedback, stage = .revising evidence feedback ∧ operationId = feedback.id ∧
        Advances runId db db' (.revised evidence feedback none (record.revised response))) ∨
      ∃ evidence feedback failedAt retry,
        stage = .retrying evidence feedback failedAt retry ∧ operationId = retry.id ∧
        Advances runId db db'
          (.revised evidence feedback (some retry) (record.revised response)) := by
  simp only [Database.completeRevision, bind_eq_ok, require_eq_ok, orRaise_eq_ok] at hcommit
  obtain ⟨operation, hfind, -, hstate, revisions, hrevisions, contexts, hcontexts, hvalue⟩ :=
    hcommit
  cases hvalue
  rw [h.find_operation] at hfind
  have hmem := List.mem_of_find?_eq_some hfind
  have hid : operation.id = operationId := by simpa using List.find?_some hfind
  obtain ⟨hrow, hrun⟩ := h.mem_operations.mp hmem
  obtain ⟨-, rfl⟩ := Table.insert_eq_some hrevisions
  obtain ⟨context, hcontext, -, rfl⟩ := Table.updateWhere_eq_some hcontexts
  obtain rfl := Option.some.inj (h.context.symm.trans hcontext)
  obtain ⟨run, hfindRun, hdirection, -⟩ := h.run
  -- Row numbers are unique, so no other run has the operation.
  have hothers : ∀ other, other ≠ runId → ∀ row ∈ db.operations.ofRun other,
      (row.id == operationId && decide (row.progress.state = .inProgress)) = false := by
    intro other hne row hrow'
    obtain ⟨hrow', hother⟩ := OperationTable.mem_ofRun.mp hrow'
    have hids : row.id ≠ operationId := fun heq =>
      hne (hother.symm.trans
        ((congrArg _ (OperationTable.eq_of_id hrow' hrow (heq.trans hid.symm))).trans hrun))
    simp [hids]
  rcases Stage.hold_of_inProgress hmem hstate with
    ⟨evidence, feedback, rfl, hfeedback, hkind⟩ | ⟨evidence, feedback, failedAt, retry, rfl,
      hretry, hkind⟩
  · refine .inl ⟨evidence, feedback, rfl, hid.symm.trans hfeedback,
      ⟨?_, Table.find_set_self _ _ _, Table.find_set_self _ _ _, ?_⟩,
      fun other hne => Table.find_update_ne _ _ hne, fun other hne => Table.find_set_ne _ _ hne,
      fun other hne => Table.find_set_ne _ _ hne, fun other hne => ?_⟩
    · rw [Table.update_of_some hfindRun]
      exact ⟨_, Table.find_set_self _ _ _, hdirection, rfl⟩
    · simp only [hkind, reduceCtorEq, if_false]
      rw [OperationTable.ofRun_updateWhere, h.operations]
      simp [Stage.operations, OperationRow.revise, Feedback.row, hid.symm.trans hfeedback,
        RevisionRecord.revised]
    · simp only [hkind, reduceCtorEq, if_false]
      exact ofRun_updateWhere_of_not (hothers other hne)
  · refine .inr ⟨evidence, feedback, failedAt, retry, rfl, hid.symm.trans hretry,
      ⟨?_, Table.find_set_self _ _ _, Table.find_set_self _ _ _, ?_⟩,
      fun other hne => Table.find_update_ne _ _ hne, fun other hne => Table.find_set_ne _ _ hne,
      fun other hne => Table.find_set_ne _ _ hne, fun other hne => ?_⟩
    · rw [Table.update_of_some hfindRun]
      exact ⟨_, Table.find_set_self _ _ _, hdirection, rfl⟩
    · simp only [hkind, if_true]
      rw [OperationTable.ofRun_updateWhere, OperationTable.ofRun_updateWhere, h.operations]
      simp [Stage.operations, OperationRow.revise, Feedback.row, Claim.retryRow,
        hid.symm.trans hretry, Stage.retryDecision, RevisionRecord.revised]
    · simp only [hkind, if_true]
      rw [ofRun_updateWhere_of_not, ofRun_updateWhere_of_not (hothers other hne)]
      rw [ofRun_updateWhere_of_not (hothers other hne)]
      intro row hrow'
      simp [(OperationTable.mem_ofRun.mp hrow').2, hne]

/-! ## Ending an operation succeeds -/

section Active

variable {hold : Hold} {operationId : Nat} (h : db.Shows runId stage)
  (hheld : stage.hold? = some hold) (hid : hold.operationId? = some operationId)

include h hheld hid

/-- The operation that a stage waits for. -/
theorem Shows.active :
    ∃ row ∈ db.operations.rows, row.runId = runId ∧ row.id = operationId ∧
      row.progress.state = .inProgress := by
  have hrow : ∃ row ∈ stage.operations runId, row.id = operationId ∧
      row.progress.state = .inProgress := by
    cases stage <;> simp only [Stage.hold?, Option.some.injEq, reduceCtorEq] at hheld <;>
      subst hheld <;> simp only [Hold.operationId?, Option.some.injEq, reduceCtorEq] at hid
    case revising evidence feedback => exact ⟨_, List.mem_singleton_self _, hid, rfl⟩
    case retrying evidence feedback failedAt retry =>
      exact ⟨_, List.mem_cons_of_mem _ (List.mem_singleton_self _), hid, rfl⟩
  obtain ⟨row, hmem, hrowId, hstate⟩ := hrow
  obtain ⟨hrow, hrun⟩ := h.mem_operations.mp hmem
  exact ⟨row, hrow, hrun, hrowId, hstate⟩

theorem Shows.failRevisionOperation_commits (condition : RetryCondition) (action : RetryAction)
    (failedAt : Datetime) :
    ∃ record db', db.failRevisionOperation runId operationId condition action failedAt =
      .ok (record, db') := by
  obtain ⟨row, hrow, hrun, hrowId, hstate⟩ := h.active hheld hid
  have hactive : (db.operations.find fun row =>
      row.runId = runId && (row.id == operationId && row.progress.state = .inProgress)).isSome := by
    rw [OperationTable.find, List.find?_isSome]
    exact ⟨row, hrow, by simp [hrun, hrowId, hstate]⟩
  have hfind (change : OperationProgress → OperationProgress) :
      ((db.operations.updateWhere (fun row => row.runId = runId &&
        (row.id == operationId && row.progress.state = .inProgress)) change).find
          fun row => row.id == operationId).isSome := by
    rw [OperationTable.find, List.find?_isSome]
    exact ⟨_, List.mem_map_of_mem hrow, by simp [hrowId]⟩
  obtain ⟨found, hfound⟩ := Option.isSome_iff_exists.mp (hfind fun progress =>
    ⟨failedState action, some condition, some action, progress.publicResponse, failedAt⟩)
  obtain ⟨record, hrecord⟩ := exists_operationRecord found
  exact ⟨record, _, by
    simp only [Database.failRevisionOperation, hactive, require_of, ok_bind, hfound,
      orRaise_some, hrecord]
    rfl⟩

theorem Shows.completeRevision_commits (record : RevisionRecord) (response : RevisionCompleted) :
    ∃ db', db.completeRevision runId operationId record response = .ok ((), db') := by
  obtain ⟨row, hrow, hrun, hrowId, hstate⟩ := h.active hheld hid
  have hrevised : stage.revised? = none := by
    cases stage <;> first | rfl | cases hheld
  have hfind : (db.operations.find fun row => row.runId = runId && row.id == operationId) =
      some row := by
    cases hfind : db.operations.find fun row => row.runId = runId && row.id == operationId with
    | none =>
        have hnone := List.find?_eq_none.mp hfind row hrow
        simp [hrun, hrowId] at hnone
    | some found =>
        have hfound := List.find?_some hfind
        rw [Bool.and_eq_true, beq_iff_eq] at hfound
        rw [OperationTable.eq_of_id (List.mem_of_find?_eq_some hfind) hrow
          (hfound.2.trans hrowId.symm)]
  have hrevision : db.revisions.find runId = none := by rw [h.revision, hrevised, Option.map_none]
  exact ⟨_, by
    simp only [Database.completeRevision, hfind, orRaise_some, ok_bind, hstate, require_of,
      Table.insert_of_none hrevision]
    rw [Table.updateWhere_of_some h.context (by simp [Stage.context, hrevised]), orRaise_some,
      ok_bind]
    rfl⟩

end Active

end Database

end CultureShift
