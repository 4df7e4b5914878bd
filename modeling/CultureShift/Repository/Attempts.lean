/-
# Claiming and ending one operation

What a claim leaves in any database that calls to the repository lead to, and
that the operation it inserts can then be completed or failed. Nothing is
assumed of how the run got there but what its rows say: a complete first
version that was not rejected, no second one, and for a retry a decision that
the service comes to as well.
-/

import CultureShift.Repository.Answered
import CultureShift.Repository.RoundTrips

namespace CultureShift

open Serialization Relational Concurrent

/-- An update that lets an operation succeed keeps one that has succeeded. -/
theorem OperationRow.revise_succeeded {row : OperationRow} {condition : OperationRow → Bool}
    {change : OperationProgress → OperationProgress}
    (hchange : ∀ progress, (change progress).state = .succeeded)
    (h : row.progress.state = .succeeded) :
    (row.revise condition change).progress.state = .succeeded := by
  unfold revise
  split_ifs
  · exact hchange _
  · exact h

/-! ## What a second version needs -/

/-- What the second version is made from can be read, and no revision is
counted. -/
structure ContextRow.Revisable (row : ContextRow) : Prop where
  analysis : ∃ analysis, loadOption row.analysis = .ok (some analysis)
  confirmation : ∃ confirmation,
    confirmationRecord row.confirmedBrandLock row.brandLockConfirmedAt = .ok (some confirmation)
  draft : ∃ draft, draftRecord row.creativeBrief row.adCopy row.draftFactReferences
    row.draftRuleIds row.draftGeneratedAt = .ok (some draft)
  composition : ∃ composition, loadOption row.composition = .ok (some composition)
  critique : ∃ critique, critiqueRecord row.critique row.criticReviewedAt = .ok (some critique) ∧
    critique.report.status ≠ .reject
  uncounted : row.humanRevisionCount = 0

namespace Database

/-- Version one of the run is complete and not rejected, and there is no second
one. -/
structure Revisable (db : Database) (runId : UUID) : Prop where
  context : ∃ row, db.contexts.find runId = some row ∧ row.Revisable
  unrevised : db.revisions.find runId = none

/-- The failed feedback that a retry goes back to. -/
def retrySource? (db : Database) (runId : UUID) : Option OperationRow :=
  ((db.operations.ofRun runId).filter fun row =>
    row.kind = .feedback && row.progress.state = .failedRetryable).getLast?

/-- The decision stored with the failed feedback is the one that the service
comes to after the attempts counted so far, and it lets the request be tried
once more. -/
def Decided (db : Database) (runId : UUID) : Prop :=
  ∀ source, db.retrySource? runId = some source →
    ∃ condition decision row, source.progress.retryCondition = some condition ∧
      source.progress.retryAction = some decision.action ∧
      db.contexts.find runId = some row ∧
      decideRetry condition row.technicalAttemptCount none = .ok decision ∧
      decision.action.isRetryable = true

variable {db db' : Database} {runId : UUID}

theorem Revisable.reads (h : db.Revisable runId) :
    (∃ request, db.getRequest runId = .ok request) ∧
      (∃ analysis, db.getAnalysis runId = .ok (some analysis)) ∧
      (∃ confirmation, db.getConfirmedBrandLock runId = .ok (some confirmation)) ∧
      (∃ draft, db.getDraft runId = .ok (some draft)) ∧
      (∃ composition, db.getComposition runId = .ok (some composition)) ∧
      ∃ critique, db.getCritique runId = .ok (some critique) ∧
        critique.report.status ≠ .reject := by
  obtain ⟨row, hrow, hevidence⟩ := h.context
  have hcontext : db.contextOf runId = .ok row := orRaise_eq_ok.mpr hrow
  simp only [getRequest, getAnalysis, getConfirmedBrandLock, getDraft, getComposition, getCritique,
    hcontext, ok_bind]
  exact ⟨exists_load _, hevidence.analysis, hevidence.confirmation, hevidence.draft,
    hevidence.composition, hevidence.critique⟩

/-! ## Claims -/

/-- The operation of the record is new in the second database, and in progress. -/
structure Inserts (db db' : Database) (runId : UUID) (record : OperationRecord) : Prop where
  owner : record.runId = runId
  state : record.state = .inProgress
  inserted : ∃ row, db'.operations.rows = db.operations.rows ++ [row] ∧ row.id = record.id ∧
    row.runId = runId ∧ row.progress.state = .inProgress
  revisions : db'.revisions = db.revisions
  run : ∃ row, db'.runs.find runId = some row

/-- A claim that inserts nothing answers with an operation that has succeeded. -/
def Replays (db db' : Database) (record : OperationRecord) : Prop :=
  db' = db ∧ ∃ row ∈ db.operations.rows, operationRecord row = .ok record ∧
    row.progress.state = .succeeded

theorem replays_of_find {condition : OperationRow → Bool} {row : OperationRow}
    {fingerprint message : String} {record : OperationRecord}
    (hfind : db.operations.find condition = some row)
    (h : replay row fingerprint message = .ok record) : db.Replays db record := by
  obtain ⟨hrecord, -, hstate⟩ := replay_eq_ok h
  exact ⟨rfl, row, List.mem_of_find?_eq_some hfind, hrecord, hstate⟩

theorem claimFeedbackOperation_inserts {keyDigest fingerprint feedbackDigest : String}
    {requestedChanges : List RevisionChange} {claimedAt : Datetime} {record : OperationRecord}
    (h : db.claimFeedbackOperation runId keyDigest fingerprint requestedChanges feedbackDigest
      claimedAt = .ok (record, db')) :
    db.Replays db' record ∨ db.Inserts db' runId record ∧ db'.contexts = db.contexts := by
  unfold claimFeedbackOperation at h
  split at h
  next existing hexisting =>
    simp only [bind_eq_ok] at h
    obtain ⟨_, hreplay, hvalue⟩ := h
    cases hvalue
    exact .inl (replays_of_find hexisting hreplay)
  next =>
    simp only [bind_eq_ok, orRaise_eq_ok] at h
    obtain ⟨-, -, -, -, run, -, -, -, ⟨operations, row⟩, hinsert, runs, hruns, _, hrecord,
      hvalue⟩ := h
    cases hvalue
    obtain ⟨hrow, hrows, -⟩ := OperationTable.insert_eq_some hinsert
    obtain ⟨found, -, -, hset⟩ := Table.updateWhere_eq_some hruns
    obtain ⟨hid, howner, -, hstate, -, -⟩ := of_operationRecord hrecord
    have hclaimed : row.runId = runId ∧ row.progress.state = .inProgress := by
      rw [hrow]
      exact ⟨rfl, rfl⟩
    refine .inr ⟨⟨howner.trans hclaimed.1, hstate.trans hclaimed.2,
      ⟨row, hrows, hid.symm, hclaimed⟩, rfl, ?_⟩, rfl⟩
    rw [hset]
    exact ⟨_, Table.find_set_self _ _ _⟩

/-- A retry takes over what is stored with the failed feedback, and counts an
attempt. -/
structure Resumes (db db' : Database) (runId : UUID) (claimedAt : Datetime)
    (record : OperationRecord) : Prop extends db.Inserts db' runId record where
  source : ∃ source, db.retrySource? runId = some source ∧
    record.retryCondition = source.progress.retryCondition ∧
    record.retryAction = source.progress.retryAction
  contexts : db'.contexts = db.contexts.update runId fun context =>
    { context with technicalAttemptCount := context.technicalAttemptCount + 1 }
  runs : db'.runs = db.runs.update runId fun row =>
    { row with status := .inProgress, updatedAt := claimedAt }

theorem claimRetryOperation_resumes {keyDigest fingerprint : String} {claimedAt : Datetime}
    {record : OperationRecord}
    (h : db.claimRetryOperation runId keyDigest fingerprint claimedAt = .ok (record, db')) :
    db.Replays db' record ∨ db.Resumes db' runId claimedAt record := by
  unfold claimRetryOperation at h
  split at h
  next existing hexisting =>
    simp only [bind_eq_ok] at h
    obtain ⟨_, hreplay, hvalue⟩ := h
    cases hvalue
    exact .inl (replays_of_find hexisting hreplay)
  next =>
    simp only [bind_eq_ok, orRaise_eq_ok] at h
    obtain ⟨run, hrun, -, -, source, hsource, sourceRecord, hsourceRecord, ⟨operations, row⟩,
      hinsert, _, hrecord, hvalue⟩ := h
    cases hvalue
    obtain ⟨hrow, hrows, -⟩ := OperationTable.insert_eq_some hinsert
    obtain ⟨hid, howner, -, hstate, hcondition, haction⟩ := of_operationRecord hrecord
    obtain ⟨-, -, -, -, hsourceCondition, hsourceAction⟩ := of_operationRecord hsourceRecord
    have hclaimed : row.runId = runId ∧ row.progress.state = .inProgress ∧
        row.progress.retryCondition = sourceRecord.retryCondition ∧
        row.progress.retryAction = sourceRecord.retryAction := by
      rw [hrow]
      exact ⟨rfl, rfl, rfl, rfl⟩
    obtain ⟨hrowOwner, hrowState, hrowCondition, hrowAction⟩ := hclaimed
    refine .inr ⟨⟨howner.trans hrowOwner, hstate.trans hrowState,
      ⟨row, hrows, hid.symm, hrowOwner, hrowState⟩, rfl, ?_⟩, ⟨source, hsource, ?_, ?_⟩, rfl, rfl⟩
    · dsimp only
      rw [Table.update_of_some hrun]
      exact ⟨_, Table.find_set_self _ _ _⟩
    · exact hcondition.trans (hrowCondition.trans hsourceCondition)
    · exact haction.trans (hrowAction.trans hsourceAction)

/-! ## An operation under way -/

/-- The operation of a record is in progress, and its run can be revised. -/
structure Underway (db : Database) (operation : OperationRecord) : Prop where
  revisable : db.Revisable operation.runId
  active : ∃ row ∈ db.operations.rows, row.id = operation.id ∧ row.runId = operation.runId ∧
    row.progress.state = .inProgress
  run : ∃ row, db.runs.find operation.runId = some row

theorem Inserts.underway {record : OperationRecord} (h : db.Inserts db' runId record)
    (hrevisable : db.Revisable runId) (hcontext : ∀ row, db.contexts.find runId = some row →
      ∃ row', db'.contexts.find runId = some row' ∧ (row.Revisable → row'.Revisable)) :
    db'.Underway record := by
  obtain ⟨row, hrows, hid, howner, hstate⟩ := h.inserted
  obtain ⟨context, hfind, hevidence⟩ := hrevisable.context
  obtain ⟨context', hfind', hkept⟩ := hcontext context hfind
  rw [← h.owner] at howner hfind'
  refine ⟨⟨⟨context', hfind', hkept hevidence⟩, ?_⟩, ⟨row, ?_, hid, howner, hstate⟩, ?_⟩
  · rw [h.revisions, h.owner]
    exact hrevisable.unrevised
  · rw [hrows]
    exact List.mem_append_right _ (List.mem_singleton_self _)
  · rw [h.owner]
    exact h.run

theorem Resumes.underway {claimedAt : Datetime} {record : OperationRecord}
    (h : db.Resumes db' runId claimedAt record) (hrevisable : db.Revisable runId) :
    db'.Underway record := by
  apply h.toInserts.underway hrevisable
  intro row hrow
  refine ⟨{ row with technicalAttemptCount := row.technicalAttemptCount + 1 }, ?_, ?_⟩
  · rw [h.contexts, Table.update_of_some hrow, Table.find_set_self]
  · exact fun hevidence => { hevidence with }

/-- A decision on the attempt count that is read after the claim is the one the
claim was made on. -/
theorem Resumes.decided {claimedAt : Datetime} {record : OperationRecord} {current : ProjectRun}
    {condition : RetryCondition} {decision : RetryDecision}
    (h : db.Resumes db' runId claimedAt record) (hget : db'.get runId = .ok current)
    (hcondition : record.retryCondition = some condition)
    (haction : record.retryAction = some decision.action)
    (hdecides : decideRetry condition ((current.technicalAttemptCount : Int) - 1) none =
      .ok decision) (hretryable : decision.action.isRetryable = true) : db.Decided runId := by
  intro source hsource
  obtain ⟨source', hsource', hsourceCondition, hsourceAction⟩ := h.source
  obtain rfl := Option.some.inj (hsource.symm.trans hsource')
  simp only [get, bind_eq_ok] at hget
  obtain ⟨_, -, _, -, hvalidate⟩ := hget
  obtain ⟨-, -, -, -, -, -, hcount, -⟩ := ProjectRun.of_validate hvalidate
  rw [h.contexts] at hcount
  cases hrow : db.contexts.find runId with
  | none =>
      -- A run without a context counts no attempt, and no decision is made on fewer.
      have hnone : (db.contexts.update runId fun context : ContextRow =>
          { context with technicalAttemptCount := context.technicalAttemptCount + 1 }).find
            runId = none := by
        simp [Table.update, Table.updateWhere, hrow]
      rw [hnone] at hcount
      rw [hcount] at hdecides
      cases hdecides
  | some row =>
      rw [Table.update_of_some hrow, Table.find_set_self] at hcount
      have hbefore : (current.technicalAttemptCount : Int) - 1 = row.technicalAttemptCount := by
        rw [hcount]
        simp
      rw [hbefore] at hdecides
      exact ⟨condition, decision, row, hsourceCondition.symm.trans hcondition,
        hsourceAction.symm.trans haction, rfl, hdecides, hretryable⟩

/-- While its retry is under way, the run is read with one attempt more. -/
theorem Resumes.exists_get {claimedAt : Datetime} {record : OperationRecord} {run : ProjectRun}
    {row : ContextRow} (h : db.Resumes db' runId claimedAt record) (hget : db.get runId = .ok run)
    (hcreated : run.createdAt ≤ claimedAt) (hrow : db.contexts.find runId = some row) :
    ∃ current, db'.get runId = .ok current ∧
      current.technicalAttemptCount = row.technicalAttemptCount + 1 := by
  simp only [get, bind_eq_ok, orRaise_eq_ok] at hget
  obtain ⟨stored, hstored, codes, hcodes, hvalidate⟩ := hget
  obtain ⟨-, -, -, hrunCodes, hinitial, hhuman, -, hrunCreated, -⟩ :=
    ProjectRun.of_validate hvalidate
  rw [hrow] at hinitial hhuman
  have hvalid : ValidWarningCodes codes ∧
      (row.initialGenerationCount ≤ 1 ∧ row.humanRevisionCount ≤ 1) ∧
        stored.createdAt ≤ claimedAt := by
    refine ⟨hrunCodes ▸ run.warning_codes_valid, ?_, hrunCreated ▸ hcreated⟩
    have hcounts := run.counts_valid
    rwa [hinitial, hhuman] at hcounts
  refine ⟨⟨runId, stored.direction, .inProgress, codes, row.initialGenerationCount,
    row.humanRevisionCount, row.technicalAttemptCount + 1, stored.createdAt, claimedAt, hvalid.1,
    hvalid.2.1, hvalid.2.2⟩, ?_, rfl⟩
  simp only [get, h.runs, h.contexts, Table.update_of_some hstored, Table.update_of_some hrow,
    Table.find_set_self, orRaise_some, ok_bind, hcodes, Option.map_some, Option.getD_some]
  exact dif_pos hvalid

/-- No operation is new in the second database, and this one has ended so. -/
structure Ends (db db' : Database) (operationId : Nat) (ending : OperationRow → Prop) : Prop where
  ids : db'.operations.rows.map OperationRow.id = db.operations.rows.map OperationRow.id
  ended : ∃ row ∈ db'.operations.rows, row.id = operationId ∧ ending row

/-- The step from one database to the next inserts this operation. -/
structure Claims (before after : Database) (claimed : OperationRow) : Prop where
  mem : claimed ∈ after.operations.rows
  fresh : ∀ row ∈ before.operations.rows, row.id ≠ claimed.id

theorem Claims.irrefl {claimed : OperationRow} (h : db.Claims db claimed) : False :=
  h.fresh claimed h.mem rfl

section Ended

variable {last : Database} {runId : UUID} {record : OperationRecord} {ending : OperationRow → Prop}
  (hinserts : db.Inserts db' runId record) (hends : db'.Ends last record.id ending)
include hinserts hends

/-- The one operation that is new in the end is that of the record. -/
theorem Inserts.ending_of_claims {claimed : OperationRow} (hclaims : db.Claims last claimed) :
    ending claimed := by
  obtain ⟨row, hrows, hid, -⟩ := hinserts.inserted
  obtain ⟨ended, hended, hendedId, hending⟩ := hends.ended
  have hmem : claimed.id ∈ last.operations.rows.map OperationRow.id :=
    List.mem_map_of_mem hclaims.mem
  rw [hends.ids, hrows, List.map_append, List.mem_append] at hmem
  rcases hmem with hold | hnew
  · obtain ⟨old, hold, heq⟩ := List.mem_map.mp hold
    exact absurd heq (hclaims.fresh old hold)
  · have hclaimedId : claimed.id = row.id := by simpa using hnew
    have hsame : claimed.id = ended.id := hclaimedId.trans (hid.trans hendedId.symm)
    rwa [OperationTable.eq_of_id hclaims.mem hended hsame]

omit hends in
/-- Until something happens to it, the operation is in progress. -/
theorem Inserts.inProgress_of_claims {claimed : OperationRow} (hclaims : db.Claims db' claimed) :
    claimed.progress.state = .inProgress := by
  obtain ⟨row, hrows, hid, -, hstate⟩ := hinserts.inserted
  have hends : db'.Ends db' record.id fun row => row.progress.state = .inProgress := by
    refine ⟨rfl, row, ?_, hid, hstate⟩
    rw [hrows]
    exact List.mem_append_right _ (List.mem_singleton_self _)
  exact hinserts.ending_of_claims hends hclaims

theorem Inserts.exists_claims : ∃ claimed, db.Claims last claimed := by
  obtain ⟨row, hrows, hid, -⟩ := hinserts.inserted
  obtain ⟨ended, hended, hendedId, -⟩ := hends.ended
  refine ⟨ended, hended, ?_⟩
  intro old hold heq
  have hunique := db'.operations.ids_unique
  rw [hrows, List.map_append, List.nodup_append] at hunique
  apply hunique.2.2 old.id (List.mem_map_of_mem hold) row.id (by simp)
  exact heq.trans (hendedId.trans hid.symm)

end Ended

/-- The operation has failed with this decision, and so has its run. -/
structure FailedAs (db : Database) (runId : UUID) (action : RetryAction) (row : OperationRow) :
    Prop where
  state : row.progress.state = failedState action
  decision : row.progress.retryAction = some action
  run : db.status? runId = some (failedStatus action)

theorem ids_updateWhere (table : OperationTable) (condition : OperationRow → Bool)
    (change : OperationProgress → OperationProgress) :
    (table.updateWhere condition change).rows.map OperationRow.id =
      table.rows.map OperationRow.id := by
  rw [OperationTable.updateWhere, List.map_map]
  exact List.map_congr_left fun row _ => row.revise_id condition change

/-- An operation under way can be failed. -/
theorem Underway.exists_failed {operation : OperationRecord} (h : db.Underway operation)
    (condition : RetryCondition) (action : RetryAction) (failedAt : Datetime) :
    ∃ record db', db.failRevisionOperation operation.runId operation.id condition action failedAt =
        .ok (record, db') ∧ db.Ends db' operation.id (db'.FailedAs operation.runId action) := by
  obtain ⟨row, hrow, hid, howner, hstate⟩ := h.active
  obtain ⟨run, hrun⟩ := h.run
  let isActive (row : OperationRow) : Bool :=
    row.runId = operation.runId && (row.id == operation.id && row.progress.state = .inProgress)
  let change (progress : OperationProgress) : OperationProgress :=
    { progress with
      state := failedState action
      retryCondition := some condition
      retryAction := some action
      updatedAt := failedAt }
  have hactive : isActive row = true := by simp [isActive, howner, hid, hstate]
  have hfound : (db.operations.find isActive).isSome := List.find?_isSome.mpr ⟨row, hrow, hactive⟩
  have hrevised : row.revise isActive change ∈ (db.operations.updateWhere isActive change).rows :=
    List.mem_map_of_mem hrow
  have hrevisedId : (row.revise isActive change).id = operation.id := by
    rw [OperationRow.revise_id, hid]
  obtain ⟨stored, hstored⟩ := Option.isSome_iff_exists.mp
    (List.find?_isSome.mpr ⟨_, hrevised, beq_iff_eq.mpr hrevisedId⟩ :
      ((db.operations.updateWhere isActive change).find fun row =>
        row.id == operation.id).isSome)
  obtain ⟨record, hrecord⟩ := exists_operationRecord stored
  refine ⟨record, { db with
    operations := db.operations.updateWhere isActive change
    runs := db.runs.update operation.runId fun row =>
      { row with status := failedStatus action, updatedAt := failedAt } }, ?_, ?_, ?_⟩
  · refine bind_eq_ok.mpr ⟨(), require_of _ hfound, ?_⟩
    refine bind_eq_ok.mpr ⟨stored, orRaise_eq_ok.mpr hstored, ?_⟩
    exact bind_eq_ok.mpr ⟨record, hrecord, rfl⟩
  · exact ids_updateWhere _ _ _
  · refine ⟨row.revise isActive change, hrevised, hrevisedId, ?_⟩
    have hchanged : row.revise isActive change = { row with progress := change row.progress } :=
      if_pos hactive
    rw [hchanged]
    refine ⟨rfl, rfl, ?_⟩
    dsimp only [status?]
    rw [Table.update_of_some hrun, Table.find_set_self]
    rfl

/-- An operation under way is the one that is found for its record. -/
theorem Underway.exists_find {operation : OperationRecord} (h : db.Underway operation) :
    ∃ row, db.operations.find (fun row =>
        row.runId = operation.runId && row.id == operation.id) = some row ∧
      row ∈ db.operations.rows ∧ row.id = operation.id ∧ row.progress.state = .inProgress := by
  obtain ⟨row, hrow, hid, howner, hstate⟩ := h.active
  obtain ⟨found, hfound⟩ := Option.isSome_iff_exists.mp
    (List.find?_isSome.mpr ⟨row, hrow, by simp [howner, hid]⟩ :
      (db.operations.find fun row =>
        row.runId = operation.runId && row.id == operation.id).isSome)
  have hmatch := List.find?_some hfound
  simp only [Bool.and_eq_true, beq_iff_eq] at hmatch
  have hmem := List.mem_of_find?_eq_some hfound
  obtain rfl := OperationTable.eq_of_id hmem hrow (hmatch.2.trans hid.symm)
  exact ⟨found, hfound, hrow, hid, hstate⟩

/-- The first revision of a run can be stored. -/
theorem Underway.exists_completed {operation : OperationRecord} (h : db.Underway operation)
    (revision : RevisionRecord) (publicResponse : RevisionCompleted) :
    ∃ db', db.completeRevision operation.runId operation.id revision publicResponse =
      .ok ((), db') := by
  obtain ⟨row, hfind, -, -, hstate⟩ := h.exists_find
  obtain ⟨context, hcontext, hevidence⟩ := h.revisable.context
  simp only [Database.completeRevision, hfind, orRaise_some, ok_bind, require_of _ hstate,
    Table.insert_of_none h.revisable.unrevised, Table.updateWhere, hcontext,
    hevidence.uncounted, beq_self_eq_true, if_true]
  exact ⟨_, rfl⟩

/-- Storing the revision completes the operation. -/
theorem Underway.ends_completed {operation : OperationRecord} (h : db.Underway operation)
    {revision : RevisionRecord} {publicResponse : RevisionCompleted} {done : Unit}
    (hcommit : db.completeRevision operation.runId operation.id revision publicResponse =
      .ok (done, db')) :
    db.Ends db' operation.id fun row => row.progress.state = .succeeded := by
  obtain ⟨row, -, hrow, hid, hstate⟩ := h.exists_find
  simp only [Database.completeRevision, bind_eq_ok] at hcommit
  obtain ⟨found, -, -, -, revisions, -, contexts, -, hvalue⟩ := hcommit
  cases hvalue
  let active (row : OperationRow) : Bool :=
    row.id == operation.id && row.progress.state = .inProgress
  let succeed (progress : OperationProgress) : OperationProgress :=
    { progress with
      state := .succeeded
      publicResponse := some (.dump publicResponse)
      updatedAt := revision.revisedAt }
  have hactive : active row = true := by simp [active, hid, hstate]
  have hsucceeded : (row.revise active succeed).progress.state = .succeeded := by
    rw [OperationRow.revise, if_pos hactive]
  have hcompleted : row.revise active succeed ∈ (db.operations.updateWhere active succeed).rows :=
    List.mem_map_of_mem hrow
  have hcompletedId : (row.revise active succeed).id = operation.id := by
    rw [OperationRow.revise_id, hid]
  constructor
  · dsimp only
    split_ifs
    · rw [ids_updateWhere, ids_updateWhere]
    · rw [ids_updateWhere]
  · dsimp only
    split_ifs
    · refine ⟨_, List.mem_map_of_mem hcompleted, ?_, ?_⟩
      · rw [OperationRow.revise_id, hcompletedId]
      · exact OperationRow.revise_succeeded (fun _ => rfl) hsucceeded
    · exact ⟨_, hcompleted, hcompletedId, hsucceeded⟩

end Database

end CultureShift
