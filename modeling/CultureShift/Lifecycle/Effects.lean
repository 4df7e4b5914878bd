/-
# What a transaction changes

A transaction on a run changes the rows of that run only, and the run comes to
await its Brand Lock only out of its analysis.
-/

import CultureShift.Lifecycle.Transacting

namespace CultureShift

open Serialization Relational Concurrent

variable {κ : Type} {kept kept' : Database → Database → Prop}

theorem Transacts.mono {runId : UUID} (h : Transacts runId kept)
    (hkept : ∀ db db', kept db db' → kept' db db') : Transacts runId kept' where
  refl db := hkept _ _ (h.refl db)
  claimAnalysis hcommit := hkept _ _ (h.claimAnalysis hcommit)
  completeAnalysis hcommit := hkept _ _ (h.completeAnalysis hcommit)
  recordFailure hstatus hcommit := hkept _ _ (h.recordFailure hstatus hcommit)
  confirmBrandLock hcommit := hkept _ _ (h.confirmBrandLock hcommit)
  saveDraft hcommit := hkept _ _ (h.saveDraft hcommit)
  saveComposition hcommit := hkept _ _ (h.saveComposition hcommit)
  saveCritique hcommit := hkept _ _ (h.saveCritique hcommit)
  claimFeedbackOperation hcommit := hkept _ _ (h.claimFeedbackOperation hcommit)
  failRevisionOperation hcommit := hkept _ _ (h.failRevisionOperation hcommit)
  claimRetryOperation hcommit := hkept _ _ (h.claimRetryOperation hcommit)
  completeRevision hcommit := hkept _ _ (h.completeRevision hcommit)

namespace Database

variable {db db' : Database} {runId : UUID}

theorem Frame.refl (runId : UUID) (db : Database) : Frame runId db db :=
  ⟨fun _ _ => rfl, fun _ _ => rfl, fun _ _ => rfl, fun _ _ => rfl⟩

/-! ## Coming to await the Brand Lock -/

/-- A run that awaits its Brand Lock did so before, or was in progress. -/
def Awaits (db db' : Database) : Prop :=
  ∀ runId row', db'.runs.find runId = some row' → row'.status = .awaitingBrandLock →
    db.runs.find runId = some row' ∨
      ∃ row, db.runs.find runId = some row ∧ row.status = .inProgress

theorem Awaits.of_runs (h : db'.runs = db.runs) : Awaits db db' := by
  intro runId row' hrow _
  rw [h] at hrow
  exact .inl hrow

theorem Awaits.of_set {row : RunRow} (hruns : db'.runs = db.runs.set runId row)
    (h : row.status = .awaitingBrandLock →
      ∃ before, db.runs.find runId = some before ∧ before.status = .inProgress) :
    Awaits db db' := by
  intro other row' hrow hawaiting
  rw [hruns] at hrow
  by_cases heq : other = runId
  · subst heq
    rw [Table.find_set_self] at hrow
    cases hrow
    exact .inr (h hawaiting)
  · rw [Table.find_set_ne _ _ heq] at hrow
    exact .inl hrow

theorem Awaits.of_updateWhere {condition : RunRow → Bool} {change : RunRow → RunRow}
    (hruns : db.runs.updateWhere runId condition change = some db'.runs)
    (h : ∀ row, condition row = true → (change row).status = .awaitingBrandLock →
      row.status = .inProgress) : Awaits db db' := by
  obtain ⟨row, hrow, hcondition, hset⟩ := Table.updateWhere_eq_some hruns
  exact .of_set hset fun hawaiting => ⟨row, hrow, h row hcondition hawaiting⟩

theorem Awaits.of_update {change : RunRow → RunRow}
    (hruns : db'.runs = db.runs.update runId change)
    (h : ∀ row, (change row).status ≠ .awaitingBrandLock) : Awaits db db' := by
  cases hrow : db.runs.find runId with
  | none =>
      refine .of_runs (hruns.trans ?_)
      rw [Table.update, Table.updateWhere, hrow]
      rfl
  | some row =>
      rw [Table.update_of_some hrow] at hruns
      exact .of_set hruns fun hawaiting => (h row hawaiting).elim

theorem reviewedStatus_ne (report : CritiqueReport) :
    reviewedStatus report ≠ .awaitingBrandLock := by
  unfold reviewedStatus
  split_ifs <;> nofun

theorem failedStatus_ne (action : RetryAction) : failedStatus action ≠ .awaitingBrandLock := by
  unfold failedStatus
  split_ifs <;> nofun

/-! ## The transactions -/

structure Effect (runId : UUID) (db db' : Database) : Prop where
  frame : Frame runId db db'
  awaits : Awaits db db'

theorem Effect.refl (runId : UUID) (db : Database) : Effect runId db db :=
  ⟨.refl runId db, .of_runs rfl⟩

theorem claimAnalysis_effect {claimedAt : Datetime} {claimed : Bool}
    (hcommit : db.claimAnalysis runId claimedAt = .ok (claimed, db')) : Effect runId db db' := by
  unfold claimAnalysis at hcommit
  split at hcommit
  · next runs hruns =>
      cases hcommit
      exact ⟨⟨fun _ => Table.find_updateWhere_ne hruns, fun _ _ => rfl, fun _ _ => rfl,
        fun _ _ => rfl⟩, .of_updateWhere hruns fun _ _ h => by cases h⟩
  · cases hcommit
    exact .refl runId db

theorem completeAnalysis_effect {analysis : AdAnalysis} {repairAttempted : Bool}
    {updatedAt : Datetime} {done : Unit}
    (hcommit : db.completeAnalysis runId analysis repairAttempted .awaitingBrandLock updatedAt =
      .ok (done, db')) : Effect runId db db' := by
  simp only [completeAnalysis, bind_eq_ok, orRaise_eq_ok] at hcommit
  obtain ⟨contexts, hcontexts, runs, hruns, hvalue⟩ := hcommit
  cases hvalue
  exact ⟨⟨fun _ => Table.find_updateWhere_ne hruns, fun _ => Table.find_updateWhere_ne hcontexts,
    fun _ _ => rfl, fun _ _ => rfl⟩,
    .of_updateWhere hruns fun _ hcondition _ => of_decide_eq_true hcondition⟩

theorem recordFailure_effect {status : ProjectRunStatus} {warningCodes : List String}
    {updatedAt : Datetime} {done : Unit} (hstatus : status = .blocked ∨ status = .failed)
    (hcommit : db.recordFailure runId status warningCodes updatedAt = .ok (done, db')) :
    Effect runId db db' := by
  simp only [recordFailure, bind_eq_ok, orRaise_eq_ok] at hcommit
  obtain ⟨runs, hruns, hvalue⟩ := hcommit
  cases hvalue
  refine ⟨⟨fun _ => Table.find_updateWhere_ne hruns, fun _ _ => rfl, fun _ _ => rfl,
    fun _ _ => rfl⟩, .of_updateWhere hruns fun _ _ hawaiting => ?_⟩
  rcases hstatus with rfl | rfl <;> cases hawaiting

theorem confirmBrandLock_effect {proposed : BrandLock} {confirmedAt : Datetime}
    {record : BrandLockConfirmationRecord}
    (hcommit : db.confirmBrandLock runId proposed confirmedAt = .ok (record, db')) :
    Effect runId db db' := by
  obtain ⟨⟨row, context⟩, -, hcommit⟩ := bind_eq_ok.mp hcommit
  obtain ⟨existing, -, hcommit⟩ := bind_eq_ok.mp hcommit
  cases existing with
  | some existing =>
      obtain ⟨-, -, hvalue⟩ := bind_eq_ok.mp hcommit
      cases hvalue
      exact .refl runId db
  | none =>
      simp only [bind_eq_ok, orRaise_eq_ok] at hcommit
      obtain ⟨-, -, -, -, encoded, -, analysis, -, validated, -, contexts, hcontexts, runs, hruns,
        hvalue⟩ := hcommit
      cases hvalue
      exact ⟨⟨fun _ => Table.find_updateWhere_ne hruns,
        fun _ => Table.find_updateWhere_ne hcontexts, fun _ _ => rfl, fun _ _ => rfl⟩,
        .of_updateWhere hruns fun _ _ h => by cases h⟩

theorem saveDraft_effect {draft record : DraftRecord}
    (hcommit : db.saveDraft runId draft = .ok (record, db')) : Effect runId db db' := by
  obtain ⟨⟨row, context⟩, -, hcommit⟩ := bind_eq_ok.mp hcommit
  obtain ⟨existing, -, hcommit⟩ := bind_eq_ok.mp hcommit
  cases existing with
  | some existing =>
      obtain ⟨-, -, hvalue⟩ := bind_eq_ok.mp hcommit
      cases hvalue
      exact .refl runId db
  | none =>
      simp only [bind_eq_ok, orRaise_eq_ok] at hcommit
      obtain ⟨-, -, encoded, -, confirmed, -, -, -, -, -, contexts, hcontexts, hvalue⟩ := hcommit
      cases hvalue
      exact ⟨⟨fun _ _ => rfl, fun _ => Table.find_updateWhere_ne hcontexts, fun _ _ => rfl,
        fun _ _ => rfl⟩, .of_runs rfl⟩

theorem saveComposition_effect {composition record : CompositionGenerated}
    (hcommit : db.saveComposition runId composition = .ok (record, db')) :
    Effect runId db db' := by
  obtain ⟨⟨row, context⟩, -, hcommit⟩ := bind_eq_ok.mp hcommit
  cases hcolumn : context.bind ContextRow.composition with
  | some column =>
      simp only [hcolumn, bind_eq_ok] at hcommit
      obtain ⟨existing, -, -, -, hvalue⟩ := hcommit
      cases hvalue
      exact .refl runId db
  | none =>
      simp only [hcolumn, bind_eq_ok, orRaise_eq_ok] at hcommit
      obtain ⟨-, -, encoded, -, -, -, confirmed, -, -, -, contexts, hcontexts, hvalue⟩ := hcommit
      cases hvalue
      exact ⟨⟨fun _ _ => rfl, fun _ => Table.find_updateWhere_ne hcontexts, fun _ _ => rfl,
        fun _ _ => rfl⟩, .of_runs rfl⟩

theorem saveCritique_effect {report : CritiqueReport} {record : CritiqueRecord}
    (hcommit : db.saveCritique runId report = .ok (record, db')) : Effect runId db db' := by
  obtain ⟨⟨row, context⟩, -, hcommit⟩ := bind_eq_ok.mp hcommit
  obtain ⟨-, -, hcommit⟩ := bind_eq_ok.mp hcommit
  obtain ⟨existing, -, hcommit⟩ := bind_eq_ok.mp hcommit
  cases existing with
  | some existing =>
      obtain ⟨-, -, hvalue⟩ := bind_eq_ok.mp hcommit
      cases hvalue
      exact .refl runId db
  | none =>
      simp only [bind_eq_ok, orRaise_eq_ok] at hcommit
      obtain ⟨-, -, contexts, hcontexts, runs, hruns, hvalue⟩ := hcommit
      cases hvalue
      exact ⟨⟨fun _ => Table.find_updateWhere_ne hruns,
        fun _ => Table.find_updateWhere_ne hcontexts, fun _ _ => rfl, fun _ _ => rfl⟩,
        .of_updateWhere hruns fun _ _ hawaiting => (reviewedStatus_ne report hawaiting).elim⟩

theorem claimFeedbackOperation_effect {keyDigest fingerprint feedbackDigest : String}
    {changes : List RevisionChange} {claimedAt : Datetime} {record : OperationRecord}
    (hcommit : db.claimFeedbackOperation runId keyDigest fingerprint changes feedbackDigest
      claimedAt = .ok (record, db')) : Effect runId db db' := by
  unfold claimFeedbackOperation at hcommit
  split at hcommit
  · obtain ⟨_, -, hvalue⟩ := bind_eq_ok.mp hcommit
    cases hvalue
    exact .refl runId db
  · simp only [bind_eq_ok, orRaise_eq_ok] at hcommit
    obtain ⟨-, -, -, -, run, -, -, -, ⟨operations, row⟩, hinsert, runs, hruns, _, -, hvalue⟩ :=
      hcommit
    cases hvalue
    obtain ⟨rfl, hrows, -⟩ := OperationTable.insert_eq_some hinsert
    exact ⟨⟨fun _ => Table.find_updateWhere_ne hruns, fun _ _ => rfl, fun _ _ => rfl,
      fun _ => OperationTable.ofRun_of_rows_ne hrows⟩,
      .of_updateWhere hruns fun _ _ h => by cases h⟩

theorem failRevisionOperation_effect {operationId : Nat} {condition : RetryCondition}
    {action : RetryAction} {failedAt : Datetime} {record : OperationRecord}
    (hcommit : db.failRevisionOperation runId operationId condition action failedAt =
      .ok (record, db')) : Effect runId db db' := by
  simp only [failRevisionOperation, bind_eq_ok, orRaise_eq_ok] at hcommit
  obtain ⟨-, -, row, -, _, -, hvalue⟩ := hcommit
  cases hvalue
  refine ⟨⟨fun _ => Table.find_update_ne _ _, fun _ _ => rfl, fun _ _ => rfl, fun other hne => ?_⟩,
    .of_update rfl fun _ => failedStatus_ne action⟩
  refine ofRun_updateWhere_of_not fun row hrow => ?_
  simp [(OperationTable.mem_ofRun.mp hrow).2, hne]

theorem claimRetryOperation_effect {keyDigest fingerprint : String} {claimedAt : Datetime}
    {record : OperationRecord}
    (hcommit : db.claimRetryOperation runId keyDigest fingerprint claimedAt = .ok (record, db')) :
    Effect runId db db' := by
  unfold claimRetryOperation at hcommit
  split at hcommit
  · obtain ⟨_, -, hvalue⟩ := bind_eq_ok.mp hcommit
    cases hvalue
    exact .refl runId db
  · simp only [bind_eq_ok, orRaise_eq_ok] at hcommit
    obtain ⟨run, -, -, -, source, -, _, -, ⟨operations, row⟩, hinsert, _, -, hvalue⟩ := hcommit
    cases hvalue
    obtain ⟨rfl, hrows, -⟩ := OperationTable.insert_eq_some hinsert
    exact ⟨⟨fun _ => Table.find_update_ne _ _, fun _ => Table.find_update_ne _ _, fun _ _ => rfl,
      fun _ => OperationTable.ofRun_of_rows_ne hrows⟩, .of_update rfl fun _ h => by cases h⟩

theorem completeRevision_effect {operationId : Nat} {revision : RevisionRecord}
    {response : RevisionCompleted} {done : Unit}
    (hcommit : db.completeRevision runId operationId revision response = .ok (done, db')) :
    Effect runId db db' := by
  simp only [completeRevision, bind_eq_ok, orRaise_eq_ok] at hcommit
  obtain ⟨operation, hfound, -, -, revisions, hrevisions, contexts, hcontexts, hvalue⟩ := hcommit
  cases hvalue
  refine ⟨⟨fun _ => Table.find_update_ne _ _, fun _ => Table.find_updateWhere_ne hcontexts,
    fun _ => Table.find_insert_ne hrevisions, fun other hne => ?_⟩,
    .of_update rfl fun _ => reviewedStatus_ne _⟩
  have hmem := List.mem_of_find?_eq_some hfound
  have hcondition := List.find?_some hfound
  simp only [Bool.and_eq_true, decide_eq_true_eq, beq_iff_eq] at hcondition
  obtain ⟨hrun, hid⟩ := hcondition
  -- Row numbers are unique, so no other run has the operation.
  have hcompleted : ∀ row ∈ db.operations.ofRun other,
      (row.id == operationId && decide (row.progress.state = .inProgress)) = false := by
    intro row hrow
    obtain ⟨hrow, hother⟩ := OperationTable.mem_ofRun.mp hrow
    have hids : row.id ≠ operationId := fun heq => hne <| hother.symm.trans <|
      (congrArg OperationRow.runId (OperationTable.eq_of_id hrow hmem (heq.trans hid.symm))).trans
        hrun
    simp [hids]
  dsimp only
  split_ifs
  · rw [ofRun_updateWhere_of_not, ofRun_updateWhere_of_not hcompleted]
    intro row hrow
    rw [ofRun_updateWhere_of_not hcompleted] at hrow
    simp [(OperationTable.mem_ofRun.mp hrow).2, hne]
  · exact ofRun_updateWhere_of_not hcompleted

theorem create_effect {id : UUID} {body : RunCreate} {now : Datetime} {done : Unit}
    (hcommit : db.create (.new id body.direction now) (some body) = .ok (done, db')) :
    Effect id db db' := by
  simp only [create, bind_eq_ok, orRaise_eq_ok] at hcommit
  obtain ⟨runs, hruns, -, -, contexts, hcontexts, hvalue⟩ := hcommit
  cases hvalue
  exact ⟨⟨fun _ => Table.find_insert_ne hruns, fun _ => Table.find_insert_ne hcontexts,
    fun _ _ => rfl, fun _ _ => rfl⟩, .of_set (Table.insert_eq_some hruns).2 fun h => by cases h⟩

theorem transacts_effect (runId : UUID) : Transacts runId (Effect runId) where
  refl := .refl runId
  claimAnalysis := claimAnalysis_effect
  completeAnalysis := completeAnalysis_effect
  recordFailure := recordFailure_effect
  confirmBrandLock := confirmBrandLock_effect
  saveDraft := saveDraft_effect
  saveComposition := saveComposition_effect
  saveCritique := saveCritique_effect
  claimFeedbackOperation := claimFeedbackOperation_effect
  failRevisionOperation := failRevisionOperation_effect
  claimRetryOperation := claimRetryOperation_effect
  completeRevision := completeRevision_effect

end Database

end CultureShift
