/-
# Status changes

A status is to change along the transitions of the domain only. Most methods
look at the stored status in the transaction that writes it. The others rely on
what was read before, or on an operation that is in progress; their writes are
legal as long as what they rely on is still so.
-/

import CultureShift.Lifecycle.Demo
import CultureShift.Repository.Calls

namespace CultureShift

open Serialization Relational Concurrent

variable {ι κ : Type}

/-! ## Transitions that are allowed -/

namespace Database

def status? (db : Database) (runId : UUID) : Option ProjectRunStatus :=
  (db.runs.find runId).map RunRow.status

/-- Every stored status is kept, or left along an allowed transition; so a status
without transitions is kept. -/
def TransitionsAllowed (db db' : Database) : Prop :=
  ∀ runId status, db.status? runId = some status →
    ∃ status', db'.status? runId = some status' ∧
      (status' = status ∨ status' ∈ allowedTransitions status)

variable {db db' : Database} {runId : UUID}

theorem transitionsAllowed_of_runs (hruns : db'.runs = db.runs) : db.TransitionsAllowed db' := by
  intro runId status hstatus
  refine ⟨status, ?_, .inl rfl⟩
  rwa [status?, hruns]

theorem transitionsAllowed_refl (db : Database) : db.TransitionsAllowed db :=
  transitionsAllowed_of_runs rfl

/-- An update is allowed when the row it meets makes an allowed transition. -/
theorem transitionsAllowed_of_set {row row' : RunRow} (hrow : db.runs.find runId = some row)
    (hruns : db'.runs = db.runs.set runId row')
    (hallowed : row'.status ∈ allowedTransitions row.status) : db.TransitionsAllowed db' := by
  intro other status hstatus
  by_cases hother : other = runId
  · subst hother
    rw [status?, hrow] at hstatus
    cases hstatus
    refine ⟨row'.status, ?_, .inr hallowed⟩
    rw [status?, hruns, Table.find_set_self]
    rfl
  · refine ⟨status, ?_, .inl rfl⟩
    rwa [status?, hruns, Table.find_set_ne _ _ hother]

theorem transitionsAllowed_of_updateWhere {runs : Table UUID RunRow} {condition : RunRow → Bool}
    {change : RunRow → RunRow} (hupdate : db.runs.updateWhere runId condition change = some runs)
    (hruns : db'.runs = runs)
    (hallowed : ∀ row, db.runs.find runId = some row → condition row = true →
      (change row).status ∈ allowedTransitions row.status) : db.TransitionsAllowed db' := by
  obtain ⟨row, hrow, hcondition, rfl⟩ := Table.updateWhere_eq_some hupdate
  exact transitionsAllowed_of_set hrow hruns (hallowed row hrow hcondition)

theorem transitionsAllowed_of_update {status : ProjectRunStatus} {change : RunRow → RunRow}
    (hruns : db'.runs = db.runs.update runId change) (hstatus : db.status? runId = some status)
    (hallowed : ∀ row : RunRow, (change row).status ∈ allowedTransitions status) :
    db.TransitionsAllowed db' := by
  cases hrow : db.runs.find runId with
  | none =>
      rw [status?, hrow] at hstatus
      cases hstatus
  | some row =>
      rw [status?, hrow] at hstatus
      cases hstatus
      rw [Table.update_of_some hrow] at hruns
      exact transitionsAllowed_of_set hrow hruns (hallowed row)

/-! ## The transactions that look before they write -/

theorem create_transitions {run : ProjectRun} {request : Option RunCreate} {done : Unit}
    (h : db.create run request = .ok (done, db')) : db.TransitionsAllowed db' := by
  have hinserted {runs : Table UUID RunRow} {row : RunRow}
      (hinsert : db.runs.insert run.id row = some runs) (hruns : db'.runs = runs) :
      db.TransitionsAllowed db' := by
    intro runId status hstatus
    refine ⟨status, ?_, .inl rfl⟩
    cases hrow : db.runs.find runId with
    | none =>
        rw [status?, hrow] at hstatus
        cases hstatus
    | some row =>
        rw [status?, hrow] at hstatus
        rwa [status?, hruns, Table.find_of_insert hinsert hrow]
  simp only [create, bind_eq_ok, orRaise_eq_ok] at h
  obtain ⟨runs, hinsert, h⟩ := h
  cases request with
  | none =>
      cases h
      exact hinserted hinsert rfl
  | some request =>
      simp only [bind_eq_ok] at h
      obtain ⟨-, -, contexts, -, hvalue⟩ := h
      cases hvalue
      exact hinserted hinsert rfl

theorem claimAnalysis_transitions {claimedAt : Datetime} {claimed : Bool}
    (h : db.claimAnalysis runId claimedAt = .ok (claimed, db')) : db.TransitionsAllowed db' := by
  unfold claimAnalysis at h
  split at h
  next runs hruns =>
    cases h
    apply transitionsAllowed_of_updateWhere hruns rfl
    intro row _ hpending
    rw [of_decide_eq_true hpending]
    exact List.mem_cons_self
  next =>
    cases h
    exact transitionsAllowed_refl db

theorem completeAnalysis_transitions {analysis : AdAnalysis} {repairAttempted : Bool}
    {updatedAt : Datetime} {done : Unit}
    (h : db.completeAnalysis runId analysis repairAttempted .awaitingBrandLock updatedAt =
      .ok (done, db')) : db.TransitionsAllowed db' := by
  simp only [completeAnalysis, bind_eq_ok, orRaise_eq_ok] at h
  obtain ⟨contexts, -, runs, hruns, hvalue⟩ := h
  cases hvalue
  apply transitionsAllowed_of_updateWhere hruns rfl
  intro row _ hprogress
  rw [of_decide_eq_true hprogress]
  exact List.mem_cons_self

theorem confirmBrandLock_transitions {proposed : BrandLock} {confirmedAt : Datetime}
    {record : BrandLockConfirmationRecord}
    (h : db.confirmBrandLock runId proposed confirmedAt = .ok (record, db')) :
    db.TransitionsAllowed db' := by
  simp only [confirmBrandLock, bind_eq_ok] at h
  obtain ⟨⟨row, context⟩, -, existing, -, h⟩ := h
  cases existing with
  | some existing =>
      simp only [bind_eq_ok] at h
      obtain ⟨-, -, hvalue⟩ := h
      cases hvalue
      exact transitionsAllowed_refl db
  | none =>
      simp only [bind_eq_ok, orRaise_eq_ok] at h
      obtain ⟨-, -, -, -, encoded, -, analysis, -, validated, -, contexts, -, runs, hruns,
        hvalue⟩ := h
      cases hvalue
      apply transitionsAllowed_of_updateWhere hruns rfl
      intro row _ hawaiting
      rw [of_decide_eq_true hawaiting]
      exact List.mem_cons_self

theorem reviewedStatus_allowed (report : CritiqueReport) :
    reviewedStatus report ∈ allowedTransitions .inProgress := by
  unfold reviewedStatus
  split <;> decide

theorem saveCritique_transitions {report : CritiqueReport} {record : CritiqueRecord}
    (h : db.saveCritique runId report = .ok (record, db')) : db.TransitionsAllowed db' := by
  simp only [saveCritique, bind_eq_ok] at h
  obtain ⟨⟨row, context⟩, -, -, -, existing, -, h⟩ := h
  cases existing with
  | some existing =>
      simp only [bind_eq_ok] at h
      obtain ⟨-, -, hvalue⟩ := h
      cases hvalue
      exact transitionsAllowed_refl db
  | none =>
      simp only [bind_eq_ok, orRaise_eq_ok] at h
      obtain ⟨-, -, contexts, -, runs, hruns, hvalue⟩ := h
      cases hvalue
      apply transitionsAllowed_of_updateWhere hruns rfl
      intro row _ hprogress
      rw [of_decide_eq_true hprogress]
      exact reviewedStatus_allowed report

theorem claimFeedbackOperation_transitions {keyDigest fingerprint feedbackDigest : String}
    {requestedChanges : List RevisionChange} {claimedAt : Datetime} {record : OperationRecord}
    (h : db.claimFeedbackOperation runId keyDigest fingerprint requestedChanges feedbackDigest
      claimedAt = .ok (record, db')) : db.TransitionsAllowed db' := by
  unfold claimFeedbackOperation at h
  split at h
  · simp only [bind_eq_ok] at h
    obtain ⟨_, -, hvalue⟩ := h
    cases hvalue
    exact transitionsAllowed_refl db
  · simp only [bind_eq_ok, orRaise_eq_ok] at h
    obtain ⟨-, -, -, -, run, -, -, -, ⟨operations, row⟩, -, runs, hruns, _, -, hvalue⟩ := h
    cases hvalue
    apply transitionsAllowed_of_updateWhere hruns rfl
    intro row _ hready
    rw [of_decide_eq_true hready]
    exact List.mem_cons_self

theorem claimRetryOperation_transitions {keyDigest fingerprint : String} {claimedAt : Datetime}
    {record : OperationRecord}
    (h : db.claimRetryOperation runId keyDigest fingerprint claimedAt = .ok (record, db')) :
    db.TransitionsAllowed db' := by
  unfold claimRetryOperation at h
  split at h
  · simp only [bind_eq_ok] at h
    obtain ⟨_, -, hvalue⟩ := h
    cases hvalue
    exact transitionsAllowed_refl db
  · simp only [bind_eq_ok, orRaise_eq_ok, require_eq_ok] at h
    obtain ⟨run, hrun, -, hretryable, source, -, sourceRecord, -, ⟨operations, row⟩, -, _, -,
      hvalue⟩ := h
    cases hvalue
    have hstatus : db.status? runId = some .failedRetryable := by
      rw [status?, hrun, Option.map_some, hretryable]
    apply transitionsAllowed_of_update rfl hstatus
    intro row
    exact List.mem_cons_self

/-! ## The transactions that leave the runs alone -/

theorem saveDraft_runs {draft record : DraftRecord}
    (h : db.saveDraft runId draft = .ok (record, db')) : db'.runs = db.runs := by
  simp only [saveDraft, bind_eq_ok] at h
  obtain ⟨⟨row, context⟩, -, existing, -, h⟩ := h
  cases existing with
  | some existing =>
      simp only [bind_eq_ok] at h
      obtain ⟨-, -, hvalue⟩ := h
      cases hvalue
      rfl
  | none =>
      simp only [bind_eq_ok] at h
      obtain ⟨-, -, encoded, -, confirmed, -, -, -, -, -, contexts, -, hvalue⟩ := h
      cases hvalue
      rfl

theorem saveComposition_runs {composition saved : CompositionGenerated}
    (h : db.saveComposition runId composition = .ok (saved, db')) : db'.runs = db.runs := by
  simp only [saveComposition, bind_eq_ok] at h
  obtain ⟨⟨row, context⟩, -, h⟩ := h
  dsimp only at h
  split at h
  · simp only [bind_eq_ok] at h
    obtain ⟨existing, -, -, -, hvalue⟩ := h
    cases hvalue
    rfl
  · simp only [bind_eq_ok] at h
    obtain ⟨-, -, encoded, -, -, -, confirmed, -, -, -, contexts, -, hvalue⟩ := h
    cases hvalue
    rfl

theorem incrementTechnicalAttempt_runs {done : Unit}
    (h : db.incrementTechnicalAttempt runId = .ok (done, db')) : db'.runs = db.runs := by
  simp only [incrementTechnicalAttempt, bind_eq_ok] at h
  obtain ⟨contexts, -, hvalue⟩ := h
  cases hvalue
  rfl

/-! ## The transactions that rely on something -/

theorem updateStatus_transitions {current status : ProjectRunStatus} {updatedAt : Datetime}
    {done : Unit} (h : db.updateStatus runId status updatedAt = .ok (done, db'))
    (hcurrent : db.status? runId = some current) (hallowed : status ∈ allowedTransitions current) :
    db.TransitionsAllowed db' := by
  simp only [updateStatus, bind_eq_ok, orRaise_eq_ok] at h
  obtain ⟨runs, hruns, hvalue⟩ := h
  cases hvalue
  apply transitionsAllowed_of_updateWhere hruns rfl
  intro row hrow _
  rw [status?, hrow] at hcurrent
  cases hcurrent
  exact hallowed

theorem recordFailure_transitions {current status : ProjectRunStatus} {warningCodes : List String}
    {updatedAt : Datetime} {done : Unit}
    (h : db.recordFailure runId status warningCodes updatedAt = .ok (done, db'))
    (hcurrent : db.status? runId = some current) (hallowed : status ∈ allowedTransitions current) :
    db.TransitionsAllowed db' := by
  simp only [recordFailure, bind_eq_ok, orRaise_eq_ok] at h
  obtain ⟨runs, hruns, hvalue⟩ := h
  cases hvalue
  apply transitionsAllowed_of_updateWhere hruns rfl
  intro row hrow _
  rw [status?, hrow] at hcurrent
  cases hcurrent
  exact hallowed

/-- The operation is the run's own and in progress. -/
def Active (db : Database) (runId : UUID) (operationId : Nat) : Prop :=
  ∃ row ∈ db.operations.rows, row.runId = runId ∧ row.id = operationId ∧
    row.progress.state = .inProgress

theorem failRevisionOperation_transitions {operationId : Nat} {condition : RetryCondition}
    {action : RetryAction} {failedAt : Datetime} {record : OperationRecord}
    (h : db.failRevisionOperation runId operationId condition action failedAt = .ok (record, db'))
    (hactive : db.Active runId operationId → db.status? runId = some .inProgress) :
    db.TransitionsAllowed db' := by
  simp only [failRevisionOperation, bind_eq_ok, require_eq_ok] at h
  obtain ⟨-, hfound, row, -, _, -, hvalue⟩ := h
  cases hvalue
  obtain ⟨operation, hoperation⟩ := Option.isSome_iff_exists.mp hfound
  have hmem := List.mem_of_find?_eq_some hoperation
  have hmatch := List.find?_some hoperation
  simp only [Bool.and_eq_true, decide_eq_true_eq, beq_iff_eq] at hmatch
  apply transitionsAllowed_of_update rfl
    (hactive ⟨operation, hmem, hmatch.1, hmatch.2.1, hmatch.2.2⟩)
  intro row
  show failedStatus action ∈ allowedTransitions .inProgress
  unfold failedStatus
  split <;> decide

theorem completeRevision_transitions {operationId : Nat} {revision : RevisionRecord}
    {publicResponse : RevisionCompleted} {done : Unit}
    (h : db.completeRevision runId operationId revision publicResponse = .ok (done, db'))
    (hactive : db.Active runId operationId → db.status? runId = some .inProgress) :
    db.TransitionsAllowed db' := by
  simp only [completeRevision, bind_eq_ok, orRaise_eq_ok, require_eq_ok] at h
  obtain ⟨operation, hoperation, -, hprogress, revisions, -, contexts, -, hvalue⟩ := h
  cases hvalue
  have hmem := List.mem_of_find?_eq_some hoperation
  have hmatch := List.find?_some hoperation
  simp only [Bool.and_eq_true, decide_eq_true_eq, beq_iff_eq] at hmatch
  apply transitionsAllowed_of_update rfl
    (hactive ⟨operation, hmem, hmatch.1, hmatch.2, hprogress⟩)
  intro row
  exact reviewedStatus_allowed revision.critique

end Database

/-! ## Calls -/

/-- What a call relies on in the database it finds: one status of the run where
the status is read first, and a run that is in progress where it only looks at
the operation. -/
def Call.ReliesOn (found : Option ProjectRunStatus) (db : Database) : Call → Prop
  | .updateStatus runId _ => db.status? runId = found
  | .recordFailure runId _ _ => db.status? runId = found
  | .failRevisionOperation runId operationId _ _ _ =>
      db.Active runId operationId → db.status? runId = some .inProgress
  | .completeRevision runId operationId _ _ =>
      db.Active runId operationId → db.status? runId = some .inProgress
  | _ => True

/-- What a run that was read says of the stored status. -/
theorem Database.status_of_get {db : Database} {runId : UUID} {run : ProjectRun}
    (h : db.get runId = .ok run) : db.status? runId = some run.status := by
  simp only [Database.get, bind_eq_ok, orRaise_eq_ok] at h
  obtain ⟨row, hrow, codes, -, hvalidate⟩ := h
  obtain ⟨-, -, hstatus, -⟩ := ProjectRun.of_validate hvalidate
  rw [Database.status?, hrow, hstatus]
  rfl

namespace Repository

variable (repository : Repository κ)

/-- As long as it finds what it relies on, a call makes allowed transitions
only. -/
theorem perform_transitions (found : Option ProjectRunStatus) (call : Call) :
    Does (fun world => call.ReliesOn found world.database) Database.TransitionsAllowed
      (fun _ => True) (repository.perform call) := by
  apply Program.meets_weaken (repository.perform_writes (call.ReliesOn found ·) call)
  rintro world after hfound (hsame | hwrites)
  · rw [hsame]
    exact Database.transitionsAllowed_refl _
  cases call with
  | create run request => exact Database.create_transitions hwrites
  | updateStatus runId status =>
      obtain ⟨earlier, current, updatedAt, hearlier, hget, hallowed, hcommit⟩ := hwrites
      have hstatus := Database.status_of_get hget
      exact Database.updateStatus_transitions hcommit (hfound.trans (hearlier.symm.trans hstatus))
        hallowed
  | recordFailure runId status code =>
      obtain ⟨earlier, current, codes, updatedAt, hearlier, hget, hallowed, hcommit⟩ := hwrites
      have hstatus := Database.status_of_get hget
      exact Database.recordFailure_transitions hcommit (hfound.trans (hearlier.symm.trans hstatus))
        hallowed
  | claimAnalysis runId =>
      obtain ⟨claimedAt, claimed, hcommit⟩ := hwrites
      exact Database.claimAnalysis_transitions hcommit
  | completeAnalysis runId analysis repairAttempted =>
      obtain ⟨updatedAt, hcommit⟩ := hwrites
      exact Database.completeAnalysis_transitions hcommit
  | confirmBrandLock runId proposed confirmedAt =>
      obtain ⟨confirmedAt, record, hcommit⟩ := hwrites
      exact Database.confirmBrandLock_transitions hcommit
  | saveDraft runId brief adCopy factReferences ruleIds generatedAt =>
      obtain ⟨generatedAt, record, hcommit⟩ := hwrites
      exact Database.transitionsAllowed_of_runs (Database.saveDraft_runs hcommit)
  | saveComposition runId composition =>
      obtain ⟨saved, hcommit⟩ := hwrites
      exact Database.transitionsAllowed_of_runs (Database.saveComposition_runs hcommit)
  | saveCritique runId report =>
      obtain ⟨record, hcommit⟩ := hwrites
      exact Database.saveCritique_transitions hcommit
  | claimFeedbackOperation runId keyDigest fingerprint requestedChanges feedbackDigest claimedAt =>
      obtain ⟨record, hcommit⟩ := hwrites
      exact Database.claimFeedbackOperation_transitions hcommit
  | failRevisionOperation runId operationId condition action failedAt =>
      obtain ⟨record, hcommit⟩ := hwrites
      exact Database.failRevisionOperation_transitions hcommit hfound
  | claimRetryOperation runId keyDigest fingerprint claimedAt =>
      obtain ⟨record, hcommit⟩ := hwrites
      exact Database.claimRetryOperation_transitions hcommit
  | completeRevision runId operationId revision publicResponse =>
      exact Database.completeRevision_transitions hwrites hfound
  | incrementTechnicalAttempt runId =>
      exact Database.transitionsAllowed_of_runs (Database.incrementTechnicalAttempt_runs hwrites)

end Repository

/-! ## Calls at the same time -/

/-- The calls are about to be made. -/
def Repository.serving (repository : Repository κ) (world : World κ) (calls : ι → Call) :
    Config ι (World κ) Exc Unit where
  state := world
  threads i := repository.perform (calls i)

/-- Every step of every call finds what the call relies on. In particular the
status that a call has read is still stored when the call writes. -/
def Undisturbed (calls : ι → Call) (log : List (Event ι (World κ))) : Prop :=
  ∃ found : ι → Option ProjectRunStatus,
    Assumed (fun i world => (calls i).ReliesOn (found i) world.database) log

section Interleaved

variable [DecidableEq ι] {repository : Repository κ} {world : World κ} {calls : ι → Call}
  {log : List (Event ι (World κ))} {config : Config ι (World κ) Exc Unit}

/-- In every interleaving of calls that are left undisturbed, every write makes
allowed transitions only. -/
theorem transitions_allowed_of_runs (hruns : Runs (repository.serving world calls) log config)
    (hundisturbed : Undisturbed calls log) :
    ∀ event ∈ log, event.before.database.TransitionsAllowed event.after.database := by
  obtain ⟨found, hfound⟩ := hundisturbed
  have hstart : AllMeet (fun i world => (calls i).ReliesOn (found i) world.database)
      (fun _ world world' => world.database.TransitionsAllowed world'.database)
      (fun _ _ => True) (fun _ _ => True) (repository.serving world calls) :=
    fun i => repository.perform_transitions (found i) (calls i)
  exact (allMeet_of_runs hruns hstart hfound).2

end Interleaved

/-! ## Two updates of one run -/

section Updates

variable [DecidableEq ι] {now : Datetime} {runId : UUID} {status : ProjectRunStatus}

/-- What is left of an update when the run has been read. -/
def Repository.writing (now : Datetime) (runId : UUID) (status : ProjectRunStatus) :
    Program (World κ) Exc Unit := do
  (Repository.quiet now).transaction (Database.updateStatus runId status now)
  .ret ()

variable {start config : Config ι (World κ) Exc Unit} {log : List (Event ι (World κ))}

/-- An update reads the run. -/
theorem runs_read (h : Runs start log config) (i : ι)
    (hthread : config.threads i = (Repository.quiet now).perform (.updateStatus runId status))
    {run : ProjectRun} (hget : config.state.database.get runId = .ok run)
    (hallowed : status ∈ allowedTransitions run.status) (hcreated : run.createdAt ≤ now) :
    Runs start (log ++ [⟨i, config.state, config.state⟩])
      (config.move i config.state (Repository.writing now runId status)) := by
  obtain ⟨updated, hupdated, hstatus, htime, htransition⟩ : ∃ updated : ProjectRun,
      updated.id = run.id ∧ updated.status = status ∧ updated.updatedAt = now ∧
        run.withStatus (Repository.quiet now).now status none =
          (pure updated : Program (World κ) Exc ProjectRun) := exists_withStatus hallowed hcreated
  have hread : ((Repository.quiet now).get runId).Step config.state (.ret run) config.state :=
    step_query hget
  have hstep := h.step (hthread.trans (Program.bind_assoc _ _ _)) hread.bind
  rw [Program.bind_ret, htransition, Program.pure_eq_ret, Program.bind_ret, Program.bind_assoc,
    hupdated, hstatus, htime, Database.id_of_get hget] at hstep
  exact hstep

/-- An update writes, whatever has happened since. -/
theorem runs_write (h : Runs start log config) (i : ι)
    (hthread : config.threads i = Repository.writing now runId status)
    {stored : ProjectRunStatus} (hstored : config.state.database.status? runId = some stored) :
    ∃ after : World κ, after.database.status? runId = some status ∧
      Runs start (log ++ [⟨i, config.state, after⟩]) (config.move i after (.ret ())) := by
  obtain ⟨row, hrow, -⟩ := Option.map_eq_some_iff.mp hstored
  let changed : Database := { config.state.database with
    runs := config.state.database.runs.set runId { row with status := status, updatedAt := now } }
  have hcommit : config.state.database.updateStatus runId status now = .ok ((), changed) := by
    rw [Database.updateStatus, Table.updateWhere_of_some hrow rfl]
    rfl
  have hwrite : ((Repository.quiet now).transaction
      (Database.updateStatus runId status now)).Step config.state (.ret ())
        { config.state with database := changed } := step_transaction hcommit
  refine ⟨{ config.state with database := changed }, ?_,
    h.step hthread (Program.Step.bind hwrite)⟩
  show (changed.runs.find runId).map RunRow.status = some status
  rw [Table.find_set_self]
  rfl

end Updates

namespace Demo

/-- A run is created, and two updates start from its pending status. -/
def updates : Nat → Call
  | 0 => .create (ProjectRun.new runId .chinaToUk now) (some runCreate)
  | 1 => .updateStatus runId .failed
  | _ => .updateStatus runId .inProgress

/-- A run is claimed for its analysis and taken to have failed. -/
def claimAndFailure : Nat → Call
  | 0 => .updateStatus runId .failed
  | _ => .claimAnalysis runId

/-- A created run, and what both updates read of it. -/
theorem exists_created : ∃ (db : Database) (run : ProjectRun),
    Database.empty.create (ProjectRun.new runId .chinaToUk now) (some runCreate) = .ok ((), db) ∧
      db.get runId = .ok run ∧ run.status = .pending ∧ run.createdAt ≤ now ∧
      db.status? runId = some .pending := by
  obtain ⟨db, hcreate, hat⟩ := Database.create_of_absent (ProjectRun.new runId .chinaToUk now)
    runCreate (empty_absent runId) rfl rfl rfl (le_refl now)
  obtain ⟨run, hget, -, hcreated⟩ := hat.get
  have hstatus := (hat.shows.get hget).status
  exact ⟨db, run, hcreate, hget, hstatus, hcreated,
    (Database.status_of_get hget).trans (congrArg some hstatus)⟩

end Demo

/-- An analysis is claimed, and the run fails before the claim is answered: each
of the two calls writes between the steps of the other. -/
theorem transitions_allowed_failed : ∃ (world : World Unit) (log : List (Event Nat (World Unit)))
    (config : Config Nat (World Unit) Exc Unit),
    Runs ((Repository.quiet Demo.now).serving world Demo.claimAndFailure) log config ∧
      log.map (·.client) = [1, 0, 1, 0] ∧ world.database.status? Demo.runId = some .pending ∧
      config.state.database.status? Demo.runId = some .failed ∧
      ∀ event ∈ log, event.before.database.TransitionsAllowed event.after.database := by
  obtain ⟨db, -, hat⟩ := Database.create_of_absent (ProjectRun.new Demo.runId .chinaToUk Demo.now)
    Demo.runCreate (empty_absent Demo.runId) rfl rfl rfl (le_refl Demo.now)
  obtain ⟨claimed, hclaim, hat'⟩ := hat.claimAnalysis
  obtain ⟨pending, hpending, -, -⟩ := hat.get
  obtain ⟨run, hget, -, hcreated⟩ := hat'.get
  have hstatus : claimed.status? Demo.runId = some .inProgress :=
    (Database.status_of_get hget).trans (congrArg some (hat'.shows.get hget).status)
  have hallowed : ProjectRunStatus.failed ∈ allowedTransitions run.status := by
    rw [(hat'.shows.get hget).status]
    decide
  have hcommit : ((Repository.quiet Demo.now).transaction
      (Database.claimAnalysis Demo.runId Demo.now)).Step ⟨db, ()⟩ (.ret true) ⟨claimed, ()⟩ :=
    step_transaction hclaim
  have hread : ((Repository.quiet Demo.now).get Demo.runId).Step (World.mk claimed ()) (.ret run)
      ⟨claimed, ()⟩ := step_query hget
  let start := (Repository.quiet Demo.now).serving (World.mk db ()) Demo.claimAndFailure
  have hfirst := (Runs.refl : Runs start [] start).step (i := 1) rfl hcommit.bind.bind
  have hsecond := runs_read hfirst 0 (Config.move_threads_ne _ _ _ (by decide)) hget hallowed
    hcreated
  have hthird := hsecond.step (i := 1) ((Config.move_threads_ne _ _ _ (by decide)).trans
    (Config.move_threads_self _ _ _ _)) hread.bind.bind
  obtain ⟨failed, hfailed, hruns⟩ := runs_write hthird 0
    ((Config.move_threads_ne _ _ _ (by decide)).trans (Config.move_threads_self _ _ _ _)) hstatus
  refine ⟨_, _, _, hruns, rfl,
    (Database.status_of_get hpending).trans (congrArg some (hat.shows.get hpending).status),
    hfailed, transitions_allowed_of_runs hruns ⟨fun _ => some .inProgress, ?_⟩⟩
  intro event hevent
  simp only [List.nil_append, List.cons_append, List.mem_cons, List.not_mem_nil, or_false]
    at hevent
  rcases hevent with rfl | rfl | rfl | rfl
  · trivial
  · exact hstatus
  · trivial
  · exact hstatus

/-- Two updates read the pending status; the run fails, and the second update
takes it out of that status again. -/
theorem not_transitions_allowed : ∃ (log : List (Event Nat (World Unit)))
    (config : Config Nat (World Unit) Exc Unit),
    Runs ((Repository.quiet Demo.now).serving ⟨.empty, ()⟩ Demo.updates) log config ∧
      ∃ event ∈ log, event.before.database.status? Demo.runId = some .failed ∧
        ¬event.before.database.TransitionsAllowed event.after.database := by
  obtain ⟨db, run, hcreate, hget, hpending, hcreated, hstatus⟩ := Demo.exists_created
  have hcreation : ((Repository.quiet Demo.now).perform (Demo.updates 0)).exec
      ⟨.empty, ()⟩ = some (.ok (), ⟨db, ()⟩) :=
    Program.exec_bind (Program.exec_bind (exec_transaction hcreate))
  let start := (Repository.quiet Demo.now).serving (World.mk .empty ()) Demo.updates
  have hthread : start.threads 0 = (Repository.quiet Demo.now).perform (Demo.updates 0) := rfl
  obtain ⟨log, hruns⟩ := (Reaches.refl start).serve hthread hcreation
  have hfailing : ProjectRunStatus.failed ∈ allowedTransitions run.status := by
    rw [hpending]
    decide
  have hresuming : ProjectRunStatus.inProgress ∈ allowedTransitions run.status := by
    rw [hpending]
    decide
  have hread₁ := runs_read hruns 1 (Config.move_threads_ne _ _ _ (by decide)) hget hfailing hcreated
  have hread₂ := runs_read hread₁ 2 ((Config.move_threads_ne _ _ _ (by decide)).trans
    (Config.move_threads_ne _ _ _ (by decide))) hget hresuming hcreated
  obtain ⟨failed, hfailed, hwrite₁⟩ := runs_write hread₂ 1
    ((Config.move_threads_ne _ _ _ (by decide)).trans (Config.move_threads_self _ _ _ _)) hstatus
  obtain ⟨resumed, hresumed, hwrite₂⟩ := runs_write hwrite₁ 2
    ((Config.move_threads_ne _ _ _ (by decide)).trans (Config.move_threads_self _ _ _ _)) hfailed
  refine ⟨_, _, hwrite₂, _, List.mem_append_right _ (List.mem_singleton_self _), hfailed, ?_⟩
  intro hallowed
  obtain ⟨status, hstatus', hkept⟩ := hallowed _ _ hfailed
  obtain rfl := Option.some.inj (hresumed.symm.trans hstatus')
  revert hkept
  decide

end CultureShift
