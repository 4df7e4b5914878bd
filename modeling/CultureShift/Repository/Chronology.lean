/-
# Chronology

A run that was updated before it was created cannot be read any more. Two
methods compare the time they are given with the creation of the run; the four
methods of a revision do not, and these are the calls that decide whether the
stored runs stay readable.
-/

import CultureShift.Repository.StatusChanges
import CultureShift.Sequential.Trace

namespace CultureShift

open Serialization Relational Concurrent Sequential

variable {κ α : Type}

namespace Database

/-- Every stored run was updated after its creation, and can be read. -/
def Chronological (db : Database) : Prop :=
  ∀ runId row, db.runs.find runId = some row →
    row.createdAt ≤ row.updatedAt ∧ ∃ run, db.get runId = .ok run

/-- The time is not before the creation of the run. -/
def Follows (db : Database) (runId : UUID) (time : Datetime) : Prop :=
  ∀ row, db.runs.find runId = some row → row.createdAt ≤ time

def CodesValid (row : RunRow) : Prop :=
  ∃ codes, row.warningCodes = .dump codes ∧ ValidWarningCodes codes

def CountsValid (contexts : Table UUID ContextRow) : Prop :=
  ∀ runId context, contexts.find runId = some context →
    context.initialGenerationCount ≤ 1 ∧ context.humanRevisionCount ≤ 1

/-- What keeps the stored runs readable. -/
structure Sound (db : Database) : Prop where
  updated : ∀ runId row, db.runs.find runId = some row → row.createdAt ≤ row.updatedAt
  codes : ∀ runId row, db.runs.find runId = some row → CodesValid row
  counts : CountsValid db.contexts
  owners : ∀ operation ∈ db.operations.rows, ∃ row, db.runs.find operation.runId = some row

variable {db db' : Database} {runId : UUID} {time : Datetime}

theorem sound_empty : Sound .empty where
  updated := by
    rintro _ _ ⟨⟩
  codes := by
    rintro _ _ ⟨⟩
  counts := by
    rintro _ _ ⟨⟩
  owners := by
    rintro _ ⟨⟩

theorem Sound.chronological (h : db.Sound) : db.Chronological := by
  intro runId row hrow
  have hupdated := h.updated runId row hrow
  obtain ⟨codes, hcodes, hvalid⟩ := h.codes runId row hrow
  have hcounts : ((db.contexts.find runId).map ContextRow.initialGenerationCount).getD 0 ≤ 1 ∧
      ((db.contexts.find runId).map ContextRow.humanRevisionCount).getD 0 ≤ 1 := by
    cases hcontext : db.contexts.find runId with
    | none => exact ⟨Nat.zero_le _, Nat.zero_le _⟩
    | some context => exact h.counts runId context hcontext
  obtain ⟨run, hrun⟩ : ∃ run, ProjectRun.validate runId row.direction row.status codes
      (((db.contexts.find runId).map ContextRow.initialGenerationCount).getD 0)
      (((db.contexts.find runId).map ContextRow.humanRevisionCount).getD 0)
      (((db.contexts.find runId).map ContextRow.technicalAttemptCount).getD 0) row.createdAt
      row.updatedAt = .ok run := ⟨_, dif_pos ⟨hvalid, hcounts, hupdated⟩⟩
  refine ⟨hupdated, run, ?_⟩
  simp only [get, hrow, orRaise_some, ok_bind, hcodes, load_dump]
  exact hrun

/-! ## Changes of the tables -/

theorem countsValid_of_set {contexts : Table UUID ContextRow} {context : ContextRow}
    (h : CountsValid contexts)
    (hcontext : context.initialGenerationCount ≤ 1 ∧ context.humanRevisionCount ≤ 1) :
    CountsValid (contexts.set runId context) := by
  intro other found hfound
  by_cases hother : other = runId
  · subst hother
    rw [Table.find_set_self] at hfound
    cases hfound
    exact hcontext
  · rw [Table.find_set_ne _ _ hother] at hfound
    exact h other found hfound

theorem countsValid_of_updateWhere {contexts contexts' : Table UUID ContextRow}
    {condition : ContextRow → Bool} {change : ContextRow → ContextRow}
    (h : CountsValid contexts)
    (hupdate : contexts.updateWhere runId condition change = some contexts')
    (hchange : ∀ context : ContextRow,
      context.initialGenerationCount ≤ 1 ∧ context.humanRevisionCount ≤ 1 →
        (change context).initialGenerationCount ≤ 1 ∧ (change context).humanRevisionCount ≤ 1) :
    CountsValid contexts' := by
  obtain ⟨context, hcontext, -, rfl⟩ := Table.updateWhere_eq_some hupdate
  exact countsValid_of_set h (hchange context (h runId context hcontext))

/-- The run is stamped with the time of the change. -/
structure Stamps (db db' : Database) (runId : UUID) (time : Datetime) : Prop where
  run : ∃ row row', db.runs.find runId = some row ∧ db'.runs = db.runs.set runId row' ∧
    row'.createdAt = row.createdAt ∧ row'.updatedAt = time ∧ CodesValid row'
  counts : CountsValid db'.contexts
  operations : ∀ operation ∈ db'.operations.rows, operation.runId = runId ∨
    ∃ before ∈ db.operations.rows, before.runId = operation.runId

/-- A time that follows the creation keeps the runs readable. -/
theorem Sound.stamp (h : db.Sound) (hstamps : db.Stamps db' runId time)
    (hfollows : db.Follows runId time) : db'.Sound := by
  obtain ⟨⟨row, row', hrow, hruns, hcreated, hupdated, hcodes⟩, hcounts, hoperations⟩ := hstamps
  have hself : db'.runs.find runId = some row' := by
    rw [hruns, Table.find_set_self]
  have hother {other : UUID} (hne : other ≠ runId) :
      db'.runs.find other = db.runs.find other := by
    rw [hruns, Table.find_set_ne _ _ hne]
  constructor
  case updated =>
    intro other found hfound
    by_cases heq : other = runId
    · subst heq
      rw [hself] at hfound
      cases hfound
      rw [hcreated, hupdated]
      exact hfollows row hrow
    · rw [hother heq] at hfound
      exact h.updated other found hfound
  case codes =>
    intro other found hfound
    by_cases heq : other = runId
    · subst heq
      rw [hself] at hfound
      cases hfound
      exact hcodes
    · rw [hother heq] at hfound
      exact h.codes other found hfound
  case counts => exact hcounts
  case owners =>
    intro operation hoperation
    by_cases heq : operation.runId = runId
    · rw [heq]
      exact ⟨row', hself⟩
    · rw [hother heq]
      rcases hoperations operation hoperation with hown | ⟨before, hbefore, hsame⟩
      · exact absurd hown heq
      · rw [← hsame]
        exact h.owners before hbefore

/-- A time before the creation makes the run unreadable. -/
theorem Stamps.not_chronological (h : db.Stamps db' runId time)
    (hfollows : ¬db.Follows runId time) : ¬db'.Chronological := by
  obtain ⟨row, row', hrow, hruns, hcreated, hupdated, -⟩ := h.run
  intro hchronological
  apply hfollows
  intro found hfound
  obtain rfl := Option.some.inj (hrow.symm.trans hfound)
  have hself : db'.runs.find runId = some row' := by
    rw [hruns, Table.find_set_self]
  rw [← hcreated, ← hupdated]
  exact (hchronological runId row' hself).1

/-- A change that leaves the runs and operations alone. -/
theorem Sound.of_contexts (h : db.Sound) (hruns : db'.runs = db.runs)
    (hoperations : db'.operations = db.operations) (hcounts : CountsValid db'.contexts) :
    db'.Sound := by
  constructor
  case updated =>
    rw [hruns]
    exact h.updated
  case codes =>
    rw [hruns]
    exact h.codes
  case counts => exact hcounts
  case owners =>
    rw [hruns, hoperations]
    exact h.owners

/-! ## What the transactions do to the run -/

/-- One update of the run, found by its key. -/
theorem stamps_of_set {row row' : RunRow} (hsound : db.Sound)
    (hrow : db.runs.find runId = some row) (hruns : db'.runs = db.runs.set runId row')
    (hcreated : row'.createdAt = row.createdAt) (hupdated : row'.updatedAt = time)
    (hcodes : row'.warningCodes = row.warningCodes) (hcounts : CountsValid db'.contexts)
    (hoperations : ∀ operation ∈ db'.operations.rows, operation.runId = runId ∨
      ∃ before ∈ db.operations.rows, before.runId = operation.runId) :
    db.Stamps db' runId time := by
  refine ⟨⟨row, row', hrow, hruns, hcreated, hupdated, ?_⟩, hcounts, hoperations⟩
  obtain ⟨codes, hdump, hvalid⟩ := hsound.codes runId row hrow
  exact ⟨codes, hcodes.trans hdump, hvalid⟩

theorem operations_kept (hoperations : db'.operations = db.operations) :
    ∀ operation ∈ db'.operations.rows, operation.runId = runId ∨
      ∃ before ∈ db.operations.rows, before.runId = operation.runId := by
  intro operation hoperation
  rw [hoperations] at hoperation
  exact .inr ⟨operation, hoperation, rfl⟩

/-- A new operation of the run. -/
theorem operations_inserted {operations : OperationTable} {kind : OperationKind}
    {keyDigest fingerprint : String} {requestedChanges : Option (Column (List RevisionChange))}
    {feedbackDigest : Option String} {createdAt : Datetime} {progress : OperationProgress}
    {row : OperationRow}
    (h : db.operations.insert runId kind keyDigest fingerprint requestedChanges feedbackDigest
      createdAt progress = some (operations, row)) :
    ∀ operation ∈ operations.rows, operation.runId = runId ∨
      ∃ before ∈ db.operations.rows, before.runId = operation.runId := by
  obtain ⟨rfl, hrows, -⟩ := OperationTable.insert_eq_some h
  intro operation hoperation
  rw [hrows] at hoperation
  rcases List.mem_append.mp hoperation with hbefore | hnew
  · exact .inr ⟨operation, hbefore, rfl⟩
  · rw [List.mem_singleton.mp hnew]
    exact .inl rfl

theorem operations_updated {operations : OperationTable} (condition : OperationRow → Bool)
    (change : OperationProgress → OperationProgress)
    (h : ∀ operation ∈ operations.rows, operation.runId = runId ∨
      ∃ before ∈ db.operations.rows, before.runId = operation.runId) :
    ∀ operation ∈ (operations.updateWhere condition change).rows, operation.runId = runId ∨
      ∃ before ∈ db.operations.rows, before.runId = operation.runId := by
  intro operation hoperation
  obtain ⟨before, hbefore, rfl⟩ := List.mem_map.mp hoperation
  rw [OperationRow.revise_runId]
  exact h before hbefore

/-- An earlier claim under the same key. -/
def Replayed (db : Database) (runId : UUID) (kind : OperationKind) (keyDigest : String) : Prop :=
  (db.operations.find fun row =>
    row.runId = runId && (row.kind = kind && row.keyDigest = keyDigest)).isSome

theorem claimFeedbackOperation_stamps {keyDigest fingerprint feedbackDigest : String}
    {requestedChanges : List RevisionChange} {claimedAt : Datetime} {record : OperationRecord}
    (hsound : db.Sound)
    (h : db.claimFeedbackOperation runId keyDigest fingerprint requestedChanges feedbackDigest
      claimedAt = .ok (record, db')) :
    (db.Replayed runId .feedback keyDigest ∧ db' = db) ∨
      (¬db.Replayed runId .feedback keyDigest ∧ db.Stamps db' runId claimedAt) := by
  unfold claimFeedbackOperation at h
  unfold Replayed
  split at h
  next existing hexisting =>
    simp only [bind_eq_ok] at h
    obtain ⟨_, -, hvalue⟩ := h
    cases hvalue
    rw [hexisting]
    exact .inl ⟨rfl, rfl⟩
  next hnone =>
    simp only [bind_eq_ok, orRaise_eq_ok] at h
    obtain ⟨-, -, -, -, run, -, -, -, ⟨operations, row⟩, hinsert, runs, hruns, _, -, hvalue⟩ := h
    cases hvalue
    obtain ⟨found, hfound, -, rfl⟩ := Table.updateWhere_eq_some hruns
    refine .inr ⟨?_, ?_⟩
    · rw [hnone]
      exact Bool.false_ne_true
    · exact stamps_of_set hsound hfound rfl rfl rfl rfl hsound.counts (operations_inserted hinsert)

/-- The run of an operation is stored. -/
theorem Sound.owner {condition : OperationRow → Bool} {operation : OperationRow} (h : db.Sound)
    (hfind : db.operations.find (fun row => row.runId = runId && condition row) = some operation) :
    ∃ row, db.runs.find runId = some row := by
  have hmem := List.mem_of_find?_eq_some hfind
  have hmatch := List.find?_some hfind
  simp only [Bool.and_eq_true, decide_eq_true_eq] at hmatch
  obtain ⟨row, hrow⟩ := h.owners operation hmem
  rw [hmatch.1] at hrow
  exact ⟨row, hrow⟩

theorem failRevisionOperation_stamps {operationId : Nat} {condition : RetryCondition}
    {action : RetryAction} {failedAt : Datetime} {record : OperationRecord} (hsound : db.Sound)
    (h : db.failRevisionOperation runId operationId condition action failedAt =
      .ok (record, db')) : db.Stamps db' runId failedAt := by
  simp only [failRevisionOperation, bind_eq_ok, require_eq_ok] at h
  obtain ⟨-, hfound, row, -, _, -, hvalue⟩ := h
  cases hvalue
  obtain ⟨operation, hoperation⟩ := Option.isSome_iff_exists.mp hfound
  obtain ⟨run, hrun⟩ := hsound.owner hoperation
  refine stamps_of_set hsound hrun (Table.update_of_some hrun) rfl rfl rfl hsound.counts ?_
  exact operations_updated _ _ (operations_kept rfl)

theorem claimRetryOperation_stamps {keyDigest fingerprint : String} {claimedAt : Datetime}
    {record : OperationRecord} (hsound : db.Sound)
    (h : db.claimRetryOperation runId keyDigest fingerprint claimedAt = .ok (record, db')) :
    (db.Replayed runId .retry keyDigest ∧ db' = db) ∨
      (¬db.Replayed runId .retry keyDigest ∧ db.Stamps db' runId claimedAt) := by
  unfold claimRetryOperation at h
  unfold Replayed
  split at h
  next existing hexisting =>
    simp only [bind_eq_ok] at h
    obtain ⟨_, -, hvalue⟩ := h
    cases hvalue
    rw [hexisting]
    exact .inl ⟨rfl, rfl⟩
  next hnone =>
    simp only [bind_eq_ok, orRaise_eq_ok] at h
    obtain ⟨run, hrun, -, -, source, -, sourceRecord, -, ⟨operations, row⟩, hinsert, _, -,
      hvalue⟩ := h
    cases hvalue
    refine .inr ⟨?_, ?_⟩
    · rw [hnone]
      exact Bool.false_ne_true
    · refine stamps_of_set hsound hrun (Table.update_of_some hrun) rfl rfl rfl ?_ ?_
      · cases hcontext : db.contexts.find runId with
        | none =>
            have hsame : db.contexts.update runId (fun context => { context with
                technicalAttemptCount := context.technicalAttemptCount + 1 }) = db.contexts := by
              rw [Table.update, Table.updateWhere, hcontext]
              rfl
            dsimp only
            rw [hsame]
            exact hsound.counts
        | some context =>
            dsimp only
            rw [Table.update_of_some hcontext]
            exact countsValid_of_set hsound.counts (hsound.counts runId context hcontext)
      · exact operations_inserted hinsert

theorem completeRevision_stamps {operationId : Nat} {revision : RevisionRecord}
    {publicResponse : RevisionCompleted} {done : Unit} (hsound : db.Sound)
    (h : db.completeRevision runId operationId revision publicResponse = .ok (done, db')) :
    db.Stamps db' runId revision.revisedAt := by
  simp only [completeRevision, bind_eq_ok, orRaise_eq_ok, require_eq_ok] at h
  obtain ⟨operation, hoperation, -, -, revisions, -, contexts, hcontexts, hvalue⟩ := h
  cases hvalue
  obtain ⟨run, hrun⟩ := hsound.owner hoperation
  refine stamps_of_set hsound hrun (Table.update_of_some hrun) rfl rfl rfl ?_ ?_
  · apply countsValid_of_updateWhere hsound.counts hcontexts
    intro context hcounts
    exact ⟨hcounts.1, le_refl 1⟩
  · dsimp only
    split_ifs
    · exact operations_updated _ _ (operations_updated _ _ (operations_kept rfl))
    · exact operations_updated _ _ (operations_kept rfl)

theorem confirmBrandLock_sound {proposed : BrandLock} {confirmedAt : Datetime}
    {record : BrandLockConfirmationRecord} (hsound : db.Sound)
    (h : db.confirmBrandLock runId proposed confirmedAt = .ok (record, db')) : db'.Sound := by
  simp only [confirmBrandLock, joined, bind_eq_ok, orRaise_eq_ok] at h
  obtain ⟨⟨row, context⟩, ⟨_, hrow, hjoined⟩, existing, -, h⟩ := h
  cases hjoined
  cases existing with
  | some existing =>
      simp only [bind_eq_ok] at h
      obtain ⟨-, -, hvalue⟩ := h
      cases hvalue
      exact hsound
  | none =>
      simp only [bind_eq_ok, orRaise_eq_ok, require_eq_ok] at h
      obtain ⟨-, hcreated, -, -, encoded, -, analysis, -, validated, -, contexts, hcontexts, runs,
        hruns, hvalue⟩ := h
      cases hvalue
      obtain ⟨found, hfound, -, rfl⟩ := Table.updateWhere_eq_some hruns
      obtain rfl := Option.some.inj (hrow.symm.trans hfound)
      let row' : RunRow := { row with status := .inProgress, updatedAt := confirmedAt }
      have hstamps : db.Stamps { db with contexts, runs := db.runs.set runId row' } runId
          confirmedAt :=
        stamps_of_set hsound hrow rfl rfl rfl rfl
          (countsValid_of_updateWhere hsound.counts hcontexts fun _ hcounts => hcounts)
          (operations_kept rfl)
      apply hsound.stamp hstamps
      intro other hother
      obtain rfl := Option.some.inj (hrow.symm.trans hother)
      exact hcreated

theorem saveCritique_sound {report : CritiqueReport} {record : CritiqueRecord} (hsound : db.Sound)
    (h : db.saveCritique runId report = .ok (record, db')) : db'.Sound := by
  simp only [saveCritique, joined, bind_eq_ok, orRaise_eq_ok, require_eq_ok] at h
  obtain ⟨⟨row, context⟩, ⟨_, hrow, hjoined⟩, -, hcreated, existing, -, h⟩ := h
  cases hjoined
  cases existing with
  | some existing =>
      simp only [bind_eq_ok] at h
      obtain ⟨-, -, hvalue⟩ := h
      cases hvalue
      exact hsound
  | none =>
      simp only [bind_eq_ok, orRaise_eq_ok] at h
      obtain ⟨-, -, contexts, hcontexts, runs, hruns, hvalue⟩ := h
      cases hvalue
      obtain ⟨found, hfound, -, rfl⟩ := Table.updateWhere_eq_some hruns
      obtain rfl := Option.some.inj (hrow.symm.trans hfound)
      let row' : RunRow :=
        { row with status := reviewedStatus report, updatedAt := report.reviewedAt }
      have hstamps : db.Stamps { db with contexts, runs := db.runs.set runId row' } runId
          report.reviewedAt :=
        stamps_of_set hsound hrow rfl rfl rfl rfl
          (countsValid_of_updateWhere hsound.counts hcontexts fun _ hcounts => hcounts)
          (operations_kept rfl)
      apply hsound.stamp hstamps
      intro other hother
      obtain rfl := Option.some.inj (hrow.symm.trans hother)
      exact hcreated

theorem create_sound {run : ProjectRun} {request : Option RunCreate} {done : Unit}
    (hsound : db.Sound) (h : db.create run request = .ok (done, db')) : db'.Sound := by
  let row : RunRow := ⟨run.direction, run.status, .dump run.warningCodes, run.createdAt,
    run.updatedAt⟩
  have hinserted {contexts : Table UUID ContextRow} (hcounts : CountsValid contexts) :
      Sound { db with runs := db.runs.set run.id row, contexts } := by
    constructor
    case updated =>
      intro other found hfound
      by_cases heq : other = run.id
      · subst heq
        rw [Table.find_set_self] at hfound
        cases hfound
        exact run.timestamps_valid
      · rw [Table.find_set_ne _ _ heq] at hfound
        exact hsound.updated other found hfound
    case codes =>
      intro other found hfound
      by_cases heq : other = run.id
      · subst heq
        rw [Table.find_set_self] at hfound
        cases hfound
        exact ⟨run.warningCodes, rfl, run.warning_codes_valid⟩
      · rw [Table.find_set_ne _ _ heq] at hfound
        exact hsound.codes other found hfound
    case counts => exact hcounts
    case owners =>
      intro operation hoperation
      by_cases heq : operation.runId = run.id
      · rw [heq]
        exact ⟨row, Table.find_set_self _ _ _⟩
      · obtain ⟨found, hfound⟩ := hsound.owners operation hoperation
        exact ⟨found, (Table.find_set_ne _ _ heq).trans hfound⟩
  simp only [create, bind_eq_ok, orRaise_eq_ok] at h
  obtain ⟨runs, hinsert, h⟩ := h
  obtain ⟨-, rfl⟩ := Table.insert_eq_some hinsert
  cases request with
  | none =>
      cases h
      exact hinserted hsound.counts
  | some request =>
      simp only [bind_eq_ok, orRaise_eq_ok] at h
      obtain ⟨-, -, contexts, hcontexts, hvalue⟩ := h
      cases hvalue
      obtain ⟨-, rfl⟩ := Table.insert_eq_some hcontexts
      exact hinserted (countsValid_of_set hsound.counts ⟨Nat.zero_le _, Nat.zero_le _⟩)

theorem saveDraft_sound {draft record : DraftRecord} (hsound : db.Sound)
    (h : db.saveDraft runId draft = .ok (record, db')) : db'.Sound := by
  have hruns := saveDraft_runs h
  simp only [saveDraft, bind_eq_ok] at h
  obtain ⟨⟨row, context⟩, -, existing, -, h⟩ := h
  cases existing with
  | some existing =>
      simp only [bind_eq_ok] at h
      obtain ⟨-, -, hvalue⟩ := h
      cases hvalue
      exact hsound
  | none =>
      simp only [bind_eq_ok, orRaise_eq_ok] at h
      obtain ⟨-, -, encoded, -, confirmed, -, -, -, -, -, contexts, hcontexts, hvalue⟩ := h
      cases hvalue
      apply hsound.of_contexts hruns rfl
      exact countsValid_of_updateWhere hsound.counts hcontexts fun _ hcounts => hcounts

theorem saveComposition_sound {composition saved : CompositionGenerated} (hsound : db.Sound)
    (h : db.saveComposition runId composition = .ok (saved, db')) : db'.Sound := by
  have hruns := saveComposition_runs h
  simp only [saveComposition, bind_eq_ok] at h
  obtain ⟨⟨row, context⟩, -, h⟩ := h
  dsimp only at h
  split at h
  · simp only [bind_eq_ok] at h
    obtain ⟨existing, -, -, -, hvalue⟩ := h
    cases hvalue
    exact hsound
  · simp only [bind_eq_ok, orRaise_eq_ok] at h
    obtain ⟨-, -, encoded, -, -, -, confirmed, -, -, -, contexts, hcontexts, hvalue⟩ := h
    cases hvalue
    apply hsound.of_contexts hruns rfl
    apply countsValid_of_updateWhere hsound.counts hcontexts
    intro context hcounts
    exact ⟨le_refl 1, hcounts.2⟩

theorem incrementTechnicalAttempt_sound {done : Unit} (hsound : db.Sound)
    (h : db.incrementTechnicalAttempt runId = .ok (done, db')) : db'.Sound := by
  have hruns := incrementTechnicalAttempt_runs h
  simp only [incrementTechnicalAttempt, bind_eq_ok, orRaise_eq_ok] at h
  obtain ⟨contexts, hcontexts, hvalue⟩ := h
  cases hvalue
  apply hsound.of_contexts hruns rfl
  exact countsValid_of_updateWhere hsound.counts hcontexts fun _ hcounts => hcounts

/-- The claim takes the time of the clock without a look at the creation. -/
theorem claimAnalysis_stamps {claimedAt : Datetime} {claimed : Bool} (hsound : db.Sound)
    (h : db.claimAnalysis runId claimedAt = .ok (claimed, db')) :
    db' = db ∨ db.Stamps db' runId claimedAt := by
  unfold claimAnalysis at h
  split at h
  next runs hruns =>
    cases h
    obtain ⟨row, hrow, -, rfl⟩ := Table.updateWhere_eq_some hruns
    exact .inr (stamps_of_set hsound hrow rfl rfl rfl rfl hsound.counts (operations_kept rfl))
  next =>
    cases h
    exact .inl rfl

theorem updateStatus_stamps {status : ProjectRunStatus} {done : Unit} (hsound : db.Sound)
    (h : db.updateStatus runId status time = .ok (done, db')) : db.Stamps db' runId time := by
  simp only [updateStatus, bind_eq_ok, orRaise_eq_ok] at h
  obtain ⟨runs, hruns, hvalue⟩ := h
  cases hvalue
  obtain ⟨row, hrow, -, rfl⟩ := Table.updateWhere_eq_some hruns
  exact stamps_of_set hsound hrow rfl rfl rfl rfl hsound.counts (operations_kept rfl)

theorem completeAnalysis_stamps {analysis : AdAnalysis} {repairAttempted : Bool}
    {status : ProjectRunStatus} {done : Unit} (hsound : db.Sound)
    (h : db.completeAnalysis runId analysis repairAttempted status time = .ok (done, db')) :
    db.Stamps db' runId time := by
  simp only [completeAnalysis, bind_eq_ok, orRaise_eq_ok] at h
  obtain ⟨contexts, hcontexts, runs, hruns, hvalue⟩ := h
  cases hvalue
  obtain ⟨row, hrow, -, rfl⟩ := Table.updateWhere_eq_some hruns
  exact stamps_of_set hsound hrow rfl rfl rfl rfl
    (countsValid_of_updateWhere hsound.counts hcontexts fun _ hcounts => hcounts)
    (operations_kept rfl)

theorem recordFailure_stamps {status : ProjectRunStatus} {codes : List String} {done : Unit}
    (hsound : db.Sound) (hvalid : ValidWarningCodes codes)
    (h : db.recordFailure runId status codes time = .ok (done, db')) :
    db.Stamps db' runId time := by
  simp only [recordFailure, bind_eq_ok, orRaise_eq_ok] at h
  obtain ⟨runs, hruns, hvalue⟩ := h
  cases hvalue
  obtain ⟨row, hrow, -, rfl⟩ := Table.updateWhere_eq_some hruns
  exact ⟨⟨row, _, hrow, rfl, rfl, rfl, codes, rfl, hvalid⟩, hsound.counts, operations_kept rfl⟩

end Database

/-! ## Calls that were accepted -/

/-- The call, made alone, returns. -/
def Repository.Accepts (repository : Repository κ) (world : World κ) (call : Call)
    (last : World κ) : Prop :=
  (repository.perform call).Solo world (.ok ()) last

/-- Where a call of a revision is not a replay, its time is not before the creation of the
run. -/
def Call.Timely (db : Database) : Call → Prop
  | .claimFeedbackOperation runId keyDigest _ _ _ claimedAt =>
      ¬db.Replayed runId .feedback keyDigest → db.Follows runId claimedAt
  | .failRevisionOperation runId _ _ _ failedAt => db.Follows runId failedAt
  | .claimRetryOperation runId keyDigest _ claimedAt =>
      ¬db.Replayed runId .retry keyDigest → db.Follows runId claimedAt
  | .completeRevision runId _ revision _ => db.Follows runId revision.revisedAt
  | _ => True

namespace Repository

variable {repository : Repository κ} {world last : World κ}

/-- A transition keeps the creation and the codes of the run as read. -/
theorem kept_of_solo_withStatus {run updated : ProjectRun} {status : ProjectRunStatus}
    (h : (run.withStatus repository.now status none).Solo world (.ok updated) last) :
    updated.createdAt = run.createdAt ∧ updated.warningCodes = run.warningCodes := by
  unfold ProjectRun.withStatus at h
  split_ifs at h
  · obtain ⟨time, between, -, hvalidate⟩ := of_solo_bind h
    obtain ⟨hvalue, -⟩ := Program.solo_ofExcept_iff.mp hvalidate
    obtain ⟨-, -, -, hcodes, -, -, -, hcreated, -⟩ := ProjectRun.of_validate hvalue.symm
    exact ⟨hcreated, hcodes⟩
  · cases h

/-- The time of a transition follows the creation of the run. -/
theorem follows_of_get {db : Database} {runId : UUID} {run updated : ProjectRun}
    (hget : db.get runId = .ok run) (hcreated : updated.createdAt = run.createdAt) :
    db.Follows runId updated.updatedAt := by
  intro row hrow
  simp only [Database.get, bind_eq_ok, orRaise_eq_ok] at hget
  obtain ⟨found, hfound, codes, -, hvalidate⟩ := hget
  obtain rfl := Option.some.inj (hrow.symm.trans hfound)
  obtain ⟨-, -, -, -, -, -, -, hrun, -⟩ := ProjectRun.of_validate hvalidate
  rw [← hrun, ← hcreated]
  exact updated.timestamps_valid

theorem updateStatus_sound {runId : UUID} {status : ProjectRunStatus} {updated : ProjectRun}
    (hsound : world.database.Sound)
    (h : (repository.updateStatus runId status).Solo world (.ok updated) last) :
    last.database.Sound := by
  obtain ⟨run, world₁, hget, hmoves⟩ := of_solo_bind h
  obtain ⟨hworld₁, hrun⟩ := of_solo_query hget
  obtain ⟨moved, world₂, hmoved, hwrites⟩ := of_solo_bind hmoves
  obtain ⟨hworld₂, hmove⟩ := of_solo_withStatus hmoved
  obtain ⟨hcreated, -⟩ := kept_of_solo_withStatus hmoved
  obtain ⟨_, world₃, hcommit, hdone⟩ := of_solo_bind hwrites
  cases hdone
  have hwritten := of_solo_commit hcommit
  have hid : updated.id = runId := (hmove updated rfl).1.trans (Database.id_of_get (hrun run rfl))
  rw [hworld₂, hworld₁, hid] at hwritten
  exact hsound.stamp (Database.updateStatus_stamps hsound hwritten)
    (follows_of_get (hrun run rfl) hcreated)

theorem completeAnalysis_sound {runId : UUID} {analysis : AdAnalysis} {repairAttempted : Bool}
    {updated : ProjectRun} (hsound : world.database.Sound)
    (h : (repository.completeAnalysis runId analysis repairAttempted).Solo world (.ok updated)
      last) : last.database.Sound := by
  obtain ⟨run, world₁, hget, hreads⟩ := of_solo_bind h
  obtain ⟨hworld₁, hrun⟩ := of_solo_query hget
  obtain ⟨request, world₂, hrequest, hchecks⟩ := of_solo_bind hreads
  obtain ⟨hworld₂, -⟩ := of_solo_query hrequest
  obtain ⟨_, world₃, hmatches, hmoves⟩ := of_solo_bind hchecks
  obtain ⟨-, hworld₃⟩ := Program.solo_ofExcept_iff.mp hmatches
  obtain ⟨moved, world₄, hmoved, hwrites⟩ := of_solo_bind hmoves
  obtain ⟨hworld₄, -⟩ := of_solo_withStatus hmoved
  obtain ⟨hcreated, -⟩ := kept_of_solo_withStatus hmoved
  obtain ⟨_, world₅, hcommit, hdone⟩ := of_solo_bind hwrites
  cases hdone
  have hwritten := of_solo_commit hcommit
  rw [hworld₄, hworld₃, hworld₂, hworld₁] at hwritten
  exact hsound.stamp (Database.completeAnalysis_stamps hsound hwritten)
    (follows_of_get (hrun run rfl) hcreated)

theorem recordFailure_sound {runId : UUID} {status : ProjectRunStatus} {code : String}
    {updated : ProjectRun} (hsound : world.database.Sound)
    (h : (repository.recordFailure runId status code).Solo world (.ok updated) last) :
    last.database.Sound := by
  obtain ⟨_, world₁, hstatus, hreads⟩ := of_solo_bind h
  obtain ⟨-, hworld₁⟩ := Program.solo_ofExcept_iff.mp hstatus
  obtain ⟨run, world₂, hget, hmoves⟩ := of_solo_bind hreads
  obtain ⟨hworld₂, hrun⟩ := of_solo_query hget
  obtain ⟨moved, world₃, hmoved, hfails⟩ := of_solo_bind hmoves
  obtain ⟨hworld₃, hmove⟩ := of_solo_withStatus hmoved
  obtain ⟨hcreated, -⟩ := kept_of_solo_withStatus hmoved
  obtain ⟨failed, world₄, hfailed, hwrites⟩ := of_solo_bind hfails
  obtain ⟨hvalue, hworld₄⟩ := Program.solo_ofExcept_iff.mp hfailed
  obtain ⟨_, world₅, hcommit, hdone⟩ := of_solo_bind hwrites
  cases hdone
  obtain ⟨hsame, -, -, -, -, -, -, hsince, -⟩ := ProjectRun.of_validate hvalue.symm
  have hwritten := of_solo_commit hcommit
  have hid : updated.id = runId :=
    hsame.trans ((hmove moved rfl).1.trans (Database.id_of_get (hrun run rfl)))
  have hread := hrun run rfl
  rw [hworld₁] at hread
  rw [hworld₄, hworld₃, hworld₂, hworld₁, hid] at hwritten
  exact hsound.stamp
    (Database.recordFailure_stamps hsound updated.warning_codes_valid hwritten)
    (follows_of_get hread (hsince.trans hcreated))

/-- A claim of an analysis reads the run back, so it does not return where the clock has
made the run unreadable. -/
theorem claimAnalysis_sound {runId : UUID} {claimed : Option ProjectRun}
    (hsound : world.database.Sound)
    (h : (repository.claimAnalysis runId).Solo world (.ok claimed) last) :
    last.database.Sound := by
  obtain ⟨claimedAt, world₁, hnow, hclaims⟩ := of_solo_bind h
  have hworld₁ : world₁.database = world.database := database_of_solo_outside hnow
  obtain ⟨done, world₂, hcommit, hreads⟩ := of_solo_bind hclaims
  have hwritten := of_solo_commit hcommit
  rw [hworld₁] at hwritten
  obtain ⟨run, world₃, hget, hdone⟩ := of_solo_bind hreads
  cases hdone
  obtain ⟨hworld₃, hrun⟩ := of_solo_query hget
  rw [hworld₃]
  rcases Database.claimAnalysis_stamps hsound hwritten with hsame | hstamps
  · rw [hsame]
    exact hsound
  · apply hsound.stamp hstamps
    obtain ⟨row, row', hrow, hruns, hcreated, hupdated, -⟩ := hstamps.run
    intro found hfound
    obtain rfl := Option.some.inj (hrow.symm.trans hfound)
    have hself : world₂.database.runs.find runId = some row' := by
      rw [hruns, Table.find_set_self]
    have hread := hrun run rfl
    simp only [Database.get, hself, orRaise_some, ok_bind, bind_eq_ok] at hread
    obtain ⟨codes, -, hvalidate⟩ := hread
    obtain ⟨-, -, -, -, -, -, -, hsince, hlast⟩ := ProjectRun.of_validate hvalidate
    rw [← hcreated, ← hupdated, ← hsince, ← hlast]
    exact run.timestamps_valid

theorem create_sound {run created : ProjectRun} {request : Option RunCreate}
    (hsound : world.database.Sound)
    (h : (repository.create run request).Solo world (.ok created) last) :
    last.database.Sound := by
  obtain ⟨_, between, hcommit, hdone⟩ := of_solo_bind h
  cases hdone
  exact Database.create_sound hsound (of_solo_commit hcommit)

theorem confirmBrandLock_sound {runId : UUID} {proposed : BrandLock}
    {confirmedAt : Option Datetime} {record : BrandLockConfirmationRecord}
    (hsound : world.database.Sound)
    (h : (repository.confirmBrandLock runId proposed confirmedAt).Solo world (.ok record) last) :
    last.database.Sound := by
  obtain ⟨time, between, hnow, hcommit⟩ := of_solo_bind h
  have hwritten := of_solo_commit hcommit
  rw [database_of_solo_nowOr hnow] at hwritten
  exact Database.confirmBrandLock_sound hsound hwritten

theorem saveDraft_sound {runId : UUID} {brief : CreativeBrief} {adCopy : AdCopy}
    {factReferences ruleIds : List String} {generatedAt : Option Datetime} {record : DraftRecord}
    (hsound : world.database.Sound)
    (h : (repository.saveDraft runId brief adCopy factReferences ruleIds generatedAt).Solo world
      (.ok record) last) :
    last.database.Sound := by
  obtain ⟨time, between, hnow, hcommit⟩ := of_solo_bind h
  have hwritten := of_solo_commit hcommit
  rw [database_of_solo_nowOr hnow] at hwritten
  exact Database.saveDraft_sound hsound hwritten

theorem saveComposition_sound {runId : UUID} {composition saved : CompositionGenerated}
    (hsound : world.database.Sound)
    (h : (repository.saveComposition runId composition).Solo world (.ok saved) last) :
    last.database.Sound := by
  obtain ⟨_, between, hcheck, hcommit⟩ := of_solo_bind h
  obtain ⟨-, rfl⟩ := Program.solo_ofExcept_iff.mp hcheck
  exact Database.saveComposition_sound hsound (of_solo_commit hcommit)

theorem incrementTechnicalAttempt_sound {runId : UUID} {run : ProjectRun}
    (hsound : world.database.Sound)
    (h : (repository.incrementTechnicalAttempt runId).Solo world (.ok run) last) :
    last.database.Sound := by
  obtain ⟨_, between, hcommit, hget⟩ := of_solo_bind h
  have hwritten := of_solo_commit hcommit
  rw [← (of_solo_query hget).1] at hwritten
  exact Database.incrementTechnicalAttempt_sound hsound hwritten

theorem completeRevision_stamps {runId : UUID} {operationId : Nat}
    {revision stored : RevisionRecord} {publicResponse : RevisionCompleted}
    (hsound : world.database.Sound)
    (h : (repository.completeRevision runId operationId revision publicResponse).Solo world
      (.ok stored) last) :
    world.database.Stamps last.database runId revision.revisedAt := by
  obtain ⟨_, between, hcommit, hreads⟩ := of_solo_bind h
  obtain ⟨_, between', hget, hstored⟩ := of_solo_bind hreads
  obtain ⟨-, rfl⟩ := Program.solo_ofExcept_iff.mp hstored
  have hwritten := of_solo_commit hcommit
  rw [← (of_solo_query hget).1] at hwritten
  exact Database.completeRevision_stamps hsound hwritten

/-! ## Runs of accepted calls -/

/-- Where a call stamps a run, the time decides. -/
theorem sound_of_stamps {runId : UUID} {time : Datetime} (hsound : world.database.Sound)
    (hstamps : world.database.Stamps last.database runId time) :
    (world.database.Follows runId time → last.database.Sound) ∧
      (¬world.database.Follows runId time → ¬last.database.Chronological) :=
  ⟨hsound.stamp hstamps, hstamps.not_chronological⟩

/-- A claim stamps a run unless it is replayed. -/
theorem sound_of_claims {runId : UUID} {time : Datetime} {replayed : Prop}
    (hsound : world.database.Sound)
    (heffect : (replayed ∧ last.database = world.database) ∨
      (¬replayed ∧ world.database.Stamps last.database runId time)) :
    ((¬replayed → world.database.Follows runId time) → last.database.Sound) ∧
      (¬(¬replayed → world.database.Follows runId time) → ¬last.database.Chronological) := by
  rcases heffect with ⟨hreplayed, hsame⟩ | ⟨hfresh, hstamps⟩
  · rw [hsame]
    exact ⟨fun _ => hsound, fun hlate => absurd (fun hno => absurd hreplayed hno) hlate⟩
  · constructor
    · intro htimely
      exact hsound.stamp hstamps (htimely hfresh)
    · intro hlate
      apply hstamps.not_chronological
      intro hfollows
      exact hlate fun _ => hfollows

/-- An accepted call keeps the database sound exactly as long as it is timely. -/
theorem accepts_sound {call : Call} (hsound : world.database.Sound)
    (h : repository.Accepts world call last) :
    (call.Timely world.database → last.database.Sound) ∧
      (¬call.Timely world.database → ¬last.database.Chronological) := by
  have hkept (hlast : last.database.Sound) :
      (True → last.database.Sound) ∧ (¬True → ¬last.database.Chronological) :=
    ⟨fun _ => hlast, fun hfalse => absurd trivial hfalse⟩
  cases call <;> obtain ⟨_, hsolo⟩ := of_solo_discard h
  case create => exact hkept (create_sound hsound hsolo)
  case updateStatus => exact hkept (updateStatus_sound hsound hsolo)
  case claimAnalysis => exact hkept (claimAnalysis_sound hsound hsolo)
  case completeAnalysis => exact hkept (completeAnalysis_sound hsound hsolo)
  case recordFailure => exact hkept (recordFailure_sound hsound hsolo)
  case confirmBrandLock => exact hkept (confirmBrandLock_sound hsound hsolo)
  case saveDraft => exact hkept (saveDraft_sound hsound hsolo)
  case saveComposition => exact hkept (saveComposition_sound hsound hsolo)
  case saveCritique => exact hkept (Database.saveCritique_sound hsound (of_solo_commit hsolo))
  case claimFeedbackOperation =>
    exact sound_of_claims hsound
      (Database.claimFeedbackOperation_stamps hsound (of_solo_commit hsolo))
  case failRevisionOperation =>
    exact sound_of_stamps hsound
      (Database.failRevisionOperation_stamps hsound (of_solo_commit hsolo))
  case claimRetryOperation =>
    exact sound_of_claims hsound
      (Database.claimRetryOperation_stamps hsound (of_solo_commit hsolo))
  case completeRevision => exact sound_of_stamps hsound (completeRevision_stamps hsound hsolo)
  case incrementTechnicalAttempt =>
    exact hkept (incrementTechnicalAttempt_sound hsound hsolo)

end Repository

/-- After every call of a sequence of accepted calls all stored runs are readable exactly when
no call of a revision, replays apart, has a time before the creation of its run. -/
theorem chronological_iff (repository : Repository κ) {world : World κ}
    {trace : List (Call × World κ)} (h : Trace repository.Accepts world trace)
    (hempty : world.database = .empty) :
    (∀ served ∈ trace, served.2.database.Chronological) ↔
      EachEvent (fun world call => call.Timely world.database) world trace := by
  apply h.forall_property_iff (fun world => world.database.Chronological)
    fun world => world.database.Sound
  · rw [hempty]
    exact Database.sound_empty
  · intro world hsound
    exact hsound.chronological
  · intro world call next hsound hstep htimely
    exact (Repository.accepts_sound hsound hstep).1 htimely
  · intro world call next hsound hstep hlate
    exact (Repository.accepts_sound hsound hstep).2 hlate

/-! ## A clock that steps back -/

namespace Demo

def yesterday : Datetime := ⟨2026, 8, 24, 12, 0, 0, 0, by decide, now.time_valid⟩

def storedRun (status : ProjectRunStatus) (updatedAt : Datetime) : RunRow :=
  ⟨.chinaToUk, status, .dump [], now, updatedAt⟩

/-- A run that was created `now`. -/
def stored (status : ProjectRunStatus) : Database :=
  { Database.empty with
    runs := Table.empty.set runId (storedRun status now)
    contexts := Table.empty.set runId (Stage.pending runCreate).context }

def claimAt (claimedAt : Datetime) : Call :=
  .claimFeedbackOperation runId "key" "fingerprint" [.shortenHeadline] "digest" claimedAt

theorem accepts_update {status status' : ProjectRunStatus}
    (hallowed : status' ∈ allowedTransitions status) :
    (Repository.quiet now).Accepts ⟨stored status, ()⟩ (.updateStatus runId status')
      ⟨stored status', ()⟩ := by
  have hrow : (stored status).runs.find runId = some (storedRun status now) :=
    Table.find_set_self _ _ _
  have hset : (stored status).runs.set runId (storedRun status' now) = (stored status').runs :=
    Function.update_idem _ _ _
  have hcontext : (stored status).contexts.find runId = some (Stage.pending runCreate).context :=
    Table.find_set_self _ _ _
  let run : ProjectRun := ⟨runId, .chinaToUk, status, [], 0, 0, 0, now, now, by decide, by decide,
    le_refl now⟩
  have hget : (stored status).get runId = .ok run := by
    have hvalidate : ProjectRun.validate runId .chinaToUk status [] 0 0 0 now now = .ok run :=
      dif_pos ⟨by decide, by decide, le_refl now⟩
    simp only [Database.get, hrow, hcontext, orRaise_some, ok_bind, storedRun, load_dump]
    exact hvalidate
  have hcommit : (stored status).updateStatus runId status' now = .ok ((), stored status') := by
    rw [Database.updateStatus, Table.updateWhere_of_some hrow rfl, orRaise_some, ok_bind]
    show Except.ok ((), { stored status with
      runs := (stored status).runs.set runId (storedRun status' now) }) = _
    rw [hset]
    rfl
  obtain ⟨updated, hexec⟩ := Repository.exec_updateStatus hget rfl hallowed (le_refl now) hcommit
  exact Program.solo_of_exec (Program.exec_bind hexec)

/-- The transaction that claims feedback on the ready run. -/
def claimed (claimedAt : Datetime) : Except Exc (OperationRecord × Database) :=
  (stored .ready).claimFeedbackOperation runId "key" "fingerprint" [.shortenHeadline] "digest"
    claimedAt

theorem find_of_claimed {claimedAt : Datetime} {record : OperationRecord} {db : Database}
    (h : claimed claimedAt = .ok (record, db)) :
    db.runs.find runId = some (storedRun .inProgress claimedAt) := by
  obtain ⟨record', db', hclaim, hrow⟩ : ∃ record' db', claimed claimedAt = .ok (record', db') ∧
      db'.runs.find runId = some (storedRun .inProgress claimedAt) :=
    ⟨_, _, rfl, Table.find_set_self _ _ _⟩
  cases h.symm.trans hclaim
  exact hrow

/-- A run becomes ready, and feedback is claimed at some time. -/
def claims (claimedAt : Datetime) (last : World Unit) : List (Call × World Unit) :=
  [(.create (ProjectRun.new runId .chinaToUk now) (some runCreate), ⟨stored .pending, ()⟩),
    (.updateStatus runId .inProgress, ⟨stored .inProgress, ()⟩),
    (.updateStatus runId .ready, ⟨stored .ready, ()⟩), (claimAt claimedAt, last)]

theorem trace_claims {claimedAt : Datetime} {record : OperationRecord} {db : Database}
    (h : claimed claimedAt = .ok (record, db)) :
    Trace (Repository.quiet now).Accepts ⟨.empty, ()⟩ (claims claimedAt ⟨db, ()⟩) := by
  have hcreate : Database.empty.create (ProjectRun.new runId .chinaToUk now) (some runCreate) =
      .ok ((), stored .pending) := rfl
  have hcreated : (Repository.quiet now).Accepts ⟨.empty, ()⟩
      (.create (ProjectRun.new runId .chinaToUk now) (some runCreate)) ⟨stored .pending, ()⟩ :=
    Program.solo_of_exec (Program.exec_bind (Program.exec_bind (exec_transaction hcreate)))
  have hclaimed : (Repository.quiet now).Accepts ⟨stored .ready, ()⟩ (claimAt claimedAt) ⟨db, ()⟩ :=
    Program.solo_of_exec (Program.exec_bind (exec_transaction h))
  apply Trace.cons hcreated
  apply Trace.cons (accepts_update (by decide))
  apply Trace.cons (accepts_update (by decide))
  apply Trace.cons hclaimed
  exact Trace.nil _

theorem exists_claimed (claimedAt : Datetime) :
    ∃ record db, claimed claimedAt = .ok (record, db) := ⟨_, _, rfl⟩

end Demo

theorem chronological_claimed : ∃ last : World Unit,
    Trace (Repository.quiet Demo.now).Accepts ⟨.empty, ()⟩ (Demo.claims Demo.tomorrow last) ∧
      ∀ served ∈ Demo.claims Demo.tomorrow last, served.2.database.Chronological := by
  obtain ⟨record, db, hclaimed⟩ := Demo.exists_claimed Demo.tomorrow
  have htrace := Demo.trace_claims hclaimed
  refine ⟨⟨db, ()⟩, htrace, ?_⟩
  refine (chronological_iff (Repository.quiet Demo.now) htrace rfl).mpr ?_
  refine ⟨trivial, trivial, trivial, ?_, trivial⟩
  intro _ row hrow
  have hstored :
      (Demo.stored .ready).runs.find Demo.runId = some (Demo.storedRun .ready Demo.now) :=
    Table.find_set_self _ _ _
  obtain rfl := Option.some.inj (hstored.symm.trans hrow)
  show Demo.now ≤ Demo.tomorrow
  decide

/-- A claim whose time precedes the creation of the run is accepted, and leaves a run that
cannot be read. -/
theorem not_chronological : ∃ last : World Unit,
    Trace (Repository.quiet Demo.now).Accepts ⟨.empty, ()⟩ (Demo.claims Demo.yesterday last) ∧
      last.database.runs.find Demo.runId = some (Demo.storedRun .inProgress Demo.yesterday) ∧
      last.database.get Demo.runId = .error .validationError ∧
      ¬∀ served ∈ Demo.claims Demo.yesterday last, served.2.database.Chronological := by
  obtain ⟨record, db, hclaimed⟩ := Demo.exists_claimed Demo.yesterday
  have hrow := Demo.find_of_claimed hclaimed
  have hlate : ¬Demo.now ≤ Demo.yesterday := by decide
  refine ⟨⟨db, ()⟩, Demo.trace_claims hclaimed, hrow, ?_, ?_⟩
  · simp only [Database.get, hrow, orRaise_some, ok_bind, Demo.storedRun, load_dump]
    exact dif_neg fun hvalid => hlate hvalid.2.2
  · intro hall
    have hlast : (Demo.claimAt Demo.yesterday, World.mk db ()) ∈
        Demo.claims Demo.yesterday ⟨db, ()⟩ := by simp [Demo.claims]
    exact hlate (hall _ hlast Demo.runId _ hrow).1

end CultureShift
