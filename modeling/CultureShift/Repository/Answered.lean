/-
# Answers to operations

Whatever calls are made to the repository, and however they interleave, an
operation that has succeeded stores the response of its call. So a later call
under the same key is answered; it never executes an operation that is over.
-/

import CultureShift.Repository.StatusChanges

namespace CultureShift

open Serialization Relational Concurrent

variable {ι κ : Type}

namespace OperationTable

/-- Every operation that has succeeded has a response. -/
def Answered (table : OperationTable) : Prop :=
  ∀ row ∈ table.rows, row.progress.state = .succeeded → row.progress.publicResponse.isSome

variable {table table' : OperationTable}

/-- A new operation is not answered yet, and need not be. -/
theorem Answered.insert (h : table.Answered) {runId : UUID} {kind : OperationKind}
    {keyDigest fingerprint : String} {requestedChanges : Option (Column (List RevisionChange))}
    {feedbackDigest : Option String} {createdAt : Datetime} {progress : OperationProgress}
    {row : OperationRow}
    (hinsert : table.insert runId kind keyDigest fingerprint requestedChanges feedbackDigest
      createdAt progress = some (table', row))
    (hstate : progress.state = .inProgress) : table'.Answered := by
  obtain ⟨hrow, hrows, -⟩ := insert_eq_some hinsert
  intro other hother hsucceeded
  rw [hrows, List.mem_append, List.mem_singleton] at hother
  rcases hother with hother | rfl
  · exact h other hother hsucceeded
  · rw [hrow] at hsucceeded
    exact absurd (hsucceeded.symm.trans hstate) (by decide)

theorem Answered.updateWhere (h : table.Answered) (condition : OperationRow → Bool)
    {change : OperationProgress → OperationProgress}
    (hchange : ∀ progress, (change progress).state = .succeeded →
      (change progress).publicResponse.isSome) :
    (table.updateWhere condition change).Answered := by
  intro row hrow hsucceeded
  obtain ⟨old, hold, rfl⟩ := List.mem_map.mp hrow
  unfold OperationRow.revise at hsucceeded ⊢
  split_ifs at hsucceeded ⊢
  · exact hchange _ hsucceeded
  · exact h old hold hsucceeded

end OperationTable

namespace Database

variable {db db' : Database} {runId : UUID}

/-! ## Transactions that leave the operations alone -/

theorem create_operations {run : ProjectRun} {request : Option RunCreate} {done : Unit}
    (h : db.create run request = .ok (done, db')) : db'.operations = db.operations := by
  simp only [create, bind_eq_ok] at h
  obtain ⟨runs, -, h⟩ := h
  cases request with
  | none =>
      cases h
      rfl
  | some request =>
      simp only [bind_eq_ok] at h
      obtain ⟨-, -, contexts, -, hvalue⟩ := h
      cases hvalue
      rfl

theorem claimAnalysis_operations {claimedAt : Datetime} {claimed : Bool}
    (h : db.claimAnalysis runId claimedAt = .ok (claimed, db')) :
    db'.operations = db.operations := by
  unfold claimAnalysis at h
  split at h <;> cases h <;> rfl

theorem confirmBrandLock_operations {proposed : BrandLock} {confirmedAt : Datetime}
    {record : BrandLockConfirmationRecord}
    (h : db.confirmBrandLock runId proposed confirmedAt = .ok (record, db')) :
    db'.operations = db.operations := by
  simp only [confirmBrandLock, bind_eq_ok] at h
  obtain ⟨⟨row, context⟩, -, existing, -, h⟩ := h
  cases existing with
  | some existing =>
      simp only [bind_eq_ok] at h
      obtain ⟨-, -, hvalue⟩ := h
      cases hvalue
      rfl
  | none =>
      simp only [bind_eq_ok] at h
      obtain ⟨-, -, -, -, encoded, -, analysis, -, validated, -, contexts, -, runs, -, hvalue⟩ := h
      cases hvalue
      rfl

theorem saveDraft_operations {draft record : DraftRecord}
    (h : db.saveDraft runId draft = .ok (record, db')) : db'.operations = db.operations := by
  simp only [saveDraft, bind_eq_ok] at h
  obtain ⟨⟨row, context⟩, -, existing, -, h⟩ := h
  cases existing with
  | some existing =>
      simp only [bind_eq_ok] at h
      obtain ⟨-, -, hvalue⟩ := h
      cases hvalue
      rfl
  | none =>
      simp only [bind_eq_ok] at h
      obtain ⟨-, -, encoded, -, confirmed, -, -, -, -, -, contexts, -, hvalue⟩ := h
      cases hvalue
      rfl

theorem saveComposition_operations {composition saved : CompositionGenerated}
    (h : db.saveComposition runId composition = .ok (saved, db')) :
    db'.operations = db.operations := by
  simp only [saveComposition, bind_eq_ok] at h
  obtain ⟨⟨row, context⟩, -, h⟩ := h
  dsimp only at h
  split at h
  · simp only [bind_eq_ok] at h
    obtain ⟨existing, -, -, -, hvalue⟩ := h
    cases hvalue
    rfl
  · simp only [bind_eq_ok] at h
    obtain ⟨-, -, encoded, -, -, -, confirmed, -, -, -, contexts, -, hvalue⟩ := h
    cases hvalue
    rfl

theorem saveCritique_operations {report : CritiqueReport} {record : CritiqueRecord}
    (h : db.saveCritique runId report = .ok (record, db')) : db'.operations = db.operations := by
  simp only [saveCritique, bind_eq_ok] at h
  obtain ⟨⟨row, context⟩, -, -, -, existing, -, h⟩ := h
  cases existing with
  | some existing =>
      simp only [bind_eq_ok] at h
      obtain ⟨-, -, hvalue⟩ := h
      cases hvalue
      rfl
  | none =>
      simp only [bind_eq_ok] at h
      obtain ⟨-, -, contexts, -, runs, -, hvalue⟩ := h
      cases hvalue
      rfl

/-! ## Transactions on operations -/

theorem claimFeedbackOperation_answered {keyDigest fingerprint feedbackDigest : String}
    {requestedChanges : List RevisionChange} {claimedAt : Datetime} {record : OperationRecord}
    (hanswered : db.operations.Answered)
    (h : db.claimFeedbackOperation runId keyDigest fingerprint requestedChanges feedbackDigest
      claimedAt = .ok (record, db')) : db'.operations.Answered := by
  unfold claimFeedbackOperation at h
  split at h
  · simp only [bind_eq_ok] at h
    obtain ⟨_, -, hvalue⟩ := h
    cases hvalue
    exact hanswered
  · simp only [bind_eq_ok, orRaise_eq_ok] at h
    obtain ⟨-, -, -, -, run, -, -, -, ⟨operations, row⟩, hinsert, runs, -, _, -, hvalue⟩ := h
    cases hvalue
    exact hanswered.insert hinsert rfl

theorem claimRetryOperation_answered {keyDigest fingerprint : String} {claimedAt : Datetime}
    {record : OperationRecord} (hanswered : db.operations.Answered)
    (h : db.claimRetryOperation runId keyDigest fingerprint claimedAt = .ok (record, db')) :
    db'.operations.Answered := by
  unfold claimRetryOperation at h
  split at h
  · simp only [bind_eq_ok] at h
    obtain ⟨_, -, hvalue⟩ := h
    cases hvalue
    exact hanswered
  · simp only [bind_eq_ok, orRaise_eq_ok] at h
    obtain ⟨run, -, -, -, source, -, sourceRecord, -, ⟨operations, row⟩, hinsert, _, -,
      hvalue⟩ := h
    cases hvalue
    exact hanswered.insert hinsert rfl

/-- A failed operation has not succeeded. -/
theorem failRevisionOperation_answered {operationId : Nat} {condition : RetryCondition}
    {action : RetryAction} {failedAt : Datetime} {record : OperationRecord}
    (hanswered : db.operations.Answered)
    (h : db.failRevisionOperation runId operationId condition action failedAt =
      .ok (record, db')) : db'.operations.Answered := by
  simp only [failRevisionOperation, bind_eq_ok] at h
  obtain ⟨-, -, row, -, _, -, hvalue⟩ := h
  cases hvalue
  apply hanswered.updateWhere
  intro progress hsucceeded
  cases action <;> cases hsucceeded

theorem completeRevision_answered {operationId : Nat} {revision : RevisionRecord}
    {publicResponse : RevisionCompleted} {done : Unit} (hanswered : db.operations.Answered)
    (h : db.completeRevision runId operationId revision publicResponse = .ok (done, db')) :
    db'.operations.Answered := by
  simp only [completeRevision, bind_eq_ok] at h
  obtain ⟨operation, -, -, -, revisions, -, contexts, -, hvalue⟩ := h
  cases hvalue
  dsimp only
  split_ifs
  · apply OperationTable.Answered.updateWhere
    · exact hanswered.updateWhere _ fun _ _ => rfl
    · exact fun _ _ => rfl
  · exact hanswered.updateWhere _ fun _ _ => rfl

end Database

/-! ## Calls -/

/-- What a call writes keeps the operations answered. -/
theorem Call.Writes.answered {call : Call} {assumed : Database → Prop} {db db' : Database}
    (hwrites : call.Writes assumed db db') (h : db.operations.Answered) :
    db'.operations.Answered := by
  cases call with
  | create run request =>
      rw [Database.create_operations hwrites]
      exact h
  | updateStatus runId status =>
      obtain ⟨_, _, _, -, -, -, hwrites⟩ := hwrites
      obtain ⟨_, -, hvalue⟩ := bind_eq_ok.mp hwrites
      cases hvalue
      exact h
  | claimAnalysis runId =>
      obtain ⟨_, _, hwrites⟩ := hwrites
      rw [Database.claimAnalysis_operations hwrites]
      exact h
  | completeAnalysis runId analysis repairAttempted =>
      obtain ⟨_, hwrites⟩ := hwrites
      obtain ⟨_, -, hwrites⟩ := bind_eq_ok.mp hwrites
      obtain ⟨_, -, hvalue⟩ := bind_eq_ok.mp hwrites
      cases hvalue
      exact h
  | recordFailure runId status code =>
      obtain ⟨_, _, _, _, -, -, -, hwrites⟩ := hwrites
      obtain ⟨_, -, hvalue⟩ := bind_eq_ok.mp hwrites
      cases hvalue
      exact h
  | confirmBrandLock runId proposed confirmedAt =>
      obtain ⟨_, _, hwrites⟩ := hwrites
      rw [Database.confirmBrandLock_operations hwrites]
      exact h
  | saveDraft runId brief adCopy factReferences ruleIds generatedAt =>
      obtain ⟨_, _, hwrites⟩ := hwrites
      rw [Database.saveDraft_operations hwrites]
      exact h
  | saveComposition runId composition =>
      obtain ⟨_, hwrites⟩ := hwrites
      rw [Database.saveComposition_operations hwrites]
      exact h
  | saveCritique runId report =>
      obtain ⟨_, hwrites⟩ := hwrites
      rw [Database.saveCritique_operations hwrites]
      exact h
  | claimFeedbackOperation runId keyDigest fingerprint requestedChanges feedbackDigest claimedAt =>
      obtain ⟨_, hwrites⟩ := hwrites
      exact Database.claimFeedbackOperation_answered h hwrites
  | failRevisionOperation runId operationId condition action failedAt =>
      obtain ⟨_, hwrites⟩ := hwrites
      exact Database.failRevisionOperation_answered h hwrites
  | claimRetryOperation runId keyDigest fingerprint claimedAt =>
      obtain ⟨_, hwrites⟩ := hwrites
      exact Database.claimRetryOperation_answered h hwrites
  | completeRevision runId operationId revision publicResponse =>
      exact Database.completeRevision_answered h hwrites
  | incrementTechnicalAttempt runId =>
      obtain ⟨_, -, hvalue⟩ := bind_eq_ok.mp hwrites
      cases hvalue
      exact h

/-- The transactions of calls to a repository lead from an empty database to
this one. What a call has read before it writes may have been anything. -/
inductive Database.Reachable : Database → Prop
  | empty : Reachable .empty
  | write {db db' : Database} (call : Call) (prior : Reachable db)
      (hwrites : call.Writes (fun _ => True) db db') : Reachable db'

theorem Database.Reachable.answered {db : Database} (h : db.Reachable) :
    db.operations.Answered := by
  induction h with
  | empty =>
      intro row hrow
      cases hrow
  | write _ _ hwrites ih => exact hwrites.answered ih

/-- However calls to a repository interleave, they lead to such databases only. -/
theorem reachable_of_reaches [DecidableEq ι] {repository : Repository κ} {rest : κ}
    {calls : ι → Call} {config : Config ι (World κ) Exc Unit}
    (h : Reaches (repository.serving ⟨.empty, rest⟩ calls) config) :
    config.state.database.Reachable := by
  obtain ⟨log, hruns⟩ := h
  have hstart : AllMeet (fun _ _ => True)
      (fun _ world world' => world.database.Reachable → world'.database.Reachable)
      (fun _ _ => True) (fun _ _ => True) (repository.serving ⟨.empty, rest⟩ calls) := by
    intro i
    apply Program.meets_weaken (repository.perform_writes (fun _ => True) (calls i))
    rintro world world' - (hkept | hwrites) hprior
    · rwa [hkept]
    · exact .write _ hprior hwrites
  have hsteps := (allMeet_of_runs hruns hstart fun _ _ => trivial).2
  let unreachable (world : World κ) : Prop := ¬world.database.Reachable
  have hempty : ¬unreachable ⟨.empty, rest⟩ := fun hnot => hnot .empty
  by_contra hnot
  obtain ⟨event, hevent, hbefore, hafter⟩ := hruns.exists_change hempty (hnot : unreachable _)
  exact hafter (hsteps event hevent (not_not.mp hbefore))

end CultureShift
