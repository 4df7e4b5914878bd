/-
# Refused claims

Both claims answer with the same error when another operation is active and when
an operation under the same key has not succeeded. The second is said of
operations that are over, too: the error is right about the run exactly where no
failed operation is claimed again, or where another one is in progress.
-/

import CultureShift.Lifecycle.Claiming
import CultureShift.Repository.Chronology
import CultureShift.Repository.WriteOnce

namespace CultureShift

open Serialization Relational Concurrent Sequential

theorem OperationTable.of_find {table : OperationTable} {condition : OperationRow → Bool}
    {row : OperationRow} (h : table.find condition = some row) :
    row ∈ table.rows ∧ condition row = true :=
  ⟨List.mem_of_find?_eq_some h, List.find?_some h⟩

namespace Database

variable {db : Database} {runId : UUID} {kind : OperationKind} {keyDigest fingerprint : String}

/-- An operation of the run is in progress. -/
def HasActive (db : Database) (runId : UUID) : Prop :=
  ∃ row ∈ db.operations.rows, row.runId = runId ∧ row.progress.state = .inProgress

/-- The operation that was claimed with this key, for this request, has failed. -/
def HasFailed (db : Database) (runId : UUID) (kind : OperationKind)
    (keyDigest fingerprint : String) : Prop :=
  ∃ row ∈ db.operations.rows, row.key = (runId, kind, keyDigest) ∧
    row.fingerprint = fingerprint ∧
    (row.progress.state = .failedRetryable ∨ row.progress.state = .failedFinal)

/-- What both claims look for first. -/
def claimedUnder (db : Database) (runId : UUID) (kind : OperationKind) (keyDigest : String) :
    Option OperationRow :=
  db.operations.find fun row => row.runId = runId && (row.kind = kind && row.keyDigest = keyDigest)

/-- There is one operation of a kind under a key. -/
theorem claimedUnder_eq_some {row : OperationRow} :
    db.claimedUnder runId kind keyDigest = some row ↔
      row ∈ db.operations.rows ∧ row.key = (runId, kind, keyDigest) := by
  have hkey (other : OperationRow) :
      (other.runId = runId && (other.kind = kind && other.keyDigest = keyDigest)) = true ↔
        other.key = (runId, kind, keyDigest) := by
    simp [OperationRow.key]
  constructor
  · intro hfind
    obtain ⟨hmem, hrow⟩ := OperationTable.of_find hfind
    exact ⟨hmem, (hkey row).mp hrow⟩
  · rintro ⟨hmem, hrow⟩
    cases hfind : db.claimedUnder runId kind keyDigest with
    | none =>
        have hnone := List.find?_eq_none.mp hfind row hmem
        exact absurd ((hkey row).mpr hrow) hnone
    | some other =>
        obtain ⟨hother, hfound⟩ := OperationTable.of_find hfind
        have hsame : other.key = row.key := ((hkey other).mp hfound).trans hrow.symm
        rw [List.inj_on_of_nodup_map db.operations.keys_unique hother hmem hsame]

theorem replay_inProgress_iff {row : OperationRow} {message text : String} :
    replay row fingerprint message = .error (.operationInProgressError text) ↔
      row.fingerprint = fingerprint ∧ row.progress.state ≠ .succeeded ∧ message = text := by
  obtain ⟨record, hrecord⟩ := exists_operationRecord row
  obtain ⟨-, -, hfingerprint, hstate, -, -⟩ := of_operationRecord hrecord
  simp only [replay, hrecord, ok_bind, bind_eq_error, require_eq_error, require_eq_ok,
    hfingerprint, hstate]
  constructor
  · rintro (⟨-, hbad⟩ | ⟨_, hsame, ⟨hstate, hmessage⟩ | ⟨_, -, hbad⟩⟩)
    · cases hbad
    · cases hmessage
      exact ⟨hsame, hstate, rfl⟩
    · cases hbad
  · rintro ⟨hsame, hstate, rfl⟩
    exact .inr ⟨(), hsame, .inl ⟨hstate, rfl⟩⟩

/-- When a claim of feedback reports an operation in progress. -/
theorem claimFeedbackOperation_inProgress {requestedChanges : List RevisionChange}
    {feedbackDigest : String} {claimedAt : Datetime} {text : String}
    (h : db.claimFeedbackOperation runId keyDigest fingerprint requestedChanges feedbackDigest
      claimedAt = .error (.operationInProgressError text)) :
    (∃ row, db.claimedUnder runId .feedback keyDigest = some row ∧
        row.fingerprint = fingerprint ∧ row.progress.state ≠ .succeeded) ∨
      db.HasActive runId := by
  unfold claimFeedbackOperation at h
  split at h
  next row hrow =>
    rcases bind_eq_error.mp h with hreplay | ⟨_, -, hbad⟩
    · obtain ⟨hsame, hstate, -⟩ := replay_inProgress_iff.mp hreplay
      exact .inl ⟨row, hrow, hsame, hstate⟩
    · cases hbad
  next hnone =>
    simp only [bind_eq_error, require_eq_error, require_eq_ok, orRaise_eq_error,
      orRaise_eq_ok] at h
    rcases h with ⟨-, hbad⟩ | ⟨_, -, ⟨hactive, -⟩ | ⟨_, -, ⟨-, hbad⟩ | ⟨run, hrun, ⟨-, hbad⟩ |
      ⟨_, hready, ⟨-, hbad⟩ | ⟨row, -, ⟨hlost, -⟩ | ⟨_, -, hrecord | ⟨_, -, hbad⟩⟩⟩⟩⟩⟩⟩
    · cases hbad
    · rw [Option.isNone_iff_eq_none] at hactive
      obtain ⟨row, hfind⟩ := Option.ne_none_iff_exists'.mp hactive
      obtain ⟨hmem, hrow⟩ := OperationTable.of_find hfind
      simp only [Bool.and_eq_true, decide_eq_true_eq] at hrow
      exact .inr ⟨row, hmem, hrow.1, hrow.2.2⟩
    · cases hbad
    · cases hbad
    · cases hbad
    -- The run was found to be ready just before its status is compared again.
    · rw [Table.updateWhere_of_some hrun (decide_eq_true hready)] at hlost
      cases hlost
    · exact absurd hrecord operationRecord_ne_error
    · cases hbad

theorem claimRetryOperation_inProgress {claimedAt : Datetime} {text : String}
    (h : db.claimRetryOperation runId keyDigest fingerprint claimedAt =
      .error (.operationInProgressError text)) :
    ∃ row, db.claimedUnder runId .retry keyDigest = some row ∧
      row.fingerprint = fingerprint ∧ row.progress.state ≠ .succeeded := by
  unfold claimRetryOperation at h
  split at h
  next row hrow =>
    rcases bind_eq_error.mp h with hreplay | ⟨_, -, hbad⟩
    · obtain ⟨hsame, hstate, -⟩ := replay_inProgress_iff.mp hreplay
      exact ⟨row, hrow, hsame, hstate⟩
    · cases hbad
  next hnone =>
    simp only [bind_eq_error, require_eq_error, orRaise_eq_error] at h
    rcases h with ⟨-, hbad⟩ | ⟨_, -, ⟨-, hbad⟩ | ⟨_, -, ⟨-, hbad⟩ | ⟨source, -, hrecord |
      ⟨_, -, ⟨-, hbad⟩ | ⟨row, -, hrecord | ⟨_, -, hbad⟩⟩⟩⟩⟩⟩
    · cases hbad
    · cases hbad
    · cases hbad
    · exact absurd hrecord operationRecord_ne_error
    · cases hbad
    · exact absurd hrecord operationRecord_ne_error
    · cases hbad

/-- An operation that is claimed again without having succeeded is active or has failed. -/
theorem hasActive_or_hasFailed {row : OperationRow}
    (hrow : db.claimedUnder runId kind keyDigest = some row) (hsame : row.fingerprint = fingerprint)
    (hstate : row.progress.state ≠ .succeeded) :
    db.HasActive runId ∨ db.HasFailed runId kind keyDigest fingerprint := by
  obtain ⟨hmem, hkey⟩ := claimedUnder_eq_some.mp hrow
  cases hprogress : row.progress.state with
  | inProgress => exact .inl ⟨row, hmem, congrArg Prod.fst hkey, hprogress⟩
  | succeeded => exact absurd hprogress hstate
  | failedRetryable => exact .inr ⟨row, hmem, hkey, hsame, .inl hprogress⟩
  | failedFinal => exact .inr ⟨row, hmem, hkey, hsame, .inr hprogress⟩

theorem HasFailed.claimedUnder (h : db.HasFailed runId kind keyDigest fingerprint) :
    ∃ row, db.claimedUnder runId kind keyDigest = some row ∧ row.fingerprint = fingerprint ∧
      row.progress.state ≠ .succeeded := by
  obtain ⟨row, hmem, hkey, hsame, hstate⟩ := h
  refine ⟨row, claimedUnder_eq_some.mpr ⟨hmem, hkey⟩, hsame, ?_⟩
  intro hsucceeded
  rw [hsucceeded] at hstate
  rcases hstate with hstate | hstate <;> cases hstate

end Database

/-- A claim that reports an operation in progress is right about the run unless the operation
under its own key, for the same request, has failed and no other one is active. -/
theorem operationInProgress_iff (db : Database) (runId : UUID) (keyDigest fingerprint : String)
    (requestedChanges : List RevisionChange) (feedbackDigest : String) (claimedAt : Datetime) :
    ((∀ text, db.claimFeedbackOperation runId keyDigest fingerprint requestedChanges
          feedbackDigest claimedAt = .error (.operationInProgressError text) →
        db.HasActive runId) ↔
      (db.HasFailed runId .feedback keyDigest fingerprint → db.HasActive runId)) ∧
    ((∀ text, db.claimRetryOperation runId keyDigest fingerprint claimedAt =
          .error (.operationInProgressError text) →
        db.HasActive runId) ↔
      (db.HasFailed runId .retry keyDigest fingerprint → db.HasActive runId)) := by
  constructor
  · constructor
    · intro hreports hfailed
      obtain ⟨row, hrow, hsame, hstate⟩ := hfailed.claimedUnder
      apply hreports "operation is not replayable yet"
      rw [Database.claimFeedbackOperation, show db.operations.find _ = some row from hrow]
      exact bind_eq_error.mpr (.inl (Database.replay_inProgress_iff.mpr ⟨hsame, hstate, rfl⟩))
    · intro hright text hclaim
      rcases Database.claimFeedbackOperation_inProgress hclaim with
        ⟨row, hrow, hsame, hstate⟩ | hactive
      · exact (Database.hasActive_or_hasFailed hrow hsame hstate).elim id hright
      · exact hactive
  · constructor
    · intro hreports hfailed
      obtain ⟨row, hrow, hsame, hstate⟩ := hfailed.claimedUnder
      apply hreports "retry is not replayable yet"
      rw [Database.claimRetryOperation, show db.operations.find _ = some row from hrow]
      exact bind_eq_error.mpr (.inl (Database.replay_inProgress_iff.mpr ⟨hsame, hstate, rfl⟩))
    · intro hright text hclaim
      obtain ⟨row, hrow, hsame, hstate⟩ := Database.claimRetryOperation_inProgress hclaim
      exact (Database.hasActive_or_hasFailed hrow hsame hstate).elim id hright

/-- After accepted calls, a database can be reached. -/
theorem Repository.serves_of_trace {κ : Type} {repository : Repository κ} {start world : World κ}
    {trace : List (Call × World κ)} (prior : repository.Serves (fun _ _ => True) start world)
    (h : Trace repository.Accepts world trace) :
    ∀ served ∈ trace, repository.Serves (fun _ _ => True) start served.2 := by
  induction h with
  | nil _ =>
      rintro served ⟨⟩
  | cons hstep _ ih =>
      have hnext := Repository.Serves.call prior trivial hstep
      intro served hserved
      rcases List.mem_cons.mp hserved with rfl | hlater
      · exact hnext
      · exact ih hnext served hlater

namespace Demo

/-- Feedback is claimed on the ready run, and the operation fails. -/
theorem exists_failed : ∃ record db record' db', claimed now = .ok (record, db) ∧
    db.failRevisionOperation runId record.id .safetyRefusal .doNotRetry now = .ok (record', db') ∧
    db'.claimFeedbackOperation runId "key" "fingerprint" [.shortenHeadline] "digest" now =
      .error (.operationInProgressError "operation is not replayable yet") ∧
    db'.operations.rows.map (fun row => row.progress.state) = [.failedFinal] :=
  ⟨_, _, _, _, rfl, rfl, rfl, rfl⟩

end Demo

/-- Claimed again, a failed operation is reported to be in progress although no operation is. -/
theorem operationInProgress_after_failure : ∃ world : World Unit,
    (Repository.quiet Demo.now).Serves (fun _ _ => True) ⟨.empty, ()⟩ world ∧
      ∃ text, world.database.claimFeedbackOperation Demo.runId "key" "fingerprint"
          [.shortenHeadline] "digest" Demo.now = .error (.operationInProgressError text) ∧
        ¬world.database.HasActive Demo.runId := by
  obtain ⟨record, db, record', db', hclaimed, hfailed, hagain, hstates⟩ := Demo.exists_failed
  have hlast : (Demo.claimAt Demo.now, World.mk db ()) ∈ Demo.claims Demo.now ⟨db, ()⟩ := by
    simp [Demo.claims]
  have hclaims := Repository.serves_of_trace .refl (Demo.trace_claims hclaimed) _ hlast
  have hserved := hclaims.next
    (.failRevisionOperation Demo.runId record.id .safetyRefusal .doNotRetry Demo.now)
    (Program.exec_bind (exec_transaction hfailed))
  refine ⟨⟨db', ()⟩, hserved, _, hagain, ?_⟩
  rintro ⟨row, hrow, -, hactive⟩
  have hstate : row.progress.state ∈ db'.operations.rows.map (fun row => row.progress.state) :=
    List.mem_map_of_mem hrow
  rw [hstates, List.mem_singleton, hactive] at hstate
  cases hstate

end CultureShift
