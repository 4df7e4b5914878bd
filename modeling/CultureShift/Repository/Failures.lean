/-
# Recording failures

A failure adds its code to the warning codes of the run, and the run is
validated again with both. A code that is there already, or a list that is
full, is refused by that validation, and the run keeps its old status.
-/

import CultureShift.Repository.Chronology
import CultureShift.TransitionTimes

namespace CultureShift

open Serialization Relational Concurrent Sequential

variable {κ : Type}

/-- The run with its new status and its new code. -/
def ProjectRun.failed (run : ProjectRun) (status : ProjectRunStatus) (code : String)
    (now : Datetime) : Except Exc ProjectRun := do
  let transitioned ← run.moved ⟨status, none, now⟩
  validate transitioned.id transitioned.direction transitioned.status (run.warningCodes ++ [code])
    transitioned.initialGenerationCount transitioned.humanRevisionCount
    transitioned.technicalAttemptCount transitioned.createdAt transitioned.updatedAt

/-- What a recorded failure leaves: the run has the status, and its codes are the earlier ones and
the new one. -/
structure Recorded (db : Database) (current : ProjectRun) (status : ProjectRunStatus)
    (code : String) (db' : Database) : Prop where
  stored : ∃ run, db'.get current.id = .ok run ∧ run.status = status ∧
    (∀ earlier ∈ current.warningCodes, earlier ∈ run.warningCodes) ∧ code ∈ run.warningCodes
  other : ∀ runId, runId ≠ current.id → db'.get runId = db.get runId

/-- Alone, at an instant, the call returns and the failure is recorded. -/
def RecordsFailure (now : Datetime) (db : Database) (current : ProjectRun)
    (status : ProjectRunStatus) (code : String) : Prop :=
  ∃ updated db', ((Repository.quiet now).recordFailure current.id status code).exec ⟨db, ()⟩ =
    some (.ok updated, ⟨db', ()⟩) ∧ Recorded db current status code db'

theorem validWarningCodes_append_iff {codes : List String} {code : String}
    (hvalid : ValidWarningCodes codes) (hcode : isWarningCode code.toList = true) :
    ValidWarningCodes (codes ++ [code]) ↔ code ∉ codes ∧ codes.length < 32 := by
  obtain ⟨-, hunique, hcodes⟩ := hvalid
  constructor
  · rintro ⟨hlength, hnodup, -⟩
    rw [List.length_append] at hlength
    refine ⟨fun hmem => ?_, hlength⟩
    exact (List.nodup_append.mp hnodup).2.2 code hmem code (List.mem_singleton_self code) rfl
  · rintro ⟨hnew, hlength⟩
    refine ⟨by rwa [List.length_append], ?_, ?_⟩
    · rw [List.nodup_append]
      refine ⟨hunique, List.nodup_singleton code, ?_⟩
      rintro earlier hearlier other hother rfl
      rw [List.mem_singleton.mp hother] at hearlier
      exact hnew hearlier
    · intro other hother
      rcases List.mem_append.mp hother with hearlier | hlast
      · exact hcodes other hearlier
      · rw [List.mem_singleton.mp hlast]
        exact hcode

section

variable {db : Database} {current : ProjectRun} {status : ProjectRunStatus} {code : String}
  {now : Datetime}

/-- The run is validated with the codes that it has and the new one. -/
theorem failed_eq_ok_iff (hallowed : status ∈ allowedTransitions current.status)
    (hcode : isWarningCode code.toList = true) :
    (∃ updated, current.failed status code now = .ok updated) ↔
      current.createdAt ≤ now ∧ code ∉ current.warningCodes ∧
        current.warningCodes.length < 32 := by
  rw [← validWarningCodes_append_iff current.warning_codes_valid hcode]
  unfold ProjectRun.failed
  constructor
  · rintro ⟨updated, hupdated⟩
    obtain ⟨moved, hmoved, hvalidated⟩ := bind_eq_ok.mp hupdated
    have hbuilt := ProjectRun.of_validate hvalidated
    exact ⟨(ProjectRun.moved_eq_ok hmoved).2.1, hbuilt.2.2.2.1 ▸ updated.warning_codes_valid⟩
  · rintro ⟨hcreated, hvalid⟩
    obtain ⟨moved, hmoved⟩ :=
      current.exists_moved (⟨status, none, now⟩ : StatusCall) hallowed hcreated
    rw [hmoved, ok_bind]
    exact ⟨_, dif_pos ⟨hvalid, moved.counts_valid, moved.timestamps_valid⟩⟩

/-- What the new run has from the old one. -/
theorem of_failed {updated : ProjectRun} (h : current.failed status code now = .ok updated) :
    updated.id = current.id ∧ updated.direction = current.direction ∧ updated.status = status ∧
      updated.warningCodes = current.warningCodes ++ [code] ∧
      updated.initialGenerationCount = current.initialGenerationCount ∧
      updated.humanRevisionCount = current.humanRevisionCount ∧
      updated.technicalAttemptCount = current.technicalAttemptCount ∧
      updated.createdAt = current.createdAt ∧ updated.updatedAt = now := by
  obtain ⟨moved, hmoved, hvalidated⟩ := bind_eq_ok.mp h
  unfold ProjectRun.moved at hmoved
  split_ifs at hmoved
  obtain ⟨hid, hdirection, hstatus, -, hinitial, hhuman, htechnical, hcreated, hupdated⟩ :=
    ProjectRun.of_validate hmoved
  obtain ⟨hid', hdirection', hstatus', hcodes, hinitial', hhuman', htechnical', hcreated',
    hupdated'⟩ := ProjectRun.of_validate hvalidated
  exact ⟨hid'.trans hid, hdirection'.trans hdirection, hstatus'.trans hstatus, hcodes,
    hinitial'.trans hinitial, hhuman'.trans hhuman, htechnical'.trans htechnical,
    hcreated'.trans hcreated, hupdated'.trans hupdated⟩

/-- Alone, the call reads the run, and writes what the run has become, if there is such a run. -/
theorem exec_recordFailure (code : String) (now : Datetime) (hget : db.get current.id = .ok current)
    (htarget : status = .blocked ∨ status = .failed) :
    ((Repository.quiet now).recordFailure current.id status code).exec ⟨db, ()⟩ =
      (do
        let updated ← Program.ofExcept (current.failed status code now)
        (Repository.quiet now).transaction
          (Database.recordFailure updated.id updated.status updated.warningCodes updated.updatedAt)
        return updated : Program (World Unit) Exc ProjectRun).exec ⟨db, ()⟩ := by
  unfold Repository.recordFailure
  rw [require_of _ htarget, Program.ofExcept_ok, Program.bind_ret]
  refine (Program.exec_bind (exec_query hget)).trans ?_
  have hmove : current.withStatus (Repository.quiet now).now status none =
      (Program.ofExcept (current.moved ⟨status, none, now⟩) :
        Program (World Unit) Exc ProjectRun) :=
    current.withStatus_eq_moved ⟨status, none, now⟩
  rw [hmove, ProjectRun.failed]
  cases current.moved ⟨status, none, now⟩ with
  | error error => rfl
  | ok moved => rfl

/-- The new run is written over the old one, and read back as it was built. -/
theorem exists_recordFailure {updated : ProjectRun} (hget : db.get current.id = .ok current)
    (hfailed : current.failed status code now = .ok updated) :
    ∃ db', db.recordFailure updated.id updated.status updated.warningCodes updated.updatedAt =
        .ok ((), db') ∧
      db'.get current.id = .ok updated ∧
      ∀ runId, runId ≠ current.id → db'.get runId = db.get runId := by
  obtain ⟨hid, hdirection, -, -, hinitial, hhuman, htechnical, hcreated, -⟩ := of_failed hfailed
  obtain ⟨row, hrow, hvalidated⟩ := bind_eq_ok.mp hget
  obtain ⟨codes, -, hbuilt⟩ := bind_eq_ok.mp hvalidated
  have hfound := orRaise_eq_ok.mp hrow
  obtain ⟨-, hdirection', -, -, hinitial', hhuman', htechnical', hcreated', -⟩ :=
    ProjectRun.of_validate hbuilt
  have hcommit : db.recordFailure updated.id updated.status updated.warningCodes
      updated.updatedAt = .ok ((), { db with runs := db.runs.set current.id { row with
        status := updated.status
        warningCodes := .dump updated.warningCodes
        updatedAt := updated.updatedAt } }) := by
    rw [Database.recordFailure, hid, Table.updateWhere_of_some hfound rfl]
    rfl
  refine ⟨_, hcommit, ?_, ?_⟩
  · rw [Database.get, Table.find_set_self, orRaise_some, ok_bind]
    dsimp only
    rw [load_dump, ok_bind, ← hdirection', ← hinitial', ← hhuman', ← htechnical', ← hcreated',
      ← hdirection, ← hinitial, ← hhuman, ← htechnical, ← hcreated]
    have hself : ProjectRun.validate updated.id updated.direction updated.status
        updated.warningCodes updated.initialGenerationCount updated.humanRevisionCount
        updated.technicalAttemptCount updated.createdAt updated.updatedAt = .ok updated :=
      dif_pos ⟨updated.warning_codes_valid, updated.counts_valid, updated.timestamps_valid⟩
    rw [← hid]
    exact hself
  · intro runId hne
    rw [Database.get, Database.get, Table.find_set_ne _ _ hne]

/-- The failure is recorded exactly when its code is new, the run has room for it, and the clock
has not fallen behind the creation of the run. -/
theorem recordsFailure_iff (hget : db.get current.id = .ok current)
    (htarget : status = .blocked ∨ status = .failed)
    (hallowed : status ∈ allowedTransitions current.status)
    (hcode : isWarningCode code.toList = true) :
    RecordsFailure now db current status code ↔
      current.createdAt ≤ now ∧ code ∉ current.warningCodes ∧
        current.warningCodes.length < 32 := by
  rw [← failed_eq_ok_iff hallowed hcode]
  unfold RecordsFailure
  rw [exec_recordFailure code now hget htarget]
  constructor
  · rintro ⟨updated, db', hexec, -⟩
    cases hfailed : current.failed status code now with
    | error error =>
        rw [hfailed] at hexec
        cases hexec
    | ok updated => exact ⟨updated, rfl⟩
  · rintro ⟨updated, hfailed⟩
    obtain ⟨db', hcommit, hstored, hother⟩ := exists_recordFailure hget hfailed
    obtain ⟨-, -, hstatus, hcodes, -⟩ := of_failed hfailed
    refine ⟨updated, db', ?_, ⟨updated, hstored, hstatus, ?_, ?_⟩, hother⟩
    · rw [hfailed, Program.ofExcept_ok, Program.bind_ret]
      exact Program.exec_bind (exec_transaction hcommit)
    · intro earlier hearlier
      rw [hcodes]
      exact List.mem_append_left _ hearlier
    · rw [hcodes]
      exact List.mem_append_right _ (List.mem_singleton_self code)

end

namespace Demo

def failureCode : String := "asset_closed"

theorem validCode : ValidWarningCodes [failureCode] := by decide

/-- A stored run with these warning codes. -/
def coded (status : ProjectRunStatus) (codes : List String) : Database :=
  { stored status with
    runs := Table.empty.set runId { storedRun status now with warningCodes := .dump codes } }

def codedRun (status : ProjectRunStatus) (codes : List String) (h : ValidWarningCodes codes) :
    ProjectRun :=
  ⟨runId, .chinaToUk, status, codes, 0, 0, 0, now, now, h,
    (ProjectRun.new runId .chinaToUk now).counts_valid, le_refl now⟩

theorem get_coded (status : ProjectRunStatus) {codes : List String} (h : ValidWarningCodes codes) :
    (coded status codes).get runId = .ok (codedRun status codes h) := by
  have hrow : (coded status codes).runs.find runId =
      some { storedRun status now with warningCodes := .dump codes } := Table.find_set_self _ _ _
  have hcontext : (coded status codes).contexts.find runId =
      some (Stage.pending runCreate).context := Table.find_set_self _ _ _
  have hvalidate : ProjectRun.validate runId .chinaToUk status codes 0 0 0 now now =
      .ok (codedRun status codes h) := dif_pos ⟨h, by decide, le_refl now⟩
  rw [Database.get, hrow, hcontext, orRaise_some, ok_bind]
  dsimp only
  rw [load_dump, ok_bind]
  exact hvalidate

theorem updateWhere_coded (status : ProjectRunStatus) (codes : List String)
    (change : RunRow → RunRow) :
    (coded status codes).runs.updateWhere runId (fun _ => true) change =
      some (Table.empty.set runId
        (change { storedRun status now with warningCodes := .dump codes })) := by
  have hrow : (coded status codes).runs.find runId =
      some { storedRun status now with warningCodes := .dump codes } := Table.find_set_self _ _ _
  rw [Table.updateWhere_of_some hrow rfl]
  exact congrArg some (Function.update_idem _ _ _)

theorem accepts_coded {status status' : ProjectRunStatus} {codes : List String}
    (h : ValidWarningCodes codes) (hallowed : status' ∈ allowedTransitions status) :
    (Repository.quiet now).Accepts ⟨coded status codes, ()⟩ (.updateStatus runId status')
      ⟨coded status' codes, ()⟩ := by
  have hcommit : (coded status codes).updateStatus runId status' now =
      .ok ((), coded status' codes) := by
    rw [Database.updateStatus, updateWhere_coded, orRaise_some, ok_bind]
    rfl
  obtain ⟨updated, hexec⟩ :=
    Repository.exec_updateStatus (get_coded status h) rfl hallowed (le_refl now) hcommit
  exact Program.solo_of_exec (Program.exec_bind hexec)

theorem accepts_failure {status status' : ProjectRunStatus} {codes : List String} {code : String}
    (h : ValidWarningCodes codes) (hadded : ValidWarningCodes (codes ++ [code]))
    (hallowed : status' ∈ allowedTransitions status)
    (htarget : status' = .blocked ∨ status' = .failed) :
    (Repository.quiet now).Accepts ⟨coded status codes, ()⟩ (.recordFailure runId status' code)
      ⟨coded status' (codes ++ [code]), ()⟩ := by
  have hfailed : (codedRun status codes h).failed status' code now =
      .ok (codedRun status' (codes ++ [code]) hadded) := by
    have hmoved : (codedRun status codes h).moved ⟨status', none, now⟩ =
        .ok (codedRun status' codes h) :=
      (if_pos hallowed).trans (dif_pos ⟨h, ⟨Nat.zero_le 1, Nat.zero_le 1⟩, le_refl now⟩)
    rw [ProjectRun.failed, hmoved, ok_bind]
    exact dif_pos ⟨hadded, ⟨Nat.zero_le 1, Nat.zero_le 1⟩, le_refl now⟩
  have hcommit : (coded status codes).recordFailure runId status' (codes ++ [code]) now =
      .ok ((), coded status' (codes ++ [code])) := by
    rw [Database.recordFailure, updateWhere_coded, orRaise_some, ok_bind]
    rfl
  have hget : (coded status codes).get (codedRun status codes h).id =
      .ok (codedRun status codes h) := get_coded status h
  have hexec := exec_recordFailure code now hget htarget
  rw [hfailed, Program.ofExcept_ok, Program.bind_ret] at hexec
  have hdone := hexec.trans (Program.exec_bind (exec_transaction hcommit))
  exact Program.solo_of_exec (Program.exec_bind hdone)

/-- A run is blocked, and taken up again. -/
def blockedOnce : List (Call × World Unit) :=
  [(.create (ProjectRun.new runId .chinaToUk now) (some runCreate), ⟨coded .pending [], ()⟩),
    (.recordFailure runId .blocked failureCode, ⟨coded .blocked [failureCode], ()⟩),
    (.updateStatus runId .inProgress, ⟨coded .inProgress [failureCode], ()⟩)]

theorem trace_blockedOnce : Trace (Repository.quiet now).Accepts ⟨.empty, ()⟩ blockedOnce := by
  have hcreate : Database.empty.create (ProjectRun.new runId .chinaToUk now) (some runCreate) =
      .ok ((), coded .pending []) := rfl
  have hcreated : (Repository.quiet now).Accepts ⟨.empty, ()⟩
      (.create (ProjectRun.new runId .chinaToUk now) (some runCreate)) ⟨coded .pending [], ()⟩ :=
    Program.solo_of_exec (Program.exec_bind (Program.exec_bind (exec_transaction hcreate)))
  apply Trace.cons hcreated
  apply Trace.cons (accepts_failure (by decide) (by decide) (by decide) (.inl rfl))
  apply Trace.cons (accepts_coded (by decide) (by decide))
  exact Trace.nil _

end Demo

/-- A run that was blocked before fails for another reason. -/
theorem recordsFailure_resumed :
    RecordsFailure Demo.now (Demo.coded .inProgress [Demo.failureCode])
      (Demo.codedRun .inProgress [Demo.failureCode] Demo.validCode) .failed
      "provider_failed" := by
  have hget : (Demo.coded .inProgress [Demo.failureCode]).get
      (Demo.codedRun .inProgress [Demo.failureCode] Demo.validCode).id =
        .ok (Demo.codedRun .inProgress [Demo.failureCode] Demo.validCode) :=
    Demo.get_coded .inProgress Demo.validCode
  exact (recordsFailure_iff hget (.inr rfl) (by decide) (by decide)).mpr
    ⟨le_refl _, by decide, by decide⟩

/-- A run that was blocked before is blocked for the same reason: that is refused, and the run
stays in progress. -/
theorem not_recordsFailure :
    Trace (Repository.quiet Demo.now).Accepts ⟨.empty, ()⟩ Demo.blockedOnce ∧
      ((Repository.quiet Demo.now).recordFailure Demo.runId .blocked Demo.failureCode).exec
          ⟨Demo.coded .inProgress [Demo.failureCode], ()⟩ =
        some (.error .validationError, ⟨Demo.coded .inProgress [Demo.failureCode], ()⟩) ∧
      ¬∀ (db : Database) (current : ProjectRun) (status : ProjectRunStatus) (code : String),
        db.get current.id = .ok current → status = .blocked ∨ status = .failed →
        status ∈ allowedTransitions current.status → isWarningCode code.toList = true →
        current.createdAt ≤ Demo.now → RecordsFailure Demo.now db current status code := by
  have hget : (Demo.coded .inProgress [Demo.failureCode]).get
      (Demo.codedRun .inProgress [Demo.failureCode] Demo.validCode).id =
        .ok (Demo.codedRun .inProgress [Demo.failureCode] Demo.validCode) :=
    Demo.get_coded .inProgress Demo.validCode
  have hmoved : (Demo.codedRun .inProgress [Demo.failureCode] Demo.validCode).moved
      ⟨.blocked, none, Demo.now⟩ = .ok (Demo.codedRun .blocked [Demo.failureCode] Demo.validCode) :=
    (if_pos (by decide)).trans (dif_pos ⟨Demo.validCode, by decide, le_refl _⟩)
  have hrefused : (Demo.codedRun .inProgress [Demo.failureCode] Demo.validCode).failed .blocked
      Demo.failureCode Demo.now = .error .validationError := by
    rw [ProjectRun.failed, hmoved, ok_bind]
    exact dif_neg fun h => absurd h.1 (by decide)
  have hexec := exec_recordFailure Demo.failureCode Demo.now hget (.inl rfl)
  rw [hrefused] at hexec
  refine ⟨Demo.trace_blockedOnce, hexec, fun hall => ?_⟩
  obtain ⟨updated, db', hdone, -⟩ := hall _ _ .blocked Demo.failureCode hget (.inl rfl) (by decide)
    (by decide) (le_refl _)
  cases hexec.symm.trans hdone

end CultureShift
