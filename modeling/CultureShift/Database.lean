/-
# The database

Three tables keyed by run and a table of operations with automatic row
numbers. Artifacts are stored as JSON text and timestamps as typed columns. The
part of an operation that an `UPDATE` may touch is a record of its own, so row
numbers, keys and fingerprints cannot change.
-/

import CultureShift.Contracts.Exchange
import CultureShift.Relational.Table
import CultureShift.RetryDecision
import Mathlib.Data.List.Nodup

namespace CultureShift

open Serialization Relational

/-- A row of `project_runs`. -/
structure RunRow where
  direction : LocalizationDirection
  status : ProjectRunStatus
  warningCodes : Column (List String)
  createdAt : Datetime
  updatedAt : Datetime

/-- A row of `project_run_contexts`. -/
structure ContextRow where
  request : Column RunCreate
  analysis : Option (Column AdAnalysis)
  repairAttempted : Nat
  confirmedBrandLock : Option (Column BrandLock)
  brandLockConfirmedAt : Option Datetime
  creativeBrief : Option (Column CreativeBrief)
  adCopy : Option (Column AdCopy)
  draftFactReferences : Option (Column (List String))
  draftRuleIds : Option (Column (List String))
  draftGeneratedAt : Option Datetime
  composition : Option (Column CompositionGenerated)
  critique : Option (Column CritiqueReport)
  criticReviewedAt : Option Datetime
  initialGenerationCount : Nat
  humanRevisionCount : Nat
  technicalAttemptCount : Nat

/-- A row of `project_run_revisions`; its result version is always inserted as 2. -/
structure RevisionRow where
  resultVersion : Int
  requestedChanges : Column (List RevisionChange)
  feedbackDigest : String
  creativeBrief : Column CreativeBrief
  adCopy : Column AdCopy
  factReferences : Column (List String)
  ruleIds : Column (List String)
  composition : Column CompositionGenerated
  critique : Column CritiqueReport
  revisedAt : Datetime

/-! ## Operations -/

inductive OperationKind
  | feedback | retry
deriving DecidableEq

inductive OperationState
  | inProgress | succeeded | failedRetryable | failedFinal
deriving DecidableEq

/-- The columns of an operation that change. -/
structure OperationProgress where
  state : OperationState
  retryCondition : Option RetryCondition
  retryAction : Option RetryAction
  publicResponse : Option (Column RevisionCompleted)
  updatedAt : Datetime

/-- A row of `project_run_operations`. -/
structure OperationRow where
  id : Nat
  runId : UUID
  kind : OperationKind
  keyDigest : String
  fingerprint : String
  requestedChanges : Option (Column (List RevisionChange))
  feedbackDigest : Option String
  createdAt : Datetime
  progress : OperationProgress

namespace OperationRow

/-- `UNIQUE(run_id, operation_kind, idempotency_key_digest)` -/
def key (row : OperationRow) : UUID × OperationKind × String :=
  (row.runId, row.kind, row.keyDigest)

/-- One `UPDATE` of a row. -/
def revise (condition : OperationRow → Bool) (change : OperationProgress → OperationProgress)
    (row : OperationRow) : OperationRow :=
  if condition row then { row with progress := change row.progress } else row

variable (condition : OperationRow → Bool) (change : OperationProgress → OperationProgress)
  (row : OperationRow)

@[simp]
theorem revise_id : (row.revise condition change).id = row.id := by
  unfold revise
  split_ifs <;> rfl

@[simp]
theorem revise_runId : (row.revise condition change).runId = row.runId := by
  unfold revise
  split_ifs <;> rfl

@[simp]
theorem revise_key : (row.revise condition change).key = row.key := by
  unfold revise
  split_ifs <;> rfl

end OperationRow

/-- The rows of `project_run_operations` in the order of their numbers, and the
last number given out. -/
structure OperationTable where
  rows : List OperationRow
  sequence : Nat
  ids_bounded : ∀ row ∈ rows, row.id ≤ sequence
  ids_unique : (rows.map OperationRow.id).Nodup
  keys_unique : (rows.map OperationRow.key).Nodup

namespace OperationTable

def empty : OperationTable where
  rows := []
  sequence := 0
  ids_bounded := by simp
  ids_unique := by simp
  keys_unique := by simp

/-- The table with one more row, under the next number and a key of its own. -/
def append (table : OperationTable) (row : OperationRow) (hid : row.id = table.sequence + 1)
    (hkey : row.key ∉ table.rows.map OperationRow.key) : OperationTable where
  rows := table.rows ++ [row]
  sequence := table.sequence + 1
  ids_bounded := by
    intro other hother
    rcases List.mem_append.mp hother with hother | hother
    · exact Nat.le_succ_of_le (table.ids_bounded other hother)
    · exact (List.mem_singleton.mp hother) ▸ hid.le
  ids_unique := by
    have hnew : row.id ∉ table.rows.map OperationRow.id := by
      intro hmem
      obtain ⟨other, hother, heq⟩ := List.mem_map.mp hmem
      exact absurd (table.ids_bounded other hother) (by omega)
    rw [List.map_append, List.map_singleton, ← List.concat_eq_append]
    exact table.ids_unique.concat hnew
  keys_unique := by
    rw [List.map_append, List.map_singleton, ← List.concat_eq_append]
    exact table.keys_unique.concat hkey

/-- `INSERT`: the row gets the next number. `none` is a violation of the unique
key. -/
def insert (table : OperationTable) (runId : UUID) (kind : OperationKind) (keyDigest : String)
    (fingerprint : String) (requestedChanges : Option (Column (List RevisionChange)))
    (feedbackDigest : Option String) (createdAt : Datetime) (progress : OperationProgress) :
    Option (OperationTable × OperationRow) :=
  if hkey : (runId, kind, keyDigest) ∉ table.rows.map OperationRow.key then
    let row : OperationRow :=
      { id := table.sequence + 1, runId, kind, keyDigest, fingerprint, requestedChanges,
        feedbackDigest, createdAt, progress }
    some (table.append row rfl hkey, row)
  else none

/-- `UPDATE … WHERE condition`. -/
def updateWhere (table : OperationTable) (condition : OperationRow → Bool)
    (change : OperationProgress → OperationProgress) : OperationTable where
  rows := table.rows.map (OperationRow.revise condition change)
  sequence := table.sequence
  ids_bounded := by
    intro row hrow
    obtain ⟨before, hbefore, rfl⟩ := List.mem_map.mp hrow
    simpa using table.ids_bounded before hbefore
  ids_unique := by simpa [Function.comp_def] using table.ids_unique
  keys_unique := by simpa [Function.comp_def] using table.keys_unique

/-- The first row that satisfies the condition. -/
def find (table : OperationTable) (condition : OperationRow → Bool) : Option OperationRow :=
  table.rows.find? condition

/-- The operations of one run. -/
def ofRun (table : OperationTable) (runId : UUID) : List OperationRow :=
  table.rows.filter fun row => row.runId = runId

@[simp]
theorem ofRun_empty (runId : UUID) : empty.ofRun runId = [] := rfl

theorem mem_ofRun {table : OperationTable} {runId : UUID} {row : OperationRow} :
    row ∈ table.ofRun runId ↔ row ∈ table.rows ∧ row.runId = runId := by
  simp [ofRun]

/-- Looking a row up by a condition that fixes its run only needs the rows of
that run. -/
theorem find_eq_ofRun (table : OperationTable) (runId : UUID) (condition : OperationRow → Bool) :
    (table.find fun row => row.runId = runId && condition row) =
      (table.ofRun runId).find? condition := by
  rw [find, ofRun, List.find?_filter]
  congr
  funext row
  by_cases hrow : row.runId = runId <;> simp [hrow]

theorem ofRun_updateWhere (table : OperationTable) (runId : UUID)
    (condition : OperationRow → Bool) (change : OperationProgress → OperationProgress) :
    (table.updateWhere condition change).ofRun runId =
      (table.ofRun runId).map (OperationRow.revise condition change) := by
  simp [ofRun, updateWhere, List.filter_map, Function.comp_def]

/-- Rows with the same number are the same row. -/
theorem eq_of_id {table : OperationTable} {row other : OperationRow} (hrow : row ∈ table.rows)
    (hother : other ∈ table.rows) (hid : row.id = other.id) : row = other :=
  List.inj_on_of_nodup_map table.ids_unique hrow hother hid

/-- What a committed `INSERT` leaves behind. -/
theorem insert_eq_some {table table' : OperationTable} {runId : UUID} {kind : OperationKind}
    {keyDigest fingerprint : String} {requestedChanges : Option (Column (List RevisionChange))}
    {feedbackDigest : Option String} {createdAt : Datetime} {progress : OperationProgress}
    {row : OperationRow}
    (h : table.insert runId kind keyDigest fingerprint requestedChanges feedbackDigest createdAt
      progress = some (table', row)) :
    row = ⟨table.sequence + 1, runId, kind, keyDigest, fingerprint, requestedChanges,
        feedbackDigest, createdAt, progress⟩ ∧
      table'.rows = table.rows ++ [row] ∧ table'.sequence = table.sequence + 1 := by
  unfold insert at h
  split_ifs at h with hkey
  obtain ⟨rfl, rfl⟩ := Prod.mk.inj (Option.some.inj h)
  exact ⟨rfl, rfl, rfl⟩

theorem ofRun_of_rows_self {table table' : OperationTable} {row : OperationRow} {runId : UUID}
    (h : table'.rows = table.rows ++ [row]) (hrun : row.runId = runId) :
    table'.ofRun runId = table.ofRun runId ++ [row] := by
  simp [ofRun, h, hrun]

theorem ofRun_of_rows_ne {table table' : OperationTable} {row : OperationRow} {runId : UUID}
    (h : table'.rows = table.rows ++ [row]) (hrun : runId ≠ row.runId) :
    table'.ofRun runId = table.ofRun runId := by
  simp [ofRun, h, hrun.symm]

end OperationTable

structure Database where
  runs : Table UUID RunRow
  contexts : Table UUID ContextRow
  revisions : Table UUID RevisionRow
  operations : OperationTable

def Database.empty : Database where
  runs := Table.empty
  contexts := Table.empty
  revisions := Table.empty
  operations := OperationTable.empty

end CultureShift
