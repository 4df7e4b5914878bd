/-
# Reading the database

The records the repository hands out, and the queries that build them. Stored
JSON is validated again on the way out; a row whose columns do not fit together
is reported instead of returned.
-/

import CultureShift.Database
import CultureShift.Relational.Transaction

namespace CultureShift

open Serialization Relational

@[ext]
structure BrandLockConfirmationRecord where
  brandLock : BrandLock
  confirmedAt : Datetime
deriving DecidableEq

@[ext]
structure DraftRecord where
  brief : CreativeBrief
  adCopy : AdCopy
  factReferences : List String
  ruleIds : List String
  generatedAt : Datetime
deriving DecidableEq

structure CritiqueRecord where
  report : CritiqueReport
  reviewedAt : Datetime
deriving DecidableEq

structure RevisionRecord where
  runId : UUID
  resultVersion : Int
  requestedChanges : List RevisionChange
  feedbackDigest : String
  draft : DraftRecord
  composition : CompositionGenerated
  critique : CritiqueReport
  revisedAt : Datetime
deriving DecidableEq

structure OperationRecord where
  id : Nat
  runId : UUID
  kind : OperationKind
  keyDigest : String
  fingerprint : String
  state : OperationState
  requestedChanges : List RevisionChange
  feedbackDigest : Option String
  retryCondition : Option RetryCondition
  retryAction : Option RetryAction
  publicResponse : Option RevisionCompleted
  createdAt : Datetime
  updatedAt : Datetime

/-- The verified facts as plain text, the way drafts refer to them. -/
def BrandLock.facts (lock : BrandLock) : List String := lock.verifiedProductFacts.map (·.text)

/-- Read a JSON column; text that does not validate is an error. -/
def load {α : Type} [Codec α] (column : Column α) : Except Exc α := validated column.load?

@[simp]
theorem load_dump {α : Type} [Codec α] (value : α) : load (Column.dump value) = .ok value := by
  simp [load]

/-- `_confirmation_record`. -/
def confirmationRecord :
    Option (Column BrandLock) → Option Datetime →
      Except Exc (Option BrandLockConfirmationRecord)
  | none, none => .ok none
  | some encoded, some confirmedAt => do
      let brandLock ← load encoded
      return some ⟨brandLock, confirmedAt⟩
  | _, _ => .error (.valueError "invalid Brand Lock confirmation state")

/-- `_draft_record`. -/
def draftRecord :
    Option (Column CreativeBrief) → Option (Column AdCopy) → Option (Column (List String)) →
      Option (Column (List String)) → Option Datetime → Except Exc (Option DraftRecord)
  | none, none, none, none, none => .ok none
  | some creativeBrief, some adCopy, some factReferences, some ruleIds, some generatedAt => do
      let factReferences ← load factReferences
      let ruleIds ← load ruleIds
      let brief ← load creativeBrief
      let adCopy ← load adCopy
      return some ⟨brief, adCopy, factReferences, ruleIds, generatedAt⟩
  | _, _, _, _, _ => .error (.valueError "invalid draft persistence state")

/-- `_critique_record`. -/
def critiqueRecord :
    Option (Column CritiqueReport) → Option Datetime → Except Exc (Option CritiqueRecord)
  | none, none => .ok none
  | some encoded, some reviewedAt => do
      let report ← load encoded
      require (reviewedAt = report.reviewedAt) (.valueError "invalid Critic persistence state")
      return some ⟨report, reviewedAt⟩
  | _, _ => .error (.valueError "invalid Critic persistence state")

/-- A nullable JSON column. -/
def loadOption {α : Type} [Codec α] : Option (Column α) → Except Exc (Option α)
  | none => .ok none
  | some column => (load column).map some

@[simp]
theorem loadOption_map_dump {α : Type} [Codec α] (value : Option α) :
    loadOption (value.map Column.dump) = .ok value := by
  cases value <;> simp [loadOption, Except.map]

/-- `_operation_record`. -/
def operationRecord (row : OperationRow) : Except Exc OperationRecord := do
  let requestedChanges ← loadOption row.requestedChanges
  let publicResponse ← loadOption row.progress.publicResponse
  pure
    { id := row.id
      runId := row.runId
      kind := row.kind
      keyDigest := row.keyDigest
      fingerprint := row.fingerprint
      state := row.progress.state
      requestedChanges := requestedChanges.getD []
      feedbackDigest := row.feedbackDigest
      retryCondition := row.progress.retryCondition
      retryAction := row.progress.retryAction
      publicResponse
      createdAt := row.createdAt
      updatedAt := row.progress.updatedAt }

theorem exists_load {α : Type} [Codec α] (column : Column α) :
    ∃ value, load column = .ok value := by
  obtain ⟨value, rfl⟩ := column.exists_dump
  exact ⟨value, load_dump value⟩

theorem exists_loadOption {α : Type} [Codec α] (column : Option (Column α)) :
    ∃ value, loadOption column = .ok value := by
  cases column with
  | none => exact ⟨none, rfl⟩
  | some column =>
      obtain ⟨value, rfl⟩ := column.exists_dump
      exact ⟨some value, loadOption_map_dump (some value)⟩

theorem exists_operationRecord (row : OperationRow) :
    ∃ record, operationRecord row = .ok record := by
  obtain ⟨changes, hchanges⟩ := exists_loadOption row.requestedChanges
  obtain ⟨response, hresponse⟩ := exists_loadOption row.progress.publicResponse
  simp only [operationRecord, hchanges, hresponse, ok_bind]
  exact ⟨_, rfl⟩

theorem operationRecord_ne_error {row : OperationRow} {failure : Exc} :
    operationRecord row ≠ .error failure := by
  obtain ⟨record, hrecord⟩ := exists_operationRecord row
  intro hfailed
  rw [hrecord] at hfailed
  cases hfailed

/-- `_revision_record`. -/
def revisionRecord (runId : UUID) (row : RevisionRow) : Except Exc RevisionRecord := do
  let requestedChanges ← load row.requestedChanges
  let brief ← load row.creativeBrief
  let adCopy ← load row.adCopy
  let factReferences ← load row.factReferences
  let ruleIds ← load row.ruleIds
  let composition ← load row.composition
  let critique ← load row.critique
  pure
    { runId
      resultVersion := row.resultVersion
      requestedChanges
      feedbackDigest := row.feedbackDigest
      draft := ⟨brief, adCopy, factReferences, ruleIds, row.revisedAt⟩
      composition
      critique
      revisedAt := row.revisedAt }

namespace Database

/-- The row of `project_run_contexts`, which every query of a single artifact
requires. -/
def contextOf (db : Database) (runId : UUID) : Except Exc ContextRow :=
  orRaise (db.contexts.find runId) (.projectRunNotFoundError runId)

def getRequest (db : Database) (runId : UUID) : Except Exc RunCreate := do
  let row ← db.contextOf runId
  load row.request

def getAnalysis (db : Database) (runId : UUID) : Except Exc (Option AdAnalysis) := do
  let row ← db.contextOf runId
  loadOption row.analysis

def getRepairAttempted (db : Database) (runId : UUID) : Except Exc Bool := do
  let row ← db.contextOf runId
  require (row.repairAttempted ≤ 1) (.valueError "invalid repair attempt state")
  return row.repairAttempted == 1

def getConfirmedBrandLock (db : Database) (runId : UUID) :
    Except Exc (Option BrandLockConfirmationRecord) := do
  let row ← db.contextOf runId
  confirmationRecord row.confirmedBrandLock row.brandLockConfirmedAt

def getDraft (db : Database) (runId : UUID) : Except Exc (Option DraftRecord) := do
  let row ← db.contextOf runId
  draftRecord row.creativeBrief row.adCopy row.draftFactReferences row.draftRuleIds
    row.draftGeneratedAt

def getComposition (db : Database) (runId : UUID) : Except Exc (Option CompositionGenerated) := do
  let row ← db.contextOf runId
  loadOption row.composition

def getCritique (db : Database) (runId : UUID) : Except Exc (Option CritiqueRecord) := do
  let row ← db.contextOf runId
  critiqueRecord row.critique row.criticReviewedAt

/-- The one query that does not require a context row. -/
def getRevision (db : Database) (runId : UUID) : Except Exc (Option RevisionRecord) :=
  match db.revisions.find runId with
  | none => .ok none
  | some row => (revisionRecord runId row).map some

/-- The run with the counters of its context; a run without one counts
nothing. -/
def get (db : Database) (runId : UUID) : Except Exc ProjectRun := do
  let row ← orRaise (db.runs.find runId) (.projectRunNotFoundError runId)
  let context := db.contexts.find runId
  let warningCodes ← load row.warningCodes
  ProjectRun.validate runId row.direction row.status warningCodes
    ((context.map ContextRow.initialGenerationCount).getD 0)
    ((context.map ContextRow.humanRevisionCount).getD 0)
    ((context.map ContextRow.technicalAttemptCount).getD 0) row.createdAt row.updatedAt

/-- The `LEFT JOIN` of a run with its context. -/
def joined (db : Database) (runId : UUID) : Except Exc (RunRow × Option ContextRow) := do
  let row ← orRaise (db.runs.find runId) (.projectRunNotFoundError runId)
  return (row, db.contexts.find runId)

end Database

end CultureShift
