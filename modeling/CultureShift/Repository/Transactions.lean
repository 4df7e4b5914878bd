/-
# Changing the database

The body of every transaction that writes, one definition per `with` block of
the repository. A body reads the database it finds and returns the one it
leaves; a body that raises leaves nothing.
-/

import CultureShift.BrandLockConfirmation
import CultureShift.Repository.Queries

namespace CultureShift

open Serialization Relational

namespace Database

/-- An integrity error: a uniqueness constraint that no `except` clause of the
method expects. -/
abbrev integrityError : Exc := .databaseError

def create (run : ProjectRun) (request : Option RunCreate) (db : Database) :
    Except Exc (Unit × Database) := do
  let row : RunRow :=
    { direction := run.direction
      status := run.status
      warningCodes := .dump run.warningCodes
      createdAt := run.createdAt
      updatedAt := run.updatedAt }
  let runs ← orRaise (db.runs.insert run.id row) (.duplicateProjectRunError run.id)
  match request with
  | none => return ((), { db with runs })
  | some request =>
      require (request.direction = run.direction)
        (.valueError "run direction must match request direction")
      let context : ContextRow :=
        { request := .dump request
          analysis := none
          repairAttempted := 0
          confirmedBrandLock := none
          brandLockConfirmedAt := none
          creativeBrief := none
          adCopy := none
          draftFactReferences := none
          draftRuleIds := none
          draftGeneratedAt := none
          composition := none
          critique := none
          criticReviewedAt := none
          initialGenerationCount := 0
          humanRevisionCount := 0
          technicalAttemptCount := 0 }
      let contexts ← orRaise (db.contexts.insert run.id context) (.duplicateProjectRunError run.id)
      return ((), { db with runs, contexts })

/-- `UPDATE project_runs SET status = ?, updated_at = ? WHERE id = ?`, whatever
the stored status is. -/
def updateStatus (runId : UUID) (status : ProjectRunStatus) (updatedAt : Datetime)
    (db : Database) : Except Exc (Unit × Database) := do
  let runs ← orRaise
    (db.runs.updateWhere runId (fun _ => true) fun row => { row with status, updatedAt })
    (.projectRunNotFoundError runId)
  return ((), { db with runs })

/-- Whether the claim met a pending run. -/
def claimAnalysis (runId : UUID) (claimedAt : Datetime) (db : Database) :
    Except Exc (Bool × Database) :=
  match db.runs.updateWhere runId (fun row => row.status = .pending) fun row =>
      { row with status := .inProgress, updatedAt := claimedAt } with
  | some runs => .ok (true, { db with runs })
  | none => .ok (false, db)

def completeAnalysis (runId : UUID) (analysis : AdAnalysis) (repairAttempted : Bool)
    (status : ProjectRunStatus) (updatedAt : Datetime) (db : Database) :
    Except Exc (Unit × Database) := do
  let contexts ← orRaise
    (db.contexts.updateWhere runId (fun _ => true) fun context =>
      { context with
        analysis := some (.dump analysis)
        repairAttempted := repairAttempted.toNat })
    (.projectRunNotFoundError runId)
  let runs ← orRaise
    (db.runs.updateWhere runId (fun row => row.status = .inProgress) fun row =>
      { row with status, updatedAt })
    (.projectRunNotFoundError runId)
  return ((), { db with contexts, runs })

def recordFailure (runId : UUID) (status : ProjectRunStatus) (warningCodes : List String)
    (updatedAt : Datetime) (db : Database) : Except Exc (Unit × Database) := do
  let runs ← orRaise
    (db.runs.updateWhere runId (fun _ => true) fun row =>
      { row with status, warningCodes := .dump warningCodes, updatedAt })
    (.projectRunNotFoundError runId)
  return ((), { db with runs })

def confirmBrandLock (runId : UUID) (proposed : BrandLock) (confirmedAt : Datetime)
    (db : Database) : Except Exc (BrandLockConfirmationRecord × Database) := do
  let (row, context) ← db.joined runId
  let existing ← confirmationRecord (context.bind (·.confirmedBrandLock))
    (context.bind (·.brandLockConfirmedAt))
  match existing with
  | some existing =>
      require (existing.brandLock = proposed) (.brandLockImmutableError "Brand Lock is immutable")
      return (existing, db)
  | none =>
      require (row.createdAt ≤ confirmedAt)
        (.valueError "confirmed_at cannot precede run creation")
      require (row.status = .awaitingBrandLock)
        (.invalidRunStateError "run is not awaiting Brand Lock")
      let encoded ← orRaise (context.bind (·.analysis))
        (.invalidRunStateError "validated analysis is required")
      let analysis ← load encoded
      let validated ← validateBrandLockConfirmation proposed analysis.brandLock
      let contexts ← orRaise
        (db.contexts.updateWhere runId (fun context => context.confirmedBrandLock.isNone)
          fun context =>
            { context with
              confirmedBrandLock := some (.dump validated)
              brandLockConfirmedAt := some confirmedAt })
        (.brandLockImmutableError "Brand Lock is immutable")
      let runs ← orRaise
        (db.runs.updateWhere runId (fun row => row.status = .awaitingBrandLock) fun row =>
          { row with status := .inProgress, updatedAt := confirmedAt })
        (.invalidRunStateError "run is not awaiting Brand Lock")
      return (⟨validated, confirmedAt⟩, { db with contexts, runs })

def saveDraft (runId : UUID) (draft : DraftRecord) (db : Database) :
    Except Exc (DraftRecord × Database) := do
  let (row, context) ← db.joined runId
  let existing ← draftRecord (context.bind (·.creativeBrief)) (context.bind (·.adCopy))
    (context.bind (·.draftFactReferences)) (context.bind (·.draftRuleIds))
    (context.bind (·.draftGeneratedAt))
  match existing with
  | some existing =>
      require
        (existing.brief = draft.brief ∧ existing.adCopy = draft.adCopy ∧
          existing.factReferences = draft.factReferences ∧ existing.ruleIds = draft.ruleIds)
        (.draftImmutableError "draft is immutable")
      return (existing, db)
  | none =>
      require (row.status = .inProgress)
        (.invalidRunStateError "confirmed in-progress run required")
      let encoded ← orRaise (context.bind (·.confirmedBrandLock))
        (.invalidRunStateError "confirmed in-progress run required")
      let confirmed ← load encoded
      require (draft.brief.brandLock = confirmed)
        (.invalidRunStateError "draft Brand Lock must match confirmation")
      require
        (draft.factReferences ≠ [] ∧ ∀ fact ∈ draft.factReferences, fact ∈ confirmed.facts)
        (.invalidRunStateError "draft fact references must be verified")
      let contexts ← orRaise
        (db.contexts.updateWhere runId
          (fun context =>
            context.creativeBrief.isNone && context.adCopy.isNone &&
              context.draftFactReferences.isNone && context.draftRuleIds.isNone &&
              context.draftGeneratedAt.isNone)
          fun context =>
            { context with
              creativeBrief := some (.dump draft.brief)
              adCopy := some (.dump draft.adCopy)
              draftFactReferences := some (.dump draft.factReferences)
              draftRuleIds := some (.dump draft.ruleIds)
              draftGeneratedAt := some draft.generatedAt })
        (.draftImmutableError "draft is immutable")
      return (draft, { db with contexts })

def saveComposition (runId : UUID) (composition : CompositionGenerated) (db : Database) :
    Except Exc (CompositionGenerated × Database) := do
  let (row, context) ← db.joined runId
  match context.bind (·.composition) with
  | some encoded =>
      let existing ← load encoded
      require (existing = composition) (.compositionImmutableError "composition is immutable")
      return (existing, db)
  | none =>
      require (row.status = .inProgress)
        (.invalidRunStateError "confirmed drafted run required")
      let encoded ← orRaise (context.bind (·.confirmedBrandLock))
        (.invalidRunStateError "confirmed drafted run required")
      require ((context.bind (·.draftGeneratedAt)).isSome)
        (.invalidRunStateError "confirmed drafted run required")
      let confirmed ← load encoded
      require
        (layerSource composition.layers .logo = some confirmed.logoAssetId ∧
          ∃ assetId ∈ confirmed.productUiAssetIds,
            layerSource composition.layers .productUi = some assetId)
        (.invalidRunStateError "composition Brand Lock mismatch")
      let contexts ← orRaise
        (db.contexts.updateWhere runId
          (fun context => context.composition.isNone && context.initialGenerationCount == 0)
          fun context =>
            { context with
              composition := some (.dump composition)
              initialGenerationCount := 1 })
        (.compositionImmutableError "composition is immutable")
      return (composition, { db with contexts })

/-- The status a reviewed version ends in. -/
def reviewedStatus (report : CritiqueReport) : ProjectRunStatus :=
  if report.status = .reject then .failedFinal else .ready

def saveCritique (runId : UUID) (report : CritiqueReport) (db : Database) :
    Except Exc (CritiqueRecord × Database) := do
  let (row, context) ← db.joined runId
  require (row.createdAt ≤ report.reviewedAt)
    (.invalidRunStateError "Critic time precedes Run creation")
  let existing ← critiqueRecord (context.bind (·.critique)) (context.bind (·.criticReviewedAt))
  match existing with
  | some existing =>
      require (existing.report = report)
        (.critiqueImmutableError "Critic result is immutable")
      return (existing, db)
  | none =>
      require
        (row.status = .inProgress ∧ (context.bind (·.confirmedBrandLock)).isSome ∧
          (context.bind (·.draftGeneratedAt)).isSome ∧ (context.bind (·.composition)).isSome ∧
          context.map (·.initialGenerationCount) = some 1)
        (.invalidRunStateError "one composed in-progress run is required")
      let contexts ← orRaise
        (db.contexts.updateWhere runId
          (fun context => context.critique.isNone && context.criticReviewedAt.isNone)
          fun context =>
            { context with
              critique := some (.dump report)
              criticReviewedAt := some report.reviewedAt })
        (.critiqueImmutableError "Critic result is immutable")
      let runs ← orRaise
        (db.runs.updateWhere runId (fun row => row.status = .inProgress) fun row =>
          { row with status := reviewedStatus report, updatedAt := report.reviewedAt })
        (.invalidRunStateError "one composed in-progress run is required")
      return (⟨report, report.reviewedAt⟩, { db with contexts, runs })

def incrementTechnicalAttempt (runId : UUID) (db : Database) : Except Exc (Unit × Database) := do
  let contexts ← orRaise
    (db.contexts.updateWhere runId (fun _ => true) fun context =>
      { context with technicalAttemptCount := context.technicalAttemptCount + 1 })
    (.projectRunNotFoundError runId)
  return ((), { db with contexts })

/-! ## Operations -/

/-- What both claims make of an earlier operation under the same key. -/
def replay (row : OperationRow) (fingerprint message : String) : Except Exc OperationRecord := do
  let record ← operationRecord row
  require (record.fingerprint = fingerprint)
    (.idempotencyConflictError "idempotency fingerprint mismatch")
  require (record.state = .succeeded) (.operationInProgressError message)
  return record

def claimFeedbackOperation (runId : UUID) (keyDigest fingerprint : String)
    (requestedChanges : List RevisionChange) (feedbackDigest : String) (claimedAt : Datetime)
    (db : Database) : Except Exc (OperationRecord × Database) :=
  match db.operations.find fun row =>
      row.runId = runId && (row.kind = .feedback && row.keyDigest = keyDigest) with
  | some existing => do
      let record ← replay existing fingerprint "operation is not replayable yet"
      return (record, db)
  | none => do
      require (db.revisions.find runId).isNone
        (.revisionLimitReachedError "one revision already exists")
      require
        (db.operations.find fun row =>
          row.runId = runId &&
            (row.kind = .feedback && row.progress.state = .inProgress)).isNone
        (.operationInProgressError "another feedback operation is active")
      let run ← orRaise (db.runs.find runId) (.projectRunNotFoundError runId)
      require (run.status = .ready) (.invalidRunStateError "ready Run required")
      let (operations, row) ← orRaise
        (db.operations.insert runId .feedback keyDigest fingerprint
          (some (.dump requestedChanges)) (some feedbackDigest) claimedAt
          ⟨.inProgress, none, none, none, claimedAt⟩)
        integrityError
      let runs ← orRaise
        (db.runs.updateWhere runId (fun row => row.status = .ready) fun row =>
          { row with status := .inProgress, updatedAt := claimedAt })
        (.operationInProgressError "feedback claim lost")
      let record ← operationRecord row
      return (record, { db with operations, runs })

/-- Where a failed operation leaves the run, by the stored decision. -/
def failedStatus (action : RetryAction) : ProjectRunStatus :=
  if action.isRetryable then .failedRetryable else .failedFinal

/-- Where a failed operation is left itself. -/
def failedState (action : RetryAction) : OperationState :=
  if action.isRetryable then .failedRetryable else .failedFinal

/-- The run moves to the target whatever its stored status is. -/
def failRevisionOperation (runId : UUID) (operationId : Nat) (condition : RetryCondition)
    (action : RetryAction) (failedAt : Datetime) (db : Database) :
    Except Exc (OperationRecord × Database) := do
  let isActive (row : OperationRow) : Bool :=
    row.runId = runId && (row.id == operationId && row.progress.state = .inProgress)
  require (db.operations.find isActive).isSome (.invalidRunStateError "active operation required")
  let operations := db.operations.updateWhere isActive fun progress =>
    { progress with
      state := failedState action
      retryCondition := some condition
      retryAction := some action
      updatedAt := failedAt }
  let runs := db.runs.update runId fun row =>
    { row with status := failedStatus action, updatedAt := failedAt }
  let row ← orRaise (operations.find fun row => row.id == operationId) (.other "AssertionError")
  let record ← operationRecord row
  return (record, { db with operations, runs })

def claimRetryOperation (runId : UUID) (keyDigest fingerprint : String) (claimedAt : Datetime)
    (db : Database) : Except Exc (OperationRecord × Database) :=
  match db.operations.find fun row =>
      row.runId = runId && (row.kind = .retry && row.keyDigest = keyDigest) with
  | some existing => do
      let record ← replay existing fingerprint "retry is not replayable yet"
      return (record, db)
  | none => do
      let run ← orRaise (db.runs.find runId) (.projectRunNotFoundError runId)
      require (run.status = .failedRetryable)
        (.invalidRunStateError "server-authorized retry required")
      -- `ORDER BY id DESC LIMIT 1`: rows stand in the order of their numbers.
      let source ← orRaise
        ((db.operations.ofRun runId).filter fun row =>
          row.kind = .feedback && row.progress.state = .failedRetryable).getLast?
        (.invalidRunStateError "stored retry decision required")
      let sourceRecord ← operationRecord source
      let (operations, row) ← orRaise
        (db.operations.insert runId .retry keyDigest fingerprint
          (some (.dump sourceRecord.requestedChanges)) sourceRecord.feedbackDigest claimedAt
          ⟨.inProgress, sourceRecord.retryCondition, sourceRecord.retryAction, none, claimedAt⟩)
        integrityError
      let contexts := db.contexts.update runId fun context =>
        { context with technicalAttemptCount := context.technicalAttemptCount + 1 }
      let runs := db.runs.update runId fun row =>
        { row with status := .inProgress, updatedAt := claimedAt }
      let record ← operationRecord row
      return (record, { db with operations, contexts, runs })

/-- The operation must be active; the status of the run is not looked at. -/
def completeRevision (runId : UUID) (operationId : Nat) (revision : RevisionRecord)
    (publicResponse : RevisionCompleted) (db : Database) : Except Exc (Unit × Database) := do
  let operation ← orRaise
    (db.operations.find fun row => row.runId = runId && row.id == operationId)
    (.invalidRunStateError "active revision operation required")
  require (operation.progress.state = .inProgress)
    (.invalidRunStateError "active revision operation required")
  -- The statement inserts the literal 2, whatever version the record names.
  let row : RevisionRow :=
    { resultVersion := 2
      requestedChanges := .dump revision.requestedChanges
      feedbackDigest := revision.feedbackDigest
      creativeBrief := .dump revision.draft.brief
      adCopy := .dump revision.draft.adCopy
      factReferences := .dump revision.draft.factReferences
      ruleIds := .dump revision.draft.ruleIds
      composition := .dump revision.composition
      critique := .dump revision.critique
      revisedAt := revision.revisedAt }
  let revisions ← orRaise (db.revisions.insert runId row)
    (.revisionLimitReachedError "one revision already exists")
  let contexts ← orRaise
    (db.contexts.updateWhere runId (fun context => context.humanRevisionCount == 0) fun context =>
      { context with humanRevisionCount := 1 })
    (.revisionLimitReachedError "one revision already exists")
  let succeed (progress : OperationProgress) : OperationProgress :=
    { progress with
      state := .succeeded
      publicResponse := some (.dump publicResponse)
      updatedAt := revision.revisedAt }
  let operations := db.operations.updateWhere
    (fun row => row.id == operationId && row.progress.state = .inProgress) succeed
  let operations :=
    if operation.kind = .retry then
      operations.updateWhere
        (fun row => row.runId = runId &&
          (row.kind = .feedback && row.progress.state = .failedRetryable))
        succeed
    else operations
  let runs := db.runs.update runId fun row =>
    { row with status := reviewedStatus revision.critique, updatedAt := revision.revisedAt }
  return ((), { runs, contexts, revisions, operations })

end Database

end CultureShift
