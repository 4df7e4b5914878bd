/-
# The repository

The public methods of the repository as programs over the world: the database,
and whatever else the collaborators of a request keep. Each `with` block of the
source is one atomic transaction. Opening the connection or committing may
fail, and then nothing is written.
-/

import CultureShift.Concurrent.Program
import CultureShift.Repository.Transactions

namespace CultureShift

open Serialization Relational Concurrent

/-- The database, and the state of everything outside it. -/
structure World (κ : Type) where
  database : Database
  rest : κ

/-- A repository over a database file, and the system clock it reads. -/
structure Repository (κ : Type) where
  /-- Open a connection. -/
  connect : Program κ Exc Unit
  utcNow : Program κ Exc Datetime
  connect_raises : connect.Raises (· = .databaseError)
  utcNow_raises : utcNow.Raises (·.isForeign = true)

variable {κ α : Type}

/-- A collaborator works outside the database. -/
def outside (program : Program κ Exc α) : Program (World κ) Exc α :=
  program.within World.rest fun rest world => { world with rest }

theorem solo_outside_iff {program : Program κ Exc α} {world last : World κ}
    {outcome : Except Exc α} :
    (outside program).Solo world outcome last ↔
      ∃ rest, program.Solo world.rest outcome rest ∧ last = { world with rest } := by
  unfold outside
  refine Program.solo_within_iff ?_ ?_ ?_
  · exact fun _ _ => rfl
  · exact fun _ _ _ => rfl
  · exact fun _ => rfl

namespace Repository

variable (repository : Repository κ)

def transaction (body : Database → Except Exc (α × Database)) : Program (World κ) Exc α := do
  outside repository.connect
  .transact fun world =>
    (body world.database).map fun (value, database) => (value, { world with database })

/-- A transaction that only reads. -/
def query (read : Database → Except Exc α) : Program (World κ) Exc α := do
  outside repository.connect
  .transact fun world => (read world.database).map fun value => (value, world)

def now : Program (World κ) Exc Datetime := outside repository.utcNow

/-- `given or utc_now()`. -/
def nowOr : Option Datetime → Program (World κ) Exc Datetime
  | some given => pure given
  | none => repository.now

def get (runId : UUID) : Program (World κ) Exc ProjectRun := repository.query (·.get runId)

def getRequest (runId : UUID) : Program (World κ) Exc RunCreate :=
  repository.query (·.getRequest runId)

def getAnalysis (runId : UUID) : Program (World κ) Exc (Option AdAnalysis) :=
  repository.query (·.getAnalysis runId)

def getRepairAttempted (runId : UUID) : Program (World κ) Exc Bool :=
  repository.query (·.getRepairAttempted runId)

def getConfirmedBrandLock (runId : UUID) :
    Program (World κ) Exc (Option BrandLockConfirmationRecord) :=
  repository.query (·.getConfirmedBrandLock runId)

def getDraft (runId : UUID) : Program (World κ) Exc (Option DraftRecord) :=
  repository.query (·.getDraft runId)

def getComposition (runId : UUID) : Program (World κ) Exc (Option CompositionGenerated) :=
  repository.query (·.getComposition runId)

def getCritique (runId : UUID) : Program (World κ) Exc (Option CritiqueRecord) :=
  repository.query (·.getCritique runId)

def getRevision (runId : UUID) : Program (World κ) Exc (Option RevisionRecord) :=
  repository.query (·.getRevision runId)

def create (run : ProjectRun) (request : Option RunCreate) : Program (World κ) Exc ProjectRun := do
  repository.transaction (Database.create run request)
  return run

/-- The transition is checked on the run as read; the write does not look at
the stored status again. -/
def updateStatus (runId : UUID) (status : ProjectRunStatus) :
    Program (World κ) Exc ProjectRun := do
  let current ← repository.get runId
  let updated ← current.withStatus repository.now status none
  repository.transaction (Database.updateStatus updated.id updated.status updated.updatedAt)
  return updated

def claimAnalysis (runId : UUID) : Program (World κ) Exc (Option ProjectRun) := do
  let claimedAt ← repository.now
  let claimed ← repository.transaction (Database.claimAnalysis runId claimedAt)
  let run ← repository.get runId
  return if claimed then some run else none

def completeAnalysis (runId : UUID) (analysis : AdAnalysis) (repairAttempted : Bool) :
    Program (World κ) Exc ProjectRun := do
  let current ← repository.get runId
  let request ← repository.getRequest runId
  Program.ofExcept <| require
    (analysis.sourceAsset = request.sourceAsset ∧ analysis.brandLock = request.brandLock)
    (.valueError "analysis must match the stored request")
  let updated ← current.withStatus repository.now .awaitingBrandLock none
  repository.transaction
    (Database.completeAnalysis runId analysis repairAttempted updated.status updated.updatedAt)
  return updated

/-- Like `updateStatus`, with a warning code added to the run as read. -/
def recordFailure (runId : UUID) (status : ProjectRunStatus) (code : String) :
    Program (World κ) Exc ProjectRun := do
  Program.ofExcept <| require (status = .blocked ∨ status = .failed)
    (.valueError "failure status must be blocked or failed")
  let current ← repository.get runId
  let transitioned ← current.withStatus repository.now status none
  let updated ← Program.ofExcept <|
    ProjectRun.validate transitioned.id transitioned.direction transitioned.status
      (current.warningCodes ++ [code]) transitioned.initialGenerationCount
      transitioned.humanRevisionCount transitioned.technicalAttemptCount transitioned.createdAt
      transitioned.updatedAt
  repository.transaction
    (Database.recordFailure updated.id updated.status updated.warningCodes updated.updatedAt)
  return updated

def confirmBrandLock (runId : UUID) (proposed : BrandLock) (confirmedAt : Option Datetime) :
    Program (World κ) Exc BrandLockConfirmationRecord := do
  let confirmationTime ← repository.nowOr confirmedAt
  repository.transaction (Database.confirmBrandLock runId proposed confirmationTime)

def saveDraft (runId : UUID) (brief : CreativeBrief) (adCopy : AdCopy)
    (factReferences ruleIds : List String) (generatedAt : Option Datetime) :
    Program (World κ) Exc DraftRecord := do
  let generationTime ← repository.nowOr generatedAt
  repository.transaction
    (Database.saveDraft runId ⟨brief, adCopy, factReferences, ruleIds, generationTime⟩)

def saveComposition (runId : UUID) (composition : CompositionGenerated) :
    Program (World κ) Exc CompositionGenerated := do
  Program.ofExcept <| require (composition.runId = runId)
    (.invalidRunStateError "composition run mismatch")
  repository.transaction (Database.saveComposition runId composition)

def saveCritique (runId : UUID) (report : CritiqueReport) :
    Program (World κ) Exc CritiqueRecord :=
  repository.transaction (Database.saveCritique runId report)

def incrementTechnicalAttempt (runId : UUID) : Program (World κ) Exc ProjectRun := do
  repository.transaction (Database.incrementTechnicalAttempt runId)
  repository.get runId

def claimFeedbackOperation (runId : UUID) (keyDigest fingerprint : String)
    (requestedChanges : List RevisionChange) (feedbackDigest : String) (claimedAt : Datetime) :
    Program (World κ) Exc OperationRecord :=
  repository.transaction
    (Database.claimFeedbackOperation runId keyDigest fingerprint requestedChanges feedbackDigest
      claimedAt)

def failRevisionOperation (runId : UUID) (operationId : Nat) (condition : RetryCondition)
    (action : RetryAction) (failedAt : Datetime) : Program (World κ) Exc OperationRecord :=
  repository.transaction
    (Database.failRevisionOperation runId operationId condition action failedAt)

def claimRetryOperation (runId : UUID) (keyDigest fingerprint : String) (claimedAt : Datetime) :
    Program (World κ) Exc OperationRecord :=
  repository.transaction (Database.claimRetryOperation runId keyDigest fingerprint claimedAt)

/-- The write and the read back are two transactions. -/
def completeRevision (runId : UUID) (operationId : Nat) (revision : RevisionRecord)
    (publicResponse : RevisionCompleted) : Program (World κ) Exc RevisionRecord := do
  repository.transaction (Database.completeRevision runId operationId revision publicResponse)
  let stored ← repository.getRevision runId
  Program.ofExcept <| orRaise stored (.other "AssertionError")

end Repository

end CultureShift
