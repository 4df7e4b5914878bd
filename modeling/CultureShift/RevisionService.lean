/-
# Revising a version

Feedback and retry claim an operation, produce a second version from the stored
first one, and complete or fail the operation. Requests are recognised again by
the digest of their key and of their canonical text.
-/

import CultureShift.CompositionService
import CultureShift.Critic
import CultureShift.Revision
import CultureShift.Serialization.Text

namespace CultureShift

open Serialization Relational Concurrent

variable {κ α : Type}

structure RevisionService (κ : Type) where
  repository : Repository κ
  revise : LocalizationDirection → DraftRecord → List RevisionChange →
    Program κ Exc RevisionArtifacts
  studio : Studio κ
  review : CriticRequest → Program κ Exc CritiqueReport
  /-- `sha256(value.encode("utf-8")).hexdigest()` -/
  digest : String → String

/-- `_IDEMPOTENCY_KEY`: `[A-Za-z0-9_-]{16,128}` -/
def isIdempotencyKey (key : String) : Bool :=
  (16 ≤ key.toList.length && key.toList.length ≤ 128) &&
    key.toList.all fun c => isAlphanumeric c || c == '_' || c == '-'

namespace RevisionService

variable (service : RevisionService κ)

def fail (code : RevisionServiceErrorCode) : Program (World κ) Exc α :=
  .raise (.revisionServiceError code)

/-- `_key_digest`. -/
def keyDigest (key : String) : Except Exc String := do
  require (isIdempotencyKey key = true) (.revisionServiceError .invalidRevisionRequest)
  return service.digest key

/-- `_fingerprint`. -/
def fingerprint {ρ : Type} [Codec ρ] (request : ρ) : String :=
  service.digest (encode request).canonical

/-- The exceptions both claims translate. -/
def isClaimError : Exc → Bool
  | .projectRunNotFoundError _ | .idempotencyConflictError _ | .operationInProgressError _
  | .revisionLimitReachedError _ | .invalidRunStateError _ => true
  | _ => false

/-- `_map_repository_error`. -/
def mapRepositoryError : Exc → RevisionServiceErrorCode
  | .projectRunNotFoundError _ => .runNotFound
  | .idempotencyConflictError _ => .idempotencyConflict
  | .operationInProgressError _ => .operationInProgress
  | .revisionLimitReachedError _ => .revisionLimitReached
  | _ => .invalidRunState

/-- The code of a failure that no other branch names. -/
def failureCode (retrying : Bool) : RevisionServiceErrorCode :=
  if retrying then .retryFailed else .revisionFailed

/-- A rendered second version, before its artifact is described. -/
structure Rendered where
  run : ProjectRun
  analysis : AdAnalysis
  confirmation : BrandLockConfirmationRecord
  previous : CompositionGenerated
  revised : RevisionArtifacts
  composed : ComposedAd
  stored : StoredCompositionArtifact
  now : Datetime

/-- The first half of the `try` block of `_execute`, up to the point where the
artifact is saved. -/
def renderRevision (operation : OperationRecord) (artifactId : UUID) :
    Program (World κ) Exc Rendered := do
  let run ← service.repository.get operation.runId
  let request ← service.repository.getRequest operation.runId
  let analysis ← service.repository.getAnalysis operation.runId
  let confirmation ← service.repository.getConfirmedBrandLock operation.runId
  let originalDraft ← service.repository.getDraft operation.runId
  let previous ← service.repository.getComposition operation.runId
  let previousCritique ← service.repository.getCritique operation.runId
  let incomplete : Exc := .invalidRunStateError "complete reviewed version one required"
  Program.ofExcept <| require (request.executionMode = .fixture) incomplete
  let analysis ← Program.ofExcept <| orRaise analysis incomplete
  let confirmation ← Program.ofExcept <| orRaise confirmation incomplete
  let originalDraft ← Program.ofExcept <| orRaise originalDraft incomplete
  let previous ← Program.ofExcept <| orRaise previous incomplete
  let previousCritique ← Program.ofExcept <| orRaise previousCritique incomplete
  Program.ofExcept <| require (previousCritique.report.status ≠ .reject) incomplete
  let revised ← outside <|
    service.revise run.direction originalDraft operation.requestedChanges
  let now ← service.repository.now
  let composed ← service.studio.render run confirmation.brandLock revised.brief revised.adCopy
  let stored ← service.studio.saveArtifact artifactId composed now
  return { run, analysis, confirmation, previous, revised, composed, stored, now }

/-- The second half: describe and review the version, then complete the
operation. -/
def finishRevision (operation : OperationRecord) (artifactId : UUID) (rendered : Rendered) :
    Program (World κ) Exc RevisionCompleted := do
  let { run, analysis, confirmation, previous, revised, composed, stored, now } := rendered
  let composition ← Program.ofExcept <| describeArtifact run.id artifactId composed stored now
  let revisedDraft : DraftRecord :=
    ⟨revised.brief, revised.adCopy, revised.factReferences, revised.ruleIds, now⟩
  let report ← outside <| service.review
    { analysis
      confirmedBrandLock := confirmation.brandLock
      draft := revisedDraft
      composition
      warningCodes := run.warningCodes }
  let current ← service.repository.get run.id
  let response ← Program.ofExcept <| validated <|
    RevisionCompleted.validate run.id (Database.reviewedStatus report) previous revised.brief
      revised.adCopy composition report current.technicalAttemptCount report.reviewedAt
  let revision : RevisionRecord :=
    { runId := run.id
      resultVersion := 2
      requestedChanges := operation.requestedChanges
      feedbackDigest :=
        match operation.feedbackDigest with
        | some digest => if digest = "" then service.digest "" else digest
        | none => service.digest ""
      draft := revisedDraft
      composition
      critique := report
      revisedAt := report.reviewedAt }
  let _ ← service.repository.completeRevision run.id operation.id revision response
  return response

/-- The failures after which the operation is released; the clock is read and
the release is attempted with every exception suppressed. -/
def release (operation : OperationRecord) (retrying : Bool) : Program (World κ) Exc Unit :=
  Program.tryCatch
    (do
      let failedAt ← service.repository.now
      let _ ← service.repository.failRevisionOperation operation.runId operation.id
        .connectionBeforeAcceptance (if retrying then .doNotRetry else .retryOnce) failedAt)
    fun _ => pure ()

/-- The `except` clauses of `_execute`. -/
def recover (operation : OperationRecord) (retrying : Bool) (artifactId : UUID)
    (artifactSaved : Bool) (error : Exc) : Program (World κ) Exc RevisionCompleted := do
  if artifactSaved then
    let _ ← outside (service.studio.artifactStore.delete artifactId)
  match error with
  | .idempotencyConflictError _ | .operationInProgressError _ | .revisionLimitReachedError _ =>
      fail (mapRepositoryError error)
  | .invalidRunStateError _ => fail .invalidRunState
  | .compositionError | .compositionArtifactError _ | .fixtureAssetError | .imageProviderError
  | .indexError | .validationError =>
      service.release operation retrying
      fail (failureCode retrying)
  | _ => fail (failureCode retrying)

/-- `_execute`. An exception before the artifact is saved leaves nothing to
delete. -/
def execute (operation : OperationRecord) (retrying : Bool) :
    Program (World κ) Exc RevisionCompleted := do
  let artifactId ← outside service.studio.uuid4
  match ← (service.renderRevision operation artifactId).attempt with
  | .error error => service.recover operation retrying artifactId false error
  | .ok rendered =>
      (service.finishRevision operation artifactId rendered).tryCatch
        (service.recover operation retrying artifactId true)

/-- Translate the errors of a claim. -/
def translating (claim : Program (World κ) Exc OperationRecord) :
    Program (World κ) Exc OperationRecord :=
  claim.tryCatch fun error =>
    if isClaimError error then fail (mapRepositoryError error) else .raise error

/-- A succeeded operation is answered with its stored response. -/
def replayed (operation : OperationRecord) : Option RevisionCompleted :=
  if operation.state = .succeeded then operation.publicResponse else none

def submitFeedback (request : FeedbackRequest) (idempotencyKey : String) :
    Program (World κ) Exc RevisionCompleted := do
  let keyDigest ← Program.ofExcept (service.keyDigest idempotencyKey)
  let fingerprint := service.fingerprint request
  let now ← service.repository.now
  let operation ← translating <| service.repository.claimFeedbackOperation request.runId keyDigest
    fingerprint request.requestedChanges (service.digest request.feedback.text) now
  match replayed operation with
  | some response => return response
  | none => service.execute operation false

/-- The claim, with the clock read inside the `try` block. -/
def claimRetry (request : RetryRequest) (keyDigest fingerprint : String) :
    Program (World κ) Exc OperationRecord :=
  translating do
    let now ← service.repository.now
    service.repository.claimRetryOperation request.runId keyDigest fingerprint now

def retry (request : RetryRequest) (idempotencyKey : String) :
    Program (World κ) Exc RevisionCompleted := do
  let keyDigest ← Program.ofExcept (service.keyDigest idempotencyKey)
  let fingerprint := service.fingerprint request
  let operation ← service.claimRetry request keyDigest fingerprint
  match replayed operation with
  | some response => return response
  | none =>
      match operation.retryCondition, operation.retryAction with
      | some condition, some action => do
          let run ← service.repository.get request.runId
          let decision ← Program.ofExcept <|
            decideRetry condition ((run.technicalAttemptCount : Int) - 1) none
          if decision.action = action ∧ decision.action.isRetryable = true then
            service.execute operation true
          else fail .invalidRunState
      | _, _ => fail .invalidRunState

end RevisionService

end CultureShift
