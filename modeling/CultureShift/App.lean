/-
# The endpoints

The handlers of the workflow, each as a program over the world. Every handler
but `create_run` requires a capability for its run, and turns the exceptions it
knows into HTTP errors; any other exception leaves the handler as it is.
-/

import CultureShift.AnalysisPipeline
import CultureShift.CapabilityTokens
import CultureShift.CompositionExport
import CultureShift.DraftGeneration
import CultureShift.RevisionService

namespace CultureShift

open Serialization Relational Concurrent

variable {κ α : Type}

/-! ## The application -/

/-- The claims of a verified token; the handlers look at the subject. -/
structure CapabilityClaims where
  subject : String

structure CapabilityTokenService (κ : Type) where
  issue : String → List Capability → Program κ Exc String
  verify : String → Capability → Program κ Exc CapabilityClaims

structure LoadedAsset where
  asset : SourceAdAssetRef
  content : List UInt8

structure AssetStore (κ : Type) where
  load : UUID → Program κ Exc LoadedAsset

/-- What `create_app` puts together. -/
structure App (κ : Type) where
  runs : Repository κ
  tokens : CapabilityTokenService κ
  assets : AssetStore κ
  provider : VisionProvider κ
  copywriter : Copywriter κ
  compositions : CompositionService κ
  exports : CompositionExportService κ
  review : CriticRequest → Program κ Exc CritiqueReport
  revisions : RevisionService κ
  uuid4 : Program κ Exc UUID
  pipelineNow : Program κ Exc Datetime

/-- The parts of an HTTP request that the handlers look at; a missing header is
empty. -/
structure HttpRequest where
  authorization : String
  idempotencyKey : String
  body : List UInt8

/-- The token of an `Authorization` header with the bearer scheme. -/
def bearerToken (authorization : String) : Option String :=
  let scheme := authorization.toList.takeWhile (· ≠ ' ')
  match authorization.toList.dropWhile (· ≠ ' ') with
  | [] => none
  | _ :: token =>
      if (scheme.map Char.toLower = "bearer".toList) ∧ token ≠ [] then
        some (String.ofList token)
      else none

namespace App

variable (app : App κ)

def httpError (status : Nat) (code : String) : Program (World κ) Exc α :=
  .raise (.httpException status code)

/-- A capability for this run, or 401 or 403. -/
def requireCapability (required : Capability) (runId : UUID) (request : HttpRequest) :
    Program (World κ) Exc Unit :=
  match bearerToken request.authorization with
  | none => httpError 401 "invalid_capability"
  | some token => do
      let claims ← Program.tryCatch (outside (app.tokens.verify token required)) fun
        | .capabilityTokenError => httpError 401 "invalid_capability"
        | error => .raise error
      if claims.subject = runId.text then pure ()
      else httpError 403 "capability_subject_mismatch"

/-- Answer 404 where the run is not found. -/
def orNotFound (program : Program (World κ) Exc α) : Program (World κ) Exc α :=
  program.tryCatch fun
  | .projectRunNotFoundError _ => httpError 404 "run_not_found"
  | error => .raise error

/-! ## create_run -/

def createRun (request : RunCreate) : Program (World κ) Exc RunCreated :=
  Program.tryCatch
    (do
      let id ← outside app.uuid4
      let now ← app.runs.now
      let run := ProjectRun.new id request.direction now
      let token ← outside <|
        app.tokens.issue run.id.text [.readProjectRun, .analyzeProjectRun, .updateProjectRun]
      let response ← Program.ofExcept <| validated <|
        RunCreated.validate run.id run.status token run.createdAt
      let _ ← app.runs.create run (some request)
      return response)
    fun _ => httpError 500 "run_creation_failed"

/-! ## analyze_run -/

/-- The response for a run that was analysed before. -/
def analyzedBefore (runId : UUID) (run : ProjectRun) :
    Program (World κ) Exc AnalysisCompleted := do
  let existing ← (app.runs.getAnalysis runId).tryCatch fun _ => pure none
  match existing with
  | none => httpError 500 "analysis_state_invalid"
  | some analysis =>
      let repairAttempted ← app.runs.getRepairAttempted runId
      return ⟨run.id, analysis, repairAttempted, run.updatedAt⟩

/-- Claim the run and load its asset. An asset that cannot be used blocks the
run, and so does a run that is not found any more. -/
def claimAndLoad (runId : UUID) : Program (World κ) Exc (RunCreate × LoadedAsset) :=
  Program.tryCatch
    (do
      let stored ← app.runs.getRequest runId
      let claimed ← app.runs.claimAnalysis runId
      match claimed with
      | none => httpError 409 "invalid_run_state"
      | some _ =>
          let loaded ← outside (app.assets.load stored.sourceAsset.assetId)
          Program.ofExcept <| require (loaded.asset = stored.sourceAsset)
            (.assetStorageError "temporary asset metadata mismatch")
          return (stored, loaded))
    fun
    | .assetLifecycleClosedError => do
        let _ ← app.runs.recordFailure runId .blocked (StrEnum.value AnalysisErrorCode.assetClosed)
        httpError 409 (StrEnum.value AnalysisErrorCode.assetClosed)
    | .assetStorageError _ | .projectRunNotFoundError _ => do
        let _ ← app.runs.recordFailure runId .blocked "asset_validation_failed"
        httpError 409 "asset_validation_failed"
    | error => .raise error

/-- Only failures of the provider fail the run; all others block it. -/
def isBlockedCode : AnalysisErrorCode → Bool
  | .providerFailed | .providerOutputInvalid => false
  | _ => true

def visionRequest (stored : RunCreate) (loaded : LoadedAsset) : VisionAnalysisRequest where
  content := loaded.content
  sourceAsset := stored.sourceAsset
  direction := stored.direction
  brandLock := stored.brandLock
  productCategory := StrEnum.value stored.productCategory
  creativeFormat := stored.creativeFormat

/-- Run the pipeline; its own errors are recorded on the run. -/
def analyzeClaimed (runId : UUID) (stored : RunCreate) (loaded : LoadedAsset) :
    Program (World κ) Exc AnalysisOutcome :=
  Program.tryCatch
    (outside <| AnalysisPipeline.analyze app.provider app.pipelineNow
      (visionRequest stored loaded))
    fun
    | .analysisPipelineError code => do
        let failedStatus : ProjectRunStatus := if isBlockedCode code then .blocked else .failed
        let _ ← app.runs.recordFailure runId failedStatus (StrEnum.value code)
        httpError (if isBlockedCode code then 422 else 502) (StrEnum.value code)
    | error => .raise error

def analyzeRun (runId : UUID) (request : HttpRequest) :
    Program (World κ) Exc AnalysisCompleted := do
  app.requireCapability .analyzeProjectRun runId request
  let run ← orNotFound (app.runs.get runId)
  if run.status = .awaitingBrandLock then app.analyzedBefore runId run
  else if run.status ≠ .pending then httpError 409 "invalid_run_state"
  else do
    let (stored, loaded) ← app.claimAndLoad runId
    let outcome ← app.analyzeClaimed runId stored loaded
    let completed ←
      (app.runs.completeAnalysis runId outcome.analysis outcome.repairAttempted).tryCatch fun _ =>
        httpError 500 "analysis_persistence_failed"
    return ⟨completed.id, outcome.analysis, outcome.repairAttempted, completed.updatedAt⟩

/-! ## confirm_brand_lock -/

def confirmBrandLock (runId : UUID) (brandLock : BrandLock) (request : HttpRequest) :
    Program (World κ) Exc BrandLockConfirmed := do
  app.requireCapability .updateProjectRun runId request
  let record ← Program.tryCatch (app.runs.confirmBrandLock runId brandLock none) fun
    | .projectRunNotFoundError _ => httpError 404 "run_not_found"
    | .invalidRunStateError _ => httpError 409 "invalid_run_state"
    | .brandLockImmutableError _ => httpError 409 "brand_lock_immutable"
    | .brandLockConfirmationError code => httpError 422 (StrEnum.value code)
    | _ => httpError 500 "brand_lock_persistence_failed"
  return ⟨runId, record.brandLock, record.confirmedAt⟩

/-! ## generate_draft -/

/-- The response for a stored draft. -/
def draftResponse (runId : UUID) (draft : DraftRecord) : Program (World κ) Exc DraftGenerated :=
  .ofExcept <| validated <|
    DraftGenerated.validate runId draft.brief draft.adCopy draft.ruleIds draft.generatedAt

/-- Generate a draft and store it. -/
def writeDraft (runId : UUID) (run : ProjectRun) (analysis : AdAnalysis) (confirmed : BrandLock) :
    Program (World κ) Exc DraftRecord := do
  let generated ← Program.tryCatch
    (outside <| generateDraftArtifacts app.copywriter analysis confirmed run.direction)
    fun
    | .draftGenerationError code =>
        httpError (if code = .brandLockUnconfirmed then 409 else 422) (StrEnum.value code)
    | error => .raise error
  Program.tryCatch
    (app.runs.saveDraft runId generated.brief generated.adCopy generated.factReferences
      generated.ruleIds none)
    fun
    | .invalidRunStateError _ | .draftImmutableError _ => httpError 409 "invalid_run_state"
    | _ => httpError 500 "draft_persistence_failed"

def generateDraft (runId : UUID) (request : HttpRequest) :
    Program (World κ) Exc DraftGenerated := do
  app.requireCapability .updateProjectRun runId request
  let (existing, run) ← orNotFound do
    let existing ← app.runs.getDraft runId
    let run ← app.runs.get runId
    return (existing, run)
  match existing with
  | some existing => draftResponse run.id existing
  | none =>
      let (analysis, confirmation) ← orNotFound do
        let analysis ← app.runs.getAnalysis runId
        let confirmation ← app.runs.getConfirmedBrandLock runId
        return (analysis, confirmation)
      match analysis, confirmation with
      | none, _ => httpError 409 "invalid_run_state"
      | some _, none => httpError 409 "brand_lock_unconfirmed"
      | some analysis, some confirmation =>
          if run.status ≠ .inProgress then httpError 409 "invalid_run_state"
          else do
            let record ← app.writeDraft runId run analysis confirmation.brandLock
            draftResponse run.id record

/-! ## generate_composition -/

def compositionStatus : CompositionServiceErrorCode → Nat
  | .runNotFound => 404
  | .outputInvalid => 422
  | .persistenceFailed => 500
  | _ => 409

def generateComposition (runId : UUID) (request : HttpRequest) :
    Program (World κ) Exc CompositionGenerated := do
  app.requireCapability .updateProjectRun runId request
  if request.body ≠ [] then httpError 422 "composition_body_not_allowed"
  else
    (app.compositions.generate runId).tryCatch fun
    | .compositionServiceError code => httpError (compositionStatus code) (StrEnum.value code)
    | error => .raise error

/-! ## run_critic -/

/-- Review the stored version 1 and store the report. -/
def reviewAndSave (runId : UUID) (run : ProjectRun) :
    Program (World κ) Exc (ProjectRun × CritiqueReport) := do
  let analysis ← app.runs.getAnalysis runId
  let confirmation ← app.runs.getConfirmedBrandLock runId
  let draft ← app.runs.getDraft runId
  let composition ← app.runs.getComposition runId
  match analysis, confirmation, draft, composition with
  | some analysis, some confirmation, some draft, some composition => do
      let report ← outside <| app.review
        ⟨analysis, confirmation.brandLock, draft, composition, run.warningCodes⟩
      let _ ← app.runs.saveCritique runId report
      let run ← app.runs.get runId
      return (run, report)
  | _, _, _, _ => .raise (.invalidRunStateError "review prerequisites are incomplete")

/-- A stored report is answered as it is, together with the run as it was read
before the report was looked up. -/
def critiqueOf (runId : UUID) : Program (World κ) Exc (ProjectRun × CritiqueReport) := do
  let run ← app.runs.get runId
  match ← app.runs.getCritique runId with
  | some existing => return (run, existing.report)
  | none => app.reviewAndSave runId run

/-- The response is validated outside the `try` block. -/
def critiqueResponse (run : ProjectRun) (report : CritiqueReport) :
    Program (World κ) Exc CritiqueCompleted :=
  .ofExcept <| validated <|
    CritiqueCompleted.validate run.id run.status report run.initialGenerationCount
      run.humanRevisionCount run.technicalAttemptCount report.reviewedAt

/-- What `run_critic` does once the capability is checked. -/
def answerCritic (runId : UUID) (request : HttpRequest) :
    Program (World κ) Exc CritiqueCompleted :=
  if request.body ≠ [] then httpError 422 "critic_body_not_allowed"
  else do
    let (run, report) ← Program.tryCatch (app.critiqueOf runId) fun
      | .projectRunNotFoundError _ => httpError 404 "run_not_found"
      | .invalidRunStateError _ | .critiqueImmutableError _ => httpError 409 "invalid_run_state"
      | _ => httpError 500 "critic_failed"
    critiqueResponse run report

def runCritic (runId : UUID) (request : HttpRequest) :
    Program (World κ) Exc CritiqueCompleted := do
  app.requireCapability .updateProjectRun runId request
  app.answerCritic runId request

/-! ## submit_feedback and retry_revision -/

def revisionStatus : RevisionServiceErrorCode → Nat
  | .runNotFound => 404
  | .invalidRevisionRequest => 422
  | .revisionFailed | .retryFailed => 500
  | _ => 409

/-- What both endpoints check before they call the service, and how they report
its errors. -/
def revising (runId bodyRunId : UUID) (request : HttpRequest)
    (program : String → Program (World κ) Exc RevisionCompleted) :
    Program (World κ) Exc RevisionCompleted := do
  app.requireCapability .updateProjectRun runId request
  if request.idempotencyKey = "" then httpError 422 "invalid_revision_request"
  else if bodyRunId ≠ runId then httpError 409 "invalid_run_state"
  else
    (program request.idempotencyKey).tryCatch fun
    | .revisionServiceError code => httpError (revisionStatus code) (StrEnum.value code)
    | error => .raise error

def submitFeedback (runId : UUID) (feedback : FeedbackRequest) (request : HttpRequest) :
    Program (World κ) Exc RevisionCompleted :=
  app.revising runId feedback.runId request (app.revisions.submitFeedback feedback)

def retryRevision (runId : UUID) (retry : RetryRequest) (request : HttpRequest) :
    Program (World κ) Exc RevisionCompleted :=
  app.revising runId retry.runId request (app.revisions.retry retry)

end App

end CultureShift
