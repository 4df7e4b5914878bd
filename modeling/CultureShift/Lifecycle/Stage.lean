/-
# The life cycle of a run

What the workflow is for, without tables and transactions: a run collects
evidence in a fixed order, is reviewed once, and may be revised once. A `Stage`
holds the evidence collected so far; the structures make each piece rest on the
one before, so a stage with drifted evidence cannot be built.

`Database.Shows` says how a stage is stored, and a database shows at most one
stage of a run. The life cycle knows nothing of the timestamps of the run or of
its warning codes, which no stage depends on.
-/

import CultureShift.Repository.Transactions

namespace CultureShift

open Serialization

/-! ## Evidence -/

/-- An analysis of the requested source ad, with the requested Brand Lock. -/
@[ext]
structure Analyzed where
  request : RunCreate
  analysis : AdAnalysis
  repairAttempted : Bool
  matches_request : analysis.sourceAsset = request.sourceAsset ∧
    analysis.brandLock = request.brandLock

/-- An analysis whose Brand Lock has been confirmed. -/
@[ext]
structure Confirmed extends Analyzed where
  confirmation : BrandLockConfirmationRecord
  confirms : Confirms confirmation.brandLock analysis.brandLock

/-- A draft for the confirmed Brand Lock, resting on verified facts. -/
@[ext]
structure Drafted extends Confirmed where
  draft : DraftRecord
  lock_kept : draft.brief.brandLock = confirmation.brandLock
  facts_verified : draft.factReferences ≠ [] ∧
    ∀ fact ∈ draft.factReferences, fact ∈ confirmation.brandLock.facts

/-- A composition with the locked logo and product UI. -/
@[ext]
structure Composed extends Drafted where
  composition : CompositionGenerated
  sources_locked : layerSource composition.layers .logo = some confirmation.brandLock.logoAssetId ∧
    ∃ assetId ∈ confirmation.brandLock.productUiAssetIds,
      layerSource composition.layers .productUi = some assetId

@[ext]
structure Reviewed extends Composed where
  critique : CritiqueReport

@[ext]
structure Rejected extends Reviewed where
  rejected : critique.status = .reject

@[ext]
structure Accepted extends Reviewed where
  accepted : critique.status ≠ .reject

/-- A claimed operation. A retry is no more than that. -/
@[ext]
structure Claim where
  id : Nat
  keyDigest : String
  fingerprint : String
  claimedAt : Datetime

@[ext]
structure Feedback extends Claim where
  requestedChanges : List RevisionChange
  feedbackDigest : String

/-- A second version and the response that announced it. -/
@[ext]
structure Revised where
  requestedChanges : List RevisionChange
  feedbackDigest : String
  brief : CreativeBrief
  adCopy : AdCopy
  factReferences : List String
  ruleIds : List String
  composition : CompositionGenerated
  critique : CritiqueReport
  revisedAt : Datetime
  response : RevisionCompleted

/-- The draft of the second version, which keeps no time of its own. -/
def Revised.draft (revision : Revised) : DraftRecord :=
  ⟨revision.brief, revision.adCopy, revision.factReferences, revision.ruleIds, revision.revisedAt⟩

def Revised.row (revision : Revised) : RevisionRow where
  resultVersion := 2
  requestedChanges := .dump revision.requestedChanges
  feedbackDigest := revision.feedbackDigest
  creativeBrief := .dump revision.brief
  adCopy := .dump revision.adCopy
  factReferences := .dump revision.factReferences
  ruleIds := .dump revision.ruleIds
  composition := .dump revision.composition
  critique := .dump revision.critique
  revisedAt := revision.revisedAt

def Revised.record (revision : Revised) (runId : UUID) : RevisionRecord :=
  ⟨runId, 2, revision.requestedChanges, revision.feedbackDigest, revision.draft,
    revision.composition, revision.critique, revision.revisedAt⟩

/-! ## Stages -/

inductive Stage
  | pending (request : RunCreate)
  | analyzing (request : RunCreate)
  /-- The analysis was refused: the run is blocked, or it has failed. -/
  | refused (request : RunCreate) (blocked : Bool)
  | awaiting (evidence : Analyzed)
  | confirmed (evidence : Confirmed)
  | drafted (evidence : Drafted)
  | composed (evidence : Composed)
  | rejected (evidence : Rejected)
  | ready (evidence : Accepted)
  | revising (evidence : Accepted) (feedback : Feedback)
  | retryable (evidence : Accepted) (feedback : Feedback) (failedAt : Datetime)
  | retrying (evidence : Accepted) (feedback : Feedback) (failedAt : Datetime) (retry : Claim)
  | exhausted (evidence : Accepted) (feedback : Feedback) (failedAt : Datetime) (retry : Claim)
      (retryFailedAt : Datetime)
  | revised (evidence : Accepted) (feedback : Feedback) (retry : Option Claim)
      (revision : Revised)

namespace Stage

def reviewed? : Stage → Option Reviewed
  | rejected evidence => some evidence.toReviewed
  | ready evidence | revising evidence _ | retryable evidence _ _ | retrying evidence _ _ _
  | exhausted evidence _ _ _ _ | revised evidence _ _ _ => some evidence.toReviewed
  | _ => none

def composed? : Stage → Option Composed
  | composed evidence => some evidence
  | stage => stage.reviewed?.map Reviewed.toComposed

def drafted? : Stage → Option Drafted
  | drafted evidence => some evidence
  | stage => stage.composed?.map Composed.toDrafted

def confirmed? : Stage → Option Confirmed
  | confirmed evidence => some evidence
  | stage => stage.drafted?.map Drafted.toConfirmed

def analyzed? : Stage → Option Analyzed
  | awaiting evidence => some evidence
  | stage => stage.confirmed?.map Confirmed.toAnalyzed

def revised? : Stage → Option Revised
  | revised _ _ _ revision => some revision
  | _ => none

def request : Stage → RunCreate
  | pending request | analyzing request | refused request _ => request
  | awaiting evidence => evidence.request
  | confirmed evidence => evidence.request
  | drafted evidence => evidence.request
  | composed evidence => evidence.request
  | rejected evidence => evidence.request
  | ready evidence | revising evidence _ | retryable evidence _ _ | retrying evidence _ _ _
  | exhausted evidence _ _ _ _ | revised evidence _ _ _ => evidence.request

def status : Stage → ProjectRunStatus
  | pending _ => .pending
  | refused _ blocked => if blocked then .blocked else .failed
  | awaiting _ => .awaitingBrandLock
  | analyzing _ | confirmed _ | drafted _ | composed _ | revising _ _ | retrying _ _ _ _ =>
      .inProgress
  | ready _ => .ready
  | retryable _ _ _ => .failedRetryable
  | rejected _ | exhausted _ _ _ _ _ => .failedFinal
  | revised _ _ _ revision => Database.reviewedStatus revision.critique

/-! ## How a stage is stored -/

/-- The decision that is stored when feedback fails. -/
def retryDecision (state : OperationState) (response : Option (Column RevisionCompleted))
    (updatedAt : Datetime) : OperationProgress :=
  ⟨state, some .connectionBeforeAcceptance, some .retryOnce, response, updatedAt⟩

end Stage

def Feedback.row (feedback : Feedback) (runId : UUID) (progress : OperationProgress) :
    OperationRow where
  id := feedback.id
  runId := runId
  kind := .feedback
  keyDigest := feedback.keyDigest
  fingerprint := feedback.fingerprint
  requestedChanges := some (.dump feedback.requestedChanges)
  feedbackDigest := some feedback.feedbackDigest
  createdAt := feedback.claimedAt
  progress := progress

/-- A retry carries on the changes that the feedback asked for. -/
def Claim.retryRow (retry : Claim) (feedback : Feedback) (runId : UUID)
    (progress : OperationProgress) : OperationRow where
  id := retry.id
  runId := runId
  kind := .retry
  keyDigest := retry.keyDigest
  fingerprint := retry.fingerprint
  requestedChanges := some (.dump feedback.requestedChanges)
  feedbackDigest := some feedback.feedbackDigest
  createdAt := retry.claimedAt
  progress := progress

namespace Stage

def operations (runId : UUID) : Stage → List OperationRow
  | revising _ feedback =>
      [feedback.row runId ⟨.inProgress, none, none, none, feedback.claimedAt⟩]
  | retryable _ feedback failedAt =>
      [feedback.row runId (retryDecision .failedRetryable none failedAt)]
  | retrying _ feedback failedAt retry =>
      [feedback.row runId (retryDecision .failedRetryable none failedAt),
        retry.retryRow feedback runId (retryDecision .inProgress none retry.claimedAt)]
  | exhausted _ feedback failedAt retry retryFailedAt =>
      [feedback.row runId (retryDecision .failedRetryable none failedAt),
        retry.retryRow feedback runId
          ⟨.failedFinal, some .connectionBeforeAcceptance, some .doNotRetry, none,
            retryFailedAt⟩]
  | revised _ feedback none revision =>
      [feedback.row runId
        ⟨.succeeded, none, none, some (.dump revision.response), revision.revisedAt⟩]
  | revised _ feedback (some retry) revision =>
      [feedback.row runId
          (retryDecision .succeeded (some (.dump revision.response)) revision.revisedAt),
        retry.retryRow feedback runId
          (retryDecision .succeeded (some (.dump revision.response)) revision.revisedAt)]
  | _ => []

/-- How often the revision has been retried. -/
def retries : Stage → Nat
  | retrying _ _ _ _ | exhausted _ _ _ _ _ | revised _ _ (some _) _ => 1
  | _ => 0

def context (stage : Stage) : ContextRow where
  request := .dump stage.request
  analysis := stage.analyzed?.map fun evidence => .dump evidence.analysis
  repairAttempted := (stage.analyzed?.map fun evidence => evidence.repairAttempted.toNat).getD 0
  confirmedBrandLock := stage.confirmed?.map fun evidence => .dump evidence.confirmation.brandLock
  brandLockConfirmedAt := stage.confirmed?.map fun evidence => evidence.confirmation.confirmedAt
  creativeBrief := stage.drafted?.map fun evidence => .dump evidence.draft.brief
  adCopy := stage.drafted?.map fun evidence => .dump evidence.draft.adCopy
  draftFactReferences := stage.drafted?.map fun evidence => .dump evidence.draft.factReferences
  draftRuleIds := stage.drafted?.map fun evidence => .dump evidence.draft.ruleIds
  draftGeneratedAt := stage.drafted?.map fun evidence => evidence.draft.generatedAt
  composition := stage.composed?.map fun evidence => .dump evidence.composition
  critique := stage.reviewed?.map fun evidence => .dump evidence.critique
  criticReviewedAt := stage.reviewed?.map fun evidence => evidence.critique.reviewedAt
  initialGenerationCount := if stage.composed?.isSome then 1 else 0
  humanRevisionCount := if stage.revised?.isSome then 1 else 0
  technicalAttemptCount := stage.retries

end Stage

theorem toNat_inj {first second : Bool} : first.toNat = second.toNat ↔ first = second := by
  cases first <;> cases second <;> decide

namespace Stage

/-- A stage can be read off what is stored of it. -/
theorem eq_of_stored {stage stage' : Stage} {runId : UUID}
    (hstatus : stage.status = stage'.status) (hcontext : stage.context = stage'.context)
    (hrevision : stage.revised?.map Revised.row = stage'.revised?.map Revised.row)
    (hoperations : stage.operations runId = stage'.operations runId) : stage = stage' := by
  -- Stages of two kinds differ in the status, in a column of the context or in the operations.
  cases stage <;> cases stage' <;> first
    | (simp [status] at hstatus; done)
    | (simp [context, analyzed?, confirmed?, drafted?, composed?, reviewed?, revised?]
        at hcontext; done)
    | (simp [operations] at hoperations; done)
    | (simp [revised?] at hrevision; done)
    | (simp only [status] at hstatus; split at hstatus <;> cases hstatus)
    | skip
  case refused.refused request blocked request' blocked' =>
    cases blocked <;> cases blocked' <;> simp_all [status, context, Stage.request]
  case revised.revised evidence feedback retry revision evidence' feedback' retry' revision' =>
    cases retry <;> cases retry' <;>
      simp_all [context, analyzed?, confirmed?, drafted?, composed?, reviewed?, revised?,
        Stage.request, retries, operations, retryDecision, Revised.row, Revised.ext_iff,
        Feedback.row, Feedback.ext_iff, Claim.retryRow, Claim.ext_iff, Accepted.ext_iff,
        toNat_inj, DraftRecord.ext_iff, BrandLockConfirmationRecord.ext_iff]
  all_goals
    simp_all [context, analyzed?, confirmed?, drafted?, composed?, reviewed?, revised?, request,
      operations, retryDecision, Feedback.row, Feedback.ext_iff, Claim.retryRow, Claim.ext_iff,
      Analyzed.ext_iff, Confirmed.ext_iff, Drafted.ext_iff, Composed.ext_iff, Rejected.ext_iff,
      Accepted.ext_iff, toNat_inj, DraftRecord.ext_iff, BrandLockConfirmationRecord.ext_iff]

end Stage

/-- The tables say that the run has reached this stage. -/
structure Database.Shows (db : Database) (runId : UUID) (stage : Stage) : Prop where
  run : ∃ row, db.runs.find runId = some row ∧ row.direction = stage.request.direction ∧
    row.status = stage.status
  context : db.contexts.find runId = some stage.context
  revision : db.revisions.find runId = stage.revised?.map Revised.row
  operations : db.operations.ofRun runId = stage.operations runId

/-- A database shows at most one stage of a run. -/
theorem Database.Shows.unique {db : Database} {runId : UUID} {stage stage' : Stage}
    (h : db.Shows runId stage) (h' : db.Shows runId stage') : stage = stage' := by
  obtain ⟨row, hrow, -, hstatus⟩ := h.run
  obtain ⟨row', hrow', -, hstatus'⟩ := h'.run
  obtain rfl : row = row' := Option.some.inj (hrow.symm.trans hrow')
  exact Stage.eq_of_stored (hstatus.symm.trans hstatus')
    (Option.some.inj (h.context.symm.trans h'.context)) (h.revision.symm.trans h'.revision)
    (h.operations.symm.trans h'.operations)

/-! ## Steps -/

/-- The steps of the life cycle, each named after the method that makes it. -/
inductive Stage.Step : Stage → Stage → Prop
  | claimAnalysis (request : RunCreate) : Step (.pending request) (.analyzing request)
  | completeAnalysis (evidence : Analyzed) : Step (.analyzing evidence.request) (.awaiting evidence)
  | recordFailure (request : RunCreate) (blocked : Bool) :
      Step (.analyzing request) (.refused request blocked)
  | confirmBrandLock (evidence : Confirmed) :
      Step (.awaiting evidence.toAnalyzed) (.confirmed evidence)
  | saveDraft (evidence : Drafted) : Step (.confirmed evidence.toConfirmed) (.drafted evidence)
  | saveComposition (evidence : Composed) :
      Step (.drafted evidence.toDrafted) (.composed evidence)
  | reject (evidence : Rejected) : Step (.composed evidence.toComposed) (.rejected evidence)
  | accept (evidence : Accepted) : Step (.composed evidence.toComposed) (.ready evidence)
  | claimFeedback (evidence : Accepted) (feedback : Feedback) :
      Step (.ready evidence) (.revising evidence feedback)
  | failFeedback (evidence : Accepted) (feedback : Feedback) (failedAt : Datetime) :
      Step (.revising evidence feedback) (.retryable evidence feedback failedAt)
  | claimRetry (evidence : Accepted) (feedback : Feedback) (failedAt : Datetime)
      (retry : Claim) :
      Step (.retryable evidence feedback failedAt) (.retrying evidence feedback failedAt retry)
  | failRetry (evidence : Accepted) (feedback : Feedback) (failedAt : Datetime) (retry : Claim)
      (retryFailedAt : Datetime) :
      Step (.retrying evidence feedback failedAt retry)
        (.exhausted evidence feedback failedAt retry retryFailedAt)
  | completeFeedback (evidence : Accepted) (feedback : Feedback) (revision : Revised) :
      Step (.revising evidence feedback) (.revised evidence feedback none revision)
  | completeRetry (evidence : Accepted) (feedback : Feedback) (failedAt : Datetime)
      (retry : Claim) (revision : Revised) :
      Step (.retrying evidence feedback failedAt retry)
        (.revised evidence feedback (some retry) revision)

end CultureShift
