/-
# The state of the Studio

The reducer of the Studio page: phases, events, the guards of the actions, and
what an event makes of a state. Of the responses of the server the model keeps
what the page reads.
-/

import CultureShift.Contracts.Exchange
import CultureShift.Sequential.Reducer

namespace CultureShift

open Serialization

namespace Web

inductive FixtureId
  | chinaToUk | ukToChina
deriving DecidableEq

inductive StudioErrorCode
  | validationFailed | assetEmpty | unsupportedAssetType | assetTypeMismatch | assetTooLarge
  | invalidAssetMetadata | uploadRateLimited | assetLifecycleClosed | invalidCapability
  | capabilitySubjectMismatch | runNotFound | invalidRunState | brandLockImmutable
  | brandLockUnconfirmed | lockedFieldChanged | benefitOrderInvalid | localizableFieldsInvalid
  | invalidAnalysisInput | unsupportedAnalysisScope | providerFailed | providerOutputInvalid
  | instructionLikeContent | prohibitedContent | unsafeHypothesis | draftOutputInvalid
  | compositionOutputInvalid | criticFailed | operationInProgress | idempotencyConflict
  | revisionLimitReached | invalidRevisionRequest | revisionFailed | retryFailed
  | compositionUnavailable | compositionArtifactUnavailable | serviceUnavailable
deriving DecidableEq

/-! ## Responses -/

structure AssetUploaded where
  assetId : UUID
  deleteCapabilityToken : String
deriving DecidableEq

structure RunCreated where
  runId : UUID
  capabilityToken : String
deriving DecidableEq

structure AnalysisCompleted where
  runId : UUID
deriving DecidableEq

structure BrandLockConfirmed where
  runId : UUID
deriving DecidableEq

structure DraftGenerated where
  runId : UUID
deriving DecidableEq

structure CompositionGenerated where
  runId : UUID
deriving DecidableEq

structure CritiqueCompleted where
  runId : UUID
  status : RunStatus
deriving DecidableEq

structure RevisionCompleted where
  runId : UUID
  status : RunStatus
  resultVersion : Int
  humanRevisionCount : Int
deriving DecidableEq

/-- What the page reads of a response that meets the contract. -/
def RevisionCompleted.ofContract (response : CultureShift.RevisionCompleted) :
    RevisionCompleted where
  runId := response.runId
  status := response.status
  resultVersion := 2
  humanRevisionCount := 1

/-! ## States and events -/

inductive StudioPhase
  | configure | uploading | analyzing | awaitingBrandLock | generatingDraft | composing
  | reviewing | readyV1 | submittingRevision | readyV2 | retryableFailure | conflict
  | finalFailure | deleting
deriving DecidableEq

structure StudioState where
  phase : StudioPhase
  fixtureId : FixtureId
  upload : Option AssetUploaded
  run : Option RunCreated
  analysis : Option AnalysisCompleted
  confirmation : Option BrandLockConfirmed
  draft : Option DraftGenerated
  composition : Option CompositionGenerated
  critique : Option CritiqueCompleted
  revision : Option RevisionCompleted
  visibleVersions : List Nat
  errorCode : Option StudioErrorCode
deriving DecidableEq

inductive StudioEvent
  | fixtureSelected (fixtureId : FixtureId)
  | uploadStarted
  | uploadSucceeded (result : AssetUploaded)
  | runCreated (result : RunCreated)
  | analysisSucceeded (result : AnalysisCompleted)
  | brandLockConfirmed (result : BrandLockConfirmed)
  | generationStarted
  | draftSucceeded (result : DraftGenerated)
  | compositionSucceeded (result : CompositionGenerated)
  | criticSucceeded (result : CritiqueCompleted)
  | revisionStarted
  | revisionSucceeded (result : RevisionCompleted)
  | retryStarted
  | operationFailed (code : StudioErrorCode)
  | deleteStarted
  | deleteSucceeded
  | reset
deriving DecidableEq

/-- The error codes that are conflicts. -/
def conflictCodes : List StudioErrorCode :=
  [.revisionLimitReached, .idempotencyConflict, .operationInProgress]

def initialStudioState (fixtureId : FixtureId) : StudioState where
  phase := .configure
  fixtureId := fixtureId
  upload := none
  run := none
  analysis := none
  confirmation := none
  draft := none
  composition := none
  critique := none
  revision := none
  visibleVersions := []
  errorCode := none

/-! ## Guards -/

section

variable (state : StudioState)

def canUpload : Bool := state.phase = .configure

def canConfirmBrandLock : Bool :=
  state.phase = .awaitingBrandLock ∧ state.analysis.isSome ∧ state.confirmation.isNone

def canGenerate : Bool := state.phase = .awaitingBrandLock ∧ state.confirmation.isSome

def canSubmitRevision : Bool := state.phase = .readyV1 ∧ state.revision.isNone

def canRetry : Bool := state.phase = .retryableFailure ∧ state.errorCode = some .revisionFailed

/-- Version 1, or else version 2. -/
def canExport (version : Nat) : Bool :=
  if version = 1 then state.visibleVersions[0]? = some 1
  else state.visibleVersions[1]? = some 2

def canDelete : Bool :=
  state.upload.isSome ∧ state.phase ≠ .uploading ∧ state.phase ≠ .deleting

end

/-! ## The reducer -/

def studioReducer (state : StudioState) : StudioEvent → StudioState
  | .reset => initialStudioState state.fixtureId
  | .fixtureSelected fixtureId =>
      if state.phase = .configure then initialStudioState fixtureId else state
  | .uploadStarted => if canUpload state then { state with phase := .uploading } else state
  | .uploadSucceeded result =>
      if state.phase = .uploading then { state with upload := some result } else state
  | .runCreated result =>
      if state.phase = .uploading ∧ state.upload.isSome then
        { state with phase := .analyzing, run := some result }
      else state
  | .analysisSucceeded result =>
      if state.phase = .analyzing ∧ state.run.isSome then
        { state with phase := .awaitingBrandLock, analysis := some result }
      else state
  | .brandLockConfirmed result =>
      if canConfirmBrandLock state then { state with confirmation := some result } else state
  | .generationStarted =>
      if canGenerate state then { state with phase := .generatingDraft } else state
  | .draftSucceeded result =>
      if state.phase = .generatingDraft then
        { state with phase := .composing, draft := some result }
      else state
  | .compositionSucceeded result =>
      if state.phase = .composing ∧ state.draft.isSome then
        { state with phase := .reviewing, composition := some result }
      else state
  | .criticSucceeded result =>
      if state.phase ≠ .reviewing ∨ state.composition.isNone then state
      else if result.status = .ready then
        { state with
          phase := .readyV1
          critique := some result
          visibleVersions := [1]
          errorCode := none }
      else
        { state with
          phase := .finalFailure
          critique := some result
          errorCode := some .criticFailed }
  | .revisionStarted =>
      if canSubmitRevision state then
        { state with phase := .submittingRevision, errorCode := none }
      else state
  | .revisionSucceeded result =>
      if state.phase ≠ .submittingRevision ∧ state.phase ≠ .readyV2 then state
      else if result.resultVersion ≠ 2 ∨ result.humanRevisionCount ≠ 1 then
        { state with phase := .finalFailure, errorCode := some .revisionFailed }
      else
        { state with
          phase := .readyV2
          revision := some result
          visibleVersions := [1, 2]
          errorCode := none }
  | .retryStarted =>
      if canRetry state then { state with phase := .submittingRevision, errorCode := none }
      else state
  | .operationFailed code =>
      if state.phase = .configure ∨ state.phase = .deleting then state
      else if code ∈ conflictCodes then
        { state with phase := .conflict, errorCode := some code }
      else if code = .revisionFailed then
        { state with phase := .retryableFailure, errorCode := some code }
      else { state with phase := .finalFailure, errorCode := some code }
  | .deleteStarted => if canDelete state then { state with phase := .deleting } else state
  | .deleteSucceeded =>
      if state.phase = .deleting then initialStudioState state.fixtureId else state

/-- The state of the page after the events. -/
def studioAfter (fixtureId : FixtureId) (events : List StudioEvent) : StudioState :=
  Sequential.after studioReducer (initialStudioState fixtureId) events

/-! ## Events that are not enabled -/

/-- The phases in which an event does something. -/
def StudioEvent.EnabledIn : StudioEvent → StudioPhase → Prop
  | .reset, _ => True
  | .fixtureSelected _, phase => phase = .configure
  | .uploadStarted, phase => phase = .configure
  | .uploadSucceeded _, phase => phase = .uploading
  | .runCreated _, phase => phase = .uploading
  | .analysisSucceeded _, phase => phase = .analyzing
  | .brandLockConfirmed _, phase => phase = .awaitingBrandLock
  | .generationStarted, phase => phase = .awaitingBrandLock
  | .draftSucceeded _, phase => phase = .generatingDraft
  | .compositionSucceeded _, phase => phase = .composing
  | .criticSucceeded _, phase => phase = .reviewing
  | .revisionStarted, phase => phase = .readyV1
  | .revisionSucceeded _, phase => phase = .submittingRevision ∨ phase = .readyV2
  | .retryStarted, phase => phase = .retryableFailure
  | .operationFailed _, phase => phase ≠ .configure ∧ phase ≠ .deleting
  | .deleteStarted, phase => phase ≠ .uploading ∧ phase ≠ .deleting
  | .deleteSucceeded, phase => phase = .deleting

/-- An event out of its phase changes nothing. -/
theorem studioReducer_of_not_enabledIn {state : StudioState} {event : StudioEvent}
    (h : ¬event.EnabledIn state.phase) : studioReducer state event = state := by
  cases event with
  | reset => exact absurd trivial h
  | fixtureSelected fixtureId => exact if_neg h
  | uploadStarted =>
      have hcan : ¬canUpload state = true := fun hcan => h (of_decide_eq_true hcan : _ = _)
      exact if_neg hcan
  | uploadSucceeded result => exact if_neg h
  | runCreated result => exact if_neg fun hcan => h hcan.1
  | analysisSucceeded result => exact if_neg fun hcan => h hcan.1
  | brandLockConfirmed result => exact if_neg fun hcan => h (of_decide_eq_true hcan).1
  | generationStarted => exact if_neg fun hcan => h (of_decide_eq_true hcan).1
  | draftSucceeded result => exact if_neg h
  | compositionSucceeded result => exact if_neg fun hcan => h hcan.1
  | criticSucceeded result => exact if_pos (Or.inl h)
  | revisionStarted => exact if_neg fun hcan => h (of_decide_eq_true hcan).1
  | revisionSucceeded result => exact if_pos (not_or.mp h)
  | retryStarted => exact if_neg fun hcan => h (of_decide_eq_true hcan).1
  | operationFailed code =>
      apply if_pos
      by_contra hnot
      exact h (not_or.mp hnot)
  | deleteStarted => exact if_neg fun hcan => h (of_decide_eq_true hcan).2
  | deleteSucceeded => exact if_neg h

end Web

end CultureShift
