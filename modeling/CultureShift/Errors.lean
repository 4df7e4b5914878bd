/-
# Exceptions

Every exception class that the workflow raises or handles by name, with the
code or message it carries. `other` stands for any further subclass of
`Exception` that a collaborator may raise; no handler names it.
-/

import CultureShift.Serialization.Json

namespace CultureShift

open Serialization

inductive ConfirmationErrorCode
  | lockedFieldChanged | benefitOrderInvalid | localizableFieldsInvalid
deriving DecidableEq

instance : StrEnum ConfirmationErrorCode where
  values := [.lockedFieldChanged, .benefitOrderInvalid, .localizableFieldsInvalid]
  value
    | .lockedFieldChanged => "locked_field_changed"
    | .benefitOrderInvalid => "benefit_order_invalid"
    | .localizableFieldsInvalid => "localizable_fields_invalid"
  find_value member := by cases member <;> rfl

inductive DraftErrorCode
  | brandLockUnconfirmed | outputInvalid
deriving DecidableEq

instance : StrEnum DraftErrorCode where
  values := [.brandLockUnconfirmed, .outputInvalid]
  value
    | .brandLockUnconfirmed => "brand_lock_unconfirmed"
    | .outputInvalid => "draft_output_invalid"
  find_value member := by cases member <;> rfl

inductive AnalysisErrorCode
  | invalidInput | unsupportedScope | assetClosed | providerFailed | providerOutputInvalid
  | instructionLikeContent | prohibitedContent | unsafeHypothesis
deriving DecidableEq

instance : StrEnum AnalysisErrorCode where
  values := [.invalidInput, .unsupportedScope, .assetClosed, .providerFailed,
    .providerOutputInvalid, .instructionLikeContent, .prohibitedContent, .unsafeHypothesis]
  value
    | .invalidInput => "invalid_analysis_input"
    | .unsupportedScope => "unsupported_analysis_scope"
    | .assetClosed => "asset_lifecycle_closed"
    | .providerFailed => "provider_failed"
    | .providerOutputInvalid => "provider_output_invalid"
    | .instructionLikeContent => "instruction_like_content"
    | .prohibitedContent => "prohibited_content"
    | .unsafeHypothesis => "unsafe_hypothesis"
  find_value member := by cases member <;> rfl

inductive CompositionServiceErrorCode
  | runNotFound | invalidRunState | brandLockUnconfirmed | draftUnavailable | outputInvalid
  | persistenceFailed
deriving DecidableEq

instance : StrEnum CompositionServiceErrorCode where
  values := [.runNotFound, .invalidRunState, .brandLockUnconfirmed, .draftUnavailable,
    .outputInvalid, .persistenceFailed]
  value
    | .runNotFound => "run_not_found"
    | .invalidRunState => "invalid_run_state"
    | .brandLockUnconfirmed => "brand_lock_unconfirmed"
    | .draftUnavailable => "draft_unavailable"
    | .outputInvalid => "composition_output_invalid"
    | .persistenceFailed => "composition_persistence_failed"
  find_value member := by cases member <;> rfl

inductive CompositionExportErrorCode
  | runNotFound | compositionUnavailable | artifactUnavailable
deriving DecidableEq

instance : StrEnum CompositionExportErrorCode where
  values := [.runNotFound, .compositionUnavailable, .artifactUnavailable]
  value
    | .runNotFound => "run_not_found"
    | .compositionUnavailable => "composition_unavailable"
    | .artifactUnavailable => "composition_artifact_unavailable"
  find_value member := by cases member <;> rfl

inductive RevisionServiceErrorCode
  | runNotFound | invalidRunState | idempotencyConflict | operationInProgress
  | revisionLimitReached | invalidRevisionRequest | revisionFailed | retryFailed
deriving DecidableEq

instance : StrEnum RevisionServiceErrorCode where
  values := [.runNotFound, .invalidRunState, .idempotencyConflict, .operationInProgress,
    .revisionLimitReached, .invalidRevisionRequest, .revisionFailed, .retryFailed]
  value
    | .runNotFound => "run_not_found"
    | .invalidRunState => "invalid_run_state"
    | .idempotencyConflict => "idempotency_conflict"
    | .operationInProgress => "operation_in_progress"
    | .revisionLimitReached => "revision_limit_reached"
    | .invalidRevisionRequest => "invalid_revision_request"
    | .revisionFailed => "revision_failed"
    | .retryFailed => "retry_failed"
  find_value member := by cases member <;> rfl

/-- Exceptions, by class. -/
inductive Exc
  | projectRunNotFoundError (runId : UUID)
  | duplicateProjectRunError (runId : UUID)
  | brandLockImmutableError (message : String)
  | invalidRunStateError (message : String)
  | draftImmutableError (message : String)
  | compositionImmutableError (message : String)
  | critiqueImmutableError (message : String)
  | idempotencyConflictError (message : String)
  | operationInProgressError (message : String)
  | revisionLimitReachedError (message : String)
  | brandLockConfirmationError (code : ConfirmationErrorCode)
  | draftGenerationError (code : DraftErrorCode)
  | analysisPipelineError (code : AnalysisErrorCode)
  | compositionServiceError (code : CompositionServiceErrorCode)
  | compositionExportError (code : CompositionExportErrorCode)
  | revisionServiceError (code : RevisionServiceErrorCode)
  | compositionError
  | compositionArtifactError (message : String)
  | fixtureAssetError
  | imageProviderError
  | assetEmptyError
  | assetTooLargeError
  | unsupportedAssetTypeError
  | assetTypeMismatchError
  | assetMetadataError
  | assetLifecycleClosedError
  | assetStorageError (message : String)
  | objectStorageError
  | objectNotFoundError
  | fileExistsError
  | capabilityTokenError
  | indexError
  | validationError
  | valueError (message : String)
  | overflowError
  | osError
  /-- A fault of the database connection: the transaction does not commit. -/
  | databaseError
  | httpException (status : Nat) (code : String)
  | other (name : String)
deriving DecidableEq

/-- The exceptions of the language and its libraries. The application gives none
of them a meaning of its own. -/
def Exc.isForeign : Exc → Bool
  | .indexError | .validationError | .valueError _ | .overflowError | .osError | .databaseError
  | .other _ => true
  | _ => false

/-- What pydantic makes of a value that fails validation. -/
def validated {α : Type} : Option α → Except Exc α
  | some value => .ok value
  | none => .error .validationError

@[simp]
theorem validated_some {α : Type} (value : α) : validated (some value) = .ok value := rfl

@[simp]
theorem validated_none {α : Type} : validated (none : Option α) = .error .validationError := rfl

end CultureShift
