/-
# Project runs

The status of a run and the transitions the domain allows, and the run itself:
its fields are validated whenever one is built, so a `ProjectRun` carries the
checks it passed.
-/

import CultureShift.Concurrent.Program
import CultureShift.Contracts.Text
import CultureShift.Errors

namespace CultureShift

open Serialization Concurrent

inductive LocalizationDirection
  | chinaToUk | ukToChina
deriving DecidableEq

instance : StrEnum LocalizationDirection where
  values := [.chinaToUk, .ukToChina]
  value
    | .chinaToUk => "china_to_uk"
    | .ukToChina => "uk_to_china"
  find_value member := by cases member <;> rfl

inductive ProjectRunStatus
  | pending | inProgress | awaitingBrandLock | blocked | completed | failed | ready
  | failedRetryable | failedFinal
deriving DecidableEq

instance : StrEnum ProjectRunStatus where
  values := [.pending, .inProgress, .awaitingBrandLock, .blocked, .completed, .failed, .ready,
    .failedRetryable, .failedFinal]
  value
    | .pending => "pending"
    | .inProgress => "in_progress"
    | .awaitingBrandLock => "awaiting_brand_lock"
    | .blocked => "blocked"
    | .completed => "completed"
    | .failed => "failed"
    | .ready => "ready"
    | .failedRetryable => "failed_retryable"
    | .failedFinal => "failed_final"
  find_value member := by cases member <;> rfl

/-- The contracts' own status enumeration has the same members and values, and
one is converted into the other by value. -/
abbrev RunStatus := ProjectRunStatus

/-- `_ALLOWED_TRANSITIONS`. -/
def allowedTransitions : ProjectRunStatus → List ProjectRunStatus
  | .pending => [.inProgress, .blocked, .failed]
  | .inProgress =>
      [.awaitingBrandLock, .blocked, .completed, .failed, .ready, .failedRetryable, .failedFinal]
  | .awaitingBrandLock => [.inProgress, .failed]
  | .blocked => [.inProgress, .failed]
  | .completed => []
  | .failed => []
  | .ready => [.inProgress]
  | .failedRetryable => [.inProgress]
  | .failedFinal => []

/-- Unique code identifiers, at most 32. -/
def ValidWarningCodes (codes : List String) : Prop :=
  codes.length ≤ 32 ∧ codes.Nodup ∧ ∀ code ∈ codes, isWarningCode code.toList = true

instance (codes : List String) : Decidable (ValidWarningCodes codes) :=
  inferInstanceAs (Decidable (_ ∧ _ ∧ _))

/-- Non-sensitive state for one in-scope localization run. -/
structure ProjectRun where
  id : UUID
  direction : LocalizationDirection
  status : ProjectRunStatus
  warningCodes : List String
  initialGenerationCount : Nat
  humanRevisionCount : Nat
  technicalAttemptCount : Nat
  createdAt : Datetime
  updatedAt : Datetime
  warning_codes_valid : ValidWarningCodes warningCodes
  counts_valid : initialGenerationCount ≤ 1 ∧ humanRevisionCount ≤ 1
  timestamps_valid : createdAt ≤ updatedAt
deriving DecidableEq

namespace ProjectRun

/-- `ProjectRun.model_validate`. -/
def validate (id : UUID) (direction : LocalizationDirection) (status : ProjectRunStatus)
    (warningCodes : List String)
    (initialGenerationCount humanRevisionCount technicalAttemptCount : Nat)
    (createdAt updatedAt : Datetime) : Except Exc ProjectRun :=
  if h : ValidWarningCodes warningCodes ∧
      (initialGenerationCount ≤ 1 ∧ humanRevisionCount ≤ 1) ∧ createdAt ≤ updatedAt then
    .ok
      { id, direction, status, warningCodes, initialGenerationCount, humanRevisionCount,
        technicalAttemptCount, createdAt, updatedAt,
        warning_codes_valid := h.1, counts_valid := h.2.1, timestamps_valid := h.2.2 }
  else .error .validationError

/-- A new run: pending, with no warnings and nothing counted yet. -/
def new (id : UUID) (direction : LocalizationDirection) (now : Datetime) : ProjectRun where
  id := id
  direction := direction
  status := .pending
  warningCodes := []
  initialGenerationCount := 0
  humanRevisionCount := 0
  technicalAttemptCount := 0
  createdAt := now
  updatedAt := now
  warning_codes_valid := by decide
  counts_valid := by decide
  timestamps_valid := le_refl now

/-- Only the allowed transitions are made; the new run is validated again. The
clock is read when no time is given. -/
def withStatus {σ : Type} (utcNow : Program σ Exc Datetime) (run : ProjectRun)
    (status : ProjectRunStatus) (updatedAt : Option Datetime) : Program σ Exc ProjectRun :=
  if status ∈ allowedTransitions run.status then do
    let updatedAt ←
      match updatedAt with
      | some updatedAt => pure updatedAt
      | none => utcNow
    .ofExcept <| validate run.id run.direction status run.warningCodes run.initialGenerationCount
      run.humanRevisionCount run.technicalAttemptCount run.createdAt updatedAt
  else
    .raise <| .valueError <|
      "invalid status transition: " ++ StrEnum.value run.status ++ " -> " ++ StrEnum.value status

/-- What a validated run was built from. -/
theorem of_validate {id : UUID} {direction : LocalizationDirection} {status : ProjectRunStatus}
    {warningCodes : List String}
    {initialGenerationCount humanRevisionCount technicalAttemptCount : Nat}
    {createdAt updatedAt : Datetime} {run : ProjectRun}
    (h : validate id direction status warningCodes initialGenerationCount humanRevisionCount
      technicalAttemptCount createdAt updatedAt = .ok run) :
    run.id = id ∧ run.direction = direction ∧ run.status = status ∧
      run.warningCodes = warningCodes ∧ run.initialGenerationCount = initialGenerationCount ∧
      run.humanRevisionCount = humanRevisionCount ∧
      run.technicalAttemptCount = technicalAttemptCount ∧ run.createdAt = createdAt ∧
      run.updatedAt = updatedAt := by
  unfold validate at h
  split_ifs at h
  cases h
  exact ⟨rfl, rfl, rfl, rfl, rfl, rfl, rfl, rfl, rfl⟩

end ProjectRun

end CultureShift
