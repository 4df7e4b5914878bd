/-
# Retry decisions

What may follow a failed provider call: the table the service consults before
it retries a revision.
-/

import CultureShift.Domain

namespace CultureShift

open Serialization

inductive RetryCondition
  | connectionBeforeAcceptance | acceptedWithCallId | acceptanceUnknown | invalidSchema
  | safetyRefusal | brandLockFailure | culturalAmbiguity
deriving DecidableEq

inductive RetryAction
  | retryOnce | pollExisting | requireExplicitAcknowledgement | repairOnce | doNotRetry
  | recomposeSameLayersOnce | requireHumanReview
deriving DecidableEq

/-- The actions that let the same request be tried once more. -/
def RetryAction.isRetryable : RetryAction → Bool
  | .retryOnce | .repairOnce | .recomposeSameLayersOnce => true
  | _ => false

structure RetryDecision where
  action : RetryAction
  nextStatus : ProjectRunStatus

/-- `decide_retry`. The attempt count is an integer in the source too. -/
def decideRetry (condition : RetryCondition) (attemptCount : Int)
    (providerCallId : Option String) : Except Exc RetryDecision :=
  if attemptCount < 0 then .error (.valueError "attempt_count must be non-negative")
  else
    let once (action : RetryAction) : RetryDecision :=
      if 1 ≤ attemptCount then ⟨.doNotRetry, .failedFinal⟩ else ⟨action, .inProgress⟩
    match condition with
    | .acceptedWithCallId =>
        match providerCallId with
        | some callId =>
            if callId = "" ∨ 128 < callId.length then
              .error (.valueError "provider_call_id is required for polling")
            else .ok ⟨.pollExisting, .inProgress⟩
        | none => .error (.valueError "provider_call_id is required for polling")
    | .connectionBeforeAcceptance => .ok (once .retryOnce)
    | .brandLockFailure => .ok (once .recomposeSameLayersOnce)
    | .invalidSchema => .ok (once .repairOnce)
    | .acceptanceUnknown => .ok ⟨.requireExplicitAcknowledgement, .failedRetryable⟩
    | .culturalAmbiguity => .ok ⟨.requireHumanReview, .ready⟩
    | .safetyRefusal => .ok ⟨.doNotRetry, .failedFinal⟩

end CultureShift
