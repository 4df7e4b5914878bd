/-
# How stages evolve

What a step cannot undo. Evidence that has been collected stays as it is, and a
hold (the exclusive right of one request to decide how a stage ends) does not
come back once it has been released.
-/

import CultureShift.Lifecycle.Stage
import Mathlib.Logic.Relation

namespace CultureShift

namespace Stage

def Steps : Stage → Stage → Prop := Relation.ReflTransGen Step

theorem Steps.refl (stage : Stage) : Steps stage stage := Relation.ReflTransGen.refl

theorem Steps.single {stage stage' : Stage} (h : Step stage stage') : Steps stage stage' :=
  Relation.ReflTransGen.single h

theorem Steps.trans {first second third : Stage} (h : Steps first second)
    (h' : Steps second third) : Steps first third :=
  Relation.ReflTransGen.trans h h'

/-! ## Evidence stays -/

def feedback? : Stage → Option Feedback
  | revising _ feedback | retryable _ feedback _ | retrying _ feedback _ _
  | exhausted _ feedback _ _ _ | revised _ feedback _ _ => some feedback
  | _ => none

def retried? : Stage → Option Claim
  | retrying _ _ _ retry | exhausted _ _ _ retry _ => some retry
  | revised _ _ retry _ => retry
  | _ => none

/-- A piece of evidence that no step changes or withdraws. -/
def Persistent {α : Type} (evidence : Stage → Option α) : Prop :=
  ∀ stage stage' value, Step stage stage' → evidence stage = some value →
    evidence stage' = some value

theorem Persistent.of_steps {α : Type} {evidence : Stage → Option α} (h : Persistent evidence)
    {stage stage' : Stage} {value : α} (hsteps : Steps stage stage')
    (hvalue : evidence stage = some value) : evidence stage' = some value := by
  induction hsteps with
  | refl => exact hvalue
  | tail _ hstep ih => exact h _ _ value hstep ih

theorem persistent_request : Persistent fun stage => some stage.request := by
  intro stage stage' value hstep hvalue
  cases hstep <;> exact hvalue

theorem persistent_analyzed? : Persistent analyzed? := by
  intro stage stage' value hstep hvalue
  cases hstep <;> first
    | exact hvalue
    | simp [analyzed?, confirmed?, drafted?, composed?, reviewed?] at hvalue

theorem persistent_confirmed? : Persistent confirmed? := by
  intro stage stage' value hstep hvalue
  cases hstep <;> first | exact hvalue | simp [confirmed?, drafted?, composed?, reviewed?] at hvalue

theorem persistent_drafted? : Persistent drafted? := by
  intro stage stage' value hstep hvalue
  cases hstep <;> first | exact hvalue | simp [drafted?, composed?, reviewed?] at hvalue

theorem persistent_composed? : Persistent composed? := by
  intro stage stage' value hstep hvalue
  cases hstep <;> first | exact hvalue | simp [composed?, reviewed?] at hvalue

theorem persistent_reviewed? : Persistent reviewed? := by
  intro stage stage' value hstep hvalue
  cases hstep <;> first | exact hvalue | simp [reviewed?] at hvalue

theorem persistent_revised? : Persistent revised? := by
  intro stage stage' value hstep hvalue
  cases hstep <;> simp [revised?] at hvalue

theorem persistent_feedback? : Persistent feedback? := by
  intro stage stage' value hstep hvalue
  cases hstep <;> first | exact hvalue | simp [feedback?] at hvalue

theorem persistent_retried? : Persistent retried? := by
  intro stage stage' value hstep hvalue
  cases hstep <;> first | exact hvalue | simp [retried?] at hvalue

/-- The claim that the service made for feedback, or for a retry. -/
def claim? (retrying : Bool) (stage : Stage) : Option Claim :=
  if retrying then stage.retried? else stage.feedback?.map Feedback.toClaim

theorem persistent_claim? (retrying : Bool) : Persistent (claim? retrying) := by
  intro stage stage' value hstep hvalue
  cases retrying with
  | true => exact persistent_retried? stage stage' value hstep hvalue
  | false =>
      obtain ⟨feedback, hfeedback, rfl⟩ := Option.map_eq_some_iff.mp hvalue
      exact Option.map_eq_some_iff.mpr
        ⟨feedback, persistent_feedback? stage stage' feedback hstep hfeedback, rfl⟩

/-- A reviewed run has all the evidence that the review rests on. -/
theorem evidence_of_reviewed? {stage : Stage} {evidence : Reviewed}
    (h : stage.reviewed? = some evidence) :
    stage.request = evidence.request ∧ stage.analyzed? = some evidence.toAnalyzed ∧
      stage.confirmed? = some evidence.toConfirmed ∧ stage.drafted? = some evidence.toDrafted ∧
      stage.composed? = some evidence.toComposed := by
  cases stage <;>
    simp_all [request, analyzed?, confirmed?, drafted?, composed?, reviewed?]

/-- A revised stage is the end. -/
theorem eq_of_steps_of_revised? {stage stage' : Stage} {revision : Revised}
    (hsteps : Steps stage stage') (hrevised : stage.revised? = some revision) : stage' = stage := by
  rcases Relation.ReflTransGen.cases_head hsteps with heq | ⟨_, hstep, _⟩
  · exact heq.symm
  · cases hstep <;> simp [revised?] at hrevised

/-! ## Holds -/

end Stage

/-- What a request may hold on a run: its analysis, or one of its operations. -/
inductive Hold
  | analysis
  | feedback (operationId : Nat)
  | retry (operationId : Nat)
deriving DecidableEq

def Hold.operationId? : Hold → Option Nat
  | analysis => none
  | feedback operationId | retry operationId => some operationId

namespace Stage

/-- The hold that a stage waits for. -/
def hold? : Stage → Option Hold
  | analyzing _ => some .analysis
  | revising _ feedback => some (.feedback feedback.id)
  | retrying _ _ _ retry => some (.retry retry.id)
  | _ => none

/-- The hold whose operation has just failed. -/
def failed? : Stage → Option Hold
  | retryable _ feedback _ => some (.feedback feedback.id)
  | exhausted _ _ _ retry _ => some (.retry retry.id)
  | _ => none

/-- Every hold that was taken so far. -/
def taken (stage : Stage) : List Hold :=
  match stage with
  | pending _ => []
  | _ =>
      .analysis :: ((stage.feedback?.map fun feedback => .feedback feedback.id).toList ++
        (stage.retried?.map fun retry => .retry retry.id).toList)

/-- The hold was taken, and is not held any more. -/
def Released (stage : Stage) (hold : Hold) : Prop :=
  hold ∈ stage.taken ∧ stage.hold? ≠ some hold

theorem Released.step {stage stage' : Stage} {hold : Hold} (h : stage.Released hold)
    (hstep : Step stage stage') : stage'.Released hold := by
  obtain ⟨htaken, hfree⟩ := h
  cases hstep
  -- A new hold is none of those that were taken before.
  case claimFeedback => simp_all [Released, taken, hold?, feedback?, retried?]
  case claimRetry =>
    simp only [taken, feedback?, retried?, Option.map_some, Option.map_none, Option.toList_some,
      Option.toList_none, List.append_nil, List.mem_cons, List.not_mem_nil, or_false] at htaken
    rcases htaken with rfl | rfl <;> simp [Released, taken, hold?, feedback?, retried?]
  all_goals simp_all [Released, taken, hold?, feedback?, retried?]

theorem Released.steps {stage stage' : Stage} {hold : Hold} (h : stage.Released hold)
    (hsteps : Steps stage stage') : stage'.Released hold := by
  induction hsteps with
  | refl => exact h
  | tail _ hstep ih => exact ih.step hstep

theorem taken_of_steps {stage stage' : Stage} {hold : Hold} (hsteps : Steps stage stage')
    (htaken : hold ∈ stage.taken) : hold ∈ stage'.taken := by
  induction hsteps with
  | refl => exact htaken
  | tail _ hstep ih =>
      cases hstep <;> simp_all [taken, feedback?, retried?]
      rcases ih with ih | ih <;> simp [ih]

/-- Only an accepted version is revised. -/
theorem accepted_of_hold {stage : Stage} {evidence : Reviewed} {hold : Hold}
    (hhold : stage.hold? = some hold) (hreviewed : stage.reviewed? = some evidence) :
    evidence.critique.status ≠ .reject := by
  cases stage <;> simp only [hold?, reviewed?, Option.some.injEq, reduceCtorEq] at hhold hreviewed
  case revising accepted feedback => exact hreviewed ▸ accepted.accepted
  case retrying accepted feedback failedAt retry => exact hreviewed ▸ accepted.accepted

/-- A hold ends by being released. -/
theorem held_or_released {stage stage' : Stage} {hold : Hold} (h : stage.hold? = some hold)
    (hsteps : Steps stage stage') : stage'.hold? = some hold ∨ stage'.Released hold := by
  induction hsteps with
  | refl => exact .inl h
  | tail _ hstep ih =>
      rcases ih with hheld | hreleased
      · cases hstep <;> simp_all [Released, taken, hold?, feedback?, retried?]
      · exact .inr (hreleased.step hstep)

end Stage

end CultureShift
