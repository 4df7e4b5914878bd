/-
# Runs of a reducer

A reducer takes a state and an event to the next state. A property holds
throughout a run when it holds in every state that the run reaches. Where an
invariant is kept by exactly the good steps, and every other step breaks the
property, the property holds throughout exactly the runs of good steps.
-/

import Mathlib.Data.List.Basic

namespace Sequential

variable {σ ε : Type} (step : σ → ε → σ)

/-- The state after the events. -/
def after (state : σ) (events : List ε) : σ := events.foldl step state

/-- The property holds in every state of the run. -/
def Throughout (property : σ → Prop) : σ → List ε → Prop
  | state, [] => property state
  | state, event :: events => property state ∧ Throughout property (step state event) events

/-- Every step of the run is good in the state in which it is taken. -/
def EachStep (good : σ → ε → Prop) : σ → List ε → Prop
  | _, [] => True
  | state, event :: events => good state event ∧ EachStep good (step state event) events

section

variable {step} {property invariant : σ → Prop} {good : σ → ε → Prop} {state : σ}
  {events : List ε}

@[simp]
theorem after_cons (event : ε) :
    after step state (event :: events) = after step (step state event) events := rfl

theorem Throughout.head (h : Throughout step property state events) : property state := by
  cases events with
  | nil => exact h
  | cons event events => exact h.1

theorem Throughout.last (h : Throughout step property state events) :
    property (after step state events) := by
  induction events generalizing state with
  | nil => exact h
  | cons event events ih => exact ih h.2

theorem Throughout.mono {weaker : σ → Prop} (h : Throughout step property state events)
    (himp : ∀ state, property state → weaker state) : Throughout step weaker state events := by
  induction events generalizing state with
  | nil => exact himp state h
  | cons event events ih => exact ⟨himp state h.1, ih h.2⟩

/-- An invariant that every step keeps holds after every run. -/
theorem invariant_after (invariant : σ → Prop) (hinit : invariant state)
    (hstep : ∀ state event, invariant state → invariant (step state event)) :
    invariant (after step state events) := by
  induction events generalizing state with
  | nil => exact hinit
  | cons event events ih => exact ih (hstep state event hinit)

/-- Under an invariant that the good steps keep, a step is good exactly when it has the
property, so a run has it at each step exactly when each step is good. -/
theorem eachStep_iff_eachStep {holds : σ → ε → Prop} (invariant : σ → Prop)
    (hinit : invariant state)
    (hgood : ∀ state event, invariant state → good state event →
      invariant (step state event))
    (hholds : ∀ state event, invariant state → (holds state event ↔ good state event)) :
    EachStep step holds state events ↔ EachStep step good state events := by
  induction events generalizing state with
  | nil => exact Iff.rfl
  | cons event events ih =>
      constructor
      · rintro ⟨hstep, htail⟩
        have hevent := (hholds state event hinit).mp hstep
        exact ⟨hevent, (ih (hgood state event hinit hevent)).mp htail⟩
      · rintro ⟨hevent, htail⟩
        exact ⟨(hholds state event hinit).mpr hevent,
          (ih (hgood state event hinit hevent)).mpr htail⟩

/-- The steps of a run are good exactly when the property holds throughout. -/
theorem throughout_iff_eachStep (invariant : σ → Prop) (hinit : invariant state)
    (hproperty : ∀ state, invariant state → property state)
    (hgood : ∀ state event, invariant state → good state event →
      invariant (step state event))
    (hbad : ∀ state event, invariant state → ¬good state event →
      ¬property (step state event)) :
    Throughout step property state events ↔ EachStep step good state events := by
  induction events generalizing state with
  | nil => exact ⟨fun _ => trivial, fun _ => hproperty state hinit⟩
  | cons event events ih =>
      constructor
      · rintro ⟨-, htail⟩
        have hstep : good state event := by
          by_contra hnot
          exact hbad state event hinit hnot htail.head
        exact ⟨hstep, (ih (hgood state event hinit hstep)).mp htail⟩
      · rintro ⟨hstep, htail⟩
        exact ⟨hproperty state hinit, (ih (hgood state event hinit hstep)).mpr htail⟩

end

end Sequential
