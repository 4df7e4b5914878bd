/-
# Traces of a step relation

A step relation may leave a state in several ways, so a run is recorded as a
trace: the events, each with the state that it led to. Where an invariant is
kept by exactly the good steps, and every other step breaks the property, the
property holds after each event of exactly the traces of good steps.
-/

import Mathlib.Data.List.Basic

namespace Sequential

variable {σ ε : Type} (step : σ → ε → σ → Prop)

/-- Events that follow one another from this state. -/
inductive Trace : σ → List (ε × σ) → Prop
  | nil (state : σ) : Trace state []
  | cons {state next : σ} {event : ε} {later : List (ε × σ)} (hstep : step state event next)
      (hlater : Trace next later) : Trace state ((event, next) :: later)

/-- Every event of the trace is good in the state in which it happens. -/
def EachEvent (good : σ → ε → Prop) : σ → List (ε × σ) → Prop
  | _, [] => True
  | state, (event, next) :: later => good state event ∧ EachEvent good next later

variable {step} {good : σ → ε → Prop} {state : σ}
  {trace : List (ε × σ)}

/-- The events of a trace are good exactly when the property holds after each of them. -/
theorem Trace.forall_property_iff (h : Trace step state trace) (property invariant : σ → Prop)
    (hinit : invariant state) (hproperty : ∀ state, invariant state → property state)
    (hgood : ∀ state event next, invariant state → step state event next → good state event →
      invariant next)
    (hbad : ∀ state event next, invariant state → step state event next → ¬good state event →
      ¬property next) :
    (∀ served ∈ trace, property served.2) ↔ EachEvent good state trace := by
  induction h with
  | nil state =>
      constructor
      · intro _
        exact trivial
      · rintro _ served ⟨⟩
  | @cons state next event later hstep hlater ih =>
      constructor
      · intro hall
        have hevent : good state event := by
          by_contra hnot
          exact hbad state event next hinit hstep hnot (hall _ List.mem_cons_self)
        have hnext := hgood state event next hinit hstep hevent
        refine ⟨hevent, (ih hnext).mp ?_⟩
        intro served hserved
        exact hall served (List.mem_cons_of_mem _ hserved)
      · rintro ⟨hevent, hrest⟩ served hserved
        have hnext := hgood state event next hinit hstep hevent
        rcases List.mem_cons.mp hserved with rfl | hserved
        · exact hproperty next hnext
        · exact (ih hnext).mpr hrest served hserved

end Sequential
