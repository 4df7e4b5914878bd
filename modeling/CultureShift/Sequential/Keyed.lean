/-
# Machines with a state for every key

A machine answers each input and moves on to its next state. Where every input
names a key and every key has a state of its own, the answers for one key are
those of a machine that is given the inputs for that key only.
-/

import Mathlib.Data.List.Basic
import Mathlib.Logic.Function.Basic

namespace Sequential

variable {σ ι ο κ : Type}

/-- The inputs, each with the answer to it. -/
def serve (step : σ → ι → ο × σ) : σ → List ι → List (ι × ο)
  | _, [] => []
  | state, input :: inputs =>
      (input, (step state input).1) :: serve step (step state input).2 inputs

/-- The machine with a state for every key. -/
def keyed [DecidableEq κ] (key : ι → κ) (step : σ → ι → ο × σ) (states : κ → σ) (input : ι) :
    ο × (κ → σ) :=
  ((step (states (key input)) input).1,
    Function.update states (key input) (step (states (key input)) input).2)

variable {step : σ → ι → ο × σ}

/-- The answers for one key depend on the inputs for that key only. -/
theorem serve_keyed [DecidableEq κ] (key : ι → κ) (own : κ) (states : κ → σ) (inputs : List ι) :
    (serve (keyed key step) states inputs).filter (fun served => key served.1 = own) =
      serve step (states own) (inputs.filter fun input => key input = own) := by
  induction inputs generalizing states with
  | nil => rfl
  | cons input inputs ih =>
      by_cases hkey : key input = own
      · have hown : (keyed key step states input).2 own = (step (states own) input).2 := by
          subst hkey
          exact Function.update_self _ _ _
        rw [serve, List.filter_cons_of_pos (by simpa using hkey), ih, hown,
          List.filter_cons_of_pos (by simpa using hkey), serve]
        subst hkey
        rfl
      · have hother : (keyed key step states input).2 own = states own :=
          Function.update_of_ne (Ne.symm hkey) _ _
        rw [serve, List.filter_cons_of_neg (by simpa using hkey), ih, hother,
          List.filter_cons_of_neg (by simpa using hkey)]

theorem mem_of_mem_serve {state : σ} {inputs : List ι} {served : ι × ο}
    (h : served ∈ serve step state inputs) : served.1 ∈ inputs := by
  induction inputs generalizing state with
  | nil => cases h
  | cons input inputs ih =>
      rcases List.mem_cons.mp h with rfl | h
      · exact List.mem_cons_self
      · exact List.mem_cons_of_mem _ (ih h)

/-- Without the inputs for the other keys, the answers for a key are the same. -/
theorem filter_serve_keyed [DecidableEq κ] (key : ι → κ) (own : κ) (states : κ → σ)
    (inputs : List ι) :
    (serve (keyed key step) states inputs).filter (fun served => key served.1 = own) =
      serve (keyed key step) states (inputs.filter fun input => key input = own) := by
  have hown : ∀ served ∈ serve (keyed key step) states (inputs.filter fun input => key input = own),
      decide (key served.1 = own) = true := by
    intro served hserved
    exact (List.mem_filter.mp (mem_of_mem_serve hserved)).2
  rw [serve_keyed, ← List.filter_eq_self.mpr hown, serve_keyed, List.filter_filter]
  simp

/-- What every answer keeps of the answers so far holds of all the answers, where the inputs
come in order. -/
theorem serve_invariant {order : ι → ι → Prop} (invariant : List (ι × ο) → σ → Prop)
    (hstep : ∀ past state input, invariant past state → (∀ served ∈ past, order served.1 input) →
      invariant (past ++ [(input, (step state input).1)]) (step state input).2)
    {inputs : List ι} (hinputs : inputs.Pairwise order) {past : List (ι × ο)} {state : σ}
    (hinit : invariant past state)
    (hpast : ∀ served ∈ past, ∀ input ∈ inputs, order served.1 input) :
    ∃ last, invariant (past ++ serve step state inputs) last := by
  induction inputs generalizing past state with
  | nil => exact ⟨state, by simpa [serve] using hinit⟩
  | cons input inputs ih =>
      obtain ⟨hfirst, hrest⟩ := List.pairwise_cons.mp hinputs
      have hnext := hstep past state input hinit fun served hserved =>
        hpast served hserved input List.mem_cons_self
      have hlater : ∀ served ∈ past ++ [(input, (step state input).1)], ∀ later ∈ inputs,
          order served.1 later := by
        intro served hserved later hlater
        rcases List.mem_append.mp hserved with hserved | hserved
        · exact hpast served hserved later (List.mem_cons_of_mem _ hlater)
        · obtain rfl := List.mem_singleton.mp hserved
          exact hfirst later hlater
      obtain ⟨last, hlast⟩ := ih hrest hnext hlater
      refine ⟨last, ?_⟩
      rwa [List.append_assoc, List.singleton_append] at hlast

end Sequential
