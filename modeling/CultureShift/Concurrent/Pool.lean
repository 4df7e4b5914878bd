/-
# Interleaved clients

A configuration is a shared state together with one program per client. The
index type of the clients is arbitrary, so any number of them may be active;
which one moves next is unconstrained. A run keeps a log of the atomic steps it
took: who moved, the state that client found and the state it left.
-/

import CultureShift.Concurrent.Program
import Mathlib.Logic.Function.Basic
import Mathlib.Data.List.Basic

namespace Concurrent

variable {ι σ ε α β : Type}

/-- A shared state and what each client still has to do. -/
structure Config (ι σ ε α : Type) : Type 1 where
  state : σ
  threads : ι → Program σ ε α

variable [DecidableEq ι]

namespace Config

/-- Client `i` continues as `program`, in the given state. -/
def move (config : Config ι σ ε α) (i : ι) (state : σ) (program : Program σ ε α) :
    Config ι σ ε α where
  state := state
  threads := Function.update config.threads i program

@[simp]
theorem move_state (config : Config ι σ ε α) (i : ι) (state : σ) (program : Program σ ε α) :
    (config.move i state program).state = state := rfl

@[simp]
theorem move_threads_self (config : Config ι σ ε α) (i : ι) (state : σ)
    (program : Program σ ε α) : (config.move i state program).threads i = program := by
  simp [move]

theorem move_threads_ne (config : Config ι σ ε α) {i j : ι} (state : σ)
    (program : Program σ ε α) (hne : j ≠ i) :
    (config.move i state program).threads j = config.threads j := by
  simp [move, hne]

@[simp]
theorem move_move (config : Config ι σ ε α) (i : ι) (state state' : σ)
    (program program' : Program σ ε α) :
    (config.move i state program).move i state' program' = config.move i state' program' := by
  simp [move]

@[simp]
theorem move_self (config : Config ι σ ε α) (i : ι) :
    config.move i config.state (config.threads i) = config := by
  simp [move]

end Config

/-- One atomic step of a run: who moved, the state found and the state left. -/
structure Event (ι σ : Type) where
  client : ι
  before : σ
  after : σ

/-- Runs from a configuration, with the log of their atomic steps. -/
inductive Runs (start : Config ι σ ε α) : List (Event ι σ) → Config ι σ ε α → Prop
  | refl : Runs start [] start
  | atomic {log : List (Event ι σ)} {config : Config ι σ ε α} (i : ι) {effect : σ → σ}
      {next : σ → Program σ ε α} (prior : Runs start log config)
      (hthread : config.threads i = .atomic effect next) :
      Runs start (log ++ [⟨i, config.state, effect config.state⟩])
        (config.move i (effect config.state) (next config.state))
  | choose {log : List (Event ι σ)} {config : Config ι σ ε α} (i : ι) {κ : Type}
      {next : κ → Program σ ε α} (answer : κ) (prior : Runs start log config)
      (hthread : config.threads i = .choose κ next) :
      Runs start log (config.move i config.state (next answer))

/-- Some run from `start` ends in `config`. -/
def Reaches (start config : Config ι σ ε α) : Prop := ∃ log, Runs start log config

theorem Runs.reaches {start config : Config ι σ ε α} {log : List (Event ι σ)}
    (h : Runs start log config) : Reaches start config := ⟨log, h⟩

theorem Runs.trans {first second third : Config ι σ ε α} {log log' : List (Event ι σ)}
    (h : Runs first log second) (h' : Runs second log' third) :
    Runs first (log ++ log') third := by
  induction h' with
  | refl => simpa using h
  | atomic i _ hthread ih =>
      rw [← List.append_assoc]
      exact .atomic i ih hthread
  | choose i answer _ hthread ih => exact .choose i answer ih hthread

theorem Reaches.refl (start : Config ι σ ε α) : Reaches start start := ⟨[], .refl⟩

theorem Reaches.trans {first second third : Config ι σ ε α} (h : Reaches first second)
    (h' : Reaches second third) : Reaches first third := by
  obtain ⟨log, h⟩ := h
  obtain ⟨log', h'⟩ := h'
  exact ⟨log ++ log', h.trans h'⟩

/-- A client that runs undisturbed is one of the interleavings, and nobody else
moves in it. -/
theorem runs_of_solo {config : Config ι σ ε α} {i : ι} {program : Program σ ε α}
    {state last : σ} {outcome : Except ε α} (hsolo : program.Solo state outcome last)
    (hprogram : config.threads i = program) (hstate : config.state = state) :
    ∃ log, Runs config log (config.move i last (.ofExcept outcome)) ∧
      ∀ event ∈ log, event.client = i := by
  induction hsolo generalizing config with
  | ret value state =>
      subst hstate
      rw [Program.ofExcept_ok, ← hprogram, Config.move_self]
      exact ⟨[], .refl, by simp⟩
  | raise error state =>
      subst hstate
      rw [Program.ofExcept_error, ← hprogram, Config.move_self]
      exact ⟨[], .refl, by simp⟩
  | @atomic effect next state _ _ _ ih =>
      subst hstate
      have hstep := Runs.atomic i (.refl : Runs config [] config) hprogram
      obtain ⟨log, hruns, hclient⟩ := ih (config.move_threads_self i _ _) rfl
      rw [Config.move_move] at hruns
      refine ⟨_, hstep.trans hruns, ?_⟩
      intro event hevent
      rcases List.mem_append.mp hevent with hevent | hevent
      · rw [List.mem_singleton.mp hevent]
      · exact hclient event hevent
  | @choose κ next state _ _ answer _ ih =>
      subst hstate
      have hstep := Runs.choose i answer (.refl : Runs config [] config) hprogram
      obtain ⟨log, hruns, hclient⟩ := ih (config.move_threads_self i _ _) rfl
      rw [Config.move_move] at hruns
      exact ⟨_, hstep.trans hruns, hclient⟩

/-- A run can be taken apart at each of its steps. -/
theorem Runs.split {start config : Config ι σ ε α} {log : List (Event ι σ)}
    (h : Runs start log config) {event : Event ι σ} (hevent : event ∈ log) :
    ∃ log₁ log₂ mid effect next, log = log₁ ++ event :: log₂ ∧ Runs start log₁ mid ∧
      mid.threads event.client = .atomic effect next ∧ mid.state = event.before ∧
      effect event.before = event.after ∧
      Runs (mid.move event.client event.after (next event.before)) log₂ config := by
  induction h with
  | refl => cases hevent
  | @atomic log config i effect next prior hthread ih =>
      rcases List.mem_append.mp hevent with hevent | hevent
      · obtain ⟨log₁, log₂, mid, effect', next', rfl, hfirst, hmid, hbefore, hafter, hlast⟩ :=
          ih hevent
        exact ⟨log₁, _, mid, effect', next', List.append_assoc _ _ _, hfirst, hmid, hbefore,
          hafter, .atomic i hlast hthread⟩
      · obtain rfl := List.mem_singleton.mp hevent
        exact ⟨log, [], config, effect, next, rfl, prior, hthread, rfl, rfl, .refl⟩
  | @choose log config i κ next answer prior hthread ih =>
      obtain ⟨log₁, log₂, mid, effect', next', rfl, hfirst, hmid, hbefore, hafter, hlast⟩ :=
        ih hevent
      exact ⟨log₁, log₂, mid, effect', next', rfl, hfirst, hmid, hbefore, hafter,
        .choose i answer hlast hthread⟩

/-- What a step leaves is reached. -/
theorem Runs.reaches_after {start config : Config ι σ ε α} {log : List (Event ι σ)}
    (h : Runs start log config) {event : Event ι σ} (hevent : event ∈ log) :
    ∃ later, Reaches start later ∧ later.state = event.after ∧ Reaches later config := by
  obtain ⟨log₁, log₂, mid, effect, next, rfl, hfirst, hthread, hbefore, hafter, hlast⟩ :=
    h.split hevent
  rw [← hbefore] at hafter hlast
  rw [← hafter] at hlast ⊢
  exact ⟨_, (hfirst.atomic event.client hthread).reaches, rfl, hlast.reaches⟩

/-- What comes to hold in a run, some step brings about. -/
theorem Runs.exists_change {start config : Config ι σ ε α} {log : List (Event ι σ)}
    (h : Runs start log config) {property : σ → Prop} (hstart : ¬property start.state)
    (hlast : property config.state) :
    ∃ event ∈ log, ¬property event.before ∧ property event.after := by
  induction h with
  | refl => exact absurd hlast hstart
  | @atomic log config i effect next _ _ ih =>
      by_cases hprior : property config.state
      · obtain ⟨event, hevent, hchange⟩ := ih hprior
        exact ⟨event, List.mem_append_left _ hevent, hchange⟩
      · exact ⟨_, List.mem_append_right _ (List.mem_singleton_self _), hprior, hlast⟩
  | choose i answer _ _ ih => exact ih hlast

/-- Let one client of a run take its next step. -/
theorem Runs.step {start config : Config ι σ ε α} {log : List (Event ι σ)}
    (h : Runs start log config) {i : ι} {thread program : Program σ ε α} {after : σ}
    (hthread : config.threads i = thread) (hstep : thread.Step config.state program after) :
    Runs start (log ++ [⟨i, config.state, after⟩]) (config.move i after program) := by
  generalize hstate : config.state = state at hstep
  cases hstep with
  | atomic effect next =>
      subst hstate
      exact .atomic i h hthread

/-- Let one client of a run go on to its end. -/
theorem Runs.serve {start config : Config ι σ ε α} {log : List (Event ι σ)}
    (h : Runs start log config) {i : ι} {thread : Program σ ε α} {last : σ} {outcome : Except ε α}
    (hthread : config.threads i = thread)
    (hexec : thread.exec config.state = some (outcome, last)) :
    ∃ log', Runs start log' (config.move i last (.ofExcept outcome)) := by
  obtain ⟨log', hruns, -⟩ := runs_of_solo (Program.solo_of_exec hexec) hthread rfl
  exact ⟨log ++ log', h.trans hruns⟩

/-- Let one client of a reachable configuration run to its end. -/
theorem Reaches.serve {start config : Config ι σ ε α} (h : Reaches start config) {i : ι}
    {program : Program σ ε α} {last : σ} {outcome : Except ε α}
    (hthread : config.threads i = program)
    (hexec : program.exec config.state = some (outcome, last)) :
    Reaches start (config.move i last (.ofExcept outcome)) := by
  obtain ⟨log, hruns⟩ := h
  exact hruns.serve hthread hexec

/-- Let one client of a reachable configuration go on for some steps. -/
theorem Reaches.lead {start config : Config ι σ ε α} (h : Reaches start config) {i : ι}
    {thread program : Program σ ε α} {state after : σ} (hthread : config.threads i = thread)
    (hstate : config.state = state) (hleads : thread.Leads state program after) :
    Reaches start (config.move i after program) := by
  induction hleads generalizing config with
  | refl thread state =>
      subst hthread hstate
      rwa [Config.move_self]
  | step hstep _ ih =>
      subst hstate
      obtain ⟨log, hruns⟩ := h
      have hlast := ih (hruns.step hthread hstep).reaches (Config.move_threads_self _ _ _ _) rfl
      rwa [Config.move_move] at hlast

/-! ## Contracts of the clients

`Program.Meets` speaks of the states one client finds. When all clients meet
their contracts, every step of a run keeps the promise of the client that took
it, provided the states it found are the ones it assumed. -/

section Contracts

variable {assumes : ι → σ → Prop} {promises : ι → σ → σ → Prop} {post : ι → α → Prop}
  {error : ι → ε → Prop}

/-- Every client left in `config` meets its contract. -/
def AllMeet (assumes : ι → σ → Prop) (promises : ι → σ → σ → Prop) (post : ι → α → Prop)
    (error : ι → ε → Prop) (config : Config ι σ ε α) : Prop :=
  ∀ i, (config.threads i).Meets (assumes i) (promises i) (post i) (error i)

/-- The states the clients found are the ones they assumed. -/
def Assumed (assumes : ι → σ → Prop) (log : List (Event ι σ)) : Prop :=
  ∀ event ∈ log, assumes event.client event.before

theorem AllMeet.move {config : Config ι σ ε α} (h : AllMeet assumes promises post error config)
    {i : ι} {state : σ} {program : Program σ ε α}
    (hprogram : program.Meets (assumes i) (promises i) (post i) (error i)) :
    AllMeet assumes promises post error (config.move i state program) := by
  intro j
  by_cases hji : j = i
  · subst j
    simpa using hprogram
  · simpa [config.move_threads_ne _ _ hji] using h j

theorem allMeet_of_runs {start config : Config ι σ ε α} {log : List (Event ι σ)}
    (hruns : Runs start log config) (hstart : AllMeet assumes promises post error start)
    (hlog : Assumed assumes log) :
    AllMeet assumes promises post error config ∧
      ∀ event ∈ log, promises event.client event.before event.after := by
  induction hruns with
  | refl => exact ⟨hstart, by simp⟩
  | @atomic log config i effect next _ hthread ih =>
      have hprior : Assumed assumes log := fun event hevent => hlog event (by simp [hevent])
      obtain ⟨hmeet, hkept⟩ := ih hprior
      have hfound : assumes i config.state := 
        hlog ⟨i, config.state, effect config.state⟩ (by simp)
      have hstep := hmeet i
      rw [hthread] at hstep
      refine ⟨hmeet.move (hstep _ hfound).2, fun event hevent => ?_⟩
      rcases List.mem_append.mp hevent with hevent | hevent
      · exact hkept event hevent
      · rw [List.mem_singleton.mp hevent]
        exact (hstep _ hfound).1
  | @choose log config i κ next answer _ hthread ih =>
      obtain ⟨hmeet, hkept⟩ := ih hlog
      have hstep := hmeet i
      rw [hthread] at hstep
      exact ⟨hmeet.move (hstep answer), hkept⟩

end Contracts

end Concurrent
