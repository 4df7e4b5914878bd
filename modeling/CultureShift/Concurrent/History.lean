/-
# Contracts with a history

What a client may find can depend on the steps it has taken so far. A history
sums them up as a phase: the step it took and the state it found decide which
phase comes next, and what holds in a phase survives the steps of the others.
`Traces` is the contract of a client under a history, and `Runs.traces` its
soundness: whatever the others do, a client keeps to its contract in the phase
that its own steps have led to.
-/

import CultureShift.Concurrent.Discipline

namespace Concurrent

/-- A summary of the steps that a client has taken. -/
structure History (σ γ : Type) where
  /-- What every step does, whoever takes it. -/
  moves : σ → σ → Prop
  /-- What the client may find in a phase. -/
  finds : γ → σ → Prop
  /-- The phase after a step of the client. -/
  next : γ → σ → σ → γ
  finds_of_moves : ∀ {phase before after}, finds phase before → moves before after →
    finds phase after
  finds_next : ∀ {phase before after}, finds phase before → moves before after →
    finds (next phase before after) after

namespace Program

variable {σ κ ε α β γ : Type}

/-- From this phase on, the program returns as `post` and raises as `error` says
in the phase where it ends. -/
def Traces (H : History σ γ) (post : γ → α → Prop) (error : γ → ε → Prop) :
    γ → Program σ ε α → Prop
  | phase, ret value => post phase value
  | phase, raise failure => error phase failure
  | phase, atomic effect next => ∀ state, H.finds phase state → H.moves state (effect state) →
      Traces H post error (H.next phase state (effect state)) (next state)
  | phase, choose _ next => ∀ answer, Traces H post error phase (next answer)

variable {H : History σ γ} {error : γ → ε → Prop} {phase : γ}

theorem traces_bind {post : γ → β → Prop} {program : Program σ ε α} {rest : α → Program σ ε β}
    (h : program.Traces H (fun phase value => (rest value).Traces H post error phase) error
      phase) : (program >>= rest).Traces H post error phase := by
  induction program generalizing phase with
  | ret value => exact h
  | raise failure => exact h
  | atomic effect next ih =>
      intro state hstate hmoves
      exact ih state (h state hstate hmoves)
  | choose ι next ih =>
      intro answer
      exact ih answer (h answer)

theorem traces_tryCatch {post : γ → α → Prop} {program : Program σ ε α}
    {handler : ε → Program σ ε α}
    (h : program.Traces H post (fun phase failure => (handler failure).Traces H post error phase)
      phase) : (program.tryCatch handler).Traces H post error phase := by
  induction program generalizing phase with
  | ret value => exact h
  | raise failure => exact h
  | atomic effect next ih =>
      intro state hstate hmoves
      exact ih state (h state hstate hmoves)
  | choose ι next ih =>
      intro answer
      exact ih answer (h answer)

theorem Traces.mono {post post' : γ → α → Prop} {error' : γ → ε → Prop} {program : Program σ ε α}
    (h : program.Traces H post error phase)
    (hpost : ∀ phase value, post phase value → post' phase value)
    (herror : ∀ phase failure, error phase failure → error' phase failure) :
    program.Traces H post' error' phase := by
  induction program generalizing phase with
  | ret value => exact hpost phase value h
  | raise failure => exact herror phase failure h
  | atomic effect next ih =>
      intro state hstate hmoves
      exact ih state (h state hstate hmoves)
  | choose ι next ih =>
      intro answer
      exact ih answer (h answer)

/-- A transaction is one step, and a rollback leaves the state it found. -/
theorem traces_transact {post : γ → α → Prop} {body : σ → Except ε (α × σ)}
    (hcommit : ∀ state value after, H.finds phase state → H.moves state after →
      body state = .ok (value, after) → post (H.next phase state after) value)
    (hrollback : ∀ state failure, H.finds phase state → body state = .error failure →
      error (H.next phase state state) failure) :
    (transact body).Traces H post error phase := by
  intro state hstate hmoves
  cases hbody : body state with
  | error failure =>
      simp only [hbody] at hmoves ⊢
      exact hrollback state failure hstate hbody
  | ok result =>
      obtain ⟨value, after⟩ := result
      simp only [hbody] at hmoves ⊢
      exact hcommit state value after hstate hmoves hbody

/-- In phases that are closed under its own steps, a program that works
elsewhere stays in them. -/
theorem traces_within {get : σ → κ} {set : κ → σ → σ} {post : γ → α → Prop}
    {program : Program κ ε α} (within : γ → Prop) (hphase : within phase)
    (hnext : ∀ phase state part, within phase → within (H.next phase state (set part state)))
    (hpost : ∀ phase value, within phase → post phase value)
    (herror : ∀ phase failure, within phase → error phase failure) :
    (program.within get set).Traces H post error phase := by
  induction program generalizing phase with
  | ret value => exact hpost phase value hphase
  | raise failure => exact herror phase failure hphase
  | atomic effect next ih =>
      intro state hstate hmoves
      exact ih (get state) (hnext phase state _ hphase)
  | choose ι next ih =>
      intro answer
      exact ih answer hphase

end Program

section Runs

variable {ι σ ε α γ : Type} [DecidableEq ι] {start config : Config ι σ ε α}
  {log : List (Event ι σ)}

/-- The steps of one client. -/
def stepsOf (i : ι) (log : List (Event ι σ)) : List (Event ι σ) :=
  log.filter fun event => event.client = i

/-- The phase that these steps lead to. -/
def History.after (H : History σ γ) (first : γ) (steps : List (Event ι σ)) : γ :=
  steps.foldl (fun phase step => H.next phase step.before step.after) first

theorem stepsOf_append_self (event : Event ι σ) :
    stepsOf event.client (log ++ [event]) = stepsOf event.client log ++ [event] := by
  simp [stepsOf]

theorem stepsOf_append_ne {i : ι} {event : Event ι σ} (h : event.client ≠ i) :
    stepsOf i (log ++ [event]) = stepsOf i log := by
  simp [stepsOf, h]

/-- Whatever the other clients do, a client keeps to its contract. -/
theorem Runs.traces {H : History σ γ} {post : γ → α → Prop} {error : γ → ε → Prop} {first : γ}
    {i : ι} (hruns : Runs start log config)
    (hmoves : ∀ event ∈ log, H.moves event.before event.after)
    (hfinds : H.finds first start.state)
    (hstart : (start.threads i).Traces H post error first) :
    H.finds (H.after first (stepsOf i log)) config.state ∧
      (config.threads i).Traces H post error (H.after first (stepsOf i log)) := by
  induction hruns with
  | refl => exact ⟨hfinds, hstart⟩
  | @atomic log config j effect next _ hthread ih =>
      obtain ⟨hfound, htraces⟩ := ih fun event hevent => hmoves event (by simp [hevent])
      have hstep : H.moves config.state (effect config.state) :=
        hmoves ⟨j, config.state, effect config.state⟩ (by simp)
      by_cases hij : j = i
      · subst hij
        rw [stepsOf_append_self ⟨j, config.state, effect config.state⟩, History.after,
          List.foldl_append, Config.move_threads_self]
        rw [hthread] at htraces
        exact ⟨H.finds_next hfound hstep, htraces _ hfound hstep⟩
      · rw [stepsOf_append_ne hij, config.move_threads_ne _ _ (Ne.symm hij)]
        exact ⟨H.finds_of_moves hfound hstep, htraces⟩
  | @choose log config j κ next answer _ hthread ih =>
      obtain ⟨hfound, htraces⟩ := ih hmoves
      refine ⟨hfound, ?_⟩
      by_cases hij : j = i
      · subst hij
        rw [hthread] at htraces
        rw [Config.move_threads_self]
        exact htraces answer
      · rw [config.move_threads_ne _ _ (Ne.symm hij)]
        exact htraces

/-- One client meets its contract, whatever contracts the others have. -/
theorem Runs.meets {assumes : σ → Prop} {promises : σ → σ → Prop} {post : α → Prop}
    {error : ε → Prop} {i : ι} (hruns : Runs start log config)
    (hstart : (start.threads i).Meets assumes promises post error)
    (hassumes : ∀ event ∈ log, event.client = i → assumes event.before) :
    (config.threads i).Meets assumes promises post error ∧
      ∀ event ∈ log, event.client = i → promises event.before event.after := by
  induction hruns with
  | refl => exact ⟨hstart, by simp⟩
  | @atomic log config j effect next _ hthread ih =>
      obtain ⟨hmeets, hkept⟩ := ih fun event hevent => hassumes event (by simp [hevent])
      by_cases hij : j = i
      · subst hij
        rw [hthread] at hmeets
        obtain ⟨hstep, hnext⟩ := hmeets config.state
          (hassumes ⟨j, config.state, effect config.state⟩ (by simp) rfl)
        refine ⟨by rwa [Config.move_threads_self], fun event hevent hclient => ?_⟩
        rcases List.mem_append.mp hevent with hevent | hevent
        · exact hkept event hevent hclient
        · rw [List.mem_singleton.mp hevent]
          exact hstep
      · refine ⟨by rwa [config.move_threads_ne _ _ (Ne.symm hij)], fun event hevent hclient => ?_⟩
        rcases List.mem_append.mp hevent with hevent | hevent
        · exact hkept event hevent hclient
        · rw [List.mem_singleton.mp hevent] at hclient
          exact absurd hclient hij
  | @choose log config j κ next answer _ hthread ih =>
      obtain ⟨hmeets, hkept⟩ := ih hassumes
      refine ⟨?_, hkept⟩
      by_cases hij : j = i
      · subst hij
        rw [hthread] at hmeets
        rw [Config.move_threads_self]
        exact hmeets answer
      · rwa [config.move_threads_ne _ _ (Ne.symm hij)]

/-- Safe clients move along their discipline with every step. -/
theorem Discipline.moves_of_runs {τ : Type} {D : Discipline σ τ} {assumes : ι → σ → Prop}
    {posts : ι → α → Set τ → σ → Prop} {errors : ι → ε → Set τ → σ → Prop} {owns : ι → Set τ}
    (hruns : Runs start log config) (hstart : Keeps D assumes posts errors owns start)
    (hlog : Assumed assumes log) {event : Event ι σ} (hevent : event ∈ log) :
    D.inv event.after ∧ D.le start.state event.before ∧ D.le event.before event.after ∧
      D.le event.after config.state := by
  obtain ⟨log₁, log₂, mid, effect, next, rfl, hfirst, hthread, hbefore, hafter, hlast⟩ :=
    hruns.split hevent
  rw [← hbefore] at hafter hlast ⊢
  rw [← hafter] at hlast ⊢
  obtain ⟨owns₁, hkeeps, hfound, -⟩ := keeps_of_runs hfirst hstart fun prior hprior =>
    hlog prior (List.mem_append_left _ hprior)
  have hassumed : assumes event.client mid.state :=
    hbefore ▸ hlog event (List.mem_append_right _ List.mem_cons_self)
  have hmoved := hkeeps.atomic hthread hassumed
  obtain ⟨-, -, hle, -⟩ := keeps_of_runs hlast hmoved fun later hlater =>
    hlog later (List.mem_append_right _ (List.mem_cons_of_mem _ hlater))
  obtain ⟨-, -, hstep, -⟩ := keeps_of_runs (.atomic event.client (.refl) hthread) hkeeps
    (fun later hlater => by
      obtain rfl := List.mem_singleton.mp hlater
      exact hassumed)
  exact ⟨hmoved.inv, hfound, hstep, hle⟩

end Runs

end Concurrent
