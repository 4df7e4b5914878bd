/-
# What a client may do in a phase

The steps that a client has taken put it in a phase, and the phase says what
its next step may do. Nothing is assumed of the states it finds.
-/

import CultureShift.Concurrent.History

namespace Concurrent

structure Phases (σ γ : Type) where
  /-- What a step may do in a phase. -/
  allows : γ → σ → σ → Prop
  /-- The phase after a step. -/
  next : γ → σ → σ → γ

namespace Program

variable {σ κ ε α β γ : Type}

/-- From this phase on, the program takes only steps that are allowed, and it returns and raises
as these say in the phase where it ends. -/
def Plays (P : Phases σ γ) (post : γ → α → Prop) (error : γ → ε → Prop) :
    γ → Program σ ε α → Prop
  | phase, ret value => post phase value
  | phase, raise failure => error phase failure
  | phase, atomic effect next => ∀ state, P.allows phase state (effect state) ∧
      Plays P post error (P.next phase state (effect state)) (next state)
  | phase, choose _ next => ∀ answer, Plays P post error phase (next answer)

variable {P : Phases σ γ} {error : γ → ε → Prop} {phase : γ}

theorem Plays.mono {post post' : γ → α → Prop} {error' : γ → ε → Prop} {program : Program σ ε α}
    (h : program.Plays P post error phase)
    (hpost : ∀ phase value, post phase value → post' phase value)
    (herror : ∀ phase failure, error phase failure → error' phase failure) :
    program.Plays P post' error' phase := by
  induction program generalizing phase with
  | ret value => exact hpost phase value h
  | raise failure => exact herror phase failure h
  | atomic effect next ih =>
      intro state
      exact ⟨(h state).1, ih state (h state).2⟩
  | choose ι next ih => exact fun answer => ih answer (h answer)

theorem plays_bind {post : γ → β → Prop} {program : Program σ ε α} {rest : α → Program σ ε β}
    (h : program.Plays P (fun phase value => (rest value).Plays P post error phase) error phase) :
    (program >>= rest).Plays P post error phase := by
  induction program generalizing phase with
  | ret value => exact h
  | raise failure => exact h
  | atomic effect next ih =>
      intro state
      exact ⟨(h state).1, ih state (h state).2⟩
  | choose ι next ih => exact fun answer => ih answer (h answer)

theorem plays_tryCatch {post : γ → α → Prop} {program : Program σ ε α}
    {handler : ε → Program σ ε α}
    (h : program.Plays P post (fun phase failure => (handler failure).Plays P post error phase)
      phase) : (program.tryCatch handler).Plays P post error phase := by
  induction program generalizing phase with
  | ret value => exact h
  | raise failure => exact h
  | atomic effect next ih =>
      intro state
      exact ⟨(h state).1, ih state (h state).2⟩
  | choose ι next ih => exact fun answer => ih answer (h answer)

/-- A program that works elsewhere, and does there what every phase allows. -/
theorem plays_within {get : σ → κ} {set : κ → σ → σ} {promises : κ → κ → Prop}
    {returns : α → Prop} {raises : ε → Prop} {program : Program κ ε α}
    (h : program.Meets (fun _ => True) promises returns raises)
    (hallows : ∀ phase state part, promises (get state) part →
      P.allows phase state (set part state)) :
    (program.within get set).Plays P (fun _ => returns) (fun _ => raises) phase := by
  induction program generalizing phase with
  | ret value => exact h
  | raise failure => exact h
  | atomic effect next ih =>
      intro state
      obtain ⟨hstep, hnext⟩ := h (get state) trivial
      exact ⟨hallows phase state _ hstep, ih (get state) hnext⟩
  | choose ι next ih => exact fun answer => ih answer (h answer)

theorem plays_transact {post : γ → α → Prop} {body : σ → Except ε (α × σ)}
    (hcommit : ∀ state value after, body state = .ok (value, after) →
      P.allows phase state after ∧ post (P.next phase state after) value)
    (hrollback : ∀ state failure, body state = .error failure →
      P.allows phase state state ∧ error (P.next phase state state) failure) :
    (transact body).Plays P post error phase := by
  intro state
  cases hbody : body state with
  | ok result =>
      obtain ⟨value, after⟩ := result
      simp only [hbody]
      exact hcommit state value after hbody
  | error failure =>
      simp only [hbody]
      exact hrollback state failure hbody

end Program

section Runs

variable {ι σ ε α γ : Type} [DecidableEq ι] {start config : Config ι σ ε α}
  {log : List (Event ι σ)}

/-- The phase that these steps lead to. -/
def Phases.after (P : Phases σ γ) (first : γ) (steps : List (Event ι σ)) : γ :=
  steps.foldl (fun phase step => P.next phase step.before step.after) first

/-- Every step of a client is allowed in the phase that its steps before have led to. -/
theorem Runs.plays {P : Phases σ γ} {post : γ → α → Prop} {error : γ → ε → Prop} {first : γ}
    {i : ι} (hruns : Runs start log config) (hstart : (start.threads i).Plays P post error first) :
    (config.threads i).Plays P post error (P.after first (stepsOf i log)) ∧
      ∀ before event after, log = before ++ event :: after → event.client = i →
        P.allows (P.after first (stepsOf i before)) event.before event.after := by
  induction hruns with
  | refl => exact ⟨hstart, by simp⟩
  | @atomic log config j effect next _ hthread ih =>
      obtain ⟨hplays, hallowed⟩ := ih
      have hown : j = i → P.allows (P.after first (stepsOf i log)) config.state
          (effect config.state) ∧ (next config.state).Plays P post error
            (P.next (P.after first (stepsOf i log)) config.state (effect config.state)) := by
        rintro rfl
        rw [hthread] at hplays
        exact hplays config.state
      constructor
      · by_cases hij : j = i
        · obtain ⟨-, hnext⟩ := hown hij
          subst hij
          rw [stepsOf_append_self ⟨j, config.state, effect config.state⟩, Phases.after,
            List.foldl_append, Config.move_threads_self]
          exact hnext
        · rw [stepsOf_append_ne hij, config.move_threads_ne _ _ (Ne.symm hij)]
          exact hplays
      · intro before event after hsplit hclient
        rcases List.eq_nil_or_concat after with rfl | ⟨after, last, rfl⟩
        · obtain ⟨rfl, heq⟩ := List.append_inj' hsplit rfl
          obtain rfl := List.head_eq_of_cons_eq heq
          exact (hown hclient).1
        · rw [List.concat_eq_append, ← List.cons_append, ← List.append_assoc] at hsplit
          obtain ⟨hprior, -⟩ := List.append_inj' hsplit rfl
          exact hallowed before event after hprior hclient
  | @choose log config j κ next answer _ hthread ih =>
      obtain ⟨hplays, hallowed⟩ := ih
      refine ⟨?_, hallowed⟩
      by_cases hij : j = i
      · subst hij
        rw [hthread] at hplays
        rw [Config.move_threads_self]
        exact hplays answer
      · rw [config.move_threads_ne _ _ (Ne.symm hij)]
        exact hplays

omit [DecidableEq ι] in
/-- A phase that says whether a step of this kind was taken says so. -/
theorem Phases.after_iff {P : Phases σ Prop} (kind : σ → σ → Prop)
    (hnext : ∀ phase before after, P.next phase before after ↔ phase ∨ kind before after)
    (first : Prop) (steps : List (Event ι σ)) :
    P.after first steps ↔ first ∨ ∃ step ∈ steps, kind step.before step.after := by
  induction steps generalizing first with
  | nil => simp [Phases.after]
  | cons step steps ih =>
      change P.after (P.next first step.before step.after) steps ↔ _
      rw [ih, hnext, or_assoc]
      simp

/-- What settles a matter for good happens once. -/
theorem Runs.pairwise_of_settles (hruns : Runs start log config) (kind : σ → σ → Prop)
    (settled : σ → Prop)
    (hsettles : ∀ event ∈ log, kind event.before event.after →
      ¬settled event.before ∧ settled event.after)
    (hstays : ∀ event ∈ log, settled event.before → settled event.after) :
    log.Pairwise fun first second =>
      ¬(kind first.before first.after ∧ kind second.before second.after) := by
  have hboth : log.Pairwise (fun first second =>
        ¬(kind first.before first.after ∧ kind second.before second.after)) ∧
      ∀ event ∈ log, kind event.before event.after → settled config.state := by
    induction hruns with
    | refl => exact ⟨.nil, by simp⟩
    | @atomic log config i effect next _ _ ih =>
        obtain ⟨honce, hsettled⟩ :=
          ih (fun event hevent => hsettles event (List.mem_append_left _ hevent))
            fun event hevent => hstays event (List.mem_append_left _ hevent)
        have hlast : (⟨i, config.state, effect config.state⟩ : Event ι σ) ∈
            log ++ [⟨i, config.state, effect config.state⟩] := by simp
        refine ⟨List.pairwise_append.mpr ⟨honce, List.pairwise_singleton _ _, ?_⟩, ?_⟩
        · intro first hfirst second hsecond ⟨hkind, hkind'⟩
          obtain rfl := List.mem_singleton.mp hsecond
          exact (hsettles _ hlast hkind').1 (hsettled first hfirst hkind)
        · intro event hevent hkind
          rcases List.mem_append.mp hevent with hprior | hnew
          · exact hstays _ hlast (hsettled event hprior hkind)
          · obtain rfl := List.mem_singleton.mp hnew
            exact (hsettles _ hlast hkind).2
    | choose i answer _ _ ih => exact ih hsettles hstays
  exact hboth.1

/-- What is shown once the matter is settled stays the same, if a step shows nothing new then. -/
theorem Runs.eq_of_shown (hruns : Runs start log config) {β : Type} (shown : σ → β → Prop)
    (settled : σ → Prop)
    (hunique : ∀ state value value', shown state value → shown state value' → value = value')
    (hsettled : ∀ event ∈ log, ∀ value, shown event.after value → settled event.after)
    (hstays : ∀ event ∈ log, settled event.before → settled event.after)
    (hkept : ∀ event ∈ log, ∀ value, shown event.after value → settled event.before →
      shown event.before value)
    {event event' : Event ι σ} (hevent : event ∈ log) (hevent' : event' ∈ log) {value value' : β}
    (hvalue : shown event.after value) (hvalue' : shown event'.after value') : value = value' := by
  -- Whatever a step has shown, the last state shows it, or nothing any more.
  have hlast : (∀ event ∈ log, ∀ value, shown event.after value → settled config.state ∧
        ∀ value', shown config.state value' → value = value') ∧
      ∀ event ∈ log, ∀ event' ∈ log, ∀ value value', shown event.after value →
        shown event'.after value' → value = value' := by
    clear hevent hevent'
    induction hruns with
    | refl => simp
    | @atomic log config i effect next _ _ ih =>
        obtain ⟨hstate, hboth⟩ :=
          ih (fun event hevent => hsettled event (List.mem_append_left _ hevent))
            (fun event hevent => hstays event (List.mem_append_left _ hevent))
            fun event hevent => hkept event (List.mem_append_left _ hevent)
        have hnew : (⟨i, config.state, effect config.state⟩ : Event ι σ) ∈
            log ++ [⟨i, config.state, effect config.state⟩] := by simp
        have hafter : ∀ event ∈ log, ∀ value, shown event.after value →
            settled (effect config.state) ∧
              ∀ value', shown (effect config.state) value' → value = value' := by
          intro event hevent value hvalue
          obtain ⟨hmatter, hsame⟩ := hstate event hevent value hvalue
          exact ⟨hstays _ hnew hmatter, fun value' hvalue' =>
            hsame value' (hkept _ hnew value' hvalue' hmatter)⟩
        constructor
        · intro event hevent value hvalue
          rcases List.mem_append.mp hevent with hprior | hlast
          · exact hafter event hprior value hvalue
          · obtain rfl := List.mem_singleton.mp hlast
            exact ⟨hsettled _ hnew value hvalue, fun value' => hunique _ _ _ hvalue⟩
        · intro event hevent event' hevent' value value' hvalue hvalue'
          rcases List.mem_append.mp hevent with hprior | hlast <;>
            rcases List.mem_append.mp hevent' with hprior' | hlast'
          · exact hboth event hprior event' hprior' value value' hvalue hvalue'
          · obtain rfl := List.mem_singleton.mp hlast'
            exact (hafter event hprior value hvalue).2 value' hvalue'
          · obtain rfl := List.mem_singleton.mp hlast
            exact ((hafter event' hprior' value' hvalue').2 value hvalue).symm
          · obtain rfl := List.mem_singleton.mp hlast
            obtain rfl := List.mem_singleton.mp hlast'
            exact hunique _ _ _ hvalue hvalue'
    | choose i answer _ _ ih => exact ih hsettled hstays hkept
  exact hlast.2 event hevent event' hevent' value value' hvalue hvalue'

end Runs

end Concurrent
