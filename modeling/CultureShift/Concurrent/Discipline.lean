/-
# Rely and guarantee

A discipline says how clients may share a state: an invariant, a preorder along
which every step moves, and tokens. A token is visible in the state (`held`)
and owned by one client. Nobody but its owner may put an end to it, and once it
has come to an end (`spent`) it does not return. A client that finds a lock
column set to its own claim relies on exactly this.

`Safe` is the weakest precondition of a client under a discipline. Its rules
follow the constructors of `Program`; the states in it are always those that
the client may find after the others have moved, so no separate stability
conditions are needed. A client may also assume something of the states it
finds; then it is safe in the runs where that assumption comes true.
`keeps_of_runs` is the soundness theorem: clients that are safe one by one are
safe together.
-/

import CultureShift.Concurrent.Pool

namespace Concurrent

/-- How clients may share the state `σ`, with tokens `τ`. -/
structure Discipline (σ τ : Type) where
  /-- What holds between any two steps. -/
  inv : σ → Prop
  /-- What every step moves along. -/
  le : σ → σ → Prop
  /-- The token is there, so some client owns it. -/
  held : τ → σ → Prop
  /-- The token was there and will not be again. -/
  spent : τ → σ → Prop
  le_refl : ∀ state, le state state
  le_trans : ∀ {first second third}, le first second → le second third → le first third
  spent_of_le : ∀ {token first second}, spent token first → le first second →
    spent token second
  not_held_of_spent : ∀ {token state}, spent token state → ¬held token state
  held_or_spent : ∀ {token first second}, held token first → le first second →
    held token second ∨ spent token second

namespace Discipline

variable {σ ρ τ ι ε α β κ : Type}

/-- A discipline for one component of a larger state. -/
def comap (D : Discipline σ τ) (get : ρ → σ) : Discipline ρ τ where
  inv state := D.inv (get state)
  le state state' := D.le (get state) (get state')
  held token state := D.held token (get state)
  spent token state := D.spent token (get state)
  le_refl state := D.le_refl (get state)
  le_trans := D.le_trans
  spent_of_le := D.spent_of_le
  not_held_of_spent := D.not_held_of_spent
  held_or_spent := D.held_or_spent

variable (D : Discipline σ τ)

/-- What the owner of `tokens` may find after the others have moved. -/
structure Rely (tokens : Set τ) (state state' : σ) : Prop where
  inv : D.inv state'
  le : D.le state state'
  held : ∀ token ∈ tokens, D.held token state'

/-- What a step of the owner of `tokens` must do for the others. -/
structure Guarantee (tokens : Set τ) (state state' : σ) : Prop where
  inv : D.inv state'
  le : D.le state state'
  held : ∀ token, token ∉ tokens → D.held token state → D.held token state'

/-- What its owner is left with after a step: the tokens it still holds, and
those the step brought about. -/
def after (tokens : Set τ) (state state' : σ) : Set τ :=
  {token | D.held token state' ∧ (token ∈ tokens ∨ ¬D.held token state)}

variable {D} {tokens : Set τ} {state state' : σ}

theorem Rely.here (h : D.Rely tokens state state') : D.Rely tokens state' state' where
  inv := h.inv
  le := D.le_refl state'
  held := h.held

theorem Rely.trans {third : σ} (h : D.Rely tokens state state')
    (h' : D.Rely tokens state' third) : D.Rely tokens state third where
  inv := h'.inv
  le := D.le_trans h.le h'.le
  held := h'.held

/-- A step that leaves the state alone keeps every promise. -/
theorem guarantee_self (hinv : D.inv state) : D.Guarantee tokens state state where
  inv := hinv
  le := D.le_refl state
  held := fun _ _ hheld => hheld

theorem after_self (hheld : ∀ token ∈ tokens, D.held token state) :
    D.after tokens state state = tokens := by
  ext token
  constructor
  · rintro ⟨hnow, hmine | hnew⟩
    · exact hmine
    · exact absurd hnow hnew
  · exact fun hmine => ⟨hheld token hmine, .inl hmine⟩

/-! ## Safe clients -/

/-- Run by the owner of `tokens` from `state`, the program keeps the discipline
at every step that finds what is assumed, and ends as `post` or `error` say. -/
def Safe (D : Discipline σ τ) (assumes : σ → Prop) (post : α → Set τ → σ → Prop)
    (error : ε → Set τ → σ → Prop) : Set τ → σ → Program σ ε α → Prop
  | tokens, state, .ret value => ∀ found, D.Rely tokens state found → post value tokens found
  | tokens, state, .raise failure =>
      ∀ found, D.Rely tokens state found → error failure tokens found
  | tokens, state, .atomic effect next =>
      ∀ found, D.Rely tokens state found → assumes found →
        D.Guarantee tokens found (effect found) ∧
          Safe D assumes post error (D.after tokens found (effect found)) (effect found)
            (next found)
  | tokens, state, .choose _ next => ∀ answer, Safe D assumes post error tokens state (next answer)

variable {assumes : σ → Prop} {post : α → Set τ → σ → Prop} {error : ε → Set τ → σ → Prop}

theorem safe_ret {value : α} (h : ∀ found, D.Rely tokens state found → post value tokens found) :
    Safe D assumes post error tokens state (.ret value : Program σ ε α) := h

theorem safe_raise {failure : ε}
    (h : ∀ found, D.Rely tokens state found → error failure tokens found) :
    Safe D assumes post error tokens state (.raise failure : Program σ ε α) := h

/-- A safe client stays safe when the others move. -/
theorem Safe.found {program : Program σ ε α} (h : Safe D assumes post error tokens state program)
    (hrely : D.Rely tokens state state') : Safe D assumes post error tokens state' program := by
  induction program with
  | ret value => exact fun found hfound => h found (hrely.trans hfound)
  | raise failure => exact fun found hfound => h found (hrely.trans hfound)
  | atomic effect next _ => exact fun found hfound => h found (hrely.trans hfound)
  | choose ι next ih => exact fun answer => ih answer (h answer)

/-- It is enough to be safe in every state the client may find. -/
theorem safe_of_found {program : Program σ ε α}
    (h : ∀ found, D.Rely tokens state found → Safe D assumes post error tokens found program) :
    Safe D assumes post error tokens state program := by
  induction program with
  | ret value => exact fun found hfound => h found hfound found hfound.here
  | raise failure => exact fun found hfound => h found hfound found hfound.here
  | atomic effect next _ => exact fun found hfound => h found hfound found hfound.here
  | choose ι next ih => exact fun answer => ih answer fun found hfound => h found hfound answer

theorem Safe.mono {post' : α → Set τ → σ → Prop} {error' : ε → Set τ → σ → Prop}
    {program : Program σ ε α} (h : Safe D assumes post error tokens state program)
    (hpost : ∀ value tokens state, post value tokens state → post' value tokens state)
    (herror : ∀ failure tokens state, error failure tokens state → error' failure tokens state) :
    Safe D assumes post' error' tokens state program := by
  induction program generalizing tokens state with
  | ret value => exact fun found hfound => hpost _ _ _ (h found hfound)
  | raise failure => exact fun found hfound => herror _ _ _ (h found hfound)
  | atomic effect next ih =>
      exact fun found hfound hassumed =>
        ⟨(h found hfound hassumed).1, ih found (h found hfound hassumed).2⟩
  | choose ι next ih => exact fun answer => ih answer (h answer)

/-- Where a client ends is further along than where it started. -/
theorem Safe.since {program : Program σ ε α} {origin : σ}
    (h : Safe D assumes post error tokens state program) (horigin : D.le origin state) :
    Safe D assumes (fun value tokens found => post value tokens found ∧ D.le origin found)
      (fun failure tokens found => error failure tokens found ∧ D.le origin found)
      tokens state program := by
  induction program generalizing tokens state with
  | ret value => exact fun found hfound => ⟨h found hfound, D.le_trans horigin hfound.le⟩
  | raise failure => exact fun found hfound => ⟨h found hfound, D.le_trans horigin hfound.le⟩
  | atomic effect next ih =>
      intro found hfound hassumed
      obtain ⟨hstep, hnext⟩ := h found hfound hassumed
      exact ⟨hstep, ih found hnext (D.le_trans (D.le_trans horigin hfound.le) hstep.le)⟩
  | choose ι next ih => exact fun answer => ih answer (h answer) horigin

theorem safe_bind {post : β → Set τ → σ → Prop} {program : Program σ ε α}
    {rest : α → Program σ ε β}
    (h : Safe D assumes
      (fun value tokens state => Safe D assumes post error tokens state (rest value)) error
      tokens state program) :
    Safe D assumes post error tokens state (program >>= rest) := by
  induction program generalizing tokens state with
  | ret value => exact safe_of_found h
  | raise failure => exact h
  | atomic effect next ih =>
      exact fun found hfound hassumed =>
        ⟨(h found hfound hassumed).1, ih found (h found hfound hassumed).2⟩
  | choose ι next ih => exact fun answer => ih answer (h answer)

theorem safe_tryCatch {program : Program σ ε α} {handler : ε → Program σ ε α}
    (h : Safe D assumes post
      (fun failure tokens state => Safe D assumes post error tokens state (handler failure))
      tokens state program) :
    Safe D assumes post error tokens state (program.tryCatch handler) := by
  induction program generalizing tokens state with
  | ret value => exact h
  | raise failure => exact safe_of_found h
  | atomic effect next ih =>
      exact fun found hfound hassumed =>
        ⟨(h found hfound hassumed).1, ih found (h found hfound hassumed).2⟩
  | choose ι next ih => exact fun answer => ih answer (h answer)

/-- An outcome that is handed on as a value ends nothing. -/
theorem safe_attempt {post : Except ε α → Set τ → σ → Prop} {program : Program σ ε α}
    (h : Safe D assumes (fun value => post (.ok value)) (fun failure => post (.error failure))
      tokens state program) :
    Safe D assumes post error tokens state program.attempt := by
  induction program generalizing tokens state with
  | ret value => exact h
  | raise failure => exact h
  | atomic effect next ih =>
      exact fun found hfound hassumed =>
        ⟨(h found hfound hassumed).1, ih found (h found hfound hassumed).2⟩
  | choose ι next ih => exact fun answer => ih answer (h answer)

/-- A safe client may assume more. -/
theorem Safe.assuming {assumes' : σ → Prop} {program : Program σ ε α}
    (h : Safe D assumes post error tokens state program)
    (hassumes : ∀ found, assumes' found → assumes found) :
    Safe D assumes' post error tokens state program := by
  induction program generalizing tokens state with
  | ret value => exact h
  | raise failure => exact h
  | atomic effect next ih =>
      exact fun found hfound hassumed =>
        ⟨(h found hfound (hassumes found hassumed)).1,
          ih found (h found hfound (hassumes found hassumed)).2⟩
  | choose ι next ih => exact fun answer => ih answer (h answer)

/-- A transaction is safe when each of its commits keeps the discipline. A
rollback changes nothing. -/
theorem safe_transact {body : σ → Except ε (α × σ)}
    (hcommit : ∀ found value left, D.Rely tokens state found → assumes found →
      body found = .ok (value, left) →
      D.Guarantee tokens found left ∧ ∀ later, D.Rely (D.after tokens found left) left later →
        post value (D.after tokens found left) later)
    (hrollback : ∀ found failure later, D.Rely tokens state found → assumes found →
      body found = .error failure → D.Rely tokens found later → error failure tokens later) :
    Safe D assumes post error tokens state (.transact body) := by
  intro found hfound hassumed
  rcases hbody : body found with failure | ⟨value, left⟩
  · simp only [hbody, after_self hfound.held]
    exact ⟨guarantee_self hfound.inv,
      fun later hlater => hrollback found failure later hfound hassumed hbody hlater⟩
  · simp only [hbody]
    exact hcommit found value left hfound hassumed hbody

/-- A transaction that only reads. -/
theorem safe_query {query : σ → Except ε α}
    (hanswer : ∀ found value later, D.Rely tokens state found → assumes found →
      query found = .ok value → D.Rely tokens found later → post value tokens later)
    (hfailure : ∀ found failure later, D.Rely tokens state found → assumes found →
      query found = .error failure → D.Rely tokens found later → error failure tokens later) :
    Safe D assumes post error tokens state
      (.transact fun found => (query found).map fun value => (value, found)) := by
  refine safe_transact (fun found value left hfound hassumed hbody => ?_)
    fun found failure later hfound hassumed hbody hlater => ?_
  · rcases hquery : query found with failure | answer
    · simp [hquery, Except.map] at hbody
    · obtain ⟨rfl, rfl⟩ : answer = value ∧ found = left := by
        simpa [hquery, Except.map] using hbody
      rw [after_self hfound.held]
      exact ⟨guarantee_self hfound.inv,
        fun later hlater => hanswer found answer later hfound hassumed hquery hlater⟩
  · rcases hquery : query found with failure' | answer
    · obtain rfl : failure' = failure := by simpa [hquery, Except.map] using hbody
      exact hfailure found failure' later hfound hassumed hquery hlater
    · simp [hquery, Except.map] at hbody

/-- A client that works on a component the discipline does not mention is safe,
whatever it does there. -/
theorem safe_within {D : Discipline ρ τ} {view : σ → ρ} {get : σ → κ} {set : κ → σ → σ}
    {post : α → Set τ → σ → Prop} {error : ε → Set τ → σ → Prop} {program : Program κ ε α}
    {returns : α → Prop} {raises : ε → Prop}
    (hset : ∀ part state, view (set part state) = view state)
    (hreturns : program.Returns returns) (hraises : program.Raises raises)
    (hpost : ∀ value found, returns value → (D.comap view).Rely tokens state found →
      post value tokens found)
    (herror : ∀ failure found, raises failure → (D.comap view).Rely tokens state found →
      error failure tokens found) :
    Safe (D.comap view) assumes post error tokens state (program.within get set) := by
  induction program generalizing state with
  | ret value => exact fun found hfound => hpost value found hreturns hfound
  | raise failure => exact fun found hfound => herror failure found hraises hfound
  | atomic effect next ih =>
      intro found hfound _
      have hview : view (set (effect (get found)) found) = view found := hset _ _
      have hkeep : (D.comap view).Rely tokens state (set (effect (get found)) found) :=
        { inv := by simpa only [comap, hview] using hfound.inv
          le := by simpa only [comap, hview] using hfound.le
          held := by simpa only [comap, hview] using hfound.held }
      have hafter :
          (D.comap view).after tokens found (set (effect (get found)) found) = tokens := by
        simpa only [after, comap, hview] using after_self hfound.held
      refine ⟨⟨hkeep.inv, ?_, fun token _ => ?_⟩, ?_⟩
      · simpa only [comap, hview] using D.le_refl (view found)
      · simp only [comap, hview, imp_self]
      · rw [hafter]
        exact ih _ (hreturns _ trivial).2 (hraises _ trivial).2
          (fun value later hvalue hlater => hpost value later hvalue (hkeep.trans hlater))
          fun failure later hfailure hlater => herror failure later hfailure (hkeep.trans hlater)
  | choose ι next ih =>
      exact fun answer => ih answer (hreturns answer) (hraises answer) hpost herror

/-! ## Safe clients together -/

section Pool

variable {assumes : ι → σ → Prop} {posts : ι → α → Set τ → σ → Prop}
  {errors : ι → ε → Set τ → σ → Prop}

/-- Every client is safe with the tokens it owns, and every token that is there
has exactly one owner. -/
structure Keeps (D : Discipline σ τ) (assumes : ι → σ → Prop) (posts : ι → α → Set τ → σ → Prop)
    (errors : ι → ε → Set τ → σ → Prop) (owns : ι → Set τ) (config : Config ι σ ε α) :
    Prop where
  inv : D.inv config.state
  safe : ∀ i, Safe D (assumes i) (posts i) (errors i) (owns i) config.state (config.threads i)
  held : ∀ i, ∀ token ∈ owns i, D.held token config.state
  owned : ∀ token, D.held token config.state → ∃ i, token ∈ owns i
  disjoint : ∀ i j token, token ∈ owns i → token ∈ owns j → i = j

/-- From a state without tokens, it is enough that each client is safe. -/
theorem keeps_of_safe {config : Config ι σ ε α} (hinv : D.inv config.state)
    (hheld : ∀ token, ¬D.held token config.state)
    (hsafe : ∀ i, Safe D (assumes i) (posts i) (errors i) ∅ config.state (config.threads i)) :
    Keeps D assumes posts errors (fun _ => ∅) config where
  inv := hinv
  safe := hsafe
  held := by simp
  owned := fun token h => absurd h (hheld token)
  disjoint := by simp

variable {owns : ι → Set τ} {config : Config ι σ ε α}

/-- What the other clients do is what a client relies on. -/
theorem Keeps.rely (h : Keeps D assumes posts errors owns config) {i j : ι} (hne : j ≠ i)
    (hstep : D.Guarantee (owns i) config.state state') : D.Rely (owns j) config.state state' where
  inv := hstep.inv
  le := hstep.le
  held := by
    intro token hmine
    have hother : token ∉ owns i := fun htheirs => hne (h.disjoint j i token hmine htheirs)
    exact hstep.held token hother (h.held j token hmine)

theorem Keeps.here (h : Keeps D assumes posts errors owns config) (i : ι) :
    D.Rely (owns i) config.state config.state where
  inv := h.inv
  le := D.le_refl _
  held := h.held i

/-- A client that has returned satisfies its postcondition. -/
theorem Keeps.returned (h : Keeps D assumes posts errors owns config) {i : ι} {value : α}
    (hthread : config.threads i = .ret value) : posts i value (owns i) config.state := by
  have hsafe := h.safe i
  rw [hthread] at hsafe
  exact hsafe config.state (h.here i)

/-- A client that has raised satisfies its exceptional postcondition. -/
theorem Keeps.raised (h : Keeps D assumes posts errors owns config) {i : ι} {failure : ε}
    (hthread : config.threads i = .raise failure) :
    errors i failure (owns i) config.state := by
  have hsafe := h.safe i
  rw [hthread] at hsafe
  exact hsafe config.state (h.here i)

variable [DecidableEq ι]

/-- A step of one client keeps the others safe, and hands the tokens on. -/
theorem Keeps.atomic (h : Keeps D assumes posts errors owns config) {i : ι} {effect : σ → σ}
    {next : σ → Program σ ε α} (hthread : config.threads i = .atomic effect next)
    (hassumed : assumes i config.state) :
    Keeps D assumes posts errors
      (Function.update owns i (D.after (owns i) config.state (effect config.state)))
      (config.move i (effect config.state) (next config.state)) := by
  have hsafe := h.safe i
  rw [hthread] at hsafe
  obtain ⟨hstep, hnext⟩ := hsafe config.state (h.here i) hassumed
  refine ⟨hstep.inv, fun j => ?_, fun j token => ?_, fun token hheld => ?_, ?_⟩
  · by_cases hji : j = i
    · subst j
      simpa using hnext
    · simpa [hji, config.move_threads_ne _ _ hji] using (h.safe j).found (h.rely hji hstep)
  · by_cases hji : j = i
    · subst j
      simpa using fun hmine : token ∈ D.after _ _ _ => hmine.1
    · simpa [hji] using (h.rely hji hstep).held token
  · by_cases hold : D.held token config.state
    · obtain ⟨j, hmine⟩ := h.owned token hold
      refine ⟨j, ?_⟩
      by_cases hji : j = i
      · subst j
        rw [Function.update_self]
        exact ⟨hheld, .inl hmine⟩
      · simpa [hji] using hmine
    · refine ⟨i, ?_⟩
      rw [Function.update_self]
      exact ⟨hheld, .inr hold⟩
  · -- A token the mover is left with was its own, or nobody's.
    have hfresh : ∀ j, j ≠ i → ∀ token ∈ owns j,
        token ∉ D.after (owns i) config.state (effect config.state) := by
      rintro j hji token hmine ⟨-, htheirs | hnew⟩
      · exact hji (h.disjoint j i token hmine htheirs)
      · exact hnew (h.held j token hmine)
    intro j k token hj hk
    by_cases hji : j = i
    · subst j
      by_cases hki : k = i
      · exact hki.symm
      · rw [Function.update_self] at hj
        rw [Function.update_of_ne hki] at hk
        exact absurd hj (hfresh k hki token hk)
    · rw [Function.update_of_ne hji] at hj
      by_cases hki : k = i
      · subst k
        rw [Function.update_self] at hk
        exact absurd hk (hfresh j hji token hj)
      · rw [Function.update_of_ne hki] at hk
        exact h.disjoint j k token hj hk

theorem Keeps.choose (h : Keeps D assumes posts errors owns config) {i : ι} {κ : Type}
    {next : κ → Program σ ε α} (hthread : config.threads i = .choose κ next) (answer : κ) :
    Keeps D assumes posts errors owns (config.move i config.state (next answer)) where
  inv := h.inv
  safe := by
    intro j
    have hsafe := h.safe j
    by_cases hji : j = i
    · subst j
      rw [hthread] at hsafe
      simpa using hsafe answer
    · simpa [config.move_threads_ne _ _ hji] using hsafe
  held := h.held
  owned := h.owned
  disjoint := h.disjoint

/-- Clients that are safe one by one are safe together: the discipline holds in
every configuration a run reaches. A token stays with its owner until it is
spent. -/
theorem keeps_of_runs {start : Config ι σ ε α} {log : List (Event ι σ)}
    (hruns : Runs start log config) (hstart : Keeps D assumes posts errors owns start)
    (hlog : Assumed assumes log) :
    ∃ owns', Keeps D assumes posts errors owns' config ∧ D.le start.state config.state ∧
      ∀ i, ∀ token ∈ owns i, token ∈ owns' i ∨ D.spent token config.state := by
  induction hruns with
  | refl => exact ⟨owns, hstart, D.le_refl _, fun _ _ h => .inl h⟩
  | @atomic log config i effect next _ hthread ih =>
      obtain ⟨owns', hkeeps, hle, hstays⟩ := ih fun event hevent => hlog event (by simp [hevent])
      have hassumed : assumes i config.state :=
        hlog ⟨i, config.state, effect config.state⟩ (by simp)
      have hmoved := hkeeps.atomic hthread hassumed
      have hsafe := hkeeps.safe i
      rw [hthread] at hsafe
      have hstep := (hsafe config.state (hkeeps.here i) hassumed).1
      refine ⟨_, hmoved, D.le_trans hle hstep.le, fun j token hmine => ?_⟩
      rcases hstays j token hmine with hmine | hspent
      · by_cases hji : j = i
        · subst hji
          rcases D.held_or_spent (hkeeps.held j token hmine) hstep.le with hheld | hspent
          · left
            rw [Function.update_self]
            exact ⟨hheld, .inl hmine⟩
          · exact .inr hspent
        · exact .inl (by simpa [hji] using hmine)
      · exact .inr (D.spent_of_le hspent hstep.le)
  | @choose log config i κ next answer _ hthread ih =>
      obtain ⟨owns', hkeeps, hle, hstays⟩ := ih hlog
      exact ⟨owns', hkeeps.choose hthread answer, hle, hstays⟩

/-- A token belongs to the client whose step brought it about. -/
theorem owned_of_event {start : Config ι σ ε α} {log : List (Event ι σ)}
    (hruns : Runs start log config) (hstart : Keeps D assumes posts errors owns start)
    (hlog : Assumed assumes log) {event : Event ι σ} (hevent : event ∈ log) {token : τ}
    (hfresh : ¬D.held token event.before) (hheld : D.held token event.after) :
    ∃ owns', Keeps D assumes posts errors owns' config ∧
      (token ∈ owns' event.client ∨ D.spent token config.state) := by
  obtain ⟨log₁, log₂, mid, effect, next, rfl, hfirst, hthread, hbefore, hafter, hlast⟩ :=
    hruns.split hevent
  rw [← hbefore] at hafter hfresh hlast
  rw [← hafter] at hheld hlast
  obtain ⟨owns₁, hkeeps, -⟩ := keeps_of_runs hfirst hstart fun prior hprior =>
    hlog prior (List.mem_append_left _ hprior)
  have hassumed : assumes event.client mid.state :=
    hbefore ▸ hlog event (List.mem_append_right _ List.mem_cons_self)
  obtain ⟨owns₂, hkeeps₂, -, hstays⟩ := keeps_of_runs hlast (hkeeps.atomic hthread hassumed)
    fun later hlater => hlog later (List.mem_append_right _ (List.mem_cons_of_mem _ hlater))
  refine ⟨owns₂, hkeeps₂, hstays event.client token ?_⟩
  rw [Function.update_self]
  exact ⟨hheld, .inr hfresh⟩

end Pool

-- From here on a program is taken apart by the rules, not by unfolding it.
attribute [irreducible] Safe

end Discipline

end Concurrent
