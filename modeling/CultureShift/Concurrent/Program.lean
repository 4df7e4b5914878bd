/-
# Programs over a shared state

A client of a shared store runs as a sequence of atomic steps. Between two of
its steps any other client may run, and the answer of a component outside the
model may be any value at all. A `Program` records exactly this much: where a
step touches the shared state, where an answer is chosen, and how the run ends.

Nothing here fixes the state, the exceptions or the components. The semantics
of a single client running undisturbed is `Solo`; interleaved clients are the
subject of the pool module.
-/

import Mathlib.Logic.Relation
import Mathlib.Data.Set.Basic

namespace Concurrent

/-- A client of the shared state `σ`, ending with a result in `α` or an
exception in `ε`. An atomic step reads the state it finds and replaces it. -/
inductive Program (σ ε α : Type) : Type 1
  | ret (value : α)
  | raise (error : ε)
  | atomic (effect : σ → σ) (next : σ → Program σ ε α)
  | choose (ι : Type) (next : ι → Program σ ε α)

namespace Program

variable {σ κ ε α β γ : Type}

/-- Sequencing. An exception skips the rest. -/
protected def bind : Program σ ε α → (α → Program σ ε β) → Program σ ε β
  | ret value, rest => rest value
  | raise error, _ => raise error
  | atomic effect next, rest => atomic effect fun state => (next state).bind rest
  | choose ι next, rest => choose ι fun answer => (next answer).bind rest

instance : Monad (Program σ ε) where
  pure := ret
  bind := Program.bind

/-- Run `handler` where the body raises. -/
protected def tryCatch : Program σ ε α → (ε → Program σ ε α) → Program σ ε α
  | ret value, _ => ret value
  | raise error, handler => handler error
  | atomic effect next, handler =>
      atomic effect fun state => (next state).tryCatch handler
  | choose ι next, handler => choose ι fun answer => (next answer).tryCatch handler

/-- Run the body and hand its outcome on as a value. -/
def attempt : Program σ ε α → Program σ ε (Except ε α)
  | ret value => ret (.ok value)
  | raise error => ret (.error error)
  | atomic effect next => atomic effect fun state => (next state).attempt
  | choose ι next => choose ι fun answer => (next answer).attempt

/-- A result that is already decided. -/
def ofExcept : Except ε α → Program σ ε α
  | .ok value => ret value
  | .error error => raise error

/-- One all-or-nothing step: a failing transaction leaves the state as it was. -/
def transact (body : σ → Except ε (α × σ)) : Program σ ε α :=
  atomic
    (fun state =>
      match body state with
      | .ok (_, after) => after
      | .error _ => state)
    (fun state =>
      match body state with
      | .ok (value, _) => ret value
      | .error error => raise error)

/-- An unconstrained answer from outside. -/
def any (α : Type) : Program σ ε α := choose α ret

/-- Run a program over one component of a larger state. -/
def within (get : σ → κ) (set : κ → σ → σ) : Program κ ε α → Program σ ε α
  | ret value => ret value
  | raise error => raise error
  | atomic effect next =>
      atomic (fun state => set (effect (get state)) state)
        fun state => (next (get state)).within get set
  | choose ι next => choose ι fun answer => (next answer).within get set

/-- The result of a finished program. -/
def result? : Program σ ε α → Option (Except ε α)
  | ret value => some (.ok value)
  | raise error => some (.error error)
  | atomic _ _ => none
  | choose _ _ => none

@[simp]
theorem pure_eq_ret (value : α) : (pure value : Program σ ε α) = ret value := rfl

@[simp]
theorem bind_ret (value : α) (rest : α → Program σ ε β) :
    ret value >>= rest = rest value := rfl

@[simp]
theorem bind_raise (error : ε) (rest : α → Program σ ε β) :
    (raise error : Program σ ε α) >>= rest = raise error := rfl

@[simp]
theorem bind_atomic (effect : σ → σ) (next : σ → Program σ ε α)
    (rest : α → Program σ ε β) :
    atomic effect next >>= rest = atomic effect fun state => next state >>= rest := rfl

@[simp]
theorem bind_choose (ι : Type) (next : ι → Program σ ε α) (rest : α → Program σ ε β) :
    choose ι next >>= rest = choose ι fun answer => next answer >>= rest := rfl

@[simp]
theorem tryCatch_ret (value : α) (handler : ε → Program σ ε α) :
    (ret value).tryCatch handler = ret value := rfl

@[simp]
theorem tryCatch_raise (error : ε) (handler : ε → Program σ ε α) :
    (raise error : Program σ ε α).tryCatch handler = handler error := rfl

@[simp]
theorem ofExcept_ok (value : α) :
    (ofExcept (.ok value) : Program σ ε α) = ret value := rfl

@[simp]
theorem ofExcept_error (error : ε) :
    (ofExcept (.error error) : Program σ ε α) = raise error := rfl

@[simp]
theorem result?_ret (value : α) : (ret value : Program σ ε α).result? = some (.ok value) := rfl

@[simp]
theorem result?_raise (error : ε) :
    (raise error : Program σ ε α).result? = some (.error error) := rfl

theorem bind_assoc (program : Program σ ε α) (second : α → Program σ ε β)
    (third : β → Program σ ε γ) :
    program >>= second >>= third = program >>= fun value => second value >>= third := by
  induction program with
  | ret value => rfl
  | raise error => rfl
  | atomic effect next ih => simp only [bind_atomic, ih]
  | choose ι next ih => simp only [bind_choose, ih]

/-! ## What a program does in the states it finds -/

/-- As long as every state it finds satisfies `assumes`, the program changes the
state only as `promises` allows, returns values in `post` and raises exceptions
in `error`. -/
def Meets (assumes : σ → Prop) (promises : σ → σ → Prop) (post : α → Prop) (error : ε → Prop) :
    Program σ ε α → Prop
  | ret value => post value
  | raise failure => error failure
  | atomic effect next => ∀ state, assumes state →
      promises state (effect state) ∧ (next state).Meets assumes promises post error
  | choose _ next => ∀ answer, (next answer).Meets assumes promises post error

/-- Every value the program can return satisfies `post`. -/
def Returns (post : α → Prop) (program : Program σ ε α) : Prop :=
  program.Meets (fun _ => True) (fun _ _ => True) post fun _ => True

/-- Every exception the program can raise satisfies `error`. -/
def Raises (error : ε → Prop) (program : Program σ ε α) : Prop :=
  program.Meets (fun _ => True) (fun _ _ => True) (fun _ => True) error

section Meets

variable {assumes : σ → Prop} {promises : σ → σ → Prop} {error : ε → Prop}

theorem meets_mono {post post' : α → Prop} {error' : ε → Prop} {program : Program σ ε α}
    (h : program.Meets assumes promises post error) (hpost : ∀ value, post value → post' value)
    (herror : ∀ failure, error failure → error' failure) :
    program.Meets assumes promises post' error' := by
  induction program with
  | ret value => exact hpost value h
  | raise failure => exact herror failure h
  | atomic effect next ih =>
      intro state hstate
      exact ⟨(h state hstate).1, ih state (h state hstate).2⟩
  | choose ι next ih => exact fun answer => ih answer (h answer)

theorem meets_weaken {post : α → Prop} {promises' : σ → σ → Prop} {program : Program σ ε α}
    (h : program.Meets assumes promises post error)
    (hpromises : ∀ state state', assumes state → promises state state' → promises' state state') :
    program.Meets assumes promises' post error := by
  induction program with
  | ret value => exact h
  | raise failure => exact h
  | atomic effect next ih =>
      intro state hstate
      exact ⟨hpromises _ _ hstate (h state hstate).1, ih state (h state hstate).2⟩
  | choose ι next ih => exact fun answer => ih answer (h answer)

theorem Meets.and {promises' : σ → σ → Prop} {post post' : α → Prop} {error' : ε → Prop}
    {program : Program σ ε α} (h : program.Meets assumes promises post error)
    (h' : program.Meets assumes promises' post' error') :
    program.Meets assumes promises (fun value => post value ∧ post' value) error := by
  induction program with
  | ret value => exact ⟨h, h'⟩
  | raise failure => exact h
  | atomic effect next ih =>
      intro state hstate
      exact ⟨(h state hstate).1, ih state (h state hstate).2 (h' state hstate).2⟩
  | choose ι next ih => exact fun answer => ih answer (h answer) (h' answer)

theorem meets_bind {post : β → Prop} {program : Program σ ε α} {rest : α → Program σ ε β}
    (h : program.Meets assumes promises
      (fun value => (rest value).Meets assumes promises post error) error) :
    (program >>= rest).Meets assumes promises post error := by
  induction program with
  | ret value => exact h
  | raise failure => exact h
  | atomic effect next ih =>
      intro state hstate
      exact ⟨(h state hstate).1, ih state (h state hstate).2⟩
  | choose ι next ih => exact fun answer => ih answer (h answer)

theorem meets_tryCatch {post : α → Prop} {program : Program σ ε α}
    {handler : ε → Program σ ε α}
    (h : program.Meets assumes promises post
      fun failure => (handler failure).Meets assumes promises post error) :
    (program.tryCatch handler).Meets assumes promises post error := by
  induction program with
  | ret value => exact h
  | raise failure => exact h
  | atomic effect next ih =>
      intro state hstate
      exact ⟨(h state hstate).1, ih state (h state hstate).2⟩
  | choose ι next ih => exact fun answer => ih answer (h answer)

/-- A transaction meets its contract when each commit does and each rollback,
which leaves the state alone, may raise what it raises. -/
theorem meets_transact {post : α → Prop} {body : σ → Except ε (α × σ)}
    (hcommit : ∀ state value after, assumes state → body state = .ok (value, after) →
      promises state after ∧ post value)
    (hrollback : ∀ state failure, assumes state → body state = .error failure →
      promises state state ∧ error failure) :
    (transact body).Meets assumes promises post error := by
  intro state hstate
  rcases hbody : body state with failure | ⟨value, after⟩
  · simpa only [hbody, Meets] using hrollback state failure hstate hbody
  · simpa only [hbody, Meets] using hcommit state value after hstate hbody

theorem meets_ofExcept {post : α → Prop} {body : Except ε α}
    (hpost : ∀ value, body = .ok value → post value)
    (herror : ∀ failure, body = .error failure → error failure) :
    (ofExcept body : Program σ ε α).Meets assumes promises post error := by
  cases body with
  | ok value => exact hpost value rfl
  | error failure => exact herror failure rfl

/-- Zooming into a component cannot break a promise that only mentions the
rest. -/
theorem meets_within {get : σ → κ} {set : κ → σ → σ} {post : α → Prop}
    {program : Program κ ε α} (hpost : program.Returns post) (herror : program.Raises error)
    (hset : ∀ part state, promises state (set part state)) :
    (program.within get set).Meets assumes promises post error := by
  induction program with
  | ret value => exact hpost
  | raise failure => exact herror
  | atomic effect next ih =>
      intro state _
      exact ⟨hset _ _, ih (get state) (hpost _ trivial).2 (herror _ trivial).2⟩
  | choose ι next ih => exact fun answer => ih answer (hpost answer) (herror answer)

theorem meets_trivial {program : Program σ ε α} :
    program.Meets (fun _ => True) (fun _ _ => True) (fun _ => True) fun _ => True := by
  induction program with
  | ret value => trivial
  | raise failure => trivial
  | atomic effect next ih => exact fun state _ => ⟨trivial, ih state⟩
  | choose ι next ih => exact ih

theorem returns_true (program : Program σ ε α) : program.Returns fun _ => True :=
  meets_trivial

theorem raises_true (program : Program σ ε α) : program.Raises fun _ => True :=
  meets_trivial

end Meets

/-! ## One client, undisturbed -/

/-- `Solo p s r s'`: run without interference from `s`, the program can end in
`s'` with result `r`. -/
inductive Solo : Program σ ε α → σ → Except ε α → σ → Prop
  | ret (value : α) (state : σ) : Solo (ret value) state (.ok value) state
  | raise (error : ε) (state : σ) : Solo (raise error) state (.error error) state
  | atomic {effect : σ → σ} {next : σ → Program σ ε α} {state last : σ}
      {outcome : Except ε α} (rest : Solo (next state) (effect state) outcome last) :
      Solo (atomic effect next) state outcome last
  | choose {ι : Type} {next : ι → Program σ ε α} {state last : σ}
      {outcome : Except ε α} (answer : ι) (rest : Solo (next answer) state outcome last) :
      Solo (choose ι next) state outcome last

/-- A run of a sequence is a run of its first part, followed by the rest when
that part returns. -/
theorem solo_bind_iff {program : Program σ ε α} {rest : α → Program σ ε β} {state last : σ}
    {outcome : Except ε β} :
    Solo (program >>= rest) state outcome last ↔
      (∃ value mid, Solo program state (.ok value) mid ∧ Solo (rest value) mid outcome last) ∨
        ∃ error, Solo program state (.error error) last ∧ outcome = .error error := by
  induction program generalizing state with
  | ret value =>
      constructor
      · exact fun h => .inl ⟨value, _, .ret value _, h⟩
      · rintro (⟨_, _, hfirst, hrest⟩ | ⟨_, hfirst, _⟩)
        · cases hfirst
          exact hrest
        · cases hfirst
  | raise error =>
      constructor
      · intro h
        cases h
        exact .inr ⟨error, .raise error _, rfl⟩
      · rintro (⟨_, _, hfirst, _⟩ | ⟨_, hfirst, rfl⟩)
        · cases hfirst
        · cases hfirst
          exact .raise error _
  | atomic effect next ih =>
      rw [bind_atomic]
      constructor
      · rintro (_ | _ | h | _)
        rcases (ih state).mp h with ⟨value, mid, hfirst, hrest⟩ | ⟨error, hfirst, rfl⟩
        · exact .inl ⟨value, mid, .atomic hfirst, hrest⟩
        · exact .inr ⟨error, .atomic hfirst, rfl⟩
      · rintro (⟨value, mid, hfirst, hrest⟩ | ⟨error, hfirst, rfl⟩)
        · cases hfirst with
          | atomic hfirst => exact .atomic ((ih state).mpr (.inl ⟨value, mid, hfirst, hrest⟩))
        · cases hfirst with
          | atomic hfirst => exact .atomic ((ih state).mpr (.inr ⟨error, hfirst, rfl⟩))
  | choose ι next ih =>
      rw [bind_choose]
      constructor
      · rintro (_ | _ | _ | ⟨answer, h⟩)
        rcases (ih answer).mp h with ⟨value, mid, hfirst, hrest⟩ | ⟨error, hfirst, rfl⟩
        · exact .inl ⟨value, mid, .choose answer hfirst, hrest⟩
        · exact .inr ⟨error, .choose answer hfirst, rfl⟩
      · rintro (⟨value, mid, hfirst, hrest⟩ | ⟨error, hfirst, rfl⟩)
        · cases hfirst with
          | choose answer hfirst =>
              exact .choose answer ((ih answer).mpr (.inl ⟨value, mid, hfirst, hrest⟩))
        · cases hfirst with
          | choose answer hfirst =>
              exact .choose answer ((ih answer).mpr (.inr ⟨error, hfirst, rfl⟩))

/-- A handled run is a run of the body that returns, or a run that raises
followed by the handler. -/
theorem solo_tryCatch_iff {program : Program σ ε α} {handler : ε → Program σ ε α}
    {state last : σ} {outcome : Except ε α} :
    Solo (program.tryCatch handler) state outcome last ↔
      (∃ value, Solo program state (.ok value) last ∧ outcome = .ok value) ∨
        ∃ error mid, Solo program state (.error error) mid ∧
          Solo (handler error) mid outcome last := by
  induction program generalizing state with
  | ret value =>
      constructor
      · intro h
        cases h
        exact .inl ⟨value, .ret value _, rfl⟩
      · rintro (⟨_, hbody, rfl⟩ | ⟨_, _, hbody, _⟩)
        · cases hbody
          exact .ret value _
        · cases hbody
  | raise error =>
      constructor
      · exact fun h => .inr ⟨error, _, .raise error _, h⟩
      · rintro (⟨_, hbody, _⟩ | ⟨_, _, hbody, hhandler⟩)
        · cases hbody
        · cases hbody
          exact hhandler
  | atomic effect next ih =>
      constructor
      · intro h
        cases h with
        | atomic h =>
            rcases (ih state).mp h with ⟨value, hbody, rfl⟩ | ⟨error, mid, hbody, hhandler⟩
            · exact .inl ⟨value, .atomic hbody, rfl⟩
            · exact .inr ⟨error, mid, .atomic hbody, hhandler⟩
      · rintro (⟨value, hbody, rfl⟩ | ⟨error, mid, hbody, hhandler⟩)
        · cases hbody with
          | atomic hbody => exact .atomic ((ih state).mpr (.inl ⟨value, hbody, rfl⟩))
        · cases hbody with
          | atomic hbody =>
              exact .atomic ((ih state).mpr (.inr ⟨error, mid, hbody, hhandler⟩))
  | choose ι next ih =>
      constructor
      · intro h
        cases h with
        | choose answer h =>
            rcases (ih answer).mp h with ⟨value, hbody, rfl⟩ | ⟨error, mid, hbody, hhandler⟩
            · exact .inl ⟨value, .choose answer hbody, rfl⟩
            · exact .inr ⟨error, mid, .choose answer hbody, hhandler⟩
      · rintro (⟨value, hbody, rfl⟩ | ⟨error, mid, hbody, hhandler⟩)
        · cases hbody with
          | choose answer hbody =>
              exact .choose answer ((ih answer).mpr (.inl ⟨value, hbody, rfl⟩))
        · cases hbody with
          | choose answer hbody =>
              exact .choose answer ((ih answer).mpr (.inr ⟨error, mid, hbody, hhandler⟩))

/-- A transaction either commits or changes nothing. -/
theorem solo_transact_iff {body : σ → Except ε (α × σ)} {state last : σ} {outcome : Except ε α} :
    Solo (transact body) state outcome last ↔
      (∃ value, body state = .ok (value, last) ∧ outcome = .ok value) ∨
        ∃ error, body state = .error error ∧ outcome = .error error ∧ last = state := by
  constructor
  · intro h
    cases h with
    | atomic h =>
        cases hbody : body state with
        | error error =>
            simp only [hbody] at h
            cases h
            exact .inr ⟨error, rfl, rfl, rfl⟩
        | ok committed =>
            obtain ⟨value, after⟩ := committed
            simp only [hbody] at h
            cases h
            exact .inl ⟨value, rfl, rfl⟩
  · rintro (⟨value, hbody, rfl⟩ | ⟨error, hbody, rfl, rfl⟩)
    · apply Solo.atomic
      simp only [hbody]
      exact .ret value last
    · apply Solo.atomic
      simp only [hbody]
      exact .raise error last

theorem solo_ofExcept_iff {body : Except ε α} {state last : σ} {outcome : Except ε α} :
    Solo (ofExcept body) state outcome last ↔ outcome = body ∧ last = state := by
  constructor
  · intro h
    cases body <;> cases h <;> exact ⟨rfl, rfl⟩
  · rintro ⟨rfl, rfl⟩
    cases outcome with
    | ok value => exact .ret value last
    | error error => exact .raise error last

/-- What a program promises of the values it returns is kept by its runs. -/
theorem Meets.returned {promises : σ → σ → Prop} {post : α → Prop} {error : ε → Prop}
    {program : Program σ ε α} (h : program.Meets (fun _ => True) promises post error)
    {state last : σ} {value : α} (hsolo : Solo program state (.ok value) last) : post value := by
  generalize houtcome : Except.ok value = outcome at hsolo
  induction hsolo with
  | ret value' state =>
      cases houtcome
      exact h
  | raise error state => cases houtcome
  | atomic _ ih => exact ih (h _ trivial).2 houtcome
  | choose answer _ ih => exact ih (h answer) houtcome

/-- What a program promises of its steps is kept from one end of a run to the
other. -/
theorem Meets.of_solo {promises : σ → σ → Prop} {post : α → Prop} {error : ε → Prop}
    (hrefl : ∀ state, promises state state)
    (htrans : ∀ first second third, promises first second → promises second third →
      promises first third) {program : Program σ ε α}
    (h : program.Meets (fun _ => True) promises post error) {state last : σ}
    {outcome : Except ε α} (hsolo : Solo program state outcome last) : promises state last := by
  induction hsolo with
  | ret value state => exact hrefl state
  | raise error state => exact hrefl state
  | atomic _ ih =>
      obtain ⟨hstep, hnext⟩ := h _ trivial
      exact htrans _ _ _ hstep (ih hnext)
  | choose answer _ ih => exact ih (h answer)

/-- A run over the state is a run over the component it works on. -/
theorem solo_within_iff {get : σ → κ} {set : κ → σ → σ} {program : Program κ ε α}
    (hget : ∀ part state, get (set part state) = part)
    (hset : ∀ part part' state, set part (set part' state) = set part state)
    (hself : ∀ state, set (get state) state = state) {state last : σ} {outcome : Except ε α} :
    Solo (program.within get set) state outcome last ↔
      ∃ part, Solo program (get state) outcome part ∧ last = set part state := by
  induction program generalizing state with
  | ret value =>
      constructor
      · rintro ⟨⟩
        exact ⟨_, .ret value _, (hself _).symm⟩
      · rintro ⟨_, ⟨⟩, rfl⟩
        rw [hself]
        exact .ret value state
  | raise error =>
      constructor
      · rintro ⟨⟩
        exact ⟨_, .raise error _, (hself _).symm⟩
      · rintro ⟨_, ⟨⟩, rfl⟩
        rw [hself]
        exact .raise error state
  | atomic effect next ih =>
      constructor
      · rintro (_ | _ | h | _)
        obtain ⟨part, hpart, rfl⟩ := (ih (get state)).mp h
        rw [hget] at hpart
        exact ⟨part, .atomic hpart, hset _ _ _⟩
      · rintro ⟨part, (_ | _ | h | _), rfl⟩
        refine .atomic ((ih (get state)).mpr ⟨part, ?_, (hset _ _ _).symm⟩)
        rwa [hget]
  | choose ι next ih =>
      constructor
      · rintro (_ | _ | _ | ⟨answer, h⟩)
        obtain ⟨part, hpart, rfl⟩ := (ih answer).mp h
        exact ⟨part, .choose answer hpart, rfl⟩
      · rintro ⟨part, (_ | _ | _ | ⟨answer, h⟩), rfl⟩
        exact .choose answer ((ih answer).mpr ⟨part, h, rfl⟩)

/-! ## Evaluation

Where no answer is chosen from outside, a client that runs undisturbed can be
evaluated. -/

/-- The outcome and the final state, unless an answer has to be chosen. -/
def exec : Program σ ε α → σ → Option (Except ε α × σ)
  | ret value, state => some (.ok value, state)
  | raise error, state => some (.error error, state)
  | atomic effect next, state => (next state).exec (effect state)
  | choose _ _, _ => none

theorem solo_of_exec {program : Program σ ε α} {state last : σ} {outcome : Except ε α}
    (h : program.exec state = some (outcome, last)) : Solo program state outcome last := by
  induction program generalizing state with
  | ret value =>
      cases h
      exact .ret value _
  | raise error =>
      cases h
      exact .raise error _
  | atomic effect next ih => exact .atomic (ih _ h)
  | choose ι next _ => cases h

@[simp]
theorem exec_ret (value : α) (state : σ) :
    (ret value : Program σ ε α).exec state = some (.ok value, state) := rfl

@[simp]
theorem exec_raise (error : ε) (state : σ) :
    (raise error : Program σ ε α).exec state = some (.error error, state) := rfl

theorem exec_bind {program : Program σ ε α} {rest : α → Program σ ε β} {state mid : σ} {value : α}
    (h : program.exec state = some (.ok value, mid)) :
    (program >>= rest).exec state = (rest value).exec mid := by
  induction program generalizing state with
  | ret value =>
      cases h
      rfl
  | raise error => cases h
  | atomic effect next ih => exact ih _ h
  | choose ι next _ => cases h

theorem exec_bind_error {program : Program σ ε α} {rest : α → Program σ ε β} {state last : σ}
    {error : ε} (h : program.exec state = some (.error error, last)) :
    (program >>= rest).exec state = some (.error error, last) := by
  induction program generalizing state with
  | ret value => cases h
  | raise error =>
      cases h
      rfl
  | atomic effect next ih => exact ih _ h
  | choose ι next _ => cases h

theorem exec_tryCatch {program : Program σ ε α} {handler : ε → Program σ ε α} {state last : σ}
    {value : α} (h : program.exec state = some (.ok value, last)) :
    (program.tryCatch handler).exec state = some (.ok value, last) := by
  induction program generalizing state with
  | ret value =>
      cases h
      rfl
  | raise error => cases h
  | atomic effect next ih => exact ih _ h
  | choose ι next _ => cases h

theorem exec_tryCatch_error {program : Program σ ε α} {handler : ε → Program σ ε α}
    {state mid : σ} {error : ε} (h : program.exec state = some (.error error, mid)) :
    (program.tryCatch handler).exec state = (handler error).exec mid := by
  induction program generalizing state with
  | ret value => cases h
  | raise error =>
      cases h
      rfl
  | atomic effect next ih => exact ih _ h
  | choose ι next _ => cases h

theorem exec_attempt {program : Program σ ε α} {state last : σ} {outcome : Except ε α}
    (h : program.exec state = some (outcome, last)) :
    program.attempt.exec state = some (.ok outcome, last) := by
  induction program generalizing state with
  | ret value =>
      cases h
      rfl
  | raise error =>
      cases h
      rfl
  | atomic effect next ih => exact ih _ h
  | choose ι next _ => cases h

theorem exec_transact {body : σ → Except ε (α × σ)} {state after : σ} {value : α}
    (h : body state = .ok (value, after)) :
    (transact body : Program σ ε α).exec state = some (.ok value, after) := by
  simp [transact, exec, h]

theorem exec_transact_error {body : σ → Except ε (α × σ)} {state : σ} {error : ε}
    (h : body state = .error error) :
    (transact body : Program σ ε α).exec state = some (.error error, state) := by
  simp [transact, exec, h]

/-! ## One step -/

/-- The next atomic step of a program: what it finds and what is left to run. -/
inductive Step : Program σ ε α → σ → Program σ ε α → σ → Prop
  | atomic (effect : σ → σ) (next : σ → Program σ ε α) (state : σ) :
      Step (.atomic effect next) state (next state) (effect state)

variable {program later : Program σ ε α} {state after : σ}

theorem Step.bind {rest : α → Program σ ε β} (h : Step program state later after) :
    Step (program >>= rest) state (later >>= rest) after := by
  cases h with
  | atomic effect next => exact .atomic effect (fun state => next state >>= rest) state

theorem Step.tryCatch {handler : ε → Program σ ε α} (h : Step program state later after) :
    Step (program.tryCatch handler) state (later.tryCatch handler) after := by
  cases h with
  | atomic effect next => exact .atomic effect (fun state => (next state).tryCatch handler) state

theorem step_transact {body : σ → Except ε (α × σ)} {value : α}
    (h : body state = .ok (value, after)) : Step (transact body) state (.ret value) after := by
  have hstep := Step.atomic (fun state => match body state with
      | .ok (_, after) => after
      | .error _ => state)
    (fun state => (match body state with
      | .ok (value, _) => ret value
      | .error error => raise error : Program σ ε α)) state
  rw [h] at hstep
  exact hstep

/-- Alone, some steps lead from one program and state to another. -/
inductive Leads : Program σ ε α → σ → Program σ ε α → σ → Prop
  | refl (program : Program σ ε α) (state : σ) : Leads program state program state
  | step {program later last : Program σ ε α} {state after final : σ}
      (hstep : Step program state later after) (hnext : Leads later after last final) :
      Leads program state last final

theorem Leads.trans {last : Program σ ε α} {final : σ} (h : Leads program state later after)
    (h' : Leads later after last final) : Leads program state last final := by
  induction h with
  | refl program state => exact h'
  | step hstep _ ih => exact .step hstep (ih h')

theorem Leads.bind {rest : α → Program σ ε β} (h : Leads program state later after) :
    Leads (program >>= rest) state (later >>= rest) after := by
  induction h with
  | refl program state => exact .refl _ _
  | step hstep _ ih => exact .step hstep.bind ih

theorem Leads.tryCatch {handler : ε → Program σ ε α} (h : Leads program state later after) :
    Leads (program.tryCatch handler) state (later.tryCatch handler) after := by
  induction h with
  | refl program state => exact .refl _ _
  | step hstep _ ih => exact .step hstep.tryCatch ih

/-- A program that returns leads to what is bound to it. -/
theorem leads_bind {rest : α → Program σ ε β} {value : α}
    (h : program.exec state = some (.ok value, after)) :
    Leads (program >>= rest) state (rest value) after := by
  induction program generalizing state with
  | ret other =>
      cases h
      exact .refl _ _
  | raise error => cases h
  | atomic effect next ih =>
      exact .step (.atomic effect (fun state => next state >>= rest) state) (ih state h)
  | choose ι next _ => cases h

theorem Leads.exec (h : Leads program state later after) :
    program.exec state = later.exec after := by
  induction h with
  | refl program state => rfl
  | step hstep _ ih =>
      cases hstep
      exact ih

end Program

end Concurrent
