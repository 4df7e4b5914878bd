/-
# What an undisturbed client brings about

A client that nobody interferes with knows the state it works on. `Ensures`
gives, for one state, what holds of every way in which its run can end: of the
value it returns and the state it leaves, or of its exception and that state.
The rules follow the constructors of programs, one for each way to put programs
together.
-/

import CultureShift.Concurrent.Program

namespace Concurrent

namespace Program

variable {σ κ ε α β : Type}

/-- From `state`, a run that returns ends in `post` and one that raises in
`error`. -/
def Ensures (post : α → σ → Prop) (error : ε → σ → Prop) : Program σ ε α → σ → Prop
  | ret value, state => post value state
  | raise failure, state => error failure state
  | atomic effect next, state => (next state).Ensures post error (effect state)
  | choose _ next, state => ∀ answer, (next answer).Ensures post error state

variable {post : α → σ → Prop} {error : ε → σ → Prop} {program : Program σ ε α} {state last : σ}

theorem Ensures.returned {value : α} (h : program.Ensures post error state)
    (hsolo : program.Solo state (.ok value) last) : post value last := by
  generalize houtcome : Except.ok value = outcome at hsolo
  induction hsolo with
  | ret value' state =>
      cases houtcome
      exact h
  | raise failure state => cases houtcome
  | atomic _ ih => exact ih h houtcome
  | choose answer _ ih => exact ih (h answer) houtcome

theorem Ensures.raised {failure : ε} (h : program.Ensures post error state)
    (hsolo : program.Solo state (.error failure) last) : error failure last := by
  generalize houtcome : Except.error failure = outcome at hsolo
  induction hsolo with
  | ret value state => cases houtcome
  | raise failure' state =>
      cases houtcome
      exact h
  | atomic _ ih => exact ih h houtcome
  | choose answer _ ih => exact ih (h answer) houtcome

theorem Ensures.mono {post' : α → σ → Prop} {error' : ε → σ → Prop}
    (h : program.Ensures post error state)
    (hpost : ∀ value last, post value last → post' value last)
    (herror : ∀ failure last, error failure last → error' failure last) :
    program.Ensures post' error' state := by
  induction program generalizing state with
  | ret value => exact hpost value state h
  | raise failure => exact herror failure state h
  | atomic effect next ih => exact ih state h
  | choose ι next ih => exact fun answer => ih answer (h answer)

theorem ensures_bind {post : β → σ → Prop} {rest : α → Program σ ε β}
    (h : program.Ensures (fun value => (rest value).Ensures post error) error state) :
    (program >>= rest).Ensures post error state := by
  induction program generalizing state with
  | ret value => exact h
  | raise failure => exact h
  | atomic effect next ih => exact ih state h
  | choose ι next ih => exact fun answer => ih answer (h answer)

theorem ensures_tryCatch {handler : ε → Program σ ε α}
    (h : program.Ensures post (fun failure => (handler failure).Ensures post error) state) :
    (program.tryCatch handler).Ensures post error state := by
  induction program generalizing state with
  | ret value => exact h
  | raise failure => exact h
  | atomic effect next ih => exact ih state h
  | choose ι next ih => exact fun answer => ih answer (h answer)

theorem ensures_attempt {post : Except ε α → σ → Prop}
    (h : program.Ensures (fun value => post (.ok value)) (fun failure => post (.error failure))
      state) : program.attempt.Ensures post error state := by
  induction program generalizing state with
  | ret value => exact h
  | raise failure => exact h
  | atomic effect next ih => exact ih state h
  | choose ι next ih => exact fun answer => ih answer (h answer)

/-- A transaction commits, or raises and leaves the state alone. -/
theorem ensures_transact {body : σ → Except ε (α × σ)}
    (hcommit : ∀ value after, body state = .ok (value, after) → post value after)
    (hrollback : ∀ failure, body state = .error failure → error failure state) :
    (transact body).Ensures post error state := by
  rcases hbody : body state with failure | ⟨value, after⟩
  · simpa only [transact, Ensures, hbody] using hrollback failure hbody
  · simpa only [transact, Ensures, hbody] using hcommit value after hbody

theorem ensures_ofExcept {body : Except ε α} (hpost : ∀ value, body = .ok value → post value state)
    (herror : ∀ failure, body = .error failure → error failure state) :
    (ofExcept body : Program σ ε α).Ensures post error state := by
  cases body with
  | ok value => exact hpost value rfl
  | error failure => exact herror failure rfl

/-- Of a program that works on a component, only what it returns or raises is
known. -/
theorem ensures_within {get : σ → κ} {set : κ → σ → σ} {program : Program κ ε α}
    {returns : α → Prop} {raises : ε → Prop} (hreturns : program.Returns returns)
    (hraises : program.Raises raises) (kept : σ → Prop)
    (hkept : ∀ part state, kept state → kept (set part state)) (hstate : kept state)
    (hpost : ∀ value last, returns value → kept last → post value last)
    (herror : ∀ failure last, raises failure → kept last → error failure last) :
    (program.within get set).Ensures post error state := by
  induction program generalizing state with
  | ret value => exact hpost value state hreturns hstate
  | raise failure => exact herror failure state hraises hstate
  | atomic effect next ih =>
      exact ih (get state) (hreturns _ trivial).2 (hraises _ trivial).2 (hkept _ _ hstate)
  | choose ι next ih => exact fun answer => ih answer (hreturns answer) (hraises answer) hstate

end Program

end Concurrent
