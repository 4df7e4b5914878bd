/-
# Clients with shares of their own

Each client has a share of the state, which only its own steps change; one more
share is nobody's and stays as it is. `Minds` is the weakest precondition of a
client that minds its share: every step moves along a common order, leaves the
shares of the others alone and its own share sound. In the states that a client
finds its share is as it left it, so a client that runs among others reasons
about its share as if it ran alone.
-/

import CultureShift.Concurrent.Pool

namespace Concurrent

/-- How clients share the state `σ`, with shares `ρ`. -/
structure Shares (ι σ ρ : Type) where
  /-- What every step moves along. -/
  le : σ → σ → Prop
  /-- The share of a client; `none` has what is nobody's. -/
  share : Option ι → σ → ρ
  /-- What holds of every share between any two steps. -/
  sound : ρ → Prop
  le_refl : ∀ state, le state state
  le_trans : ∀ {first second third}, le first second → le second third → le first third

namespace Program

variable {σ ε α : Type}

/-- The program is one atomic call: it finds a state, answers and leaves a state as `spec`
says. -/
def Calls (spec : σ → Except ε α → σ → Prop) : Program σ ε α → Prop
  | ret value => ∀ state, spec state (.ok value) state
  | raise failure => ∀ state, spec state (.error failure) state
  | atomic effect next =>
      ∀ state, ∃ outcome, next state = .ofExcept outcome ∧ spec state outcome (effect state)
  | choose _ next => ∀ answer, (next answer).Calls spec

theorem ofExcept_injective {outcome outcome' : Except ε α}
    (h : (ofExcept outcome : Program σ ε α) = .ofExcept outcome') : outcome = outcome' := by
  cases outcome <;> cases outcome' <;> cases h <;> rfl

theorem Calls.mono {spec spec' : σ → Except ε α → σ → Prop} {program : Program σ ε α}
    (h : program.Calls spec)
    (hspec : ∀ state outcome state', spec state outcome state' → spec' state outcome state') :
    program.Calls spec' := by
  induction program with
  | ret value => exact fun state => hspec _ _ _ (h state)
  | raise failure => exact fun state => hspec _ _ _ (h state)
  | atomic effect next _ =>
      intro state
      obtain ⟨outcome, hnext, houtcome⟩ := h state
      exact ⟨outcome, hnext, hspec _ _ _ houtcome⟩
  | choose κ next ih => exact fun answer => ih answer (h answer)

theorem Calls.and {spec spec' : σ → Except ε α → σ → Prop} {program : Program σ ε α}
    (h : program.Calls spec) (h' : program.Calls spec') :
    program.Calls fun state outcome state' =>
      spec state outcome state' ∧ spec' state outcome state' := by
  induction program with
  | ret value => exact fun state => ⟨h state, h' state⟩
  | raise failure => exact fun state => ⟨h state, h' state⟩
  | atomic effect next _ =>
      intro state
      obtain ⟨outcome, hnext, hspec⟩ := h state
      obtain ⟨outcome', hnext', hspec'⟩ := h' state
      obtain rfl := ofExcept_injective (hnext.symm.trans hnext')
      exact ⟨outcome, hnext, hspec, hspec'⟩
  | choose κ next ih => exact fun answer => ih answer (h answer) (h' answer)

/-- What a call returns is as the program says. -/
theorem Calls.returning {spec : σ → Except ε α → σ → Prop} {post : α → Prop}
    {program : Program σ ε α} (h : program.Calls spec) (hpost : program.Returns post) :
    program.Calls fun state outcome state' =>
      spec state outcome state' ∧ ∀ value, outcome = .ok value → post value := by
  induction program with
  | ret value =>
      refine fun state => ⟨h state, ?_⟩
      rintro _ ⟨⟩
      exact hpost
  | raise failure => exact fun state => ⟨h state, nofun⟩
  | atomic effect next _ =>
      intro state
      obtain ⟨outcome, hnext, hspec⟩ := h state
      refine ⟨outcome, hnext, hspec, ?_⟩
      rintro value rfl
      have hvalue := (hpost state trivial).2
      rw [hnext] at hvalue
      exact hvalue
  | choose κ next ih => exact fun answer => ih answer (h answer) (hpost answer)

/-- An undisturbed call does what it is specified to. -/
theorem Calls.exec {spec : σ → Except ε α → σ → Prop} {program : Program σ ε α}
    (h : program.Calls spec) {state last : σ} {outcome : Except ε α}
    (hexec : program.exec state = some (outcome, last)) : spec state outcome last := by
  cases program with
  | ret value =>
      cases hexec
      exact h state
  | raise failure =>
      cases hexec
      exact h state
  | atomic effect next =>
      obtain ⟨answer, hnext, hspec⟩ := h state
      rw [Program.exec, hnext] at hexec
      cases answer <;> cases hexec <;> exact hspec
  | choose κ next => cases hexec

end Program

namespace Shares

variable {ι σ ρ κ ε α β : Type} (S : Shares ι σ ρ) (i : ι)

/-- What a client finds after steps of the others. -/
structure Spared (state found : σ) : Prop where
  le : S.le state found
  share : S.share (some i) found = S.share (some i) state

/-- What a step of a client does. -/
structure Step (state state' : σ) : Prop where
  le : S.le state state'
  others : ∀ owner, owner ≠ some i → S.share owner state' = S.share owner state
  sound : S.sound (S.share (some i) state')

variable {S i} {state found : σ}

theorem Spared.refl (state : σ) : S.Spared i state state := ⟨S.le_refl state, rfl⟩

theorem Spared.trans {later : σ} (h : S.Spared i state found) (h' : S.Spared i found later) :
    S.Spared i state later := ⟨S.le_trans h.le h'.le, h'.share.trans h.share⟩

/-- A step that changes no share. -/
theorem step_of_shares {state' : σ} (hle : S.le state state')
    (hshare : ∀ owner, S.share owner state' = S.share owner state)
    (hsound : S.sound (S.share (some i) state)) : S.Step i state state' :=
  ⟨hle, fun owner _ => hshare owner, (hshare (some i)).symm ▸ hsound⟩

/-- Such a step spares the share of the client itself. -/
theorem spared_of_shares {state' : σ} (hle : S.le state state')
    (hshare : ∀ owner, S.share owner state' = S.share owner state) : S.Spared i state state' :=
  ⟨hle, hshare (some i)⟩

variable (S i) in
/-- From this state on the client minds its share, and ends as `post` or `error` say. -/
def Minds (post : α → σ → Prop) (error : ε → σ → Prop) : σ → Program σ ε α → Prop
  | state, .ret value => ∀ found, S.Spared i state found → post value found
  | state, .raise failure => ∀ found, S.Spared i state found → error failure found
  | state, .atomic effect next => ∀ found, S.Spared i state found →
      S.Step i found (effect found) ∧ Minds post error (effect found) (next found)
  | state, .choose _ next => ∀ answer, Minds post error state (next answer)

/-- What an outcome is worth. -/
def Concludes (post : α → σ → Prop) (error : ε → σ → Prop) : Except ε α → σ → Prop
  | .ok value => post value
  | .error failure => error failure

variable {post : α → σ → Prop} {error : ε → σ → Prop}

/-! ## Rules -/

theorem minds_ret {value : α} (h : ∀ found, S.Spared i state found → post value found) :
    S.Minds i post error state (.ret value : Program σ ε α) := h

theorem minds_raise {failure : ε} (h : ∀ found, S.Spared i state found → error failure found) :
    S.Minds i post error state (.raise failure : Program σ ε α) := h

theorem minds_ofExcept {outcome : Except ε α}
    (h : ∀ found, S.Spared i state found → Concludes post error outcome found) :
    S.Minds i post error state (.ofExcept outcome) := by
  cases outcome with
  | ok value => exact h
  | error failure => exact h

/-- A client goes on minding its share when the others move. -/
theorem Minds.of_spared {program : Program σ ε α} (h : S.Minds i post error state program)
    (hspared : S.Spared i state found) : S.Minds i post error found program := by
  induction program with
  | ret value => exact fun later hlater => h later (hspared.trans hlater)
  | raise failure => exact fun later hlater => h later (hspared.trans hlater)
  | atomic effect next _ => exact fun later hlater => h later (hspared.trans hlater)
  | choose κ next ih => exact fun answer => ih answer (h answer)

/-- It is enough to do so in every state the client may find. -/
theorem minds_of_found {program : Program σ ε α}
    (h : ∀ found, S.Spared i state found → S.Minds i post error found program) :
    S.Minds i post error state program := by
  induction program with
  | ret value => exact fun found hfound => h found hfound found (.refl found)
  | raise failure => exact fun found hfound => h found hfound found (.refl found)
  | atomic effect next _ => exact fun found hfound => h found hfound found (.refl found)
  | choose κ next ih => exact fun answer => ih answer fun found hfound => h found hfound answer

theorem Minds.mono {post' : α → σ → Prop} {error' : ε → σ → Prop} {program : Program σ ε α}
    (h : S.Minds i post error state program)
    (hpost : ∀ value found, post value found → post' value found)
    (herror : ∀ failure found, error failure found → error' failure found) :
    S.Minds i post' error' state program := by
  induction program generalizing state with
  | ret value => exact fun found hfound => hpost value found (h found hfound)
  | raise failure => exact fun found hfound => herror failure found (h found hfound)
  | atomic effect next ih =>
      intro found hfound
      exact ⟨(h found hfound).1, ih found (h found hfound).2⟩
  | choose κ next ih => exact fun answer => ih answer (h answer)

theorem minds_bind {post : β → σ → Prop} {program : Program σ ε α} {rest : α → Program σ ε β}
    (h : S.Minds i (fun value found => S.Minds i post error found (rest value)) error state
      program) : S.Minds i post error state (program >>= rest) := by
  induction program generalizing state with
  | ret value => exact minds_of_found h
  | raise failure => exact h
  | atomic effect next ih =>
      intro found hfound
      exact ⟨(h found hfound).1, ih found (h found hfound).2⟩
  | choose κ next ih => exact fun answer => ih answer (h answer)

theorem minds_tryCatch {program : Program σ ε α} {handler : ε → Program σ ε α}
    (h : S.Minds i post (fun failure found => S.Minds i post error found (handler failure)) state
      program) : S.Minds i post error state (program.tryCatch handler) := by
  induction program generalizing state with
  | ret value => exact h
  | raise failure => exact minds_of_found h
  | atomic effect next ih =>
      intro found hfound
      exact ⟨(h found hfound).1, ih found (h found hfound).2⟩
  | choose κ next ih => exact fun answer => ih answer (h answer)

theorem minds_attempt {post : Except ε α → σ → Prop} {program : Program σ ε α}
    (h : S.Minds i (fun value => post (.ok value)) (fun failure => post (.error failure)) state
      program) : S.Minds i post error state program.attempt := by
  induction program generalizing state with
  | ret value => exact h
  | raise failure => exact h
  | atomic effect next ih =>
      intro found hfound
      exact ⟨(h found hfound).1, ih found (h found hfound).2⟩
  | choose κ next ih => exact fun answer => ih answer (h answer)

/-- A transaction either commits or leaves the state it found. -/
theorem minds_transact {body : σ → Except ε (α × σ)} (hsound : S.sound (S.share (some i) state))
    (hcommit : ∀ found value after, S.Spared i state found → body found = .ok (value, after) →
      S.Step i found after ∧ ∀ later, S.Spared i after later → post value later)
    (hrollback : ∀ found failure later, S.Spared i state found → body found = .error failure →
      S.Spared i found later → error failure later) :
    S.Minds i post error state (.transact body) := by
  intro found hfound
  cases hbody : body found with
  | ok result =>
      obtain ⟨value, after⟩ := result
      simp only [hbody]
      exact hcommit found value after hfound hbody
  | error failure =>
      simp only [hbody]
      exact ⟨⟨S.le_refl found, fun _ _ => rfl, hfound.share.symm ▸ hsound⟩,
        fun later hlater => hrollback found failure later hfound hbody hlater⟩

/-- A program that changes no share. -/
theorem minds_of_meets {promises : σ → σ → Prop} {returns : α → Prop} {raises : ε → Prop}
    {program : Program σ ε α} (h : program.Meets (fun _ => True) promises returns raises)
    (hle : ∀ state state', promises state state' → S.le state state')
    (hshare : ∀ state state', promises state state' →
      ∀ owner, S.share owner state' = S.share owner state)
    (hsound : S.sound (S.share (some i) state))
    (hpost : ∀ value found, returns value → S.Spared i state found → post value found)
    (herror : ∀ failure found, raises failure → S.Spared i state found → error failure found) :
    S.Minds i post error state program := by
  induction program generalizing state with
  | ret value => exact fun found hfound => hpost value found h hfound
  | raise failure => exact fun found hfound => herror failure found h hfound
  | atomic effect next ih =>
      intro found hfound
      obtain ⟨hpromise, hnext⟩ := h found trivial
      have hsame := hshare _ _ hpromise
      have hkept : S.Spared i state (effect found) :=
        hfound.trans (spared_of_shares (hle _ _ hpromise) hsame)
      have hstill : S.sound (S.share (some i) found) := hfound.share.symm ▸ hsound
      refine ⟨step_of_shares (hle _ _ hpromise) hsame hstill, ih found hnext ?_ ?_ ?_⟩
      · rw [hsame]
        exact hstill
      · exact fun value later hvalue hlater => hpost value later hvalue (hkept.trans hlater)
      · exact fun failure later hraised hlater =>
          herror failure later hraised (hkept.trans hlater)
  | choose κ next ih => exact fun answer => ih answer (h answer) hsound hpost herror

/-- A call on a component of the state. -/
theorem minds_call {get : σ → κ} {set : κ → σ → σ} {spec : κ → Except ε α → κ → Prop}
    {program : Program κ ε α} (hcall : program.Calls spec)
    (hself : ∀ state, set (get state) state = state)
    (h : ∀ found outcome part, S.Spared i state found → spec (get found) outcome part →
      S.Step i found (set part found) ∧
        ∀ later, S.Spared i (set part found) later → Concludes post error outcome later) :
    S.Minds i post error state (program.within get set) := by
  induction program generalizing state with
  | ret value =>
      intro found hfound
      have hlater := (h found (.ok value) (get found) hfound (hcall _)).2
      rw [hself] at hlater
      exact hlater found (.refl found)
  | raise failure =>
      intro found hfound
      have hlater := (h found (.error failure) (get found) hfound (hcall _)).2
      rw [hself] at hlater
      exact hlater found (.refl found)
  | atomic effect next _ =>
      intro found hfound
      obtain ⟨outcome, hnext, hspec⟩ := hcall (get found)
      obtain ⟨hstep, hlater⟩ := h found outcome _ hfound hspec
      refine ⟨hstep, ?_⟩
      show S.Minds i post error _ ((next (get found)).within get set)
      rw [hnext]
      cases outcome with
      | ok value => exact hlater
      | error failure => exact hlater
  | choose κ next ih => exact fun answer => ih answer (hcall answer) h

/-! ## Clients together -/

section Runs

variable {posts : ι → α → σ → Prop} {errors : ι → ε → σ → Prop}
  {start config : Config ι σ ε α}

/-- Every client minds its share, and every share is sound. -/
structure AllMind (S : Shares ι σ ρ) (posts : ι → α → σ → Prop) (errors : ι → ε → σ → Prop)
    (config : Config ι σ ε α) : Prop where
  sound : ∀ owner, S.sound (S.share owner config.state)
  minds : ∀ i, S.Minds i (posts i) (errors i) config.state (config.threads i)

/-- What a client finds when another has taken a step. -/
theorem Step.spares {i j : ι} (h : S.Step i state found) (hne : j ≠ i) :
    S.Spared j state found :=
  ⟨h.le, h.others (some j) fun heq => hne (Option.some.inj heq)⟩

theorem AllMind.returned (h : S.AllMind posts errors config) {i : ι} {value : α}
    (hthread : config.threads i = .ret value) : posts i value config.state := by
  have hown := h.minds i
  rw [hthread] at hown
  exact hown config.state (.refl config.state)

theorem AllMind.raised (h : S.AllMind posts errors config) {i : ι} {failure : ε}
    (hthread : config.threads i = .raise failure) : errors i failure config.state := by
  have hown := h.minds i
  rw [hthread] at hown
  exact hown config.state (.refl config.state)

variable [DecidableEq ι] {log : List (Event ι σ)}

/-- Clients that mind their shares one by one do so together. -/
theorem AllMind.of_runs (h : S.AllMind posts errors start) (hruns : Runs start log config) :
    S.AllMind posts errors config ∧ S.le start.state config.state ∧
      S.share none config.state = S.share none start.state := by
  induction hruns with
  | refl => exact ⟨h, S.le_refl _, rfl⟩
  | @atomic log config i effect next _ hthread ih =>
      obtain ⟨hmind, hle, hnobody⟩ := ih
      have hown := hmind.minds i
      rw [hthread] at hown
      obtain ⟨hstep, hnext⟩ := hown config.state (.refl config.state)
      refine ⟨⟨fun owner => ?_, fun j => ?_⟩, S.le_trans hle hstep.le,
        (hstep.others none (Option.some_ne_none i).symm).trans hnobody⟩
      · by_cases howner : owner = some i
        · rw [howner]
          exact hstep.sound
        · rw [Config.move_state, hstep.others owner howner]
          exact hmind.sound owner
      · by_cases hji : j = i
        · subst hji
          rw [Config.move_threads_self]
          exact hnext
        · rw [Config.move_threads_ne _ _ _ hji]
          exact (hmind.minds j).of_spared (hstep.spares hji)
  | @choose log config i κ next answer _ hthread ih =>
      obtain ⟨hmind, hle, hnobody⟩ := ih
      refine ⟨⟨hmind.sound, fun j => ?_⟩, hle, hnobody⟩
      by_cases hji : j = i
      · subst hji
        have hown := hmind.minds j
        rw [hthread] at hown
        rw [Config.move_threads_self]
        exact hown answer
      · rw [Config.move_threads_ne _ _ _ hji]
        exact hmind.minds j

end Runs

-- From here on a program is taken apart by the rules, not by unfolding it.
attribute [irreducible] Minds

end Shares

end Concurrent
