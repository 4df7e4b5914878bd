/-
# Transaction bodies

The body of a transaction reads and replaces the store as a whole, or fails. A
body that fails has no store to leave behind, so a rollback needs no further
word. The rules below take a body that committed apart, one statement at a
time.
-/

import Mathlib.Logic.Basic

namespace Relational

variable {ε α β : Type}

/-- Fail with `error` unless the condition holds. -/
def require (condition : Prop) [Decidable condition] (error : ε) : Except ε Unit :=
  if condition then .ok () else .error error

/-- Fail with `error` where there is no value. -/
def orRaise (value : Option α) (error : ε) : Except ε α :=
  match value with
  | some value => .ok value
  | none => .error error

@[simp]
theorem ok_bind (value : α) (rest : α → Except ε β) : (Except.ok value >>= rest) = rest value :=
  rfl

@[simp]
theorem error_bind (error : ε) (rest : α → Except ε β) :
    ((.error error : Except ε α) >>= rest) = .error error := rfl

theorem bind_eq_ok {first : Except ε α} {rest : α → Except ε β} {value : β} :
    first >>= rest = .ok value ↔ ∃ mid, first = .ok mid ∧ rest mid = .ok value := by
  cases first with
  | error error => simp
  | ok mid => simp

theorem bind_eq_error {first : Except ε α} {rest : α → Except ε β} {error : ε} :
    first >>= rest = .error error ↔
      first = .error error ∨ ∃ mid, first = .ok mid ∧ rest mid = .error error := by
  cases first with
  | error error => simp
  | ok mid => simp

theorem map_eq_ok {first : Except ε α} {change : α → β} {value : β} :
    first.map change = .ok value ↔ ∃ mid, first = .ok mid ∧ change mid = value := by
  cases first with
  | error error => simp [Except.map]
  | ok mid => simp [Except.map]

theorem require_eq_ok {condition : Prop} [Decidable condition] {error : ε} {done : Unit} :
    require condition error = .ok done ↔ condition := by
  by_cases h : condition <;> simp [require, h]

@[simp]
theorem require_of {condition : Prop} [Decidable condition] (error : ε) (h : condition) :
    require condition error = .ok () := if_pos h

theorem require_eq_error {condition : Prop} [Decidable condition] {error error' : ε} :
    require condition error = .error error' ↔ ¬condition ∧ error = error' := by
  by_cases h : condition <;> simp [require, h]

theorem orRaise_eq_ok {source : Option α} {error : ε} {value : α} :
    orRaise source error = .ok value ↔ source = some value := by
  cases source <;> simp [orRaise]

theorem orRaise_eq_error {source : Option α} {error error' : ε} :
    orRaise source error = .error error' ↔ source = none ∧ error = error' := by
  cases source <;> simp [orRaise]

@[simp]
theorem orRaise_some (value : α) (error : ε) : orRaise (some value) error = .ok value := rfl

@[simp]
theorem orRaise_none (error : ε) : orRaise (none : Option α) error = .error error := rfl

end Relational
