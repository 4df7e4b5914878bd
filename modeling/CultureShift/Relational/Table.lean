/-
# Tables

A table with a primary key has at most one row per key, and every statement of
the programs modelled here names the key. Inserting a second row under a key
fails, and an update says whether it met its row.
-/

import Mathlib.Logic.Function.Basic
import Mathlib.Tactic.SplitIfs

namespace Relational

/-- A table with primary key `κ` and rows `ρ`. -/
def Table (κ ρ : Type) : Type := κ → Option ρ

namespace Table

variable {κ ρ : Type}

/-- The table without rows. -/
def empty : Table κ ρ := fun _ => none

/-- `SELECT … WHERE key = ?` -/
def find (table : Table κ ρ) (key : κ) : Option ρ := table key

@[simp]
theorem find_empty (key : κ) : (empty : Table κ ρ).find key = none := rfl

variable [DecidableEq κ]

/-- The table with this row under this key. -/
def set (table : Table κ ρ) (key : κ) (row : ρ) : Table κ ρ :=
  Function.update table key (some row)

/-- `INSERT`; `none` is a violation of the primary key. -/
def insert (table : Table κ ρ) (key : κ) (row : ρ) : Option (Table κ ρ) :=
  match table.find key with
  | none => some (table.set key row)
  | some _ => none

/-- `UPDATE … WHERE key = ? AND condition`; `none` stands for a row count of
zero. -/
def updateWhere (table : Table κ ρ) (key : κ) (condition : ρ → Bool) (change : ρ → ρ) :
    Option (Table κ ρ) :=
  match table.find key with
  | some row => if condition row then some (table.set key (change row)) else none
  | none => none

/-- `UPDATE … WHERE key = ?`, whether there is such a row or not. -/
def update (table : Table κ ρ) (key : κ) (change : ρ → ρ) : Table κ ρ :=
  (table.updateWhere key (fun _ => true) change).getD table

@[simp]
theorem find_set_self (table : Table κ ρ) (key : κ) (row : ρ) :
    (table.set key row).find key = some row := by
  simp [find, set, Function.update]

theorem find_set_ne (table : Table κ ρ) {key other : κ} (row : ρ) (hne : other ≠ key) :
    (table.set key row).find other = table.find other := by
  simp [find, set, Function.update, hne]

theorem insert_eq_some {table table' : Table κ ρ} {key : κ} {row : ρ}
    (h : table.insert key row = some table') :
    table.find key = none ∧ table' = table.set key row := by
  unfold insert at h
  split at h
  · next hfind => exact ⟨hfind, (Option.some.inj h).symm⟩
  · cases h

theorem insert_of_none {table : Table κ ρ} {key : κ} {row : ρ} (h : table.find key = none) :
    table.insert key row = some (table.set key row) := by
  simp [insert, h]

/-- A new row leaves the others where they are. -/
theorem find_of_insert {table table' : Table κ ρ} {new old : κ} {row found : ρ}
    (hinsert : table.insert new row = some table') (hfound : table.find old = some found) :
    table'.find old = some found := by
  obtain ⟨hnone, rfl⟩ := insert_eq_some hinsert
  have hne : old ≠ new := by
    rintro rfl
    rw [hnone] at hfound
    cases hfound
  rw [find_set_ne _ _ hne, hfound]

theorem updateWhere_eq_some {table table' : Table κ ρ} {key : κ} {condition : ρ → Bool}
    {change : ρ → ρ} (h : table.updateWhere key condition change = some table') :
    ∃ row, table.find key = some row ∧ condition row = true ∧
      table' = table.set key (change row) := by
  unfold updateWhere at h
  split at h
  · next row hfind =>
      split_ifs at h with hcondition
      exact ⟨row, hfind, hcondition, (Option.some.inj h).symm⟩
  · cases h

theorem find_insert_ne {table table' : Table κ ρ} {key other : κ} {row : ρ}
    (h : table.insert key row = some table') (hne : other ≠ key) :
    table'.find other = table.find other := by
  obtain ⟨-, rfl⟩ := insert_eq_some h
  exact table.find_set_ne row hne

theorem find_updateWhere_ne {table table' : Table κ ρ} {key other : κ} {condition : ρ → Bool}
    {change : ρ → ρ} (h : table.updateWhere key condition change = some table')
    (hne : other ≠ key) : table'.find other = table.find other := by
  obtain ⟨row, -, -, rfl⟩ := updateWhere_eq_some h
  exact table.find_set_ne (change row) hne

theorem updateWhere_of_some {table : Table κ ρ} {key : κ} {condition : ρ → Bool}
    {change : ρ → ρ} {row : ρ} (h : table.find key = some row) (hcondition : condition row = true) :
    table.updateWhere key condition change = some (table.set key (change row)) := by
  simp [updateWhere, h, hcondition]

theorem update_of_some {table : Table κ ρ} {key : κ} {change : ρ → ρ} {row : ρ}
    (h : table.find key = some row) : table.update key change = table.set key (change row) := by
  simp [update, updateWhere, h]

theorem find_update_ne (table : Table κ ρ) {key other : κ} (change : ρ → ρ) (hne : other ≠ key) :
    (table.update key change).find other = table.find other := by
  unfold update updateWhere
  cases hfind : table.find key with
  | none => rfl
  | some row => simpa using table.find_set_ne (change row) hne

/-! ## A nullable column -/

section Field

variable {α : Type} {field : ρ → Option α} {table table' : Table κ ρ} {key : κ}
  {condition : ρ → Bool} {change : ρ → ρ}

/-- An update that leaves a column of its row alone leaves the column of every row alone. -/
theorem bind_updateWhere (h : table.updateWhere key condition change = some table')
    (hchange : ∀ row, field (change row) = field row) (other : κ) :
    (table'.find other).bind field = (table.find other).bind field := by
  obtain ⟨row, hrow, -, rfl⟩ := updateWhere_eq_some h
  by_cases heq : other = key
  · subst heq
    rw [find_set_self, hrow]
    exact hchange row
  · rw [find_set_ne _ _ heq]

theorem bind_update (hchange : ∀ row, field (change row) = field row) (other : κ) :
    ((table.update key change).find other).bind field = (table.find other).bind field := by
  unfold update
  cases h : table.updateWhere key (fun _ => true) change with
  | none => rfl
  | some table' => exact bind_updateWhere h hchange other

/-- A new row with an empty column is no different from no row. -/
theorem bind_insert {row : ρ} (hnew : field row = none) (h : table.insert key row = some table')
    (other : κ) : (table'.find other).bind field = (table.find other).bind field := by
  obtain ⟨hnone, rfl⟩ := insert_eq_some h
  by_cases heq : other = key
  · subst heq
    rw [find_set_self, hnone]
    exact hnew
  · rw [find_set_ne _ _ heq]

end Field

end Table

end Relational
