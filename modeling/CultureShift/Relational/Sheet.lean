/-
# Tables that gain columns

A table as a database file holds it: the columns that it has by now, and its
rows under unique keys. `ALTER TABLE … ADD COLUMN` adds a column with the same
value in every row, and an `UPDATE` changes the cells of the rows that are there.
-/

import Mathlib.Data.List.Nodup
import Mathlib.Logic.Function.Basic
import Mathlib.Tactic.SplitIfs

namespace Relational

/-- The cells of a row; `none` is `NULL`. -/
abbrev Cells {γ : Type} (cell : γ → Type) : Type := (column : γ) → Option (cell column)

structure Sheet (κ : Type) {γ : Type} (cell : γ → Type) where
  columns : List γ
  rows : List (κ × Cells cell)
  keys_unique : (rows.map Prod.fst).Nodup

namespace Sheet

variable {κ γ : Type} {cell : γ → Type}

/-- `CREATE TABLE` -/
def empty (columns : List γ) : Sheet κ cell where
  columns := columns
  rows := []
  keys_unique := List.nodup_nil

/-- An `UPDATE` that makes `change` of every row. -/
def update (sheet : Sheet κ cell) (change : κ → Cells cell → Cells cell) : Sheet κ cell where
  columns := sheet.columns
  rows := sheet.rows.map fun row => (row.1, change row.1 row.2)
  keys_unique := by
    rw [List.map_map]
    exact sheet.keys_unique

@[simp]
theorem columns_update (sheet : Sheet κ cell) (change : κ → Cells cell → Cells cell) :
    (sheet.update change).columns = sheet.columns := rfl

theorem update_update (sheet : Sheet κ cell) (first second : κ → Cells cell → Cells cell) :
    (sheet.update first).update second =
      sheet.update fun key cells => second key (first key cells) := by
  simp [update, Function.comp_def]

/-- An update that leaves every row as it is changes nothing. -/
theorem update_eq_self {sheet : Sheet κ cell} {change : κ → Cells cell → Cells cell}
    (h : ∀ row ∈ sheet.rows, change row.1 row.2 = row.2) : sheet.update change = sheet := by
  have hrows : sheet.rows.map (fun row => (row.1, change row.1 row.2)) = sheet.rows := by
    have hid : ∀ row ∈ sheet.rows, (row.1, change row.1 row.2) = id row := by
      intro row hrow
      rw [h row hrow]
      rfl
    rw [List.map_congr_left hid, List.map_id]
  obtain ⟨columns, rows, hunique⟩ := sheet
  simp only [update]
  congr

variable [DecidableEq κ]

/-- `SELECT … WHERE key = ?` -/
def find (sheet : Sheet κ cell) (key : κ) : Option (Cells cell) := sheet.rows.lookup key

@[simp]
theorem find_empty (columns : List γ) (key : κ) :
    (empty columns : Sheet κ cell).find key = none := rfl

@[simp]
theorem find_update (sheet : Sheet κ cell) (change : κ → Cells cell → Cells cell) (key : κ) :
    (sheet.update change).find key = (sheet.find key).map (change key) := by
  obtain ⟨columns, rows, hunique⟩ := sheet
  simp only [find, update]
  clear hunique
  induction rows with
  | nil => rfl
  | cons row rows ih =>
      obtain ⟨other, cells⟩ := row
      by_cases h : key = other
      · subst h
        simp
      · simp [List.lookup_cons, beq_eq_false_iff_ne.mpr h, ih]

theorem lookup_of_mem {rows : List (κ × Cells cell)} (h : (rows.map Prod.fst).Nodup)
    {row : κ × Cells cell} (hrow : row ∈ rows) : rows.lookup row.1 = some row.2 := by
  induction rows with
  | nil => cases hrow
  | cons first rows ih =>
      obtain ⟨key, cells⟩ := first
      rw [List.map_cons, List.nodup_cons] at h
      rcases List.mem_cons.mp hrow with rfl | hrow
      · exact List.lookup_cons_self
      · have hne : row.1 ≠ key := by
          intro heq
          exact h.1 (List.mem_map.mpr ⟨row, hrow, heq⟩)
        rw [List.lookup_cons, beq_eq_false_iff_ne.mpr hne]
        exact ih h.2 hrow

theorem find_of_mem {sheet : Sheet κ cell} {row : κ × Cells cell} (h : row ∈ sheet.rows) :
    sheet.find row.1 = some row.2 :=
  lookup_of_mem sheet.keys_unique h

theorem mem_of_lookup {rows : List (κ × Cells cell)} {key : κ} {cells : Cells cell}
    (h : rows.lookup key = some cells) : (key, cells) ∈ rows := by
  induction rows with
  | nil => cases h
  | cons row rows ih =>
      obtain ⟨other, stored⟩ := row
      by_cases heq : key = other
      · subst heq
        rw [List.lookup_cons_self, Option.some.injEq] at h
        subst h
        exact List.mem_cons_self
      · rw [List.lookup_cons, beq_eq_false_iff_ne.mpr heq] at h
        exact List.mem_cons_of_mem _ (ih h)

theorem mem_of_find {sheet : Sheet κ cell} {key : κ} {cells : Cells cell}
    (h : sheet.find key = some cells) : (key, cells) ∈ sheet.rows := mem_of_lookup h

/-- Looking a key up among some of the rows. -/
theorem lookup_filter (sheet : Sheet κ cell) (condition : Cells cell → Bool) (key : κ) :
    (sheet.rows.filter fun row => condition row.2).lookup key =
      (sheet.find key).filter condition := by
  cases hfind : sheet.find key with
  | none =>
      cases hlookup : (sheet.rows.filter fun row => condition row.2).lookup key with
      | none => rfl
      | some cells =>
          have hmem := List.mem_of_mem_filter (mem_of_lookup hlookup)
          rw [find_of_mem hmem] at hfind
          cases hfind
  | some cells =>
      have hmem := mem_of_find hfind
      by_cases hcondition : condition cells = true
      · have hunique : ((sheet.rows.filter fun row => condition row.2).map Prod.fst).Nodup :=
          sheet.keys_unique.sublist (List.filter_sublist.map _)
        rw [lookup_of_mem hunique (List.mem_filter.mpr ⟨hmem, hcondition⟩)]
        exact (Option.filter_some_pos hcondition).symm
      · cases hlookup : (sheet.rows.filter fun row => condition row.2).lookup key with
        | none => exact (Option.filter_some_neg (Bool.eq_false_iff.mpr hcondition)).symm
        | some other =>
            obtain ⟨hother, htrue⟩ := List.mem_filter.mp (mem_of_lookup hlookup)
            have hsame := find_of_mem hother
            rw [hfind] at hsame
            obtain rfl := Option.some.inj hsame
            exact absurd htrue hcondition

/-! ## Columns -/

section Columns

variable [DecidableEq γ]

/-- `ALTER TABLE … ADD COLUMN`, unless the table has the column. -/
def addColumn (defaults : Cells cell) (sheet : Sheet κ cell) (column : γ) : Sheet κ cell :=
  if column ∈ sheet.columns then sheet
  else
    { sheet.update fun _ cells => Function.update cells column (defaults column) with
      columns := sheet.columns ++ [column] }

/-- Add the columns that are missing, one after the other. -/
def addColumns (sheet : Sheet κ cell) (defaults : Cells cell) (names : List γ) : Sheet κ cell :=
  names.foldl (addColumn defaults) sheet

/-- A row of a table to which columns have been added. -/
def fill (columns : List γ) (defaults : Cells cell) (names : List γ) (cells : Cells cell) :
    Cells cell :=
  fun column => if column ∉ columns ∧ column ∈ names then defaults column else cells column

variable {defaults : Cells cell} {sheet : Sheet κ cell}

omit [DecidableEq κ] in
theorem addColumn_of_mem {column : γ} (h : column ∈ sheet.columns) :
    addColumn defaults sheet column = sheet := if_pos h

omit [DecidableEq κ] in
theorem mem_columns_addColumn {column other : γ} :
    other ∈ (addColumn defaults sheet column).columns ↔ other ∈ sheet.columns ∨ other = column := by
  by_cases h : column ∈ sheet.columns
  · rw [addColumn_of_mem h]
    constructor
    · exact Or.inl
    · rintro (hother | rfl)
      · exact hother
      · exact h
  · rw [addColumn, if_neg h]
    simp

omit [DecidableEq κ] in
theorem mem_columns_addColumns {names : List γ} {other : γ} :
    other ∈ (sheet.addColumns defaults names).columns ↔ other ∈ sheet.columns ∨ other ∈ names := by
  induction names generalizing sheet with
  | nil => simp [addColumns]
  | cons name names ih =>
      rw [addColumns, List.foldl_cons, ← addColumns, ih, mem_columns_addColumn, List.mem_cons,
        or_assoc]

omit [DecidableEq κ] in
/-- Columns that the table has are not added again. -/
theorem addColumns_of_subset {names : List γ} (h : ∀ name ∈ names, name ∈ sheet.columns) :
    sheet.addColumns defaults names = sheet := by
  induction names with
  | nil => rfl
  | cons name names ih =>
      obtain ⟨hname, hnames⟩ := List.forall_mem_cons.mp h
      rw [addColumns, List.foldl_cons, addColumn_of_mem hname, ← addColumns]
      exact ih hnames

theorem find_addColumn (column : γ) (key : κ) :
    (addColumn defaults sheet column).find key =
      (sheet.find key).map (fill sheet.columns defaults [column]) := by
  by_cases h : column ∈ sheet.columns
  · have hfill : fill sheet.columns defaults [column] = id := by
      funext cells other
      apply if_neg
      rintro ⟨hother, hmem⟩
      exact hother (List.mem_singleton.mp hmem ▸ h)
    rw [addColumn_of_mem h, hfill, Option.map_id]
    rfl
  · have hfill : fill sheet.columns defaults [column] =
        fun cells => Function.update cells column (defaults column) := by
      funext cells other
      by_cases hother : other = column
      · subst hother
        simp [fill, h]
      · simp [fill, hother]
    rw [hfill, addColumn, if_neg h]
    exact find_update sheet (fun _ cells => Function.update cells column (defaults column)) key

/-- The rows are as before, but for the columns that were missing. -/
theorem find_addColumns (names : List γ) (key : κ) :
    (sheet.addColumns defaults names).find key =
      (sheet.find key).map (fill sheet.columns defaults names) := by
  induction names generalizing sheet with
  | nil =>
      have hfill : fill sheet.columns defaults [] = id := by
        funext cells other
        simp [fill]
      rw [hfill, Option.map_id]
      rfl
  | cons name names ih =>
      rw [addColumns, List.foldl_cons, ← addColumns, ih, find_addColumn, Option.map_map]
      congr 1
      funext cells other
      simp only [Function.comp_apply, fill, mem_columns_addColumn, List.mem_cons]
      by_cases hold : other ∈ sheet.columns
      · simp [hold]
      · by_cases hname : other = name
        · simp [hname]
        · simp [hname]

end Columns

end Sheet

end Relational
