/-
# The database file

What `initialize` makes of a file that an earlier version has left: it creates
the tables that are missing, adds the columns that a table is missing, counts
the generation of every stored composition, and gives every draft without fact
references the verified facts of its Brand Lock.
-/

import CultureShift.Relational.Sheet
import CultureShift.Repository.Queries

namespace CultureShift

open Serialization Relational

/-- The columns of `project_run_contexts` beside its key. -/
inductive ContextColumn
  | requestJson | analysisJson | repairAttempted | confirmedBrandLockJson | brandLockConfirmedAt
  | creativeBriefJson | adCopyJson | draftFactReferencesJson | draftRuleIdsJson | draftGeneratedAt
  | compositionJson | critiqueJson | criticReviewedAt | initialGenerationCount
  | humanRevisionCount | technicalAttemptCount
deriving DecidableEq

namespace ContextColumn

/-- What a cell holds. -/
abbrev Cell : ContextColumn → Type
  | requestJson => Column RunCreate
  | analysisJson => Column AdAnalysis
  | repairAttempted => Nat
  | confirmedBrandLockJson => Column BrandLock
  | brandLockConfirmedAt => Datetime
  | creativeBriefJson => Column CreativeBrief
  | adCopyJson => Column AdCopy
  | draftFactReferencesJson => Column (List String)
  | draftRuleIdsJson => Column (List String)
  | draftGeneratedAt => Datetime
  | compositionJson => Column CompositionGenerated
  | critiqueJson => Column CritiqueReport
  | criticReviewedAt => Datetime
  | initialGenerationCount => Nat
  | humanRevisionCount => Nat
  | technicalAttemptCount => Nat

/-- The columns of a new table. -/
def all : List ContextColumn :=
  [requestJson, analysisJson, repairAttempted, confirmedBrandLockJson, brandLockConfirmedAt,
    creativeBriefJson, adCopyJson, draftFactReferencesJson, draftRuleIdsJson, draftGeneratedAt,
    compositionJson, critiqueJson, criticReviewedAt, initialGenerationCount, humanRevisionCount,
    technicalAttemptCount]

/-- The columns that are added to an old table, in this order. -/
def added : List ContextColumn :=
  [repairAttempted, confirmedBrandLockJson, brandLockConfirmedAt, creativeBriefJson, adCopyJson,
    draftFactReferencesJson, draftRuleIdsJson, draftGeneratedAt, compositionJson, critiqueJson,
    criticReviewedAt, initialGenerationCount, humanRevisionCount, technicalAttemptCount]

/-- What a new column holds in the rows that are there: zero for a counter, else `NULL`. -/
def defaults : Cells Cell
  | repairAttempted => some (0 : Nat)
  | initialGenerationCount => some (0 : Nat)
  | humanRevisionCount => some (0 : Nat)
  | technicalAttemptCount => some (0 : Nat)
  | _ => none

end ContextColumn

abbrev ContextCells : Type := Cells ContextColumn.Cell

abbrev ContextSheet : Type := Sheet UUID ContextColumn.Cell

/-- The tables of a file; `none` is a table that was never created. -/
structure DatabaseFile where
  runs : Option (Table UUID RunRow)
  contexts : Option ContextSheet
  revisions : Option (Table UUID RevisionRow)
  operations : Option OperationTable

namespace DatabaseFile

/-! ## `initialize` -/

/-- `SET initial_generation_count = 1 WHERE composition_json IS NOT NULL AND
initial_generation_count = 0` -/
def countGeneration (cells : ContextCells) : ContextCells :=
  let count : Option Nat := cells .initialGenerationCount
  if (cells .compositionJson).isSome ∧ count = some 0 then
    Function.update cells .initialGenerationCount (some (1 : Nat))
  else cells

/-- `draft_generated_at IS NOT NULL AND draft_fact_references_json IS NULL` -/
def isLegacyDraft (cells : ContextCells) : Bool :=
  (cells .draftGeneratedAt).isSome && (cells .draftFactReferencesJson).isNone

def setReferences (references : Column (List String)) (cells : ContextCells) : ContextCells :=
  Function.update cells .draftFactReferencesJson (some references)

/-- Give each of the drafts the facts of its Brand Lock. -/
def backfill (sheet : ContextSheet) : List (UUID × ContextCells) → Except Exc ContextSheet
  | [] => .ok sheet
  | (runId, cells) :: drafts => do
      let encoded ← orRaise (cells .confirmedBrandLockJson)
        (.valueError "legacy draft is missing confirmed Brand Lock")
      let lock ← load (encoded : Column BrandLock)
      let references : Column (List String) := .dump lock.facts
      backfill (sheet.update fun key other =>
        if key = runId then setReferences references other else other) drafts

def initializeTables (file : DatabaseFile) : Except Exc DatabaseFile := do
  let contexts := file.contexts.getD (.empty ContextColumn.all)
  let contexts := contexts.addColumns ContextColumn.defaults ContextColumn.added
  let contexts := contexts.update fun _ => countGeneration
  let contexts ← backfill contexts (contexts.rows.filter fun row => isLegacyDraft row.2)
  pure
    { runs := some (file.runs.getD Table.empty)
      contexts := some contexts
      revisions := some (file.revisions.getD Table.empty)
      operations := some (file.operations.getD OperationTable.empty) }

/-! ## What the file holds -/

/-- A row as the queries read it. The counters and the request are never `NULL`. -/
def contextRow? (cells : ContextCells) : Option ContextRow := do
  let request ← cells .requestJson
  let repairAttempted ← cells .repairAttempted
  let initialGenerationCount ← cells .initialGenerationCount
  let humanRevisionCount ← cells .humanRevisionCount
  let technicalAttemptCount ← cells .technicalAttemptCount
  pure
    { request := request
      analysis := cells .analysisJson
      repairAttempted := repairAttempted
      confirmedBrandLock := cells .confirmedBrandLockJson
      brandLockConfirmedAt := cells .brandLockConfirmedAt
      creativeBrief := cells .creativeBriefJson
      adCopy := cells .adCopyJson
      draftFactReferences := cells .draftFactReferencesJson
      draftRuleIds := cells .draftRuleIdsJson
      draftGeneratedAt := cells .draftGeneratedAt
      composition := cells .compositionJson
      critique := cells .critiqueJson
      criticReviewedAt := cells .criticReviewedAt
      initialGenerationCount := initialGenerationCount
      humanRevisionCount := humanRevisionCount
      technicalAttemptCount := technicalAttemptCount }

/-- The file has every table and column of the current version, and `database` is what the
queries find in it. -/
structure Holds (file : DatabaseFile) (database : Database) : Prop where
  runs : file.runs = some database.runs
  revisions : file.revisions = some database.revisions
  operations : file.operations = some database.operations
  contexts : ∃ sheet, file.contexts = some sheet ∧ (∀ column, column ∈ sheet.columns) ∧
    ∀ runId, (sheet.find runId).map contextRow? = (database.contexts.find runId).map some

end DatabaseFile

end CultureShift
