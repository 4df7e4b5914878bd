/-
# Migration

A file that an earlier version has left consistent is migrated without loss:
every table and column of the current version exists afterwards, what was
stored is still stored, and every query succeeds on every row. Migrating the
file again changes nothing.
-/

import CultureShift.ConfirmedDraft
import CultureShift.Repository.Schema

namespace CultureShift

open Serialization Relational

namespace DatabaseFile

open ContextColumn

/-! ## One row -/

/-- The facts of the Brand Lock that the row holds, as a draft refers to them. -/
def referencesOf (cells : ContextCells) : Option (Column (List String)) :=
  (cells .confirmedBrandLockJson : Option (Column BrandLock)).bind fun encoded =>
    encoded.load?.map fun lock => .dump lock.facts

/-- What becomes of a row of a table with the given columns. -/
def migrated (columns : List ContextColumn) (cells : ContextCells) : ContextCells :=
  let counted := countGeneration (Sheet.fill columns defaults added cells)
  if isLegacyDraft counted then
    Function.update counted .draftFactReferencesJson (referencesOf counted)
  else counted

/-- A row that a version with the given columns has left consistent. Columns that it did not
have count as `NULL`. -/
structure ConsistentRow (columns : List ContextColumn) (cells : ContextCells) : Prop where
  request : (cells .requestJson).isSome = true
  counted : ∀ column ∈ [repairAttempted, initialGenerationCount, humanRevisionCount,
    technicalAttemptCount], column ∈ columns → (cells column).isSome = true
  repaired : ∀ attempts : Nat, cells .repairAttempted = some attempts → attempts ≤ 1
  generated : ∀ count : Nat, cells .initialGenerationCount = some count →
    count = if (cells .compositionJson).isSome then 1 else 0
  revised : ∀ count : Nat, cells .humanRevisionCount = some count → count ≤ 1
  confirmed : (cells .brandLockConfirmedAt).isSome = (cells .confirmedBrandLockJson).isSome
  drafted : ∀ column ∈ [creativeBriefJson, adCopyJson, draftRuleIdsJson],
    (cells column).isSome = (cells .draftGeneratedAt).isSome
  locked : (cells .draftGeneratedAt).isSome = true → (cells .confirmedBrandLockJson).isSome = true
  referenced : draftFactReferencesJson ∈ columns →
    (cells .draftFactReferencesJson).isSome = (cells .draftGeneratedAt).isSome
  reviewed : (cells .criticReviewedAt).isSome = (cells .critiqueJson).isSome
  review_time : ∀ (report : CritiqueReport) (reviewedAt : Datetime),
    cells .critiqueJson = some (Column.dump report) → cells .criticReviewedAt = some reviewedAt →
      reviewedAt = report.reviewedAt

/-! ## The loop over the drafts -/

theorem referencesOf_of_some {cells : ContextCells} {lock : BrandLock}
    (h : cells .confirmedBrandLockJson = some (Column.dump lock)) :
    referencesOf cells = some (.dump lock.facts) := by
  rw [referencesOf, h]
  simp

theorem exists_lock {cells : ContextCells} (h : (cells .confirmedBrandLockJson).isSome = true) :
    ∃ lock : BrandLock, cells .confirmedBrandLockJson = some (Column.dump lock) := by
  obtain ⟨encoded, hencoded⟩ := Option.isSome_iff_exists.mp h
  obtain ⟨lock, rfl⟩ := Column.exists_dump (encoded : Column BrandLock)
  exact ⟨lock, hencoded⟩

/-- The loop gives every draft the facts of its own Brand Lock and leaves the other rows as
they are. -/
theorem backfill_eq_ok {drafts : List (UUID × ContextCells)}
    (hlocked : ∀ draft ∈ drafts, (draft.2 .confirmedBrandLockJson).isSome = true)
    (hunique : (drafts.map Prod.fst).Nodup) (sheet : ContextSheet) :
    backfill sheet drafts = .ok (sheet.update fun key cells =>
      match drafts.lookup key with
      | some draft => Function.update cells .draftFactReferencesJson (referencesOf draft)
      | none => cells) := by
  induction drafts generalizing sheet with
  | nil =>
      rw [Sheet.update_eq_self]
      · rfl
      · exact fun row _ => rfl
  | cons draft drafts ih =>
      obtain ⟨runId, cells⟩ := draft
      obtain ⟨hfirst, hrest⟩ := List.forall_mem_cons.mp hlocked
      rw [List.map_cons, List.nodup_cons] at hunique
      obtain ⟨lock, hlock⟩ : ∃ lock : BrandLock,
          cells .confirmedBrandLockJson = some (Column.dump lock) := exists_lock hfirst
      have hload : load (Column.dump lock) = .ok lock := load_dump lock
      rw [backfill, hlock, orRaise_some, ok_bind]
      simp only [hload, ok_bind]
      rw [ih hrest hunique.2, Sheet.update_update]
      congr 2
      funext key other
      by_cases hkey : key = runId
      · subst hkey
        have hnone : drafts.lookup key = none := by
          rw [List.lookup_eq_none_iff]
          intro draft hdraft
          rw [bne_iff_ne]
          intro heq
          exact hunique.1 (List.mem_map.mpr ⟨draft, hdraft, heq.symm⟩)
        simp only [hnone, List.lookup_cons_self, if_true, referencesOf_of_some hlock]
        rfl
      · simp only [List.lookup_cons, beq_eq_false_iff_ne.mpr hkey, if_neg hkey]

/-! ## What becomes of a row -/

variable {columns : List ContextColumn} {cells : ContextCells}

/-- The cells of the columns that the table had. -/
def visible (columns : List ContextColumn) (cells : ContextCells) : ContextCells :=
  fun column => if column ∈ columns then cells column else none

/-- A column whose default is `NULL` and that is no longer missing. -/
theorem fill_eq_visible {column : ContextColumn} (hdefault : defaults column = none)
    (hadded : column ∈ columns ∨ column ∈ added) :
    Sheet.fill columns defaults added cells column = visible columns cells column := by
  by_cases hcolumn : column ∈ columns
  · rw [Sheet.fill, visible, if_pos hcolumn, if_neg]
    exact fun h => h.1 hcolumn
  · rw [Sheet.fill, visible, if_neg hcolumn, if_pos ⟨hcolumn, hadded.resolve_left hcolumn⟩,
      hdefault]

theorem countGeneration_of_ne {column : ContextColumn} (h : column ≠ initialGenerationCount) :
    countGeneration cells column = cells column := by
  unfold countGeneration
  split_ifs
  · exact Function.update_of_ne h _ _
  · rfl

theorem migrated_of_ne {column : ContextColumn} (hcount : column ≠ initialGenerationCount)
    (hreferences : column ≠ draftFactReferencesJson) :
    migrated columns cells column = Sheet.fill columns defaults added cells column := by
  unfold migrated
  split_ifs
  · rw [Function.update_of_ne hreferences, countGeneration_of_ne hcount]
  · rw [countGeneration_of_ne hcount]

/-- Every text and every time of a row stays as it was. -/
theorem migrated_eq_visible {column : ContextColumn} (hdefault : defaults column = none)
    (hadded : column ∈ columns ∨ column ∈ added) (hreferences : column ≠ draftFactReferencesJson) :
    migrated columns cells column = visible columns cells column := by
  have hcount : column ≠ initialGenerationCount := by
    rintro rfl
    cases hdefault
  rw [migrated_of_ne hcount hreferences, fill_eq_visible hdefault hadded]

theorem fill_counter {column : ContextColumn} (hadded : column ∈ added)
    (hpresent : column ∈ columns → (visible columns cells column).isSome = true) :
    Sheet.fill columns defaults added cells column =
      (visible columns cells column).or (defaults column) := by
  by_cases hcolumn : column ∈ columns
  · have hvisible : visible columns cells column = cells column := if_pos hcolumn
    have hsome := hpresent hcolumn
    rw [hvisible] at hsome ⊢
    obtain ⟨value, hvalue⟩ := Option.isSome_iff_exists.mp hsome
    rw [Sheet.fill, if_neg fun h => h.1 hcolumn, hvalue, Option.some_or]
  · have hvisible : visible columns cells column = none := if_neg hcolumn
    rw [hvisible, Option.none_or, Sheet.fill, if_pos ⟨hcolumn, hadded⟩]

/-- The generation of every composition is counted, and nothing else is. -/
theorem migrated_generation (h : ConsistentRow columns (visible columns cells)) :
    migrated columns cells .initialGenerationCount =
      some (if (visible columns cells .compositionJson).isSome then 1 else 0 : Nat) := by
  have hcomposition : Sheet.fill columns defaults added cells .compositionJson =
      visible columns cells .compositionJson := fill_eq_visible rfl (.inr (by decide))
  have hcount : Sheet.fill columns defaults added cells .initialGenerationCount =
      (visible columns cells .initialGenerationCount).or (some (0 : Nat)) :=
    fill_counter (by decide) (h.counted _ (by decide))
  have hmigrated : migrated columns cells .initialGenerationCount =
      countGeneration (Sheet.fill columns defaults added cells) .initialGenerationCount := by
    unfold migrated
    split_ifs
    · exact Function.update_of_ne (by decide) _ _
    · rfl
  rw [hmigrated, countGeneration, hcomposition, hcount]
  cases hstored : visible columns cells .initialGenerationCount with
  | none =>
      rw [Option.none_or]
      by_cases hsome : (visible columns cells .compositionJson).isSome = true
      · rw [if_pos ⟨hsome, rfl⟩, if_pos hsome, Function.update_self]
      · rw [if_neg fun hpair => hsome hpair.1, if_neg hsome, hcount, hstored]
        rfl
  | some count =>
      have heq := h.generated count hstored
      by_cases hsome : (visible columns cells .compositionJson).isSome = true
      · rw [if_pos hsome] at heq ⊢
        subst heq
        rw [Option.some_or, if_neg, hcount, hstored]
        · rfl
        · rintro ⟨-, hzero⟩
          exact absurd hzero (by decide)
      · rw [if_neg hsome] at heq ⊢
        subst heq
        rw [if_neg fun hpair => hsome hpair.1, hcount, hstored]
        rfl

/-- A draft without references gets the facts of its Brand Lock. -/
theorem migrated_references :
    migrated columns cells .draftFactReferencesJson =
      if isLegacyDraft (visible columns cells) then referencesOf (visible columns cells)
      else visible columns cells .draftFactReferencesJson := by
  have hfill : ∀ column, column ≠ initialGenerationCount → defaults column = none →
      column ∈ added →
      countGeneration (Sheet.fill columns defaults added cells) column =
        visible columns cells column := by
    intro column hcount hdefault hadded
    rw [countGeneration_of_ne hcount, fill_eq_visible hdefault (.inr hadded)]
  have hgenerated := hfill .draftGeneratedAt (by decide) rfl (by decide)
  have hreferences := hfill .draftFactReferencesJson (by decide) rfl (by decide)
  have hlock := hfill .confirmedBrandLockJson (by decide) rfl (by decide)
  have hlegacy : isLegacyDraft (countGeneration (Sheet.fill columns defaults added cells)) =
      isLegacyDraft (visible columns cells) := by
    rw [isLegacyDraft, hgenerated, hreferences]
    rfl
  have hfacts : referencesOf (countGeneration (Sheet.fill columns defaults added cells)) =
      referencesOf (visible columns cells) := by
    rw [referencesOf, hlock]
    rfl
  unfold migrated
  rw [hlegacy, hfacts]
  by_cases h : isLegacyDraft (visible columns cells) = true
  · rw [if_pos h, if_pos h, Function.update_self]
  · rw [if_neg h, if_neg h, hreferences]

/-- What a column of the old table held is still there. -/
theorem migrated_kept (h : ConsistentRow columns (visible columns cells)) {column : ContextColumn}
    (hcolumn : column ∈ columns) : migrated columns cells column = cells column := by
  have hvisible : visible columns cells column = cells column := if_pos hcolumn
  by_cases hcount : column = initialGenerationCount
  · subst hcount
    obtain ⟨count, hstored⟩ :=
      Option.isSome_iff_exists.mp (h.counted .initialGenerationCount (by decide) hcolumn)
    rw [migrated_generation h, ← hvisible, hstored, h.generated count hstored]
  by_cases hreferences : column = draftFactReferencesJson
  · subst hreferences
    have hlegacy : isLegacyDraft (visible columns cells) = false := by
      rw [isLegacyDraft, ← h.referenced hcolumn]
      cases visible columns cells .draftFactReferencesJson <;> rfl
    rw [migrated_references, hlegacy, if_neg (by decide), hvisible]
  · rw [migrated_of_ne hcount hreferences, Sheet.fill, if_neg fun hpair => hpair.1 hcolumn]

/-! ## Reading a migrated row -/

/-- A row that every query can read. -/
structure ReadableRow (row : ContextRow) : Prop where
  repaired : row.repairAttempted ≤ 1
  counts : row.initialGenerationCount ≤ 1 ∧ row.humanRevisionCount ≤ 1
  confirmed : ∃ record,
    confirmationRecord row.confirmedBrandLock row.brandLockConfirmedAt = .ok record ∧
      row.confirmedBrandLock = record.map fun confirmation => .dump confirmation.brandLock
  drafted : ∃ record,
    draftRecord row.creativeBrief row.adCopy row.draftFactReferences row.draftRuleIds
        row.draftGeneratedAt = .ok record ∧
      row.draftFactReferences = record.map fun draft => .dump draft.factReferences
  reviewed : ∃ record, critiqueRecord row.critique row.criticReviewedAt = .ok record

theorem exists_confirmationRecord {encoded : Option (Column BrandLock)}
    {confirmedAt : Option Datetime} (h : confirmedAt.isSome = encoded.isSome) :
    ∃ record, confirmationRecord encoded confirmedAt = .ok record ∧
      encoded = record.map fun confirmation => .dump confirmation.brandLock := by
  cases encoded with
  | none =>
      cases confirmedAt with
      | none => exact ⟨none, rfl, rfl⟩
      | some time => cases h
  | some encoded =>
      cases confirmedAt with
      | none => cases h
      | some time =>
          obtain ⟨lock, rfl⟩ := encoded.exists_dump
          refine ⟨some ⟨lock, time⟩, ?_, rfl⟩
          rw [confirmationRecord, load_dump]
          rfl

theorem exists_critiqueRecord {encoded : Option (Column CritiqueReport)}
    {reviewedAt : Option Datetime} (h : reviewedAt.isSome = encoded.isSome)
    (htime : ∀ (report : CritiqueReport) (time : Datetime), encoded = some (.dump report) →
      reviewedAt = some time → time = report.reviewedAt) :
    ∃ record, critiqueRecord encoded reviewedAt = .ok record := by
  cases encoded with
  | none =>
      cases reviewedAt with
      | none => exact ⟨none, rfl⟩
      | some time => cases h
  | some encoded =>
      cases reviewedAt with
      | none => cases h
      | some time =>
          obtain ⟨report, rfl⟩ := encoded.exists_dump
          have hsame : time = report.reviewedAt := htime report time rfl rfl
          refine ⟨some ⟨report, time⟩, ?_⟩
          rw [critiqueRecord, load_dump, ok_bind, require_of _ hsame]
          rfl

/-- All columns of a draft are set or none is. -/
theorem exists_draftRecord {brief : Option (Column CreativeBrief)} {adCopy : Option (Column AdCopy)}
    {references rules : Option (Column (List String))} {generatedAt : Option Datetime}
    (hbrief : brief.isSome = generatedAt.isSome) (hcopy : adCopy.isSome = generatedAt.isSome)
    (hreferences : references.isSome = generatedAt.isSome)
    (hrules : rules.isSome = generatedAt.isSome) :
    ∃ record, draftRecord brief adCopy references rules generatedAt = .ok record ∧
      references = record.map fun draft => .dump draft.factReferences := by
  cases generatedAt with
  | none =>
      rw [Option.isSome_none, Option.isSome_eq_false_iff, Option.isNone_iff_eq_none] at *
      subst hbrief hcopy hreferences hrules
      exact ⟨none, rfl, rfl⟩
  | some time =>
      rw [Option.isSome_some] at *
      obtain ⟨brief, rfl⟩ := Option.isSome_iff_exists.mp hbrief
      obtain ⟨adCopy, rfl⟩ := Option.isSome_iff_exists.mp hcopy
      obtain ⟨references, rfl⟩ := Option.isSome_iff_exists.mp hreferences
      obtain ⟨rules, rfl⟩ := Option.isSome_iff_exists.mp hrules
      obtain ⟨references, rfl⟩ := references.exists_dump
      obtain ⟨rules, rfl⟩ := rules.exists_dump
      obtain ⟨brief, rfl⟩ := brief.exists_dump
      obtain ⟨adCopy, rfl⟩ := adCopy.exists_dump
      refine ⟨some ⟨brief, adCopy, references, rules, time⟩, ?_, rfl⟩
      simp only [draftRecord, load_dump]
      rfl

/-- A counter of a migrated row, which was missing or within its bound. -/
theorem exists_counter (column : ContextColumn) (hadded : column ∈ added)
    (hcount : column ≠ initialGenerationCount) (hreferences : column ≠ draftFactReferencesJson)
    (hpresent : column ∈ columns → (visible columns cells column).isSome = true)
    (valid : Cell column → Prop) {zero : Cell column} (hdefault : defaults column = some zero)
    (hzero : valid zero)
    (hvalid : ∀ value, visible columns cells column = some value → valid value) :
    ∃ value, migrated columns cells column = some value ∧ valid value := by
  rw [migrated_of_ne hcount hreferences, fill_counter hadded hpresent, hdefault]
  cases hstored : visible columns cells column with
  | none => exact ⟨zero, rfl, hzero⟩
  | some value => exact ⟨value, rfl, hvalid value hstored⟩

/-- After the migration a draft has references, and nothing else has. -/
theorem isSome_references (h : ConsistentRow columns (visible columns cells)) :
    (migrated columns cells .draftFactReferencesJson).isSome =
      (visible columns cells .draftGeneratedAt).isSome := by
  rw [migrated_references]
  by_cases hcolumn : draftFactReferencesJson ∈ columns
  · have hreferenced := h.referenced hcolumn
    have hlegacy : isLegacyDraft (visible columns cells) = false := by
      rw [isLegacyDraft, ← hreferenced]
      cases visible columns cells .draftFactReferencesJson <;> rfl
    rw [hlegacy, if_neg (by decide), hreferenced]
  · have hnone : visible columns cells .draftFactReferencesJson = none := if_neg hcolumn
    have hlegacy : isLegacyDraft (visible columns cells) =
        (visible columns cells .draftGeneratedAt).isSome := by
      rw [isLegacyDraft, hnone]
      exact Bool.and_true _
    rw [hlegacy, hnone]
    cases hdrafted : (visible columns cells .draftGeneratedAt).isSome with
    | false => rfl
    | true =>
        obtain ⟨lock, hlock⟩ := exists_lock (h.locked hdrafted)
        rw [if_pos rfl, referencesOf_of_some hlock]
        rfl

/-- The queries find a row that they can read. -/
theorem contextRow?_migrated (h : ConsistentRow columns (visible columns cells))
    (hrequest : requestJson ∈ columns) :
    ∃ row, contextRow? (migrated columns cells) = some row ∧ ReadableRow row := by
  have htext : ∀ column, defaults column = none → column ∈ columns ∨ column ∈ added →
      column ≠ draftFactReferencesJson →
      migrated columns cells column = visible columns cells column :=
    fun column hdefault hadded hne => migrated_eq_visible hdefault hadded hne
  obtain ⟨request, hstored⟩ := Option.isSome_iff_exists.mp h.request
  rw [← htext .requestJson rfl (.inl hrequest) (by decide)] at hstored
  obtain ⟨attempts, hattempts, hrepaired⟩ :
      ∃ attempts : Nat, migrated columns cells .repairAttempted = some attempts ∧ attempts ≤ 1 :=
    exists_counter .repairAttempted (by decide) (by decide) (by decide)
      (h.counted _ (by decide)) (fun attempts : Nat => attempts ≤ 1) rfl (by decide) h.repaired
  obtain ⟨revisions, hrevisions, hrevised⟩ :
      ∃ count : Nat, migrated columns cells .humanRevisionCount = some count ∧ count ≤ 1 :=
    exists_counter .humanRevisionCount (by decide) (by decide) (by decide)
      (h.counted _ (by decide)) (fun count : Nat => count ≤ 1) rfl (by decide) h.revised
  obtain ⟨technical, htechnical, -⟩ :
      ∃ count : Nat, migrated columns cells .technicalAttemptCount = some count ∧ True :=
    exists_counter .technicalAttemptCount (by decide) (by decide) (by decide)
      (h.counted _ (by decide)) (fun _ => True) rfl trivial fun _ _ => trivial
  have hgeneration := migrated_generation h
  refine ⟨_, by
    simp only [contextRow?, hstored, hattempts, hrevisions, htechnical, hgeneration]
    rfl, ?_⟩
  constructor
  · exact hrepaired
  · refine ⟨?_, hrevised⟩
    show (if _ then 1 else 0) ≤ 1
    split_ifs <;> decide
  · apply exists_confirmationRecord
    rw [htext .brandLockConfirmedAt rfl (.inr (by decide)) (by decide),
      htext .confirmedBrandLockJson rfl (.inr (by decide)) (by decide)]
    exact h.confirmed
  · apply exists_draftRecord
    all_goals rw [htext .draftGeneratedAt rfl (.inr (by decide)) (by decide)]
    · rw [htext .creativeBriefJson rfl (.inr (by decide)) (by decide)]
      exact h.drafted _ (by decide)
    · rw [htext .adCopyJson rfl (.inr (by decide)) (by decide)]
      exact h.drafted _ (by decide)
    · exact isSome_references h
    · rw [htext .draftRuleIdsJson rfl (.inr (by decide)) (by decide)]
      exact h.drafted _ (by decide)
  · apply exists_critiqueRecord
    · rw [htext .criticReviewedAt rfl (.inr (by decide)) (by decide),
        htext .critiqueJson rfl (.inr (by decide)) (by decide)]
      exact h.reviewed
    · rw [htext .criticReviewedAt rfl (.inr (by decide)) (by decide),
        htext .critiqueJson rfl (.inr (by decide)) (by decide)]
      exact h.review_time

/-! ## Migrating twice -/

/-- The generations of a migrated row are already counted. -/
theorem countGeneration_migrated (h : ConsistentRow columns (visible columns cells)) :
    countGeneration (migrated columns cells) = migrated columns cells := by
  have hcomposition : migrated columns cells .compositionJson =
      visible columns cells .compositionJson :=
    migrated_eq_visible rfl (.inr (by decide)) (by decide)
  rw [countGeneration, if_neg]
  rintro ⟨hsome, hzero⟩
  rw [hcomposition] at hsome
  rw [migrated_generation h, if_pos hsome] at hzero
  exact absurd hzero (by decide)

theorem not_isLegacyDraft_migrated (h : ConsistentRow columns (visible columns cells)) :
    isLegacyDraft (migrated columns cells) = false := by
  have hgenerated : migrated columns cells .draftGeneratedAt =
      visible columns cells .draftGeneratedAt :=
    migrated_eq_visible rfl (.inr (by decide)) (by decide)
  rw [isLegacyDraft, hgenerated, ← isSome_references h]
  cases migrated columns cells .draftFactReferencesJson <;> rfl

/-! ## The table of contexts -/

/-- A table of contexts that an earlier version has left. -/
structure LegacySheet (sheet : ContextSheet) : Prop where
  request : requestJson ∈ sheet.columns
  analysis : analysisJson ∈ sheet.columns
  rows : ∀ runId cells, sheet.find runId = some cells →
    ConsistentRow sheet.columns (visible sheet.columns cells)

theorem legacySheet_empty : LegacySheet (.empty all) where
  request := by decide
  analysis := by decide
  rows := by
    intro runId cells hfind
    rw [Sheet.find_empty] at hfind
    cases hfind

variable {sheet : ContextSheet}

/-- The table to whose drafts the loop gives their references. -/
def counted (sheet : ContextSheet) : ContextSheet :=
  (sheet.addColumns defaults added).update fun _ => countGeneration

theorem mem_columns_counted (h : LegacySheet sheet) (column : ContextColumn) :
    column ∈ (counted sheet).columns := by
  rw [counted, Sheet.columns_update, Sheet.mem_columns_addColumns]
  cases column
  case requestJson => exact .inl h.request
  case analysisJson => exact .inl h.analysis
  all_goals exact .inr (by decide)

theorem find_counted (runId : UUID) :
    (counted sheet).find runId = (sheet.find runId).map fun cells =>
      countGeneration (Sheet.fill sheet.columns defaults added cells) := by
  rw [counted, Sheet.find_update, Sheet.find_addColumns, Option.map_map]
  rfl

/-- The loop meets no draft without a Brand Lock. -/
theorem locked_of_mem (h : LegacySheet sheet) {draft : UUID × ContextCells}
    (hdraft : draft ∈ (counted sheet).rows.filter fun row => isLegacyDraft row.2) :
    (draft.2 .confirmedBrandLockJson).isSome = true := by
  obtain ⟨hmem, hlegacy⟩ := List.mem_filter.mp hdraft
  have hfind := Sheet.find_of_mem hmem
  rw [find_counted] at hfind
  obtain ⟨cells, hcells, hdraft⟩ := Option.map_eq_some_iff.mp hfind
  have hvisible : ∀ column, column ≠ initialGenerationCount → defaults column = none →
      column ∈ added → draft.2 column = visible sheet.columns cells column := by
    intro column hcount hdefault hadded
    rw [← hdraft, countGeneration_of_ne hcount, fill_eq_visible hdefault (.inr hadded)]
  rw [hvisible _ (by decide) rfl (by decide)]
  apply (h.rows _ _ hcells).locked
  rw [← hvisible _ (by decide) rfl (by decide)]
  exact (Bool.and_eq_true_iff.mp hlegacy).1

/-- The loop migrates every row. -/
theorem exists_backfill (h : LegacySheet sheet) :
    ∃ final, backfill (counted sheet)
        ((counted sheet).rows.filter fun row => isLegacyDraft row.2) = .ok final ∧
      (∀ column, column ∈ final.columns) ∧
      ∀ runId, final.find runId = (sheet.find runId).map (migrated sheet.columns) := by
  have hunique :
      (((counted sheet).rows.filter fun row => isLegacyDraft row.2).map Prod.fst).Nodup :=
    (counted sheet).keys_unique.sublist (List.filter_sublist.map _)
  refine ⟨_, backfill_eq_ok (fun draft hdraft => locked_of_mem h hdraft) hunique _, ?_, ?_⟩
  · intro column
    rw [Sheet.columns_update]
    exact mem_columns_counted h column
  intro runId
  rw [Sheet.find_update, Sheet.lookup_filter, find_counted, Option.map_map]
  cases hfind : sheet.find runId with
  | none => rfl
  | some cells =>
      rw [Option.map_some, Option.map_some, Option.map_some, migrated]
      congr 1
      by_cases hlegacy : isLegacyDraft
          (countGeneration (Sheet.fill sheet.columns defaults added cells)) = true
      · rw [if_pos hlegacy, Function.comp_apply, Option.filter_some_pos hlegacy]
      · rw [if_neg hlegacy, Function.comp_apply,
          Option.filter_some_neg (Bool.eq_false_iff.mpr hlegacy)]

/-- No row is left to migrate. -/
theorem backfill_migrated {final : ContextSheet} (h : LegacySheet sheet)
    (hcolumns : ∀ column, column ∈ final.columns)
    (hfind : ∀ runId, final.find runId = (sheet.find runId).map (migrated sheet.columns)) :
    counted final = final ∧ (final.rows.filter fun row => isLegacyDraft row.2) = [] := by
  have hrow : ∀ row ∈ final.rows, ∃ cells, row.2 = migrated sheet.columns cells ∧
      ConsistentRow sheet.columns (visible sheet.columns cells) := by
    intro row hmem
    have hstored := Sheet.find_of_mem hmem
    rw [hfind] at hstored
    obtain ⟨cells, hcells, heq⟩ := Option.map_eq_some_iff.mp hstored
    exact ⟨cells, heq.symm, h.rows _ _ hcells⟩
  constructor
  · rw [counted, Sheet.addColumns_of_subset fun column _ => hcolumns column]
    apply Sheet.update_eq_self
    intro row hmem
    obtain ⟨cells, heq, hconsistent⟩ := hrow row hmem
    rw [heq]
    exact countGeneration_migrated hconsistent
  · rw [List.filter_eq_nil_iff]
    intro row hmem
    obtain ⟨cells, heq, hconsistent⟩ := hrow row hmem
    rw [heq, not_isLegacyDraft_migrated hconsistent]
    decide

/-! ## The database in the file -/

variable {file final : DatabaseFile}

/-- A run that an earlier version has left. -/
def ValidRun (row : RunRow) : Prop :=
  row.createdAt ≤ row.updatedAt ∧ ∃ codes, row.warningCodes = .dump codes ∧ ValidWarningCodes codes

/-- A file that an earlier version has left: it may lack any of the tables, and its table of
contexts any of the columns that have been added since. -/
structure Legacy (file : DatabaseFile) : Prop where
  runs : ∀ table, file.runs = some table →
    ∀ runId row, table.find runId = some row → ValidRun row
  contexts : ∀ sheet, file.contexts = some sheet → LegacySheet sheet

/-- The contexts of the file, if it has a table of them. -/
def oldContexts (file : DatabaseFile) : ContextSheet := file.contexts.getD (.empty all)

theorem Legacy.oldContexts (h : Legacy file) : LegacySheet file.oldContexts := by
  rw [DatabaseFile.oldContexts]
  cases hcontexts : file.contexts with
  | none => exact legacySheet_empty
  | some sheet => exact h.contexts sheet hcontexts

/-- What was stored is still stored, and there are no other rows. -/
structure Preserves (file final : DatabaseFile) : Prop where
  runs : final.runs = some (file.runs.getD Table.empty)
  revisions : final.revisions = some (file.revisions.getD Table.empty)
  operations : final.operations = some (file.operations.getD OperationTable.empty)
  contexts : ∃ sheet, final.contexts = some sheet ∧ ∀ runId,
    (file.oldContexts.find runId = none → sheet.find runId = none) ∧
    ∀ cells, file.oldContexts.find runId = some cells →
      ∃ migrated, sheet.find runId = some migrated ∧
        ∀ column ∈ file.oldContexts.columns, migrated column = cells column

/-- Every query succeeds on the row of the run in `project_run_contexts`. -/
structure Answers (db : Database) (runId : UUID) : Prop where
  request : ∃ request, db.getRequest runId = .ok request
  analysis : ∃ analysis, db.getAnalysis runId = .ok analysis
  repairAttempted : ∃ attempted, db.getRepairAttempted runId = .ok attempted
  confirmedBrandLock : ∃ confirmation, db.getConfirmedBrandLock runId = .ok confirmation
  draft : ∃ draft, db.getDraft runId = .ok draft
  composition : ∃ composition, db.getComposition runId = .ok composition
  critique : ∃ critique, db.getCritique runId = .ok critique

/-- Every query succeeds on every row. -/
structure Readable (db : Database) : Prop where
  runs : ∀ runId row, db.runs.find runId = some row → ∃ run, db.get runId = .ok run
  contexts : ∀ runId row, db.contexts.find runId = some row → Answers db runId
  revisions : ∀ runId, ∃ revision, db.getRevision runId = .ok revision
  operations : ∀ row ∈ db.operations.rows, ∃ record, operationRecord row = .ok record

/-- A draft that had no references has the facts of the Brand Lock that was confirmed. -/
def Backfilled (file : DatabaseFile) (db : Database) : Prop :=
  ∀ runId draft,
    (∀ cells, file.oldContexts.find runId = some cells →
      visible file.oldContexts.columns cells .draftFactReferencesJson = none) →
    db.getDraft runId = .ok (some draft) →
    ∃ confirmation, db.getConfirmedBrandLock runId = .ok (some confirmation) ∧
      draft.factReferences = confirmation.brandLock.facts

/-- The initial generation is counted once, in the rows that have a composition. -/
def Counted (db : Database) : Prop :=
  ∀ runId row, db.contexts.find runId = some row →
    row.initialGenerationCount = if row.composition.isSome then 1 else 0

/-- The cells of a row that the queries have read. -/
theorem contextRow?_eq_some {row : ContextRow} (h : contextRow? cells = some row) :
    cells .confirmedBrandLockJson = row.confirmedBrandLock ∧
      cells .draftFactReferencesJson = row.draftFactReferences ∧
      cells .compositionJson = row.composition ∧
      cells .initialGenerationCount = some row.initialGenerationCount := by
  unfold contextRow? at h
  obtain ⟨request, -, h⟩ := Option.bind_eq_some_iff.mp h
  obtain ⟨attempts, -, h⟩ := Option.bind_eq_some_iff.mp h
  obtain ⟨count, hcount, h⟩ := Option.bind_eq_some_iff.mp h
  obtain ⟨revisions, -, h⟩ := Option.bind_eq_some_iff.mp h
  obtain ⟨technical, -, h⟩ := Option.bind_eq_some_iff.mp h
  obtain rfl := Option.some.inj h
  exact ⟨rfl, rfl, rfl, hcount⟩

/-- The contexts as the queries find them. -/
def typedContexts (sheet : ContextSheet) : Table UUID ContextRow :=
  fun runId => (sheet.find runId).bind contextRow?

theorem answers_of_readableRow {db : Database} {runId : UUID} {row : ContextRow}
    (hfind : db.contexts.find runId = some row) (h : ReadableRow row) : Answers db runId := by
  have hrow : db.contextOf runId = .ok row := by
    rw [Database.contextOf, hfind, orRaise_some]
  constructor
  · simp only [Database.getRequest, hrow, ok_bind]
    exact exists_load row.request
  · simp only [Database.getAnalysis, hrow, ok_bind]
    exact exists_loadOption row.analysis
  · refine ⟨row.repairAttempted == 1, ?_⟩
    rw [Database.getRepairAttempted, hrow, ok_bind, require_of _ h.repaired]
    rfl
  · obtain ⟨record, hrecord, -⟩ := h.confirmed
    exact ⟨record, by rw [Database.getConfirmedBrandLock, hrow, ok_bind, hrecord]⟩
  · obtain ⟨record, hrecord, -⟩ := h.drafted
    exact ⟨record, by rw [Database.getDraft, hrow, ok_bind, hrecord]⟩
  · simp only [Database.getComposition, hrow, ok_bind]
    exact exists_loadOption row.composition
  · obtain ⟨record, hrecord⟩ := h.reviewed
    exact ⟨record, by rw [Database.getCritique, hrow, ok_bind, hrecord]⟩

theorem exists_revisionRecord (runId : UUID) (row : RevisionRow) :
    ∃ record, revisionRecord runId row = .ok record := by
  obtain ⟨changes, hchanges⟩ := exists_load row.requestedChanges
  obtain ⟨brief, hbrief⟩ := exists_load row.creativeBrief
  obtain ⟨adCopy, hcopy⟩ := exists_load row.adCopy
  obtain ⟨references, hreferences⟩ := exists_load row.factReferences
  obtain ⟨rules, hrules⟩ := exists_load row.ruleIds
  obtain ⟨composition, hcomposition⟩ := exists_load row.composition
  obtain ⟨critique, hcritique⟩ := exists_load row.critique
  simp only [revisionRecord, hchanges, hbrief, hcopy, hreferences, hrules, hcomposition, hcritique,
    ok_bind]
  exact ⟨_, rfl⟩

/-- Every row that the queries find comes from a row of the old table. -/
theorem exists_old_row {final : ContextSheet} (h : LegacySheet sheet)
    (hfind : ∀ runId, final.find runId = (sheet.find runId).map (migrated sheet.columns))
    {runId : UUID} {row : ContextRow} (hrow : (typedContexts final).find runId = some row) :
    ∃ cells, sheet.find runId = some cells ∧
      ConsistentRow sheet.columns (visible sheet.columns cells) ∧
      contextRow? (migrated sheet.columns cells) = some row ∧ ReadableRow row := by
  have hbind : (final.find runId).bind contextRow? = some row := hrow
  rw [hfind] at hbind
  obtain ⟨_, hmigrated, hread⟩ := Option.bind_eq_some_iff.mp hbind
  obtain ⟨cells, hcells, rfl⟩ := Option.map_eq_some_iff.mp hmigrated
  have hconsistent := h.rows _ _ hcells
  obtain ⟨row', hread', hreadable⟩ := contextRow?_migrated hconsistent h.request
  obtain rfl := Option.some.inj (hread.symm.trans hread')
  exact ⟨cells, hcells, hconsistent, hread, hreadable⟩

/-- The queries find every row of the old table. -/
theorem map_contextRow? {final : ContextSheet} (h : LegacySheet sheet)
    (hfind : ∀ runId, final.find runId = (sheet.find runId).map (migrated sheet.columns))
    (runId : UUID) :
    (final.find runId).map contextRow? = ((typedContexts final).find runId).map some := by
  show _ = ((final.find runId).bind contextRow?).map some
  rw [hfind]
  cases hcells : sheet.find runId with
  | none => rfl
  | some cells =>
      obtain ⟨row, hread, -⟩ := contextRow?_migrated (h.rows _ _ hcells) h.request
      rw [Option.map_some, Option.map_some, Option.bind_some, hread]
      rfl

section Migrated

variable {db : Database} {final : ContextSheet}

theorem readable_of_migrated (h : LegacySheet sheet)
    (hfind : ∀ runId, final.find runId = (sheet.find runId).map (migrated sheet.columns))
    (hcontexts : db.contexts = typedContexts final)
    (hruns : ∀ runId row, db.runs.find runId = some row → ValidRun row) : Readable db where
  runs := by
    intro runId row hrow
    obtain ⟨hupdated, codes, hcodes, hvalid⟩ := hruns runId row hrow
    have hcounts : ((db.contexts.find runId).map ContextRow.initialGenerationCount).getD 0 ≤ 1 ∧
        ((db.contexts.find runId).map ContextRow.humanRevisionCount).getD 0 ≤ 1 := by
      cases hcontext : db.contexts.find runId with
      | none => exact ⟨Nat.zero_le _, Nat.zero_le _⟩
      | some context =>
          rw [hcontexts] at hcontext
          obtain ⟨_, _, _, _, hreadable⟩ := exists_old_row h hfind hcontext
          exact hreadable.counts
    simp only [Database.get, hrow, orRaise_some, ok_bind, hcodes, load_dump]
    exact ⟨_, dif_pos ⟨hvalid, hcounts, hupdated⟩⟩
  contexts := by
    intro runId row hrow
    have hold := hrow
    rw [hcontexts] at hold
    obtain ⟨_, _, _, _, hreadable⟩ := exists_old_row h hfind hold
    exact answers_of_readableRow hrow hreadable
  revisions := by
    intro runId
    rw [Database.getRevision]
    cases db.revisions.find runId with
    | none => exact ⟨none, rfl⟩
    | some row =>
        obtain ⟨record, hrecord⟩ := exists_revisionRecord runId row
        exact ⟨some record, congrArg (Except.map some) hrecord⟩
  operations := fun row _ => exists_operationRecord row

theorem counted_of_migrated (h : LegacySheet sheet)
    (hfind : ∀ runId, final.find runId = (sheet.find runId).map (migrated sheet.columns))
    (hcontexts : db.contexts = typedContexts final) : Counted db := by
  intro runId row hrow
  rw [hcontexts] at hrow
  obtain ⟨cells, -, hconsistent, hread, -⟩ := exists_old_row h hfind hrow
  obtain ⟨-, -, hcomposition, hcount⟩ := contextRow?_eq_some hread
  have hvisible : migrated sheet.columns cells .compositionJson =
      visible sheet.columns cells .compositionJson :=
    migrated_eq_visible rfl (.inr (by decide)) (by decide)
  rw [migrated_generation hconsistent, ← hvisible, hcomposition] at hcount
  exact (Option.some.inj hcount).symm

theorem backfilled_of_migrated {file : DatabaseFile} (h : LegacySheet file.oldContexts)
    (hfind : ∀ runId, final.find runId =
      (file.oldContexts.find runId).map (migrated file.oldContexts.columns))
    (hcontexts : db.contexts = typedContexts final) : Backfilled file db := by
  intro runId draft hnone hdraft
  obtain ⟨row, hrow, hdraft⟩ := bind_eq_ok.mp hdraft
  have hstored : db.contexts.find runId = some row := orRaise_eq_ok.mp hrow
  have hold := hstored
  rw [hcontexts] at hold
  obtain ⟨cells, hcells, hconsistent, hread, hreadable⟩ := exists_old_row h hfind hold
  obtain ⟨hlock, hreferences, -, -⟩ := contextRow?_eq_some hread
  -- The draft has references now and had none.
  obtain ⟨record, hrecord, hdumped⟩ := hreadable.drafted
  obtain rfl := Except.ok.inj (hrecord.symm.trans hdraft)
  rw [Option.map_some] at hdumped
  have hsome := isSome_references hconsistent
  rw [hreferences, hdumped, Option.isSome_some] at hsome
  have hlegacy : isLegacyDraft (visible file.oldContexts.columns cells) = true := by
    rw [isLegacyDraft, ← hsome, hnone cells hcells]
    rfl
  -- They are the facts of the Brand Lock, which is stored as it was.
  obtain ⟨lock, hvisible⟩ := exists_lock (hconsistent.locked hsome.symm)
  rw [migrated_references, if_pos hlegacy, referencesOf_of_some hvisible, hdumped] at hreferences
  have hfacts := Column.dump_inj.mp (Option.some.inj hreferences)
  have hkept : migrated file.oldContexts.columns cells .confirmedBrandLockJson =
      visible file.oldContexts.columns cells .confirmedBrandLockJson :=
    migrated_eq_visible rfl (.inr (by decide)) (by decide)
  rw [hkept, hvisible] at hlock
  obtain ⟨confirmation, hconfirmation, hconfirmed⟩ := hreadable.confirmed
  rw [← hlock] at hconfirmed
  cases confirmation with
  | none => cases hconfirmed
  | some confirmation =>
      have hsame := Column.dump_inj.mp (Option.some.inj hconfirmed)
      refine ⟨confirmation, ?_, ?_⟩
      · rw [Database.getConfirmedBrandLock, Database.contextOf, hstored, orRaise_some, ok_bind,
          hconfirmation]
      · rw [← hsame, hfacts]

end Migrated

/-- A file that an earlier version has left is migrated without loss, and only once. -/
theorem initializeTables_migrates (file : DatabaseFile) (h : Legacy file) :
    ∃ final db, initializeTables file = .ok final ∧ final.Holds db ∧ Preserves file final ∧
      Readable db ∧ Backfilled file db ∧ Counted db ∧ initializeTables final = .ok final := by
  have hold := h.oldContexts
  obtain ⟨sheet, hbackfill, hcolumns, hfind⟩ := exists_backfill hold
  obtain ⟨hcounted, hdrafts⟩ := backfill_migrated hold hcolumns hfind
  let final : DatabaseFile :=
    { runs := some (file.runs.getD Table.empty)
      contexts := some sheet
      revisions := some (file.revisions.getD Table.empty)
      operations := some (file.operations.getD OperationTable.empty) }
  let db : Database :=
    { runs := file.runs.getD Table.empty
      contexts := typedContexts sheet
      revisions := file.revisions.getD Table.empty
      operations := file.operations.getD OperationTable.empty }
  have hruns : ∀ runId row, db.runs.find runId = some row → ValidRun row := by
    intro runId row hrow
    cases htable : file.runs with
    | none =>
        have hempty : db.runs = Table.empty := by
          show file.runs.getD Table.empty = _
          rw [htable, Option.getD_none]
        rw [hempty, Table.find_empty] at hrow
        cases hrow
    | some table =>
        have hsame : db.runs = table := by
          show file.runs.getD Table.empty = _
          rw [htable, Option.getD_some]
        rw [hsame] at hrow
        exact h.runs table htable runId row hrow
  refine ⟨final, db, ?_, ?_, ?_, ?_, ?_, ?_, ?_⟩
  · exact bind_eq_ok.mpr ⟨sheet, hbackfill, rfl⟩
  · exact ⟨rfl, rfl, rfl, sheet, rfl, hcolumns, map_contextRow? hold hfind⟩
  · refine ⟨rfl, rfl, rfl, sheet, rfl, ?_⟩
    intro runId
    constructor
    · intro hnone
      rw [hfind, hnone, Option.map_none]
    · intro cells hcells
      refine ⟨migrated file.oldContexts.columns cells, ?_, ?_⟩
      · rw [hfind, hcells, Option.map_some]
      · exact fun column hcolumn => migrated_kept (hold.rows _ _ hcells) hcolumn
  · exact readable_of_migrated hold hfind rfl hruns
  · exact backfilled_of_migrated hold hfind rfl
  · exact counted_of_migrated hold hfind rfl
  · have hagain : backfill (counted sheet)
        ((counted sheet).rows.filter fun row => isLegacyDraft row.2) = .ok sheet := by
      rw [hcounted, hdrafts, backfill]
    exact bind_eq_ok.mpr ⟨sheet, hagain, rfl⟩

end DatabaseFile

/-! ## A file with a draft that has no references -/

namespace Demo

open DatabaseFile ContextColumn

def draftColumns : List ContextColumn :=
  [requestJson, analysisJson, repairAttempted, confirmedBrandLockJson, brandLockConfirmedAt,
    creativeBriefJson, adCopyJson, draftRuleIdsJson, draftGeneratedAt]

def draftedCells : ContextCells :=
  let artifacts := fixtureDraft (analysis [] noWarnings) lock .chinaToUk
  fun
    | requestJson => some (Column.dump runCreate)
    | analysisJson => some (Column.dump (analysis [] noWarnings))
    | repairAttempted => some (0 : Nat)
    | confirmedBrandLockJson => some (Column.dump lock)
    | brandLockConfirmedAt => some now
    | creativeBriefJson => some (Column.dump artifacts.brief)
    | adCopyJson => some (Column.dump artifacts.adCopy)
    | draftRuleIdsJson => some (Column.dump artifacts.ruleIds)
    | draftGeneratedAt => some now
    | _ => none

def draftedFile : DatabaseFile where
  runs := some (Table.empty.set assetId ⟨.chinaToUk, .inProgress, .dump [], now, now⟩)
  contexts := some ⟨draftColumns, [(assetId, draftedCells)], List.nodup_singleton _⟩
  revisions := none
  operations := none

theorem consistentRow_draftedCells :
    ConsistentRow draftColumns (visible draftColumns draftedCells) where
  request := rfl
  counted := by decide
  repaired := by
    rintro attempts ⟨⟩
    decide
  generated := by
    rintro count ⟨⟩
  revised := by
    rintro count ⟨⟩
  confirmed := rfl
  drafted := by decide
  locked := fun _ => rfl
  referenced := by decide
  reviewed := rfl
  review_time := by
    rintro report reviewedAt ⟨⟩

theorem legacy_draftedFile : Legacy draftedFile where
  runs := by
    rintro table ⟨⟩ runId row hrow
    by_cases hrun : runId = assetId
    · subst hrun
      rw [Table.find_set_self] at hrow
      cases hrow
      exact ⟨le_refl now, [], rfl, by decide⟩
    · rw [Table.find_set_ne _ _ hrun, Table.find_empty] at hrow
      cases hrow
  contexts := by
    rintro sheet ⟨⟩
    refine ⟨by decide, by decide, ?_⟩
    intro runId cells hfind
    have hmem := Sheet.mem_of_find hfind
    obtain ⟨rfl, rfl⟩ := Prod.mk.inj (List.mem_singleton.mp hmem)
    exact consistentRow_draftedCells

theorem initializeTables_draftedFile :
    ∃ final db, initializeTables draftedFile = .ok final ∧ final.Holds db ∧
      Preserves draftedFile final ∧ Readable db ∧ Backfilled draftedFile db ∧ Counted db ∧
      initializeTables final = .ok final :=
  initializeTables_migrates draftedFile legacy_draftedFile

end Demo

end CultureShift
