/-
# Evidence is written once

What a run has stored as evidence: its request, analysis, confirmed Brand Lock,
draft, composition, critique and revision. Every transaction but one looks
before it writes; completing an analysis does not.
-/

import CultureShift.Lifecycle.Demo
import CultureShift.Repository.Calls

namespace CultureShift

open Serialization Relational Concurrent

variable {κ α : Type}

/-! ## Evidence that is kept -/

/-- What was stored is still stored. -/
def Persists (old new : Option α) : Prop := ∀ value, old = some value → new = some value

theorem persists_refl (old : Option α) : Persists old old := fun _ h => h

theorem persists_of_isNone {old new : Option α} (h : old.isNone = true) : Persists old new := by
  intro value hvalue
  rw [hvalue] at h
  cases h

/-- One row of evidence, before and after. -/
structure ContextRow.EvidenceKept (row row' : ContextRow) : Prop where
  request : row'.request = row.request
  analysis : Persists row.analysis row'.analysis
  confirmedBrandLock : Persists row.confirmedBrandLock row'.confirmedBrandLock
  brandLockConfirmedAt : Persists row.brandLockConfirmedAt row'.brandLockConfirmedAt
  creativeBrief : Persists row.creativeBrief row'.creativeBrief
  adCopy : Persists row.adCopy row'.adCopy
  draftFactReferences : Persists row.draftFactReferences row'.draftFactReferences
  draftRuleIds : Persists row.draftRuleIds row'.draftRuleIds
  draftGeneratedAt : Persists row.draftGeneratedAt row'.draftGeneratedAt
  composition : Persists row.composition row'.composition
  critique : Persists row.critique row'.critique
  criticReviewedAt : Persists row.criticReviewedAt row'.criticReviewedAt

theorem ContextRow.evidenceKept_refl (row : ContextRow) : row.EvidenceKept row :=
  ⟨rfl, persists_refl _, persists_refl _, persists_refl _, persists_refl _, persists_refl _,
    persists_refl _, persists_refl _, persists_refl _, persists_refl _, persists_refl _,
    persists_refl _⟩

theorem ContextRow.EvidenceKept.trans {first second third : ContextRow}
    (h : first.EvidenceKept second) (h' : second.EvidenceKept third) :
    first.EvidenceKept third where
  request := h'.request.trans h.request
  analysis := fun _ hvalue => h'.analysis _ (h.analysis _ hvalue)
  confirmedBrandLock := fun _ hvalue => h'.confirmedBrandLock _ (h.confirmedBrandLock _ hvalue)
  brandLockConfirmedAt := fun _ hvalue =>
    h'.brandLockConfirmedAt _ (h.brandLockConfirmedAt _ hvalue)
  creativeBrief := fun _ hvalue => h'.creativeBrief _ (h.creativeBrief _ hvalue)
  adCopy := fun _ hvalue => h'.adCopy _ (h.adCopy _ hvalue)
  draftFactReferences := fun _ hvalue => h'.draftFactReferences _ (h.draftFactReferences _ hvalue)
  draftRuleIds := fun _ hvalue => h'.draftRuleIds _ (h.draftRuleIds _ hvalue)
  draftGeneratedAt := fun _ hvalue => h'.draftGeneratedAt _ (h.draftGeneratedAt _ hvalue)
  composition := fun _ hvalue => h'.composition _ (h.composition _ hvalue)
  critique := fun _ hvalue => h'.critique _ (h.critique _ hvalue)
  criticReviewedAt := fun _ hvalue => h'.criticReviewedAt _ (h.criticReviewedAt _ hvalue)

namespace Database

/-- The evidence of every run is still what it was. -/
structure EvidenceKept (db db' : Database) : Prop where
  contexts : ∀ runId row, db.contexts.find runId = some row →
    ∃ row', db'.contexts.find runId = some row' ∧ row.EvidenceKept row'
  revisions : ∀ runId row, db.revisions.find runId = some row →
    db'.revisions.find runId = some row

variable {db db' : Database} {runId : UUID}

theorem evidenceKept_of_eq (hcontexts : db'.contexts = db.contexts)
    (hrevisions : db'.revisions = db.revisions) : db.EvidenceKept db' where
  contexts runId row hrow := ⟨row, by rw [hcontexts, hrow], row.evidenceKept_refl⟩
  revisions runId row hrow := by rw [hrevisions, hrow]

theorem evidenceKept_refl (db : Database) : db.EvidenceKept db := evidenceKept_of_eq rfl rfl

theorem EvidenceKept.trans {third : Database} (h : db.EvidenceKept db')
    (h' : db'.EvidenceKept third) : db.EvidenceKept third where
  contexts runId row hrow := by
    obtain ⟨row', hrow', hkept⟩ := h.contexts runId row hrow
    obtain ⟨row'', hrow'', hkept'⟩ := h'.contexts runId row' hrow'
    exact ⟨row'', hrow'', hkept.trans hkept'⟩
  revisions runId row hrow := h'.revisions runId row (h.revisions runId row hrow)

/-- An update keeps the evidence when it keeps that of the row it meets. -/
theorem contexts_kept_of_updateWhere {contexts contexts' : Table UUID ContextRow}
    {condition : ContextRow → Bool} {change : ContextRow → ContextRow}
    (hupdate : contexts.updateWhere runId condition change = some contexts')
    (hchange : ∀ row, contexts.find runId = some row → condition row = true →
      row.EvidenceKept (change row)) (other : UUID) (row : ContextRow)
    (hrow : contexts.find other = some row) :
    ∃ row', contexts'.find other = some row' ∧ row.EvidenceKept row' := by
  obtain ⟨found, hfound, hcondition, rfl⟩ := Table.updateWhere_eq_some hupdate
  by_cases hother : other = runId
  · subst hother
    obtain rfl := Option.some.inj (hrow.symm.trans hfound)
    exact ⟨_, Table.find_set_self _ _ _, hchange row hfound hcondition⟩
  · exact ⟨row, (Table.find_set_ne _ _ hother).trans hrow, row.evidenceKept_refl⟩

/-- So does an update that says nothing when it meets no row. -/
theorem contexts_kept_of_update {contexts : Table UUID ContextRow}
    {change : ContextRow → ContextRow} (hchange : ∀ row : ContextRow, row.EvidenceKept (change row))
    (other : UUID) (row : ContextRow) (hrow : contexts.find other = some row) :
    ∃ row', (contexts.update runId change).find other = some row' ∧ row.EvidenceKept row' := by
  by_cases hother : other = runId
  · subst hother
    rw [Table.update_of_some hrow]
    exact ⟨_, Table.find_set_self _ _ _, hchange row⟩
  · exact ⟨row, (Table.find_update_ne _ _ hother).trans hrow, row.evidenceKept_refl⟩

/-! ## The transactions that keep it -/

theorem create_keeps {run : ProjectRun} {request : Option RunCreate} {done : Unit}
    (h : db.create run request = .ok (done, db')) : db.EvidenceKept db' := by
  simp only [create, bind_eq_ok, orRaise_eq_ok] at h
  obtain ⟨runs, -, h⟩ := h
  cases request with
  | none =>
      cases h
      exact evidenceKept_of_eq rfl rfl
  | some request =>
      simp only [bind_eq_ok, orRaise_eq_ok] at h
      obtain ⟨-, -, contexts, hcontexts, hvalue⟩ := h
      cases hvalue
      constructor
      · intro runId row hrow
        exact ⟨row, Table.find_of_insert hcontexts hrow, row.evidenceKept_refl⟩
      · intro runId row hrow
        exact hrow

/-- A transaction that only writes the status of a run. -/
theorem runs_keep {runs : Option (Table UUID RunRow)} {error : Exc} {done : Unit}
    (h : (do
      let runs ← orRaise runs error
      return ((), { db with runs })) = Except.ok (done, db')) : db.EvidenceKept db' := by
  simp only [bind_eq_ok] at h
  obtain ⟨runs, -, hvalue⟩ := h
  cases hvalue
  exact evidenceKept_of_eq rfl rfl

theorem claimAnalysis_keeps {claimedAt : Datetime} {claimed : Bool}
    (h : db.claimAnalysis runId claimedAt = .ok (claimed, db')) : db.EvidenceKept db' := by
  unfold claimAnalysis at h
  split at h
  · cases h
    exact evidenceKept_of_eq rfl rfl
  · cases h
    exact evidenceKept_refl db

theorem confirmBrandLock_keeps {proposed : BrandLock} {confirmedAt : Datetime}
    {record : BrandLockConfirmationRecord}
    (h : db.confirmBrandLock runId proposed confirmedAt = .ok (record, db')) :
    db.EvidenceKept db' := by
  simp only [confirmBrandLock, bind_eq_ok] at h
  obtain ⟨⟨row, context⟩, hjoined, existing, hexisting, h⟩ := h
  cases existing with
  | some existing =>
      simp only [bind_eq_ok] at h
      obtain ⟨-, -, hvalue⟩ := h
      cases hvalue
      exact evidenceKept_refl db
  | none =>
      simp only [bind_eq_ok, orRaise_eq_ok] at h
      obtain ⟨-, -, -, -, encoded, -, analysis, -, validated, -, contexts, hcontexts, runs, -,
        hvalue⟩ := h
      cases hvalue
      refine ⟨contexts_kept_of_updateWhere hcontexts ?_, fun _ _ hrow => hrow⟩
      intro found hfound hnone
      -- Without a confirmed lock there is no time of confirmation either.
      have hcontext : context = some found := by
        simp only [joined, bind_eq_ok] at hjoined
        obtain ⟨_, -, hvalue⟩ := hjoined
        cases hvalue
        exact hfound
      subst hcontext
      have htime : found.brandLockConfirmedAt.isNone = true := by
        cases hlock : found.confirmedBrandLock with
        | some _ => simp [hlock] at hnone
        | none =>
            cases htime : found.brandLockConfirmedAt with
            | none => rfl
            | some _ => simp [confirmationRecord, hlock, htime] at hexisting
      exact { found.evidenceKept_refl with
        confirmedBrandLock := persists_of_isNone hnone
        brandLockConfirmedAt := persists_of_isNone htime }

theorem saveDraft_keeps {draft record : DraftRecord}
    (h : db.saveDraft runId draft = .ok (record, db')) : db.EvidenceKept db' := by
  simp only [saveDraft, bind_eq_ok] at h
  obtain ⟨⟨row, context⟩, -, existing, -, h⟩ := h
  cases existing with
  | some existing =>
      simp only [bind_eq_ok] at h
      obtain ⟨-, -, hvalue⟩ := h
      cases hvalue
      exact evidenceKept_refl db
  | none =>
      simp only [bind_eq_ok, orRaise_eq_ok] at h
      obtain ⟨-, -, encoded, -, confirmed, -, -, -, -, -, contexts, hcontexts, hvalue⟩ := h
      cases hvalue
      refine ⟨contexts_kept_of_updateWhere hcontexts ?_, fun _ _ hrow => hrow⟩
      intro found _ hnone
      simp only [Bool.and_eq_true] at hnone
      obtain ⟨⟨⟨⟨hbrief, hcopy⟩, hfacts⟩, hrules⟩, htime⟩ := hnone
      exact { found.evidenceKept_refl with
        creativeBrief := persists_of_isNone hbrief
        adCopy := persists_of_isNone hcopy
        draftFactReferences := persists_of_isNone hfacts
        draftRuleIds := persists_of_isNone hrules
        draftGeneratedAt := persists_of_isNone htime }

theorem saveComposition_keeps {composition saved : CompositionGenerated}
    (h : db.saveComposition runId composition = .ok (saved, db')) : db.EvidenceKept db' := by
  simp only [saveComposition, bind_eq_ok] at h
  obtain ⟨⟨row, context⟩, -, h⟩ := h
  dsimp only at h
  split at h
  · simp only [bind_eq_ok] at h
    obtain ⟨existing, -, -, -, hvalue⟩ := h
    cases hvalue
    exact evidenceKept_refl db
  · simp only [bind_eq_ok, orRaise_eq_ok] at h
    obtain ⟨-, -, encoded, -, -, -, confirmed, -, -, -, contexts, hcontexts, hvalue⟩ := h
    cases hvalue
    refine ⟨contexts_kept_of_updateWhere hcontexts ?_, fun _ _ hrow => hrow⟩
    intro found _ hnone
    simp only [Bool.and_eq_true] at hnone
    exact { found.evidenceKept_refl with composition := persists_of_isNone hnone.1 }

theorem saveCritique_keeps {report : CritiqueReport} {record : CritiqueRecord}
    (h : db.saveCritique runId report = .ok (record, db')) : db.EvidenceKept db' := by
  simp only [saveCritique, bind_eq_ok] at h
  obtain ⟨⟨row, context⟩, -, -, -, existing, -, h⟩ := h
  cases existing with
  | some existing =>
      simp only [bind_eq_ok] at h
      obtain ⟨-, -, hvalue⟩ := h
      cases hvalue
      exact evidenceKept_refl db
  | none =>
      simp only [bind_eq_ok, orRaise_eq_ok] at h
      obtain ⟨-, -, contexts, hcontexts, runs, -, hvalue⟩ := h
      cases hvalue
      refine ⟨contexts_kept_of_updateWhere hcontexts ?_, fun _ _ hrow => hrow⟩
      intro found _ hnone
      simp only [Bool.and_eq_true] at hnone
      exact { found.evidenceKept_refl with
        critique := persists_of_isNone hnone.1
        criticReviewedAt := persists_of_isNone hnone.2 }

/-- Completing an analysis replaces the stored one; that is harmless only where
it is the same. -/
theorem completeAnalysis_keeps {analysis : AdAnalysis} {repairAttempted : Bool}
    {status : ProjectRunStatus} {updatedAt : Datetime} {done : Unit}
    (h : db.completeAnalysis runId analysis repairAttempted status updatedAt = .ok (done, db'))
    (hsame : ∀ stored, db.getAnalysis runId = .ok (some stored) → stored = analysis) :
    db.EvidenceKept db' := by
  simp only [completeAnalysis, bind_eq_ok, orRaise_eq_ok] at h
  obtain ⟨contexts, hcontexts, runs, -, hvalue⟩ := h
  cases hvalue
  refine ⟨contexts_kept_of_updateWhere hcontexts ?_, fun _ _ hrow => hrow⟩
  intro found hfound _
  have hanalysis : Persists found.analysis (some (.dump analysis)) := by
    intro column hcolumn
    obtain ⟨stored, rfl⟩ := column.exists_dump
    have hstored : db.getAnalysis runId = .ok (some stored) := by
      simp [getAnalysis, contextOf, hfound, hcolumn, loadOption, Except.map]
    rw [hsame stored hstored]
  exact { found.evidenceKept_refl with analysis := hanalysis }

theorem incrementTechnicalAttempt_keeps {done : Unit}
    (h : db.incrementTechnicalAttempt runId = .ok (done, db')) : db.EvidenceKept db' := by
  simp only [incrementTechnicalAttempt, bind_eq_ok, orRaise_eq_ok] at h
  obtain ⟨contexts, hcontexts, hvalue⟩ := h
  cases hvalue
  refine ⟨contexts_kept_of_updateWhere hcontexts ?_, fun _ _ hrow => hrow⟩
  intro found _ _
  exact { found.evidenceKept_refl with }

theorem claimFeedbackOperation_keeps {keyDigest fingerprint feedbackDigest : String}
    {requestedChanges : List RevisionChange} {claimedAt : Datetime} {record : OperationRecord}
    (h : db.claimFeedbackOperation runId keyDigest fingerprint requestedChanges feedbackDigest
      claimedAt = .ok (record, db')) : db.EvidenceKept db' := by
  unfold claimFeedbackOperation at h
  split at h
  · simp only [bind_eq_ok] at h
    obtain ⟨_, -, hvalue⟩ := h
    cases hvalue
    exact evidenceKept_refl db
  · simp only [bind_eq_ok] at h
    obtain ⟨-, -, -, -, run, -, -, -, ⟨operations, row⟩, -, runs, -, _, -, hvalue⟩ := h
    cases hvalue
    exact evidenceKept_of_eq rfl rfl

theorem failRevisionOperation_keeps {operationId : Nat} {condition : RetryCondition}
    {action : RetryAction} {failedAt : Datetime} {record : OperationRecord}
    (h : db.failRevisionOperation runId operationId condition action failedAt =
      .ok (record, db')) : db.EvidenceKept db' := by
  simp only [failRevisionOperation, bind_eq_ok] at h
  obtain ⟨-, -, row, -, _, -, hvalue⟩ := h
  cases hvalue
  exact evidenceKept_of_eq rfl rfl

theorem claimRetryOperation_keeps {keyDigest fingerprint : String} {claimedAt : Datetime}
    {record : OperationRecord}
    (h : db.claimRetryOperation runId keyDigest fingerprint claimedAt = .ok (record, db')) :
    db.EvidenceKept db' := by
  unfold claimRetryOperation at h
  split at h
  · simp only [bind_eq_ok] at h
    obtain ⟨_, -, hvalue⟩ := h
    cases hvalue
    exact evidenceKept_refl db
  · simp only [bind_eq_ok] at h
    obtain ⟨run, -, -, -, source, -, sourceRecord, -, ⟨operations, row⟩, -, _, -, hvalue⟩ := h
    cases hvalue
    refine ⟨contexts_kept_of_update ?_, fun _ _ hrow => hrow⟩
    intro found
    exact { found.evidenceKept_refl with }

theorem completeRevision_keeps {operationId : Nat} {revision : RevisionRecord}
    {publicResponse : RevisionCompleted} {done : Unit}
    (h : db.completeRevision runId operationId revision publicResponse = .ok (done, db')) :
    db.EvidenceKept db' := by
  simp only [completeRevision, bind_eq_ok, orRaise_eq_ok] at h
  obtain ⟨operation, -, -, -, revisions, hrevisions, contexts, hcontexts, hvalue⟩ := h
  cases hvalue
  refine ⟨contexts_kept_of_updateWhere hcontexts ?_, fun _ _ hrow => ?_⟩
  · intro found _ _
    exact { found.evidenceKept_refl with }
  · exact Table.find_of_insert hrevisions hrow

end Database

/-! ## Calls -/

/-- The call would replace a stored analysis: the run has one and is in
progress, and the call brings another one for the same request. -/
def Call.Overwrites (db : Database) : Call → Prop
  | .completeAnalysis runId analysis _ => ∃ run request stored, db.get runId = .ok run ∧
      run.status = .inProgress ∧ db.getRequest runId = .ok request ∧
      (analysis.sourceAsset = request.sourceAsset ∧ analysis.brandLock = request.brandLock) ∧
      db.getAnalysis runId = .ok (some stored) ∧ stored ≠ analysis
  | _ => False

namespace Repository

variable (repository : Repository κ)

/-- Every call but one keeps the evidence in each of its transactions, whatever
the others do between them. -/
theorem perform_keeps (call : Call)
    (hcall : ∀ runId analysis repairAttempted,
      call ≠ .completeAnalysis runId analysis repairAttempted) :
    Does (fun _ => True) Database.EvidenceKept (fun _ => True) (repository.perform call) := by
  apply Program.meets_weaken (repository.perform_writes (fun _ => True) call)
  rintro world after _ (hsame | hwrites)
  · rw [hsame]
    exact Database.evidenceKept_refl _
  cases call with
  | completeAnalysis runId analysis repairAttempted => exact absurd rfl (hcall _ _ _)
  | create run request => exact Database.create_keeps hwrites
  | updateStatus runId status =>
      obtain ⟨earlier, current, updatedAt, -, -, -, hcommit⟩ := hwrites
      exact Database.runs_keep hcommit
  | claimAnalysis runId =>
      obtain ⟨claimedAt, claimed, hcommit⟩ := hwrites
      exact Database.claimAnalysis_keeps hcommit
  | recordFailure runId status code =>
      obtain ⟨earlier, current, codes, updatedAt, -, -, -, hcommit⟩ := hwrites
      exact Database.runs_keep hcommit
  | confirmBrandLock runId proposed confirmedAt =>
      obtain ⟨confirmedAt, record, hcommit⟩ := hwrites
      exact Database.confirmBrandLock_keeps hcommit
  | saveDraft runId brief adCopy factReferences ruleIds generatedAt =>
      obtain ⟨generatedAt, record, hcommit⟩ := hwrites
      exact Database.saveDraft_keeps hcommit
  | saveComposition runId composition =>
      obtain ⟨saved, hcommit⟩ := hwrites
      exact Database.saveComposition_keeps hcommit
  | saveCritique runId report =>
      obtain ⟨record, hcommit⟩ := hwrites
      exact Database.saveCritique_keeps hcommit
  | claimFeedbackOperation runId keyDigest fingerprint requestedChanges feedbackDigest claimedAt =>
      obtain ⟨record, hcommit⟩ := hwrites
      exact Database.claimFeedbackOperation_keeps hcommit
  | failRevisionOperation runId operationId condition action failedAt =>
      obtain ⟨record, hcommit⟩ := hwrites
      exact Database.failRevisionOperation_keeps hcommit
  | claimRetryOperation runId keyDigest fingerprint claimedAt =>
      obtain ⟨record, hcommit⟩ := hwrites
      exact Database.claimRetryOperation_keeps hcommit
  | completeRevision runId operationId revision publicResponse =>
      exact Database.completeRevision_keeps hwrites
  | incrementTechnicalAttempt runId => exact Database.incrementTechnicalAttempt_keeps hwrites

/-! ## Calls one after another -/

theorem completeAnalysis_kept {runId : UUID} {analysis : AdAnalysis} {repairAttempted : Bool}
    {world last : World κ} {outcome : Except Exc ProjectRun}
    (h : (repository.completeAnalysis runId analysis repairAttempted).Solo world outcome last)
    (hcall : ¬(Call.completeAnalysis runId analysis repairAttempted).Overwrites world.database) :
    world.database.EvidenceKept last.database := by
  -- Up to the write, and wherever the call raises, the database is as it was found.
  have hsame {later : World κ} (hlater : later.database = world.database) :
      world.database.EvidenceKept later.database := by
    rw [hlater]
    exact Database.evidenceKept_refl _
  rcases Program.solo_bind_iff.mp h with ⟨run, world₁, hget, hrest⟩ | ⟨_, hget, -⟩
  · obtain ⟨hworld₁, hrun⟩ := of_solo_query hget
    rcases Program.solo_bind_iff.mp hrest with
      ⟨request, world₂, hrequest, hrest'⟩ | ⟨_, hrequest, -⟩
    · obtain ⟨hworld₂, hstored⟩ := of_solo_query hrequest
      rw [hworld₁] at hworld₂ hstored
      rcases Program.solo_bind_iff.mp hrest' with ⟨_, world₃, hcheck, hmove⟩ | ⟨_, hcheck, -⟩
      · obtain ⟨hmatches, rfl⟩ := Program.solo_ofExcept_iff.mp hcheck
        rcases Program.solo_bind_iff.mp hmove with ⟨updated, world₄, hmoved, hlast⟩ | ⟨_, hmoved, -⟩
        · obtain ⟨hworld₄, hallowed⟩ := of_solo_withStatus hmoved
          rw [hworld₂] at hworld₄
          obtain ⟨-, -, hallowed⟩ := hallowed updated rfl
          have hprogress : run.status = .inProgress := by
            cases hstatus : run.status <;> simp [hstatus, allowedTransitions] at hallowed ⊢
          have hcommitted {done : Except Exc Unit}
              (hwrite : (repository.transaction (Database.completeAnalysis runId analysis
                repairAttempted updated.status updated.updatedAt)).Solo world₄ done last) :
              world.database.EvidenceKept last.database := by
            rcases of_solo_transaction hwrite with ⟨_, hcommit, -⟩ | ⟨hfailed, -⟩
            · rw [hworld₄] at hcommit
              apply Database.completeAnalysis_keeps hcommit
              intro stored hanalysis
              by_contra hne
              exact hcall ⟨run, request, stored, hrun run rfl, hprogress, hstored request rfl,
                require_eq_ok.mp hmatches.symm, hanalysis, hne⟩
            · exact hsame (hfailed.trans hworld₄)
          rcases Program.solo_bind_iff.mp hlast with ⟨_, _, hwrite, hdone⟩ | ⟨_, hwrite, -⟩
          · cases hdone
            exact hcommitted hwrite
          · exact hcommitted hwrite
        · exact hsame ((of_solo_withStatus hmoved).1.trans hworld₂)
      · obtain ⟨-, rfl⟩ := Program.solo_ofExcept_iff.mp hcheck
        exact hsame hworld₂
    · exact hsame ((of_solo_query hrequest).1.trans hworld₁)
  · exact hsame (of_solo_query hget).1

/-- Alone, a call that would not replace an analysis keeps the evidence. -/
theorem kept_of_solo {call : Call} {world last : World κ} {outcome : Except Exc Unit}
    (h : (repository.perform call).Solo world outcome last)
    (hcall : ¬call.Overwrites world.database) : world.database.EvidenceKept last.database := by
  by_cases hcomplete : ∃ runId analysis repairAttempted,
      call = .completeAnalysis runId analysis repairAttempted
  · obtain ⟨runId, analysis, repairAttempted, rfl⟩ := hcomplete
    rcases Program.solo_bind_iff.mp h with ⟨_, _, h, hdone⟩ | ⟨_, h, -⟩
    · cases hdone
      exact repository.completeAnalysis_kept h hcall
    · exact repository.completeAnalysis_kept h hcall
  · apply Program.Meets.of_solo _ _ (repository.perform_keeps call _) h
    · intro state
      exact Database.evidenceKept_refl _
    · intro first second third hfirst hsecond
      exact hfirst.trans hsecond
    · intro runId analysis repairAttempted heq
      exact hcomplete ⟨runId, analysis, repairAttempted, heq⟩

/-- The analysis that a call overwrites is lost. -/
theorem exists_overwrite {db : Database} {now : Datetime} {run : ProjectRun}
    {runId : UUID} {request : RunCreate} {analysis stored : AdAnalysis} {repairAttempted : Bool}
    (hget : db.get runId = .ok run) (hprogress : run.status = .inProgress)
    (hcreated : run.createdAt ≤ now) (hrequest : db.getRequest runId = .ok request)
    (hmatches : analysis.sourceAsset = request.sourceAsset ∧
      analysis.brandLock = request.brandLock)
    (hstored : db.getAnalysis runId = .ok (some stored)) (hne : stored ≠ analysis)
    (rest : κ) :
    ∃ db', ((Repository.quiet now).perform
        (.completeAnalysis runId analysis repairAttempted)).Solo ⟨db, rest⟩ (.ok ()) ⟨db', rest⟩ ∧
      ¬db.EvidenceKept db' := by
  obtain ⟨row, hrow, hstatus⟩ : ∃ row, db.runs.find runId = some row ∧
      row.status = .inProgress := by
    simp only [Database.get, bind_eq_ok, orRaise_eq_ok] at hget
    obtain ⟨row, hrow, codes, -, hvalidate⟩ := hget
    obtain ⟨-, -, hstatus, -⟩ := ProjectRun.of_validate hvalidate
    exact ⟨row, hrow, hstatus.symm.trans hprogress⟩
  obtain ⟨context, hcontext, column, hcolumn, hload⟩ : ∃ context,
      db.contexts.find runId = some context ∧
        ∃ column, context.analysis = some column ∧ load column = .ok stored := by
    simp only [Database.getAnalysis, Database.contextOf, bind_eq_ok, orRaise_eq_ok] at hstored
    obtain ⟨context, hcontext, hload⟩ := hstored
    cases hcolumn : context.analysis with
    | none => simp [hcolumn, loadOption] at hload
    | some column => 
        simp only [hcolumn, loadOption, map_eq_ok] at hload
        obtain ⟨_, hload, heq⟩ := hload
        cases heq
        exact ⟨context, hcontext, column, hcolumn, hload⟩
  let replaced : ContextRow := { context with
    analysis := some (.dump analysis)
    repairAttempted := repairAttempted.toNat }
  have hcommit : db.completeAnalysis runId analysis repairAttempted .awaitingBrandLock now =
      .ok ((), { db with
        contexts := db.contexts.set runId replaced
        runs := db.runs.set runId
          { row with status := .awaitingBrandLock, updatedAt := now } }) := by
    rw [Database.completeAnalysis, Table.updateWhere_of_some hcontext rfl, orRaise_some, ok_bind,
      Table.updateWhere_of_some hrow (by simp [hstatus]), orRaise_some, ok_bind]
    rfl
  obtain ⟨updated, hexec⟩ := Repository.exec_completeAnalysis hget hprogress hcreated hrequest
    hmatches hcommit
  refine ⟨_, Program.solo_of_exec (Program.exec_bind hexec), ?_⟩
  intro hkept
  obtain ⟨context', hcontext', hkept⟩ := hkept.contexts runId context hcontext
  obtain rfl := Option.some.inj ((Table.find_set_self _ _ _).symm.trans hcontext')
  obtain ⟨before, rfl⟩ := column.exists_dump
  obtain rfl : before = stored := by simpa using hload
  exact hne (Column.dump_inj.mp (Option.some.inj (hkept.analysis _ hcolumn))).symm

end Repository

/-- One call after another, each of them allowed by the database it finds. -/
inductive Repository.Serves (repository : Repository κ) (allowed : Database → Call → Prop)
    (start : World κ) : World κ → Prop
  | refl : Serves repository allowed start start
  | call {world last : World κ} {call : Call} {outcome : Except Exc Unit}
      (prior : Serves repository allowed start world) (hallowed : allowed world.database call)
      (hsolo : (repository.perform call).Solo world outcome last) :
      Serves repository allowed start last

theorem Repository.Serves.next {repository : Repository κ} {start world last : World κ}
    {outcome : Except Exc Unit} (prior : repository.Serves (fun _ _ => True) start world)
    (call : Call) (hexec : (repository.perform call).exec world = some (outcome, last)) :
    repository.Serves (fun _ _ => True) start last :=
  .call prior trivial (Program.solo_of_exec hexec)

/-- However the call runs alone from this database, the evidence is kept. -/
def Call.KeepsEvidence (call : Call) (db : Database) : Prop :=
  ∀ (κ : Type) (repository : Repository κ) (rest : κ) (outcome : Except Exc Unit)
    (last : World κ), (repository.perform call).Solo ⟨db, rest⟩ outcome last →
      db.EvidenceKept last.database

theorem Call.keepsEvidence_iff (call : Call) (db : Database) :
    call.KeepsEvidence db ↔ ¬call.Overwrites db := by
  constructor
  · intro hkeeps hoverwrites
    cases call with
    | completeAnalysis runId analysis repairAttempted =>
        obtain ⟨run, request, stored, hget, hprogress, hrequest, hmatches, hstored, hne⟩ :=
          hoverwrites
        obtain ⟨db', hsolo, hlost⟩ := Repository.exists_overwrite hget hprogress
          run.timestamps_valid hrequest hmatches hstored hne ()
        exact hlost (hkeeps Unit _ _ _ _ hsolo)
    | _ => exact hoverwrites
  · intro hcall κ repository rest outcome last hsolo
    exact repository.kept_of_solo hsolo hcall

/-- Evidence is written once in every sequence of calls none of which completes
the analysis of a run that has another one. -/
theorem evidence_kept_iff (call : Call) (db : Database) (repository : Repository κ)
    (start last : World κ) :
    (call.KeepsEvidence db ↔ ¬call.Overwrites db) ∧
      (repository.Serves (fun db call => ¬call.Overwrites db) start last →
        start.database.EvidenceKept last.database) := by
  refine ⟨call.keepsEvidence_iff db, ?_⟩
  intro hserves
  induction hserves with
  | refl => exact Database.evidenceKept_refl _
  | call _ hallowed hsolo ih => exact ih.trans (repository.kept_of_solo hsolo hallowed)

/-- A run that has been analysed is set back to in progress, and a second
analysis takes the place of the first. -/
theorem not_evidence_kept : ∃ world : World Unit,
    (Repository.quiet Demo.now).Serves (fun _ _ => True) ⟨.empty, ()⟩ world ∧
      ∃ call last, ((Repository.quiet Demo.now).perform call).Solo world (.ok ()) last ∧
        ¬world.database.EvidenceKept last.database := by
  let first := Demo.analysis [] Demo.noWarnings
  let second := Demo.analysis [Demo.prohibitedContent] (by simp)
  obtain ⟨db₁, hcreate, hat₁⟩ := Database.create_of_absent
    (ProjectRun.new Demo.runId .chinaToUk Demo.now) Demo.runCreate (empty_absent Demo.runId) rfl rfl
    rfl (le_refl Demo.now)
  obtain ⟨db₂, hclaim, hat₂⟩ := hat₁.claimAnalysis
  obtain ⟨claimed, hclaimed, -, -⟩ := hat₂.get
  have hmatches : first.sourceAsset = Demo.runCreate.sourceAsset ∧
      first.brandLock = Demo.runCreate.brandLock := ⟨rfl, rfl⟩
  obtain ⟨db₃, _, hcomplete, hat₃⟩ : ∃ db' run,
      ((Repository.quiet Demo.now).completeAnalysis Demo.runId first false).exec ⟨db₂, ()⟩ =
        some (.ok run, ⟨db', ()⟩) ∧
      db'.At Demo.now Demo.runId (.awaiting ⟨Demo.runCreate, first, false, hmatches⟩) :=
    App.exec_completeAnalysis () hat₂ hmatches
  obtain ⟨awaiting, hget₃, -, hcreated₃⟩ := hat₃.get
  have hread := hat₃.shows.get hget₃
  obtain ⟨row, hrow, -, -, hcodes, hcreated⟩ := hat₃.row
  let resumed : RunRow := { row with status := .inProgress, updatedAt := Demo.now }
  let db₄ : Database := { db₃ with runs := db₃.runs.set Demo.runId resumed }
  have hresume : db₃.updateStatus Demo.runId .inProgress Demo.now = .ok ((), db₄) := by
    rw [Database.updateStatus, Table.updateWhere_of_some hrow rfl]
    rfl
  have hallowed : ProjectRunStatus.inProgress ∈ allowedTransitions awaiting.status := by
    rw [hread.status]
    exact List.mem_cons_self
  obtain ⟨_, hupdate⟩ : ∃ updated, ((Repository.quiet Demo.now).updateStatus Demo.runId
      .inProgress).exec ⟨db₃, ()⟩ = some (.ok updated, ⟨db₄, ()⟩) :=
    Repository.exec_updateStatus hget₃ hread.id hallowed hcreated₃ hresume
  have hresumed : db₄.runs.find Demo.runId = some resumed := Table.find_set_self _ _ _
  obtain ⟨run, hget, -, hprogress, -, hsince⟩ :=
    Database.exists_get hresumed hat₃.shows.context hcodes ⟨Nat.zero_le _, Nat.zero_le _⟩ hcreated
  have hne : first ≠ second := by
    intro heq
    cases congrArg AdAnalysis.warnings heq
  obtain ⟨db₅, hoverwrite, hlost⟩ : ∃ db', ((Repository.quiet Demo.now).perform
        (.completeAnalysis Demo.runId second false)).Solo ⟨db₄, ()⟩ (.ok ()) ⟨db', ()⟩ ∧
      ¬db₄.EvidenceKept db' :=
    Repository.exists_overwrite hget hprogress (hsince.trans_le hcreated) hat₃.shows.getRequest
      ⟨rfl, rfl⟩ hat₃.shows.getAnalysis hne ()
  refine ⟨⟨db₄, ()⟩, ?_, .completeAnalysis Demo.runId second false, ⟨db₅, ()⟩, hoverwrite, hlost⟩
  have hserved₁ : (Repository.quiet Demo.now).Serves (fun _ _ => True) ⟨.empty, ()⟩ ⟨db₁, ()⟩ :=
    Repository.Serves.refl.next
      (.create (ProjectRun.new Demo.runId .chinaToUk Demo.now) (some Demo.runCreate))
      (Program.exec_bind (Program.exec_bind (exec_transaction hcreate)))
  have hserved₂ : (Repository.quiet Demo.now).Serves (fun _ _ => True) ⟨.empty, ()⟩ ⟨db₂, ()⟩ :=
    hserved₁.next (.claimAnalysis Demo.runId)
      (Program.exec_bind (Repository.exec_claimAnalysis hclaim hclaimed))
  have hserved₃ : (Repository.quiet Demo.now).Serves (fun _ _ => True) ⟨.empty, ()⟩ ⟨db₃, ()⟩ :=
    hserved₂.next (.completeAnalysis Demo.runId first false) (Program.exec_bind hcomplete)
  exact hserved₃.next (.updateStatus Demo.runId .inProgress) (Program.exec_bind hupdate)

end CultureShift
