/-
# What is written is read back

Every record is split over columns and rebuilt by a decoder of its own. The
decoders return what the write returned or was given, for every value that the
contracts admit; only the second version has no column for the time at which
its draft was written.
-/

import CultureShift.Repository.Chronology

namespace CultureShift

open Serialization Relational Concurrent Sequential

variable {κ : Type}

/-! ## The queries after a transaction -/

namespace Database

variable {db db' : Database} {runId : UUID}

theorem contextOf_of_find {context : ContextRow} (h : db.contexts.find runId = some context) :
    db.contextOf runId = .ok context := by
  rw [contextOf, h]
  rfl

theorem reads_create {run : ProjectRun} {request : RunCreate} {done : Unit}
    (h : db.create run (some request) = .ok (done, db'))
    (hcounts : run.initialGenerationCount = 0 ∧ run.humanRevisionCount = 0 ∧
      run.technicalAttemptCount = 0) :
    db'.get run.id = .ok run ∧ db'.getRequest run.id = .ok request := by
  simp only [create, bind_eq_ok, orRaise_eq_ok] at h
  obtain ⟨runs, hruns, -, -, contexts, hcontexts, hvalue⟩ := h
  cases hvalue
  obtain ⟨-, rfl⟩ := Table.insert_eq_some hruns
  obtain ⟨-, rfl⟩ := Table.insert_eq_some hcontexts
  obtain ⟨id, direction, status, warningCodes, initial, human, technical, createdAt, updatedAt,
    hcodes, hvalid, htimes⟩ := run
  obtain ⟨rfl, rfl, rfl⟩ := hcounts
  constructor
  · simp only [get, Table.find_set_self, orRaise_some, ok_bind, load_dump, Option.map_some,
      Option.getD_some]
    exact dif_pos ⟨hcodes, hvalid, htimes⟩
  · simp only [getRequest, contextOf, Table.find_set_self, orRaise_some, ok_bind, load_dump]

theorem reads_completeAnalysis {analysis : AdAnalysis} {repairAttempted : Bool}
    {status : ProjectRunStatus} {updatedAt : Datetime} {done : Unit}
    (h : db.completeAnalysis runId analysis repairAttempted status updatedAt = .ok (done, db')) :
    db'.getAnalysis runId = .ok (some analysis) ∧
      db'.getRepairAttempted runId = .ok repairAttempted := by
  simp only [completeAnalysis, bind_eq_ok, orRaise_eq_ok] at h
  obtain ⟨contexts, hcontexts, runs, -, hvalue⟩ := h
  cases hvalue
  obtain ⟨context, -, -, rfl⟩ := Table.updateWhere_eq_some hcontexts
  constructor
  · rw [getAnalysis, contextOf_of_find (Table.find_set_self _ _ _), ok_bind]
    exact loadOption_map_dump (some analysis)
  · rw [getRepairAttempted, contextOf_of_find (Table.find_set_self _ _ _), ok_bind]
    cases repairAttempted <;> rfl

theorem reads_confirmBrandLock {proposed : BrandLock} {confirmedAt : Datetime}
    {record : BrandLockConfirmationRecord}
    (h : db.confirmBrandLock runId proposed confirmedAt = .ok (record, db')) :
    db'.getConfirmedBrandLock runId = .ok (some record) := by
  simp only [confirmBrandLock, joined, bind_eq_ok, orRaise_eq_ok] at h
  obtain ⟨⟨row, context⟩, ⟨_, -, hjoined⟩, existing, hexisting, h⟩ := h
  cases hjoined
  cases existing with
  | some existing =>
      simp only [bind_eq_ok] at h
      obtain ⟨-, -, hvalue⟩ := h
      cases hvalue
      cases hcontext : db.contexts.find runId with
      | none =>
          rw [hcontext] at hexisting
          cases hexisting
      | some context =>
          rw [hcontext] at hexisting
          rw [getConfirmedBrandLock, contextOf_of_find hcontext, ok_bind]
          exact hexisting
  | none =>
      simp only [bind_eq_ok, orRaise_eq_ok] at h
      obtain ⟨-, -, -, -, encoded, -, analysis, -, validated, -, contexts, hcontexts, runs, -,
        hvalue⟩ := h
      cases hvalue
      obtain ⟨context, -, -, rfl⟩ := Table.updateWhere_eq_some hcontexts
      rw [getConfirmedBrandLock, contextOf_of_find (Table.find_set_self _ _ _), ok_bind,
        confirmationRecord, load_dump]
      rfl

theorem reads_saveDraft {draft record : DraftRecord}
    (h : db.saveDraft runId draft = .ok (record, db')) :
    db'.getDraft runId = .ok (some record) := by
  simp only [saveDraft, joined, bind_eq_ok, orRaise_eq_ok] at h
  obtain ⟨⟨row, context⟩, ⟨_, -, hjoined⟩, existing, hexisting, h⟩ := h
  cases hjoined
  cases existing with
  | some existing =>
      simp only [bind_eq_ok] at h
      obtain ⟨-, -, hvalue⟩ := h
      cases hvalue
      cases hcontext : db.contexts.find runId with
      | none =>
          rw [hcontext] at hexisting
          cases hexisting
      | some context =>
          rw [hcontext] at hexisting
          rw [getDraft, contextOf_of_find hcontext, ok_bind]
          exact hexisting
  | none =>
      simp only [bind_eq_ok, orRaise_eq_ok] at h
      obtain ⟨-, -, encoded, -, confirmed, -, -, -, -, -, contexts, hcontexts, hvalue⟩ := h
      cases hvalue
      obtain ⟨context, -, -, rfl⟩ := Table.updateWhere_eq_some hcontexts
      rw [getDraft, contextOf_of_find (Table.find_set_self _ _ _), ok_bind]
      simp only [draftRecord, load_dump, ok_bind]
      rfl

theorem reads_saveComposition {composition saved : CompositionGenerated}
    (h : db.saveComposition runId composition = .ok (saved, db')) :
    db'.getComposition runId = .ok (some saved) := by
  simp only [saveComposition, joined, bind_eq_ok, orRaise_eq_ok] at h
  obtain ⟨⟨row, context⟩, ⟨_, -, hjoined⟩, h⟩ := h
  cases hjoined
  cases hstored : (db.contexts.find runId).bind ContextRow.composition with
  | some encoded =>
      simp only [hstored, bind_eq_ok] at h
      obtain ⟨existing, hload, -, -, hvalue⟩ := h
      cases hvalue
      obtain ⟨context, hcontext, hcolumn⟩ := Option.bind_eq_some_iff.mp hstored
      rw [getComposition, contextOf_of_find hcontext, ok_bind, hcolumn]
      exact map_eq_ok.mpr ⟨saved, hload, rfl⟩
  | none =>
      simp only [hstored, bind_eq_ok, orRaise_eq_ok] at h
      obtain ⟨-, -, encoded, -, -, -, confirmed, -, -, -, contexts, hcontexts, hvalue⟩ := h
      cases hvalue
      obtain ⟨context, -, -, rfl⟩ := Table.updateWhere_eq_some hcontexts
      rw [getComposition, contextOf_of_find (Table.find_set_self _ _ _), ok_bind]
      exact loadOption_map_dump (some composition)

theorem reads_saveCritique {report : CritiqueReport} {record : CritiqueRecord}
    (h : db.saveCritique runId report = .ok (record, db')) :
    db'.getCritique runId = .ok (some record) := by
  simp only [saveCritique, joined, bind_eq_ok, orRaise_eq_ok] at h
  obtain ⟨⟨row, context⟩, ⟨_, -, hjoined⟩, -, -, existing, hexisting, h⟩ := h
  cases hjoined
  cases existing with
  | some existing =>
      simp only [bind_eq_ok] at h
      obtain ⟨-, -, hvalue⟩ := h
      cases hvalue
      cases hcontext : db.contexts.find runId with
      | none =>
          rw [hcontext] at hexisting
          cases hexisting
      | some context =>
          rw [hcontext] at hexisting
          rw [getCritique, contextOf_of_find hcontext, ok_bind]
          exact hexisting
  | none =>
      simp only [bind_eq_ok, orRaise_eq_ok] at h
      obtain ⟨-, -, contexts, hcontexts, runs, -, hvalue⟩ := h
      cases hvalue
      obtain ⟨context, -, -, rfl⟩ := Table.updateWhere_eq_some hcontexts
      rw [getCritique, contextOf_of_find (Table.find_set_self _ _ _), ok_bind]
      simp only [critiqueRecord, load_dump, ok_bind, require_of]
      rfl

/-- A second version as it is read back: it is version 2, and its draft gets the time of the
review. -/
def asStored (runId : UUID) (revision : RevisionRecord) : RevisionRecord :=
  { revision with
    runId
    resultVersion := 2
    draft := { revision.draft with generatedAt := revision.revisedAt } }

/-- The row of the operation is decoded with this response. -/
def Answers (db : Database) (operationId : Nat) (response : RevisionCompleted) : Prop :=
  ∃ row ∈ db.operations.rows, row.id = operationId ∧
    ∃ record, operationRecord row = .ok record ∧ record.publicResponse = some response

theorem reads_completeRevision {operationId : Nat} {revision : RevisionRecord}
    {publicResponse : RevisionCompleted} {done : Unit}
    (h : db.completeRevision runId operationId revision publicResponse = .ok (done, db')) :
    db'.getRevision runId = .ok (some (asStored runId revision)) := by
  simp only [completeRevision, bind_eq_ok, orRaise_eq_ok, require_eq_ok] at h
  obtain ⟨operation, -, -, -, revisions, hrevisions, contexts, -, hvalue⟩ := h
  cases hvalue
  obtain ⟨-, rfl⟩ := Table.insert_eq_some hrevisions
  simp only [getRevision, Table.find_set_self, revisionRecord, load_dump, ok_bind]
  rfl

theorem answers_completeRevision {operationId : Nat} {revision : RevisionRecord}
    {publicResponse : RevisionCompleted} {done : Unit}
    (h : db.completeRevision runId operationId revision publicResponse = .ok (done, db')) :
    db'.Answers operationId publicResponse := by
  simp only [completeRevision, bind_eq_ok, orRaise_eq_ok, require_eq_ok] at h
  obtain ⟨operation, hfind, -, hprogress, revisions, -, contexts, -, hvalue⟩ := h
  cases hvalue
  have hmem := List.mem_of_find?_eq_some hfind
  have hmatch := List.find?_some hfind
  simp only [Bool.and_eq_true, decide_eq_true_eq, beq_iff_eq] at hmatch
  let succeed (progress : OperationProgress) : OperationProgress :=
    { progress with
      state := .succeeded
      publicResponse := some (.dump publicResponse)
      updatedAt := revision.revisedAt }
  have hanswers {operations : OperationTable} {row : OperationRow}
      (hrow : row ∈ operations.rows) (hid : row.id = operationId)
      (hresponse : row.progress.publicResponse = some (.dump publicResponse)) :
      ∃ row ∈ operations.rows, row.id = operationId ∧
        ∃ record, operationRecord row = .ok record ∧
          record.publicResponse = some publicResponse := by
    obtain ⟨record, hrecord⟩ := exists_operationRecord row
    exact ⟨row, hrow, hid, record, hrecord, publicResponse_of_operationRecord hrecord hresponse⟩
  have hrevised : operation.revise
      (fun row => row.id == operationId && row.progress.state = .inProgress) succeed =
        { operation with progress := succeed operation.progress } := by
    apply if_pos
    simp [hmatch.2, hprogress]
  have hfirst : { operation with progress := succeed operation.progress } ∈
      (db.operations.updateWhere
        (fun row => row.id == operationId && row.progress.state = .inProgress) succeed).rows :=
    List.mem_map.mpr ⟨operation, hmem, hrevised⟩
  unfold Answers
  dsimp only
  split_ifs with hretry
  · -- the completed retry is no feedback, so the second update passes it by
    have hsecond : { operation with progress := succeed operation.progress } ∈
        ((db.operations.updateWhere
          (fun row => row.id == operationId && row.progress.state = .inProgress)
          succeed).updateWhere
            (fun row => row.runId = runId &&
              (row.kind = .feedback && row.progress.state = .failedRetryable)) succeed).rows := by
      refine List.mem_map.mpr ⟨_, hfirst, if_neg ?_⟩
      simp [hretry]
    exact hanswers hsecond hmatch.2 rfl
  · exact hanswers hfirst hmatch.2 rfl

end Database

/-! ## Writes -/

/-- A write, with what it returned. -/
inductive Write
  | create (run : ProjectRun) (request : RunCreate)
  | completeAnalysis (runId : UUID) (analysis : AdAnalysis) (repairAttempted : Bool)
  | confirmBrandLock (runId : UUID) (proposed : BrandLock) (confirmedAt : Option Datetime)
      (returned : BrandLockConfirmationRecord)
  | saveDraft (runId : UUID) (brief : CreativeBrief) (adCopy : AdCopy)
      (factReferences ruleIds : List String) (generatedAt : Option Datetime)
      (returned : DraftRecord)
  | saveComposition (runId : UUID) (composition returned : CompositionGenerated)
  | saveCritique (runId : UUID) (report : CritiqueReport) (returned : CritiqueRecord)
  | completeRevision (runId : UUID) (operationId : Nat) (revision : RevisionRecord)
      (publicResponse : RevisionCompleted)

namespace Write

/-- The write, made alone, returns this. -/
def Accepted (repository : Repository κ) (world last : World κ) : Write → Prop
  | create run request => ∃ returned,
      (repository.create run (some request)).Solo world (.ok returned) last
  | completeAnalysis runId analysis repairAttempted => ∃ returned,
      (repository.completeAnalysis runId analysis repairAttempted).Solo world (.ok returned) last
  | confirmBrandLock runId proposed confirmedAt returned =>
      (repository.confirmBrandLock runId proposed confirmedAt).Solo world (.ok returned) last
  | saveDraft runId brief adCopy factReferences ruleIds generatedAt returned =>
      (repository.saveDraft runId brief adCopy factReferences ruleIds generatedAt).Solo world
        (.ok returned) last
  | saveComposition runId composition returned =>
      (repository.saveComposition runId composition).Solo world (.ok returned) last
  | saveCritique runId report returned =>
      (repository.saveCritique runId report).Solo world (.ok returned) last
  | completeRevision runId operationId revision publicResponse => ∃ returned,
      (repository.completeRevision runId operationId revision publicResponse).Solo world
        (.ok returned) last

/-- The queries give back what was written: what was passed for a run, its request and its
analysis, and what was returned for the artifacts. -/
def ReadBack (db : Database) : Write → Prop
  | create run request =>
      run.initialGenerationCount = 0 ∧ run.humanRevisionCount = 0 ∧
          run.technicalAttemptCount = 0 →
        db.get run.id = .ok run ∧ db.getRequest run.id = .ok request
  | completeAnalysis runId analysis repairAttempted =>
      db.getAnalysis runId = .ok (some analysis) ∧ db.getRepairAttempted runId = .ok repairAttempted
  | confirmBrandLock runId _ _ returned => db.getConfirmedBrandLock runId = .ok (some returned)
  | saveDraft runId _ _ _ _ _ returned => db.getDraft runId = .ok (some returned)
  | saveComposition runId _ returned => db.getComposition runId = .ok (some returned)
  | saveCritique runId _ returned => db.getCritique runId = .ok (some returned)
  | completeRevision runId operationId revision publicResponse =>
      db.getRevision runId = .ok (some revision) ∧ db.Answers operationId publicResponse

/-- A second version is version 2 of the run, and its draft was written at the time of the
review. -/
def Lossless : Write → Prop
  | completeRevision runId _ revision _ =>
      revision.runId = runId ∧ revision.resultVersion = 2 ∧
        revision.draft.generatedAt = revision.revisedAt
  | _ => True

end Write

theorem Database.asStored_eq_iff {runId : UUID} {revision : RevisionRecord} :
    asStored runId revision = revision ↔
      revision.runId = runId ∧ revision.resultVersion = 2 ∧
        revision.draft.generatedAt = revision.revisedAt := by
  constructor
  · intro heq
    exact ⟨(congrArg RevisionRecord.runId heq).symm,
      (congrArg RevisionRecord.resultVersion heq).symm,
      (congrArg (fun revision => revision.draft.generatedAt) heq).symm⟩
  · rintro ⟨hrun, hversion, htime⟩
    obtain ⟨id, version, changes, digest, ⟨brief, adCopy, facts, rules, generatedAt⟩, composition,
      critique, revisedAt⟩ := revision
    obtain rfl : id = runId := hrun
    obtain rfl : version = 2 := hversion
    obtain rfl : generatedAt = revisedAt := htime
    rfl

/-- In every state, a write that returned is read back as it was exactly when it is no second
version, or version 2 of the run with a draft that was written at the time of its review. -/
theorem readBack_iff (repository : Repository κ) {world last : World κ} (write : Write)
    (h : write.Accepted repository world last) :
    write.ReadBack last.database ↔ write.Lossless := by
  cases write with
  | create run request =>
      obtain ⟨_, hsolo⟩ := h
      obtain ⟨_, between, hcommit, hdone⟩ := Repository.of_solo_bind hsolo
      cases hdone
      exact iff_of_true (Database.reads_create (Repository.of_solo_commit hcommit)) trivial
  | completeAnalysis runId analysis repairAttempted =>
      obtain ⟨_, hsolo⟩ := h
      obtain ⟨_, _, -, hreads⟩ := Repository.of_solo_bind hsolo
      obtain ⟨_, _, -, hchecks⟩ := Repository.of_solo_bind hreads
      obtain ⟨_, _, -, hmoves⟩ := Repository.of_solo_bind hchecks
      obtain ⟨_, _, -, hwrites⟩ := Repository.of_solo_bind hmoves
      obtain ⟨_, _, hcommit, hdone⟩ := Repository.of_solo_bind hwrites
      cases hdone
      exact iff_of_true (Database.reads_completeAnalysis (Repository.of_solo_commit hcommit))
        trivial
  | confirmBrandLock runId proposed confirmedAt returned =>
      obtain ⟨time, between, -, hcommit⟩ := Repository.of_solo_bind h
      exact iff_of_true (Database.reads_confirmBrandLock (Repository.of_solo_commit hcommit))
        trivial
  | saveDraft runId brief adCopy factReferences ruleIds generatedAt returned =>
      obtain ⟨time, between, -, hcommit⟩ := Repository.of_solo_bind h
      exact iff_of_true (Database.reads_saveDraft (Repository.of_solo_commit hcommit)) trivial
  | saveComposition runId composition returned =>
      obtain ⟨_, between, -, hcommit⟩ := Repository.of_solo_bind h
      exact iff_of_true (Database.reads_saveComposition (Repository.of_solo_commit hcommit)) trivial
  | saveCritique runId report returned =>
      exact iff_of_true (Database.reads_saveCritique (Repository.of_solo_commit h)) trivial
  | completeRevision runId operationId revision publicResponse =>
      obtain ⟨_, hsolo⟩ := h
      obtain ⟨_, between, hcommit, hreads⟩ := Repository.of_solo_bind hsolo
      obtain ⟨stored, between', hget, hstored⟩ := Repository.of_solo_bind hreads
      obtain ⟨-, rfl⟩ := Program.solo_ofExcept_iff.mp hstored
      have hwritten := Repository.of_solo_commit hcommit
      rw [← (Repository.of_solo_query hget).1] at hwritten
      have hanswers := Database.answers_completeRevision hwritten
      have hread := Database.reads_completeRevision hwritten
      show (last.database.getRevision runId = .ok (some revision) ∧ _) ↔ _
      rw [hread]
      constructor
      · rintro ⟨heq, -⟩
        exact Database.asStored_eq_iff.mp (Option.some.inj (Except.ok.inj heq))
      · intro hlossless
        rw [Database.asStored_eq_iff.mpr hlossless]
        exact ⟨rfl, hanswers⟩

namespace Demo

/-- A second version whose draft was written before its review. -/
def revision (draftedAt reviewedAt : Datetime) : RevisionRecord where
  runId := runId
  resultVersion := 2
  requestedChanges := [.shortenHeadline]
  feedbackDigest := "digest"
  draft := { draft [] noWarnings with generatedAt := draftedAt }
  composition := composition revisedArtifactId
  critique := { passed with reviewedAt }
  revisedAt := reviewedAt

def revisionCompleted (reviewedAt : Datetime) : RevisionCompleted where
  runId := runId
  status := .ready
  previousComposition := composition artifactId
  brief := (draft [] noWarnings).brief
  adCopy := (draft [] noWarnings).adCopy
  composition := composition revisedArtifactId
  critique := { passed with reviewedAt }
  technicalAttemptCount := 0
  revisedAt := reviewedAt
  status_valid := .inl rfl
  identity := ⟨⟨rfl, rfl⟩, by decide, ⟨rfl, rfl⟩,
    (by decide : CritiqueStatus.pass = .reject ↔ ProjectRunStatus.ready = .failedFinal)⟩

/-- The claimed operation is completed. -/
theorem exists_completed (draftedAt reviewedAt : Datetime) : ∃ world last : World Unit,
    Trace (Repository.quiet now).Accepts ⟨.empty, ()⟩ (claims now world) ∧
      (Write.completeRevision runId 1 (revision draftedAt reviewedAt)
        (revisionCompleted reviewedAt)).Accepted (Repository.quiet now) world last := by
  obtain ⟨record, db, hclaimed, db', hcomplete⟩ : ∃ record db, claimed now = .ok (record, db) ∧
      ∃ db', db.completeRevision runId 1 (revision draftedAt reviewedAt)
        (revisionCompleted reviewedAt) = .ok ((), db') := ⟨_, _, rfl, _, rfl⟩
  have hread := Database.reads_completeRevision hcomplete
  refine ⟨⟨db, ()⟩, ⟨db', ()⟩, trace_claims hclaimed,
    Database.asStored runId (revision draftedAt reviewedAt), Program.solo_of_exec ?_⟩
  refine (Program.exec_bind (exec_transaction hcomplete)).trans ?_
  refine (Program.exec_bind (exec_query hread)).trans ?_
  exact exec_ofExcept rfl _

end Demo

theorem readBack_completed : ∃ world last : World Unit,
    Trace (Repository.quiet Demo.now).Accepts ⟨.empty, ()⟩ (Demo.claims Demo.now world) ∧
      (Write.completeRevision Demo.runId 1 (Demo.revision Demo.now Demo.now)
        (Demo.revisionCompleted Demo.now)).ReadBack last.database := by
  obtain ⟨world, last, htrace, haccepted⟩ := Demo.exists_completed Demo.now Demo.now
  refine ⟨world, last, htrace, ?_⟩
  exact (readBack_iff (Repository.quiet Demo.now) _ haccepted).mpr ⟨rfl, rfl, rfl⟩

/-- A second version whose draft was written before its review is read back with another
time. -/
theorem not_readBack : ∃ world last : World Unit,
    Trace (Repository.quiet Demo.now).Accepts ⟨.empty, ()⟩ (Demo.claims Demo.now world) ∧
      (Write.completeRevision Demo.runId 1 (Demo.revision Demo.now Demo.tomorrow)
        (Demo.revisionCompleted Demo.tomorrow)).Accepted (Repository.quiet Demo.now) world last ∧
      last.database.getRevision Demo.runId =
        .ok (some (Demo.revision Demo.tomorrow Demo.tomorrow)) ∧
      ¬(Write.completeRevision Demo.runId 1 (Demo.revision Demo.now Demo.tomorrow)
        (Demo.revisionCompleted Demo.tomorrow)).ReadBack last.database := by
  obtain ⟨world, last, htrace, haccepted⟩ := Demo.exists_completed Demo.now Demo.tomorrow
  have hread : last.database.getRevision Demo.runId =
      .ok (some (Demo.revision Demo.tomorrow Demo.tomorrow)) := by
    obtain ⟨_, hsolo⟩ := haccepted
    obtain ⟨_, between, hcommit, hreads⟩ := Repository.of_solo_bind hsolo
    obtain ⟨stored, between', hget, hstored⟩ := Repository.of_solo_bind hreads
    obtain ⟨-, rfl⟩ := Program.solo_ofExcept_iff.mp hstored
    have hwritten := Repository.of_solo_commit hcommit
    rw [← (Repository.of_solo_query hget).1] at hwritten
    exact Database.reads_completeRevision hwritten
  refine ⟨world, last, htrace, haccepted, hread, ?_⟩
  rintro ⟨hsame, -⟩
  have htime : Demo.tomorrow = Demo.now :=
    congrArg (fun revision => revision.draft.generatedAt)
      (Option.some.inj (Except.ok.inj (hread.symm.trans hsame)))
  exact absurd htime (by decide)

end CultureShift
