/-
# Which artifacts the database refers to

A stored version refers to the artifact it was rendered to. Two transactions
store a version, each in a place where none is; all others leave the stored
versions as they are.
-/

import CultureShift.Repository.Transactions

namespace CultureShift

open Serialization Relational

namespace Database

variable {db db' : Database} {runId : UUID}

/-- The artifacts of the versions stored under some run. -/
def artifactsOf (stored : UUID → CompositionGenerated → Prop) : Set UUID :=
  {artifactId | ∃ runId composition, stored runId composition ∧
    composition.artifactId = artifactId}

/-- The artifacts of the first versions. -/
def composedArtifacts (db : Database) : Set UUID :=
  artifactsOf fun runId composition => db.getComposition runId = .ok (some composition)

/-- The artifacts of the second versions. -/
def revisedArtifacts (db : Database) : Set UUID :=
  artifactsOf fun runId composition => ∃ revision,
    db.getRevision runId = .ok (some revision) ∧ revision.composition = composition

/-- One more version, stored where none was. -/
theorem artifactsOf_insert {stored stored' : UUID → CompositionGenerated → Prop}
    {composition : CompositionGenerated} (hnone : ∀ other, ¬stored runId other)
    (hnew : ∀ other, stored' runId other ↔ other = composition)
    (hold : ∀ runId', runId' ≠ runId → ∀ other, stored' runId' other ↔ stored runId' other) :
    artifactsOf stored' = insert composition.artifactId (artifactsOf stored) := by
  ext artifactId
  constructor
  · rintro ⟨runId', other, h, hartifact⟩
    by_cases heq : runId' = runId
    · subst heq
      obtain rfl := (hnew other).mp h
      exact .inl hartifact.symm
    · exact .inr ⟨runId', other, (hold runId' heq other).mp h, hartifact⟩
  · rintro (rfl | ⟨runId', other, h, hartifact⟩)
    · exact ⟨runId, composition, (hnew composition).mpr rfl, rfl⟩
    · have hne : runId' ≠ runId := by
        rintro rfl
        exact hnone other h
      exact ⟨runId', other, (hold runId' hne other).mpr h, hartifact⟩

/-- The versions stored before are stored after. -/
structure KeepsVersions (db db' : Database) : Prop where
  compositions : ∀ runId composition, db.getComposition runId = .ok (some composition) →
    db'.getComposition runId = .ok (some composition)
  revisions : ∀ runId revision, db.getRevision runId = .ok (some revision) →
    db'.getRevision runId = .ok (some revision)

/-- The columns and rows of the versions are the same. -/
structure SameVersions (db db' : Database) : Prop where
  compositions : ∀ runId, (db'.contexts.find runId).bind ContextRow.composition =
    (db.contexts.find runId).bind ContextRow.composition
  revisions : ∀ runId, db'.revisions.find runId = db.revisions.find runId

theorem getComposition_eq_some_iff {composition : CompositionGenerated} :
    db.getComposition runId = .ok (some composition) ↔
      (db.contexts.find runId).bind ContextRow.composition = some (.dump composition) := by
  unfold getComposition contextOf
  cases hrow : db.contexts.find runId with
  | none =>
      rw [orRaise_none, error_bind]
      exact iff_of_false nofun nofun
  | some row =>
      rw [orRaise_some, ok_bind, Option.bind_some]
      cases hcolumn : row.composition with
      | none => exact iff_of_false nofun nofun
      | some column =>
          obtain ⟨stored, rfl⟩ := column.exists_dump
          rw [loadOption, load_dump]
          constructor
          · intro h
            cases h
            rfl
          · intro h
            have hload := congrArg load (Option.some.inj h)
            rw [load_dump, load_dump] at hload
            rw [Except.ok.inj hload]
            rfl

theorem getRevision_congr (h : db'.revisions.find runId = db.revisions.find runId) :
    db'.getRevision runId = db.getRevision runId := by
  unfold getRevision
  rw [h]

namespace KeepsVersions

theorem refl (db : Database) : KeepsVersions db db := ⟨fun _ _ h => h, fun _ _ h => h⟩

theorem trans {db'' : Database} (h : KeepsVersions db db') (h' : KeepsVersions db' db'') :
    KeepsVersions db db'' where
  compositions runId composition hstored :=
    h'.compositions runId composition (h.compositions runId composition hstored)
  revisions runId revision hstored :=
    h'.revisions runId revision (h.revisions runId revision hstored)

theorem revisedArtifacts_subset (h : KeepsVersions db db') :
    db.revisedArtifacts ⊆ db'.revisedArtifacts := by
  rintro artifactId ⟨runId, composition, ⟨revision, hstored, hcomposition⟩, hartifact⟩
  exact ⟨runId, composition, ⟨revision, h.revisions runId revision hstored, hcomposition⟩,
    hartifact⟩

end KeepsVersions

namespace SameVersions

theorem refl (db : Database) : SameVersions db db := ⟨fun _ => rfl, fun _ => rfl⟩

theorem getComposition_iff (h : SameVersions db db') {composition : CompositionGenerated} :
    db'.getComposition runId = .ok (some composition) ↔
      db.getComposition runId = .ok (some composition) := by
  rw [getComposition_eq_some_iff, getComposition_eq_some_iff, h.compositions]

theorem keeps (h : SameVersions db db') : KeepsVersions db db' where
  compositions _ _ hstored := h.getComposition_iff.mpr hstored
  revisions _ _ hstored := (getRevision_congr (h.revisions _)).trans hstored

theorem composedArtifacts (h : SameVersions db db') :
    db'.composedArtifacts = db.composedArtifacts := by
  simp only [Database.composedArtifacts, h.getComposition_iff]

theorem revisedArtifacts (h : SameVersions db db') :
    db'.revisedArtifacts = db.revisedArtifacts := by
  simp only [Database.revisedArtifacts, getRevision_congr (h.revisions _)]

end SameVersions

/-! ## Transactions that store no version -/

section Same

theorem create_versions {run : ProjectRun} {request : Option RunCreate} {done : Unit}
    (hcommit : db.create run request = .ok (done, db')) : SameVersions db db' := by
  obtain ⟨runs, -, hcommit⟩ := bind_eq_ok.mp hcommit
  cases request with
  | none =>
      cases hcommit
      exact ⟨fun _ => rfl, fun _ => rfl⟩
  | some request =>
      obtain ⟨-, -, contexts, hcontexts, hvalue⟩ := by
        simpa only [bind_eq_ok, orRaise_eq_ok] using hcommit
      cases hvalue
      exact ⟨Table.bind_insert rfl hcontexts, fun _ => rfl⟩

theorem claimAnalysis_versions {claimedAt : Datetime} {claimed : Bool}
    (hcommit : db.claimAnalysis runId claimedAt = .ok (claimed, db')) : SameVersions db db' := by
  unfold claimAnalysis at hcommit
  split at hcommit
  · cases hcommit
    exact ⟨fun _ => rfl, fun _ => rfl⟩
  · cases hcommit
    exact .refl db

theorem completeAnalysis_versions {analysis : AdAnalysis} {repairAttempted : Bool}
    {status : ProjectRunStatus} {updatedAt : Datetime} {done : Unit}
    (hcommit : db.completeAnalysis runId analysis repairAttempted status updatedAt =
      .ok (done, db')) : SameVersions db db' := by
  simp only [completeAnalysis, bind_eq_ok, orRaise_eq_ok] at hcommit
  obtain ⟨contexts, hcontexts, runs, -, hvalue⟩ := hcommit
  cases hvalue
  exact ⟨Table.bind_updateWhere hcontexts fun _ => rfl, fun _ => rfl⟩

theorem recordFailure_versions {status : ProjectRunStatus} {warningCodes : List String}
    {updatedAt : Datetime} {done : Unit}
    (hcommit : db.recordFailure runId status warningCodes updatedAt = .ok (done, db')) :
    SameVersions db db' := by
  simp only [recordFailure, bind_eq_ok, orRaise_eq_ok] at hcommit
  obtain ⟨runs, -, hvalue⟩ := hcommit
  cases hvalue
  exact ⟨fun _ => rfl, fun _ => rfl⟩

theorem confirmBrandLock_versions {proposed : BrandLock} {confirmedAt : Datetime}
    {record : BrandLockConfirmationRecord}
    (hcommit : db.confirmBrandLock runId proposed confirmedAt = .ok (record, db')) :
    SameVersions db db' := by
  obtain ⟨⟨row, context⟩, -, hcommit⟩ := bind_eq_ok.mp hcommit
  obtain ⟨existing, -, hcommit⟩ := bind_eq_ok.mp hcommit
  cases existing with
  | some existing =>
      obtain ⟨-, -, hvalue⟩ := bind_eq_ok.mp hcommit
      cases hvalue
      exact .refl db
  | none =>
      simp only [bind_eq_ok, orRaise_eq_ok] at hcommit
      obtain ⟨-, -, -, -, encoded, -, analysis, -, validated, -, contexts, hcontexts, runs, -,
        hvalue⟩ := hcommit
      cases hvalue
      exact ⟨Table.bind_updateWhere hcontexts fun _ => rfl, fun _ => rfl⟩

theorem saveDraft_versions {draft record : DraftRecord}
    (hcommit : db.saveDraft runId draft = .ok (record, db')) : SameVersions db db' := by
  obtain ⟨⟨row, context⟩, -, hcommit⟩ := bind_eq_ok.mp hcommit
  obtain ⟨existing, -, hcommit⟩ := bind_eq_ok.mp hcommit
  cases existing with
  | some existing =>
      obtain ⟨-, -, hvalue⟩ := bind_eq_ok.mp hcommit
      cases hvalue
      exact .refl db
  | none =>
      simp only [bind_eq_ok, orRaise_eq_ok] at hcommit
      obtain ⟨-, -, encoded, -, confirmed, -, -, -, -, -, contexts, hcontexts, hvalue⟩ := hcommit
      cases hvalue
      exact ⟨Table.bind_updateWhere hcontexts fun _ => rfl, fun _ => rfl⟩

theorem saveCritique_versions {report : CritiqueReport} {record : CritiqueRecord}
    (hcommit : db.saveCritique runId report = .ok (record, db')) : SameVersions db db' := by
  obtain ⟨⟨row, context⟩, -, hcommit⟩ := bind_eq_ok.mp hcommit
  obtain ⟨-, -, hcommit⟩ := bind_eq_ok.mp hcommit
  obtain ⟨existing, -, hcommit⟩ := bind_eq_ok.mp hcommit
  cases existing with
  | some existing =>
      obtain ⟨-, -, hvalue⟩ := bind_eq_ok.mp hcommit
      cases hvalue
      exact .refl db
  | none =>
      simp only [bind_eq_ok, orRaise_eq_ok] at hcommit
      obtain ⟨-, -, contexts, hcontexts, runs, -, hvalue⟩ := hcommit
      cases hvalue
      exact ⟨Table.bind_updateWhere hcontexts fun _ => rfl, fun _ => rfl⟩

theorem claimFeedbackOperation_versions {keyDigest fingerprint feedbackDigest : String}
    {requestedChanges : List RevisionChange} {claimedAt : Datetime} {record : OperationRecord}
    (hcommit : db.claimFeedbackOperation runId keyDigest fingerprint requestedChanges
      feedbackDigest claimedAt = .ok (record, db')) : SameVersions db db' := by
  unfold claimFeedbackOperation at hcommit
  split at hcommit
  · obtain ⟨_, -, hvalue⟩ := bind_eq_ok.mp hcommit
    cases hvalue
    exact .refl db
  · simp only [bind_eq_ok, orRaise_eq_ok] at hcommit
    obtain ⟨-, -, -, -, run, -, -, -, ⟨operations, row⟩, -, runs, -, _, -, hvalue⟩ := hcommit
    cases hvalue
    exact ⟨fun _ => rfl, fun _ => rfl⟩

theorem failRevisionOperation_versions {operationId : Nat} {condition : RetryCondition}
    {action : RetryAction} {failedAt : Datetime} {record : OperationRecord}
    (hcommit : db.failRevisionOperation runId operationId condition action failedAt =
      .ok (record, db')) : SameVersions db db' := by
  simp only [failRevisionOperation, bind_eq_ok, orRaise_eq_ok] at hcommit
  obtain ⟨-, -, row, -, _, -, hvalue⟩ := hcommit
  cases hvalue
  exact ⟨fun _ => rfl, fun _ => rfl⟩

theorem claimRetryOperation_versions {keyDigest fingerprint : String} {claimedAt : Datetime}
    {record : OperationRecord}
    (hcommit : db.claimRetryOperation runId keyDigest fingerprint claimedAt =
      .ok (record, db')) : SameVersions db db' := by
  unfold claimRetryOperation at hcommit
  split at hcommit
  · obtain ⟨_, -, hvalue⟩ := bind_eq_ok.mp hcommit
    cases hvalue
    exact .refl db
  · simp only [bind_eq_ok, orRaise_eq_ok] at hcommit
    obtain ⟨run, -, -, -, source, -, _, -, ⟨operations, row⟩, -, _, -, hvalue⟩ := hcommit
    cases hvalue
    exact ⟨Table.bind_update fun _ => rfl, fun _ => rfl⟩

end Same

/-! ## Transactions that store a version -/

theorem versions_of_composed {composition : CompositionGenerated}
    (hbefore : (db.contexts.find runId).bind ContextRow.composition = none)
    (hafter : (db'.contexts.find runId).bind ContextRow.composition = some (.dump composition))
    (hother : ∀ other, other ≠ runId → (db'.contexts.find other).bind ContextRow.composition =
      (db.contexts.find other).bind ContextRow.composition)
    (hrevisions : ∀ other, db'.revisions.find other = db.revisions.find other) :
    KeepsVersions db db' ∧
      db'.composedArtifacts = insert composition.artifactId db.composedArtifacts ∧
      db'.revisedArtifacts = db.revisedArtifacts := by
  have hnone (other : CompositionGenerated) : db.getComposition runId ≠ .ok (some other) := by
    rw [ne_eq, getComposition_eq_some_iff, hbefore]
    exact nofun
  have hnew (other : CompositionGenerated) :
      db'.getComposition runId = .ok (some other) ↔ other = composition := by
    rw [getComposition_eq_some_iff, hafter, Option.some_inj]
    constructor
    · intro h
      have hload := congrArg load h
      rw [load_dump, load_dump] at hload
      exact (Except.ok.inj hload).symm
    · rintro rfl
      rfl
  have hold (runId' : UUID) (hne : runId' ≠ runId) (other : CompositionGenerated) :
      db'.getComposition runId' = .ok (some other) ↔
        db.getComposition runId' = .ok (some other) := by
    rw [getComposition_eq_some_iff, getComposition_eq_some_iff, hother runId' hne]
  refine ⟨⟨fun runId' other h => ?_, fun runId' other h => ?_⟩, ?_, ?_⟩
  · have hne : runId' ≠ runId := by
      rintro rfl
      exact hnone other h
    exact (hold runId' hne other).mpr h
  · exact (getRevision_congr (hrevisions runId')).trans h
  · exact artifactsOf_insert hnone hnew hold
  · simp only [revisedArtifacts, getRevision_congr (hrevisions _)]

theorem versions_of_revised {row : RevisionRow} {revision : RevisionRecord}
    (hbefore : db.revisions.find runId = none) (hafter : db'.revisions.find runId = some row)
    (hrow : revisionRecord runId row = .ok revision)
    (hother : ∀ other, other ≠ runId → db'.revisions.find other = db.revisions.find other)
    (hcompositions : ∀ other, (db'.contexts.find other).bind ContextRow.composition =
      (db.contexts.find other).bind ContextRow.composition) :
    KeepsVersions db db' ∧ db'.composedArtifacts = db.composedArtifacts ∧
      db'.revisedArtifacts = insert revision.composition.artifactId db.revisedArtifacts := by
  have hnone (other : CompositionGenerated) : ¬∃ revision,
      db.getRevision runId = .ok (some revision) ∧ revision.composition = other := by
    rintro ⟨revision, h, -⟩
    rw [getRevision, hbefore] at h
    cases h
  have hnew (other : CompositionGenerated) : (∃ revision,
      db'.getRevision runId = .ok (some revision) ∧ revision.composition = other) ↔
        other = revision.composition := by
    have hstored : db'.getRevision runId = .ok (some revision) := by
      rw [getRevision, hafter]
      exact congrArg (Except.map some) hrow
    rw [hstored]
    constructor
    · rintro ⟨_, ⟨⟩, rfl⟩
      rfl
    · rintro rfl
      exact ⟨revision, rfl, rfl⟩
  have hold (runId' : UUID) (hne : runId' ≠ runId) (other : CompositionGenerated) :
      (∃ revision, db'.getRevision runId' = .ok (some revision) ∧ revision.composition = other) ↔
        ∃ revision, db.getRevision runId' = .ok (some revision) ∧
          revision.composition = other := by
    rw [getRevision_congr (hother runId' hne)]
  have hsame (runId' : UUID) (other : CompositionGenerated) :
      db'.getComposition runId' = .ok (some other) ↔
        db.getComposition runId' = .ok (some other) := by
    rw [getComposition_eq_some_iff, getComposition_eq_some_iff, hcompositions]
  refine ⟨⟨fun runId' other h => (hsame runId' other).mpr h, fun runId' other h => ?_⟩, ?_, ?_⟩
  · have hne : runId' ≠ runId := by
      rintro rfl
      exact hnone other.composition ⟨other, h, rfl⟩
    exact (getRevision_congr (hother runId' hne)).trans h
  · simp only [composedArtifacts, hsame]
  · exact artifactsOf_insert hnone hnew hold

/-- The stored composition is the one that was to be stored, and if it was not there before,
none was. -/
theorem saveComposition_versions {composition stored : CompositionGenerated}
    (hcommit : db.saveComposition runId composition = .ok (stored, db')) :
    stored = composition ∧ db'.getComposition runId = .ok (some composition) ∧
      (db' = db ∨ KeepsVersions db db' ∧
        db'.composedArtifacts = insert composition.artifactId db.composedArtifacts ∧
        db'.revisedArtifacts = db.revisedArtifacts) := by
  obtain ⟨⟨row, context⟩, hjoined, hcommit⟩ := bind_eq_ok.mp hcommit
  obtain ⟨_, -, hpair⟩ := bind_eq_ok.mp hjoined
  obtain ⟨rfl, rfl⟩ := Prod.mk.inj (Except.ok.inj hpair)
  cases hcolumn : (db.contexts.find runId).bind ContextRow.composition with
  | some column =>
      obtain ⟨existing, rfl⟩ := column.exists_dump
      simp only [hcolumn, bind_eq_ok, load_dump, require_eq_ok] at hcommit
      obtain ⟨_, hload, -, rfl, hvalue⟩ := hcommit
      cases hload
      cases hvalue
      exact ⟨rfl, getComposition_eq_some_iff.mpr hcolumn, .inl rfl⟩
  | none =>
      simp only [hcolumn, bind_eq_ok, orRaise_eq_ok] at hcommit
      obtain ⟨-, -, encoded, -, -, -, confirmed, -, -, -, contexts, hcontexts, hvalue⟩ := hcommit
      obtain ⟨context, -, -, hset⟩ := Table.updateWhere_eq_some hcontexts
      have hafter : (contexts.find runId).bind ContextRow.composition =
          some (.dump composition) := by
        rw [hset, Table.find_set_self]
        rfl
      have hother : ∀ other, other ≠ runId → (contexts.find other).bind ContextRow.composition =
          (db.contexts.find other).bind ContextRow.composition := by
        intro other hne
        rw [hset, Table.find_set_ne _ _ hne]
      cases hvalue
      exact ⟨rfl, getComposition_eq_some_iff.mpr hafter,
        .inr (versions_of_composed hcolumn hafter hother fun _ => rfl)⟩

/-- The row that a revision is stored as. -/
def revisionRow (revision : RevisionRecord) : RevisionRow where
  resultVersion := 2
  requestedChanges := .dump revision.requestedChanges
  feedbackDigest := revision.feedbackDigest
  creativeBrief := .dump revision.draft.brief
  adCopy := .dump revision.draft.adCopy
  factReferences := .dump revision.draft.factReferences
  ruleIds := .dump revision.draft.ruleIds
  composition := .dump revision.composition
  critique := .dump revision.critique
  revisedAt := revision.revisedAt

theorem revisionRecord_revisionRow (runId : UUID) (revision : RevisionRecord) :
    ∃ record, revisionRecord runId (revisionRow revision) = .ok record ∧
      record.composition = revision.composition := by
  simp only [revisionRecord, revisionRow, load_dump, ok_bind]
  exact ⟨_, rfl, rfl⟩

/-- A revision that is completed is stored, where none was. -/
theorem completeRevision_versions {operationId : Nat} {revision : RevisionRecord}
    {publicResponse : RevisionCompleted} {done : Unit}
    (hcommit : db.completeRevision runId operationId revision publicResponse =
      .ok (done, db')) :
    KeepsVersions db db' ∧ db'.composedArtifacts = db.composedArtifacts ∧
      db'.revisedArtifacts = insert revision.composition.artifactId db.revisedArtifacts := by
  simp only [completeRevision, bind_eq_ok, orRaise_eq_ok] at hcommit
  obtain ⟨operation, -, -, -, revisions, hrevisions, contexts, hcontexts, hvalue⟩ := hcommit
  obtain ⟨hnone, hset⟩ := Table.insert_eq_some hrevisions
  have hafter : revisions.find runId = some (revisionRow revision) := by
    rw [hset]
    exact Table.find_set_self _ _ _
  have hother : ∀ other, other ≠ runId → revisions.find other = db.revisions.find other := by
    intro other hne
    rw [hset, Table.find_set_ne _ _ hne]
  obtain ⟨record, hread, hrecord⟩ := revisionRecord_revisionRow runId revision
  cases hvalue
  rw [← hrecord]
  exact versions_of_revised hnone hafter hread hother
    (Table.bind_updateWhere hcontexts fun _ => rfl)

end Database

end CultureShift
