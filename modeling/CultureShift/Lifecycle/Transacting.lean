/-
# What requests write

A request writes only in the transactions of its run. A relation between
databases that all of them keep is therefore kept by every step of every
request.
-/

import CultureShift.Concurrent.History
import CultureShift.Lifecycle.Elsewhere
import CultureShift.Lifecycle.Workflow

namespace CultureShift

open Serialization Relational Concurrent

variable {κ α β ν : Type} {kept : Database → Database → Prop} {seen : κ → ν}

/-! ## Programs -/

/-- Every step keeps the relation and what is seen elsewhere, and a value that is returned is one
of these. -/
def Writes (kept : Database → Database → Prop) (seen : κ → ν) (returns : α → Prop)
    (program : Program (World κ) Exc α) : Prop :=
  program.Meets (fun _ => True) (fun before after => kept before.database after.database ∧
    seen after.rest = seen before.rest) returns fun _ => True

/-- Every transaction on the run keeps the relation. -/
structure Transacts (runId : UUID) (kept : Database → Database → Prop) : Prop where
  refl : ∀ db, kept db db
  claimAnalysis : ∀ {claimedAt db claimed db'},
    Database.claimAnalysis runId claimedAt db = .ok (claimed, db') → kept db db'
  completeAnalysis : ∀ {analysis repairAttempted updatedAt db done db'},
    Database.completeAnalysis runId analysis repairAttempted .awaitingBrandLock updatedAt db =
      .ok (done, db') → kept db db'
  recordFailure : ∀ {status warningCodes updatedAt db done db'},
    status = .blocked ∨ status = .failed →
    Database.recordFailure runId status warningCodes updatedAt db = .ok (done, db') → kept db db'
  confirmBrandLock : ∀ {proposed confirmedAt db record db'},
    Database.confirmBrandLock runId proposed confirmedAt db = .ok (record, db') → kept db db'
  saveDraft : ∀ {draft db record db'},
    Database.saveDraft runId draft db = .ok (record, db') → kept db db'
  saveComposition : ∀ {composition db record db'},
    Database.saveComposition runId composition db = .ok (record, db') → kept db db'
  saveCritique : ∀ {report db record db'},
    Database.saveCritique runId report db = .ok (record, db') → kept db db'
  claimFeedbackOperation : ∀ {keyDigest fingerprint changes feedbackDigest claimedAt db record db'},
    Database.claimFeedbackOperation runId keyDigest fingerprint changes feedbackDigest claimedAt
      db = .ok (record, db') → kept db db'
  failRevisionOperation : ∀ {operationId condition action failedAt db record db'},
    Database.failRevisionOperation runId operationId condition action failedAt db =
      .ok (record, db') → kept db db'
  claimRetryOperation : ∀ {keyDigest fingerprint claimedAt db record db'},
    Database.claimRetryOperation runId keyDigest fingerprint claimedAt db = .ok (record, db') →
      kept db db'
  completeRevision : ∀ {operationId revision response db done db'},
    Database.completeRevision runId operationId revision response db = .ok (done, db') →
      kept db db'

namespace Writes

variable {returns : α → Prop} {program : Program (World κ) Exc α}

theorem ret {value : α} (h : returns value) :
    Writes kept seen returns (.ret value : Program (World κ) Exc α) := h

theorem raise (failure : Exc) :
    Writes kept seen returns (.raise failure : Program (World κ) Exc α) := trivial

theorem mono {returns' : α → Prop} (h : Writes kept seen returns program)
    (hreturns : ∀ value, returns value → returns' value) : Writes kept seen returns' program :=
  Program.meets_mono h hreturns fun _ h => h

theorem bind {returns' : β → Prop} {rest : α → Program (World κ) Exc β}
    (h : Writes kept seen returns program)
    (hrest : ∀ value, returns value → Writes kept seen returns' (rest value)) :
    Writes kept seen returns' (program >>= rest) :=
  Program.meets_bind (Program.meets_mono h hrest fun _ h => h)

theorem tryCatch {handler : Exc → Program (World κ) Exc α} (h : Writes kept seen returns program)
    (hhandler : ∀ failure, Writes kept seen returns (handler failure)) :
    Writes kept seen returns (program.tryCatch handler) :=
  Program.meets_tryCatch (Program.meets_mono h (fun _ h => h) fun failure _ => hhandler failure)

theorem attempt (h : Writes kept seen returns program) :
    Writes kept seen (fun outcome => ∀ value, outcome = .ok value → returns value)
      program.attempt := by
  induction program with
  | ret value =>
      rintro _ ⟨⟩
      exact h
  | raise failure => exact nofun
  | atomic effect next ih =>
      intro state _
      obtain ⟨hstep, hnext⟩ := h state trivial
      exact ⟨hstep, ih state hnext⟩
  | choose κ next ih => exact fun answer => ih answer (h answer)

theorem ofExcept {body : Except Exc α} (h : ∀ value, body = .ok value → returns value) :
    Writes kept seen returns (.ofExcept body : Program (World κ) Exc α) :=
  Program.meets_ofExcept h fun _ _ => trivial

variable (hrefl : ∀ db, kept db db)
include hrefl

theorem outside_returns {program : Program κ Exc α} (h : Elsewhere seen program)
    (hreturns : program.Returns returns) : Writes kept seen returns (outside program) := by
  induction program with
  | ret value => exact hreturns
  | raise failure => trivial
  | atomic effect next ih =>
      intro world _
      obtain ⟨hstep, hnext⟩ := h world.rest trivial
      exact ⟨⟨hrefl world.database, hstep⟩, ih world.rest hnext (hreturns world.rest trivial).2⟩
  | choose κ next ih => exact fun answer => ih answer (h answer) (hreturns answer)

theorem outside {program : Program κ Exc α} (h : Elsewhere seen program) :
    Writes kept seen (fun _ => True) (outside program) :=
  outside_returns hrefl h (Program.returns_true program)

variable {repository : Repository κ} (hrepository : repository.Elsewhere seen)
include hrepository

theorem query {read : Database → Except Exc α}
    (hread : ∀ db value, read db = .ok value → returns value) :
    Writes kept seen returns (repository.query read) := by
  refine .bind (.outside hrefl hrepository.connect) fun _ _ => Program.meets_transact ?_ ?_
  · intro world value after _ hcommit
    obtain ⟨answer, hanswer, heq⟩ := map_eq_ok.mp hcommit
    cases heq
    exact ⟨⟨hrefl world.database, rfl⟩, hread _ _ hanswer⟩
  · exact fun world _ _ _ => ⟨⟨hrefl world.database, rfl⟩, trivial⟩

theorem transaction {body : Database → Except Exc (α × Database)}
    (hbody : ∀ db value db', body db = .ok (value, db') → kept db db' ∧ returns value) :
    Writes kept seen returns (repository.transaction body) := by
  refine .bind (.outside hrefl hrepository.connect) fun _ _ => Program.meets_transact ?_ ?_
  · intro world value after _ hcommit
    obtain ⟨⟨answer, database⟩, hanswer, heq⟩ := map_eq_ok.mp hcommit
    cases heq
    obtain ⟨hkept, hreturns⟩ := hbody _ _ _ hanswer
    exact ⟨⟨hkept, rfl⟩, hreturns⟩
  · exact fun world _ _ _ => ⟨⟨hrefl world.database, rfl⟩, trivial⟩

/-- Whatever is read. -/
theorem read (read : Database → Except Exc α) :
    Writes kept seen (fun _ => True) (repository.query read) :=
  .query hrefl hrepository fun _ _ _ => trivial

end Writes

/-- Where every change is kept and nothing is looked at, any program will do. -/
theorem Writes.of_unseen (hkept : ∀ db db', kept db db') (program : Program (World κ) Exc α) :
    Writes kept (fun _ : κ => ()) (fun _ => True) program :=
  Program.meets_weaken Program.meets_trivial fun _ _ _ _ => ⟨hkept _ _, rfl⟩

theorem Writes.meets {returns : α → Prop} {program : Program (World κ) Exc α}
    (h : Writes kept seen returns program) :
    program.Meets (fun _ => True) (fun before after => kept before.database after.database ∧
      seen after.rest = seen before.rest) returns fun _ => True := h

-- From here on a program is taken apart by the rules, not by unfolding it.
attribute [irreducible] Writes

/-! ## The repository -/

section Repository

variable {runId : UUID} {repository : Repository κ} (h : Transacts runId kept)
  (hrepository : repository.Elsewhere seen)

/-- A run is read under its identifier. -/
theorem get_id {db : Database} {run : ProjectRun} (hget : db.get runId = .ok run) :
    run.id = runId := by
  obtain ⟨row, -, hget⟩ := bind_eq_ok.mp hget
  obtain ⟨warningCodes, -, hget⟩ := bind_eq_ok.mp hget
  exact (ProjectRun.of_validate hget).1

include h hrepository

theorem writes_get : Writes kept seen (·.id = runId) (repository.get runId) :=
  .query h.refl hrepository fun _ _ => get_id

omit h in
/-- A change of the status reads the clock and nothing else. -/
theorem writes_withStatus (hrefl : ∀ db, kept db db) {run : ProjectRun} (hrun : run.id = runId)
    (status : ProjectRunStatus) :
    Writes kept seen (fun updated => updated.id = runId ∧ updated.status = status)
      (run.withStatus repository.now status none) := by
  unfold ProjectRun.withStatus
  split_ifs
  · refine .bind (.outside hrefl hrepository.utcNow) fun updatedAt _ => .ofExcept ?_
    intro updated hupdated
    obtain ⟨hid, -, hstatus, -⟩ := ProjectRun.of_validate hupdated
    exact ⟨hid.trans hrun, hstatus⟩
  · exact .raise _

theorem writes_nowOr (given : Option Datetime) :
    Writes kept seen (fun _ => True) (repository.nowOr given) := by
  cases given with
  | none => exact .outside h.refl hrepository.utcNow
  | some given => exact .ret trivial

theorem writes_claimAnalysis : Writes kept seen (fun _ => True) (repository.claimAnalysis runId) :=
  .bind (.outside h.refl hrepository.utcNow) fun _ _ =>
    .bind (.transaction h.refl hrepository fun _ _ _ hbody => ⟨h.claimAnalysis hbody, trivial⟩)
      fun _ (_ : True) => .bind (writes_get h hrepository) fun _ _ => .ret trivial

theorem writes_recordFailure (status : ProjectRunStatus) (code : String) :
    Writes kept seen (fun _ => True) (repository.recordFailure runId status code) := by
  refine .bind (.ofExcept fun _ hrequire => require_eq_ok.mp hrequire) fun _ hstatus => ?_
  refine .bind (writes_get h hrepository) fun current hcurrent => ?_
  refine .bind (writes_withStatus hrepository h.refl hcurrent status)
    fun transitioned htransitioned => ?_
  refine .bind (.ofExcept fun updated hupdated => ?_)
    fun updated (hupdated : updated.id = runId ∧ updated.status = status) =>
      .bind (.transaction h.refl hrepository fun _ _ _ hbody => ⟨?_, trivial⟩) fun _ (_ : True) =>
        .ret trivial
  · obtain ⟨hid, -, hupdatedStatus, -⟩ := ProjectRun.of_validate hupdated
    exact ⟨hid.trans htransitioned.1, hupdatedStatus.trans htransitioned.2⟩
  · rw [hupdated.1, hupdated.2] at hbody
    exact h.recordFailure hstatus hbody

theorem writes_completeAnalysis (analysis : AdAnalysis) (repairAttempted : Bool) :
    Writes kept seen (fun _ => True)
      (repository.completeAnalysis runId analysis repairAttempted) := by
  refine .bind (writes_get h hrepository) fun current hcurrent => ?_
  refine .bind (.read h.refl hrepository _) fun _ _ => ?_
  refine .bind (.ofExcept fun _ _ => trivial) fun _ (_ : True) => ?_
  refine .bind (writes_withStatus hrepository h.refl hcurrent _) fun updated hupdated => ?_
  refine .bind (.transaction h.refl hrepository fun _ _ _ hbody => ⟨?_, trivial⟩)
    fun _ (_ : True) => .ret trivial
  rw [hupdated.2] at hbody
  exact h.completeAnalysis hbody

theorem writes_completeRevision (operationId : Nat) (revision : RevisionRecord)
    (response : RevisionCompleted) :
    Writes kept seen (fun _ => True)
      (repository.completeRevision runId operationId revision response) :=
  .bind (.transaction h.refl hrepository fun _ _ _ hbody => ⟨h.completeRevision hbody, trivial⟩)
    fun _ (_ : True) => .bind (.read h.refl hrepository _) fun _ _ => .ofExcept fun _ _ => trivial

end Repository

/-! ## The composition service -/

section Composing

theorem writes_render {studio : Studio κ} (hrefl : ∀ db, kept db db) (hstudio : studio.Spares seen)
    (run : ProjectRun) (lock : BrandLock) (brief : CreativeBrief) (adCopy : AdCopy) :
    Writes kept seen (fun _ => True) (studio.render run lock brief adCopy) :=
  .bind (.ofExcept fun _ _ => trivial) fun _ (_ : True) =>
    .bind (.outside hrefl (hstudio.generateBackground _)) fun _ _ =>
    .bind (.outside hrefl (hstudio.resolve _)) fun _ _ =>
    .bind (.ofExcept fun _ _ => trivial) fun _ (_ : True) =>
    .bind (.outside hrefl (hstudio.resolve _)) fun _ _ => .outside hrefl (hstudio.compose _)

theorem writes_saveArtifact {studio : Studio κ} (hrefl : ∀ db, kept db db)
    (hstudio : studio.Spares seen) (artifactId : UUID) (composed : ComposedAd) (now : Datetime) :
    Writes kept seen (fun _ => True) (studio.saveArtifact artifactId composed now) :=
  .bind (.ofExcept fun _ _ => trivial) fun _ (_ : True) => .outside hrefl (hstudio.save _ _ _)

variable {runId : UUID} {service : CompositionService κ} (h : Transacts runId kept)
  (hservice : service.Spares seen)
include h hservice

theorem writes_prepare : Writes kept seen (fun _ => True) (service.prepare runId) := by
  have hread {γ : Type} (read : Database → Except Exc γ) :
      Writes kept seen (fun _ => True) (service.repository.query read) :=
    .read h.refl hservice.repository read
  refine .tryCatch (.bind (hread _) fun existing _ => ?_) fun failure => ?_
  · cases existing with
    | some existing => exact .ret trivial
    | none =>
        exact .bind (hread _) fun _ _ => .bind (hread _) fun _ _ => .bind (hread _) fun _ _ =>
          .bind (hread _) fun _ _ => .bind (hread _) fun _ _ => .ret trivial
  · cases failure <;> exact .raise _

theorem writes_produce (run : ProjectRun) (lock : BrandLock) (draft : DraftRecord)
    (artifactId : UUID) (now : Datetime) :
    Writes kept seen (fun _ => True) (service.produce run lock draft artifactId now) := by
  refine .tryCatch (.bind (writes_render h.refl hservice.studio _ _ _ _) fun _ _ =>
    .bind (writes_saveArtifact h.refl hservice.studio _ _ _) fun _ _ =>
      .ofExcept fun _ _ => trivial) fun failure => ?_
  cases failure <;> first
    | exact .raise _
    | exact .bind (.outside h.refl (hservice.studio.delete _)) fun _ _ => .raise _

theorem writes_persist (artifactId : UUID) (summary : CompositionGenerated) :
    Writes kept seen (fun _ => True) (service.persist runId artifactId summary) := by
  refine .tryCatch (.bind (.ofExcept fun _ _ => trivial) fun _ (_ : True) =>
    .transaction h.refl hservice.repository fun _ _ _ hbody =>
      ⟨h.saveComposition hbody, trivial⟩) fun failure => ?_
  refine .bind (.outside h.refl (hservice.studio.delete _)) fun _ _ => ?_
  cases failure with
  | compositionImmutableError message =>
      refine .bind (.tryCatch (.read h.refl hservice.repository _) fun failure => ?_)
        fun replay _ => ?_
      · cases failure with
        | projectRunNotFoundError other => exact .ret trivial
        | _ => exact .raise _
      · cases replay with
        | some replay => exact .ret trivial
        | none => exact .raise _
  | _ => exact .raise _

theorem writes_generate : Writes kept seen (fun _ => True) (service.generate runId) := by
  refine .bind (writes_prepare h hservice) fun answer _ => ?_
  rcases answer with existing | ⟨run, request, analysis, confirmation, draft⟩
  · exact .ret trivial
  · dsimp only
    split_ifs
    · exact .raise _
    · exact .raise _
    · cases confirmation with
      | none => exact .raise _
      | some confirmation =>
          cases draft with
          | none => exact .raise _
          | some draft =>
              exact .bind (.outside h.refl hservice.studio.uuid4) fun _ _ =>
                .bind (.outside h.refl hservice.repository.utcNow) fun _ _ =>
                .bind (writes_produce h hservice _ _ _ _ _) fun _ _ =>
                  writes_persist h hservice _ _

end Composing

/-! ## The revision service -/

section Revising

variable {runId : UUID} {service : RevisionService κ} (h : Transacts runId kept)
  (hservice : service.Spares seen)
include h hservice

theorem writes_renderRevision {operation : OperationRecord} (hrun : operation.runId = runId)
    (artifactId : UUID) :
    Writes kept seen (fun rendered => rendered.run.id = runId)
      (service.renderRevision operation artifactId) := by
  subst hrun
  refine .bind (writes_get h hservice.repository) fun run hrun => ?_
  have hread {γ : Type} (read : Database → Except Exc γ) :
      Writes kept seen (fun _ => True) (service.repository.query read) :=
    .read h.refl hservice.repository read
  refine .bind (hread _) fun _ _ => .bind (hread _) fun _ _ => .bind (hread _) fun _ _ => ?_
  refine .bind (hread _) fun _ _ => .bind (hread _) fun _ _ => .bind (hread _) fun _ _ => ?_
  have hpass {γ : Type} {body : Except Exc γ} :
      Writes kept seen (fun _ => True) (.ofExcept body : Program (World κ) Exc γ) :=
    .ofExcept fun _ _ => trivial
  refine .bind hpass fun _ _ => .bind hpass fun _ _ => .bind hpass fun _ _ => ?_
  refine .bind hpass fun _ _ => .bind hpass fun _ _ => .bind hpass fun _ _ => ?_
  refine .bind hpass fun _ _ => .bind (.outside h.refl (hservice.revise _ _ _)) fun _ _ =>
    .bind (.outside h.refl hservice.repository.utcNow) fun _ _ => ?_
  exact .bind (writes_render h.refl hservice.studio _ _ _ _) fun _ _ =>
    .bind (writes_saveArtifact h.refl hservice.studio _ _ _) fun _ _ => .ret hrun

theorem writes_finishRevision (operation : OperationRecord) (artifactId : UUID)
    {rendered : RevisionService.Rendered} (hrun : rendered.run.id = runId) :
    Writes kept seen (fun _ => True) (service.finishRevision operation artifactId rendered) := by
  subst hrun
  refine .bind (.ofExcept fun _ _ => trivial) fun _ (_ : True) =>
    .bind (.outside h.refl (hservice.review _)) fun _ _ => ?_
  refine .bind (writes_get h hservice.repository) fun _ _ =>
    .bind (.ofExcept fun _ _ => trivial) fun _ (_ : True) => ?_
  exact .bind (writes_completeRevision h hservice.repository _ _ _) fun _ _ => .ret trivial

theorem writes_release {operation : OperationRecord} (hrun : operation.runId = runId)
    (retrying : Bool) : Writes kept seen (fun _ => True) (service.release operation retrying) := by
  subst hrun
  exact .tryCatch (.bind (.outside h.refl hservice.repository.utcNow) fun _ _ =>
    .bind (.transaction h.refl hservice.repository fun _ _ _ hbody =>
      ⟨h.failRevisionOperation hbody, trivial⟩) fun _ (_ : True) => .ret trivial) fun _ =>
        .ret trivial

theorem writes_recover {operation : OperationRecord} (hrun : operation.runId = runId)
    (retrying : Bool) (artifactId : UUID) (artifactSaved : Bool) (failure : Exc) :
    Writes kept seen (fun _ => True)
      (service.recover operation retrying artifactId artifactSaved failure) := by
  have hreport : Writes kept seen (fun _ => True)
      (service.recover operation retrying artifactId false failure) := by
    cases failure <;> first
      | exact .raise _
      | exact .bind (writes_release h hservice hrun retrying) fun _ _ => .raise _
  cases artifactSaved with
  | false => exact hreport
  | true => exact .bind (.outside h.refl (hservice.studio.delete _)) fun _ _ => hreport

theorem writes_execute {operation : OperationRecord} (hrun : operation.runId = runId)
    (retrying : Bool) : Writes kept seen (fun _ => True) (service.execute operation retrying) := by
  refine .bind (.outside h.refl hservice.studio.uuid4) fun artifactId _ =>
    .bind (writes_renderRevision h hservice hrun artifactId).attempt fun outcome hrendered => ?_
  cases outcome with
  | error failure => exact writes_recover h hservice hrun retrying artifactId false failure
  | ok rendered =>
      exact .tryCatch (writes_finishRevision h hservice operation artifactId (hrendered _ rfl))
        fun failure => writes_recover h hservice hrun retrying artifactId true failure

omit h hservice in
theorem writes_translating {claim : Program (World κ) Exc OperationRecord}
    {returns : OperationRecord → Prop} (hclaim : Writes kept seen returns claim) :
    Writes kept seen returns (RevisionService.translating claim) := by
  refine .tryCatch hclaim fun failure => ?_
  split_ifs
  · exact .raise _
  · exact .raise _

omit h hservice in
/-- A row is read with the run it belongs to. -/
theorem replay_runId {row : OperationRow} {fingerprint message : String}
    {record : OperationRecord} (hrow : row.runId = runId)
    (h : Database.replay row fingerprint message = .ok record) : record.runId = runId := by
  obtain ⟨_, hrecord, h⟩ := bind_eq_ok.mp h
  obtain ⟨-, -, h⟩ := bind_eq_ok.mp h
  obtain ⟨-, -, h⟩ := bind_eq_ok.mp h
  cases h
  exact (Database.of_operationRecord hrecord).2.1.trans hrow

omit h hservice in
theorem runId_of_find {table : OperationTable} {condition : OperationRow → Bool}
    {row : OperationRow}
    (h : (table.find fun row => row.runId = runId && condition row) = some row) :
    row.runId = runId := by
  have hfound := List.find?_some h
  simp only [Bool.and_eq_true, decide_eq_true_eq] at hfound
  exact hfound.1

omit h hservice in
theorem claimFeedback_runId {keyDigest fingerprint feedbackDigest : String}
    {changes : List RevisionChange} {claimedAt : Datetime} {db db' : Database}
    {record : OperationRecord}
    (h : db.claimFeedbackOperation runId keyDigest fingerprint changes feedbackDigest claimedAt =
      .ok (record, db')) : record.runId = runId := by
  unfold Database.claimFeedbackOperation at h
  split at h
  · next existing hfound =>
      obtain ⟨_, hreplay, hvalue⟩ := bind_eq_ok.mp h
      cases hvalue
      exact replay_runId (runId_of_find hfound) hreplay
  · simp only [bind_eq_ok, orRaise_eq_ok] at h
    obtain ⟨-, -, -, -, run, -, -, -, ⟨operations, row⟩, hinsert, runs, -, _, hrecord, hvalue⟩ := h
    cases hvalue
    rw [(Database.of_operationRecord hrecord).2.1, (OperationTable.insert_eq_some hinsert).1]

omit h hservice in
theorem claimRetry_runId {keyDigest fingerprint : String} {claimedAt : Datetime}
    {db db' : Database} {record : OperationRecord}
    (h : db.claimRetryOperation runId keyDigest fingerprint claimedAt = .ok (record, db')) :
    record.runId = runId := by
  unfold Database.claimRetryOperation at h
  split at h
  · next existing hfound =>
      obtain ⟨_, hreplay, hvalue⟩ := bind_eq_ok.mp h
      cases hvalue
      exact replay_runId (runId_of_find hfound) hreplay
  · simp only [bind_eq_ok, orRaise_eq_ok] at h
    obtain ⟨run, -, -, -, source, -, _, -, ⟨operations, row⟩, hinsert, _, hrecord, hvalue⟩ := h
    cases hvalue
    rw [(Database.of_operationRecord hrecord).2.1, (OperationTable.insert_eq_some hinsert).1]

theorem writes_submitFeedback (request : FeedbackRequest) (hrun : request.runId = runId)
    (key : String) : Writes kept seen (fun _ => True) (service.submitFeedback request key) := by
  subst hrun
  refine .bind (.ofExcept fun _ _ => trivial) fun _ (_ : True) =>
    .bind (.outside h.refl hservice.repository.utcNow) fun _ _ => ?_
  refine .bind (writes_translating (.transaction h.refl hservice.repository fun _ _ _ hbody =>
    ⟨h.claimFeedbackOperation hbody, claimFeedback_runId hbody⟩)) fun operation hoperation => ?_
  cases RevisionService.replayed operation with
  | some response => exact .ret trivial
  | none => exact writes_execute h hservice hoperation false

theorem writes_retry (request : RetryRequest) (hrun : request.runId = runId) (key : String) :
    Writes kept seen (fun _ => True) (service.retry request key) := by
  subst hrun
  refine .bind (.ofExcept fun _ _ => trivial) fun _ (_ : True) => ?_
  refine .bind (writes_translating (.bind (.outside h.refl hservice.repository.utcNow) fun _ _ =>
    .transaction h.refl hservice.repository fun _ _ _ hbody =>
      ⟨h.claimRetryOperation hbody, claimRetry_runId hbody⟩)) fun operation hoperation => ?_
  cases RevisionService.replayed operation with
  | some response => exact .ret trivial
  | none =>
      cases operation.retryCondition with
      | none => exact .raise _
      | some condition =>
          cases operation.retryAction with
          | none => exact .raise _
          | some action =>
              refine .bind (.read h.refl hservice.repository _) fun _ _ =>
                .bind (.ofExcept fun _ _ => trivial) fun decision (_ : True) => ?_
              split_ifs
              · exact writes_execute h hservice hoperation true
              · exact .raise _

end Revising

/-! ## The handlers -/

/-- The run that a request is about; a run that is created has no identifier yet. -/
def Request.runId? : Request → Option UUID
  | .createRun _ => none
  | .analyzeRun runId _ | .confirmBrandLock runId _ _ | .generateDraft runId _
  | .generateComposition runId _ | .runCritic runId _ | .submitFeedback runId _ _
  | .retryRevision runId _ _ => some runId
  | .feedbackCall feedback _ => some feedback.runId
  | .retryCall retry _ => some retry.runId

namespace App

variable {runId : UUID} (app : App κ) (request : HttpRequest)

theorem writes_createRun (body : RunCreate) (hrefl : ∀ db, kept db db) (happ : app.Spares seen)
    (hissue : ∀ subject capabilities, Elsewhere seen (app.tokens.issue subject capabilities))
    (hcreate : ∀ {id now db done db'},
      Database.create (.new id body.direction now) (some body) db = .ok (done, db') →
        kept db db') :
    Writes kept seen (fun _ => True) (app.createRun body) := by
  refine .tryCatch ?_ fun _ => .raise _
  refine .bind (.outside hrefl happ.uuid4) fun id _ =>
    .bind (.outside hrefl happ.runs.utcNow) fun now _ => ?_
  refine .bind (.outside hrefl (hissue _ _)) fun token _ => .bind (.ofExcept fun _ _ => trivial)
    fun response (_ : True) => ?_
  exact .bind (.bind (.transaction hrefl happ.runs fun _ _ _ hbody => ⟨hcreate hbody, trivial⟩)
    fun _ (_ : True) => .ret trivial) fun _ (_ : True) => .ret trivial

theorem writes_orNotFound {program : Program (World κ) Exc α} {returns : α → Prop}
    (hprogram : Writes kept seen returns program) :
    Writes kept seen returns (orNotFound program) := by
  refine .tryCatch hprogram fun failure => ?_
  cases failure <;> exact .raise _

variable (h : Transacts runId kept) (happ : app.Spares seen)
include h happ

theorem writes_requireCapability (required : Capability) :
    Writes kept seen (fun _ => True) (app.requireCapability required runId request) := by
  unfold requireCapability
  split
  · exact .raise _
  · refine .bind (.tryCatch (.outside h.refl (happ.verify _ _)) fun failure => ?_)
      fun claims _ => ?_
    · cases failure <;> exact .raise _
    · split_ifs
      · exact .ret trivial
      · exact .raise _

theorem writes_claimAndLoad : Writes kept seen (fun _ => True) (app.claimAndLoad runId) := by
  refine .tryCatch (.bind (.read h.refl happ.runs _) fun stored _ =>
    .bind (writes_claimAnalysis h happ.runs) fun claimed _ => ?_) fun failure => ?_
  · cases claimed with
    | none => exact .raise _
    | some run =>
        exact .bind (.outside h.refl (happ.assets _)) fun _ _ =>
          .bind (.ofExcept fun _ _ => trivial) fun _ (_ : True) => .ret trivial
  · cases failure <;> first
      | exact .bind (writes_recordFailure h happ.runs _ _) fun _ _ => .raise _
      | exact .raise _

theorem writes_analyzeClaimed (stored : RunCreate) (loaded : LoadedAsset) :
    Writes kept seen (fun _ => True) (app.analyzeClaimed runId stored loaded) := by
  refine .tryCatch (.outside h.refl (elsewhere_analyze happ.provider happ.pipelineNow _))
    fun failure => ?_
  cases failure with
  | analysisPipelineError code =>
      exact .bind (writes_recordFailure h happ.runs _ _) fun _ _ => .raise _
  | _ => exact .raise _

theorem writes_analyzeRun : Writes kept seen (fun _ => True) (app.analyzeRun runId request) := by
  refine .bind (app.writes_requireCapability request h happ _) fun _ _ => ?_
  refine .bind (writes_orNotFound (.read h.refl happ.runs _)) fun run _ => ?_
  split_ifs
  · refine .bind (.tryCatch (.read h.refl happ.runs _) fun _ => .ret trivial) fun existing _ => ?_
    cases existing with
    | none => exact .raise _
    | some analysis => exact .bind (.read h.refl happ.runs _) fun _ _ => .ret trivial
  · exact .raise _
  · refine .bind (app.writes_claimAndLoad h happ) fun (stored, loaded) _ => ?_
    refine .bind (app.writes_analyzeClaimed h happ stored loaded) fun outcome _ => ?_
    exact .bind (.tryCatch (writes_completeAnalysis h happ.runs _ _) fun _ => .raise _) fun _ _ =>
      .ret trivial

theorem writes_confirmBrandLock (brandLock : BrandLock) :
    Writes kept seen (fun _ => True) (app.confirmBrandLock runId brandLock request) := by
  refine .bind (app.writes_requireCapability request h happ _) fun _ _ => ?_
  refine .bind (.tryCatch (.bind (writes_nowOr h happ.runs none) fun _ _ =>
    .transaction h.refl happ.runs fun _ _ _ hbody => ⟨h.confirmBrandLock hbody, trivial⟩)
    fun failure => ?_) fun record (_ : True) => .ret trivial
  cases failure <;> exact .raise _

theorem writes_writeDraft (run : ProjectRun) (analysis : AdAnalysis) (confirmed : BrandLock) :
    Writes kept seen (fun _ => True) (app.writeDraft runId run analysis confirmed) := by
  have hgenerate :=
    elsewhere_generateDraftArtifacts happ.copywriter analysis confirmed run.direction
  refine .bind (.tryCatch (.outside h.refl hgenerate) fun failure => ?_) fun generated _ =>
    .tryCatch (.bind (writes_nowOr h happ.runs none) fun _ _ =>
      .transaction h.refl happ.runs fun _ _ _ hbody => ⟨h.saveDraft hbody, trivial⟩)
      fun failure => ?_
  · cases failure <;> exact .raise _
  · cases failure <;> exact .raise _

theorem writes_generateDraft :
    Writes kept seen (fun _ => True) (app.generateDraft runId request) := by
  have hresponse (id : UUID) (draft : DraftRecord) : Writes kept seen (fun _ => True)
      (draftResponse id draft : Program (World κ) Exc DraftGenerated) :=
    .ofExcept fun _ _ => trivial
  refine .bind (app.writes_requireCapability request h happ _) fun _ _ => ?_
  refine .bind (writes_orNotFound (.bind (.read h.refl happ.runs _) fun existing _ =>
    .bind (.read h.refl happ.runs _) fun run _ => .ret trivial))
    fun (existing, run) (_ : True) => ?_
  cases existing with
  | some existing => exact hresponse _ _
  | none =>
      refine .bind (writes_orNotFound (.bind (.read h.refl happ.runs _) fun analysis _ =>
        .bind (.read h.refl happ.runs _) fun confirmation _ => .ret trivial))
        fun (analysis, confirmation) (_ : True) => ?_
      cases analysis with
      | none => exact .raise _
      | some analysis =>
          cases confirmation with
          | none => exact .raise _
          | some confirmation =>
              dsimp only
              split_ifs
              · exact .raise _
              · exact .bind (app.writes_writeDraft h happ run analysis _) fun _ _ => hresponse _ _

theorem writes_generateComposition :
    Writes kept seen (fun _ => True) (app.generateComposition runId request) := by
  refine .bind (app.writes_requireCapability request h happ _) fun _ _ => ?_
  split_ifs
  · exact .raise _
  · refine .tryCatch (writes_generate h happ.compositions) fun failure => ?_
    cases failure <;> exact .raise _

theorem writes_reviewAndSave (run : ProjectRun) :
    Writes kept seen (fun _ => True) (app.reviewAndSave runId run) := by
  have hread {γ : Type} (read : Database → Except Exc γ) :
      Writes kept seen (fun _ => True) (app.runs.query read) :=
    .read h.refl happ.runs read
  refine .bind (hread _) fun analysis _ => .bind (hread _) fun confirmation _ => ?_
  refine .bind (hread _) fun draft _ => .bind (hread _) fun composition _ => ?_
  cases analysis <;> cases confirmation <;> cases draft <;> cases composition <;>
    try exact .raise _
  exact .bind (.outside h.refl (happ.review _)) fun _ _ =>
    .bind (.transaction h.refl happ.runs fun _ _ _ hbody => ⟨h.saveCritique hbody, trivial⟩)
      fun _ (_ : True) => .bind (.read h.refl happ.runs _) fun _ _ => .ret trivial

theorem writes_runCritic : Writes kept seen (fun _ => True) (app.runCritic runId request) := by
  refine .bind (app.writes_requireCapability request h happ _) fun _ _ => ?_
  unfold answerCritic
  split_ifs
  · exact .raise _
  · refine .bind (.tryCatch (.bind (.read h.refl happ.runs _) fun run _ =>
      .bind (.read h.refl happ.runs _) fun existing _ => ?_) fun failure => ?_)
      fun (run, report) (_ : True) => .ofExcept fun _ _ => trivial
    · cases existing with
      | some existing => exact .ret trivial
      | none => exact app.writes_reviewAndSave h happ run
    · cases failure <;> exact .raise _

theorem writes_revising {bodyRunId : UUID}
    {program : String → Program (World κ) Exc RevisionCompleted}
    (hprogram : bodyRunId = runId → ∀ key, Writes kept seen (fun _ => True) (program key)) :
    Writes kept seen (fun _ => True) (app.revising runId bodyRunId request program) := by
  refine .bind (app.writes_requireCapability request h happ _) fun _ _ => ?_
  split_ifs with hkey hrun
  · exact .raise _
  · exact .raise _
  · refine .tryCatch (hprogram (not_not.mp hrun) _) fun failure => ?_
    cases failure <;> exact .raise _

/-- Every step of a request on a run keeps what the transactions on the run keep. -/
theorem writes_handle {request : Request} (hrun : request.runId? = some runId) :
    Writes kept seen (fun _ => True) (app.handle request) := by
  have hrespond {γ : Type} {program : Program (World κ) Exc γ} {respond : γ → Response}
      (hprogram : Writes kept seen (fun _ => True) program) :
      Writes kept seen (fun _ => True) (program >>= fun value => .ret (respond value)) :=
    .bind hprogram fun _ _ => .ret trivial
  cases request with
  | createRun body => cases hrun
  | analyzeRun other request =>
      cases hrun
      exact hrespond (app.writes_analyzeRun request h happ)
  | confirmBrandLock other brandLock request =>
      cases hrun
      exact hrespond (app.writes_confirmBrandLock request h happ brandLock)
  | generateDraft other request =>
      cases hrun
      exact hrespond (app.writes_generateDraft request h happ)
  | generateComposition other request =>
      cases hrun
      exact hrespond (app.writes_generateComposition request h happ)
  | runCritic other request =>
      cases hrun
      exact hrespond (app.writes_runCritic request h happ)
  | submitFeedback other feedback request =>
      cases hrun
      exact hrespond (app.writes_revising request h happ fun hbody key =>
        writes_submitFeedback h happ.revisions feedback hbody key)
  | retryRevision other retry request =>
      cases hrun
      exact hrespond (app.writes_revising request h happ fun hbody key =>
        writes_retry h happ.revisions retry hbody key)
  | feedbackCall feedback key =>
      cases hrun
      exact hrespond (writes_submitFeedback h happ.revisions feedback rfl key)
  | retryCall retry key =>
      cases hrun
      exact hrespond (writes_retry h happ.revisions retry rfl key)

end App

/-! ## Every run -/

section Runs

variable {ι : Type} [DecidableEq ι] {app : App κ} {rest : κ} {inbox : ι → Request}
  {config : Config ι (World κ) Exc Response} {log : List (Event ι (World κ))}

/-- Every step of the workflow keeps what all transactions keep. -/
theorem kept_of_runs (hruns : Runs (workflow app rest inbox) log config)
    (htransacts : ∀ runId, Transacts runId kept)
    (hcreate : ∀ {id now body db done db'},
      Database.create (.new id body.direction now) (some body) db = .ok (done, db') → kept db db')
    {event : Event ι (World κ)} (hevent : event ∈ log) :
    kept event.before.database event.after.database := by
  have happ := app.spares_of_unseen
  have hwrites (request : Request) :
      Writes kept (fun _ : κ => ()) (fun _ => True) (app.handle request) := by
    cases hrun : request.runId? with
    | some runId => exact app.writes_handle (htransacts runId) happ hrun
    | none =>
        cases request with
        | createRun body =>
            exact .bind (app.writes_createRun body (htransacts ⟨0, by decide⟩).refl happ
              (fun _ _ => .of_unseen _) hcreate) fun _ _ => .ret trivial
        | _ => cases hrun
  exact ((hruns.meets (hwrites (inbox event.client)).meets fun _ _ _ => trivial).2
    event hevent rfl).1

end Runs

end CultureShift
