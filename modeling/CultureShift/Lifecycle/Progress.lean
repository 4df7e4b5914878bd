/-
# Progress of an undisturbed run

Safety says nothing of a workflow that refuses every request. Here every request
of the first version is served alone, with a database that opens and a clock
that stands still, and moves its run one stage on. The transactions are those
of the interleaved requests, so the stages are reachable.
-/

import CultureShift.Lifecycle.Workflow

namespace CultureShift

open Serialization Relational Concurrent

variable {ι κ α : Type}

/-! ## A database that opens, a clock that stands still -/

/-- A repository without faults, at one instant. -/
def Repository.quiet (now : Datetime) : Repository κ where
  connect := pure ()
  utcNow := pure now
  connect_raises := trivial
  utcNow_raises := trivial

/-- What a program does outside the database, it does there alone. -/
theorem exec_outside {program : Program κ Exc α} {outcome : Except Exc α} {rest rest' : κ}
    (h : program.exec rest = some (outcome, rest')) (db : Database) :
    (outside program).exec ⟨db, rest⟩ = some (outcome, ⟨db, rest'⟩) := by
  induction program generalizing rest with
  | ret value =>
      cases h
      rfl
  | raise error =>
      cases h
      rfl
  | atomic effect next ih => exact ih rest h
  | choose ι next _ => cases h

theorem exec_outside_pure {program : Program κ Exc α} {value : α} (h : program = pure value)
    (world : World κ) : (outside program).exec world = some (.ok value, world) := by
  rw [h]
  rfl

theorem exec_ofExcept {body : Except Exc α} {value : α} (h : body = .ok value) (world : World κ) :
    (Program.ofExcept body : Program (World κ) Exc α).exec world = some (.ok value, world) := by
  rw [h]
  rfl

theorem validated_of_some {validation : Option α} {value : α} (h : validation = some value) :
    validated validation = .ok value := by
  rw [h]
  rfl

section Quiet

variable {now : Datetime} {db db' : Database} {rest : κ} {value : α}

theorem exec_query {read : Database → Except Exc α} (h : read db = .ok value) :
    ((Repository.quiet now).query read).exec ⟨db, rest⟩ = some (.ok value, ⟨db, rest⟩) :=
  Program.exec_transact (by simp [h, Except.map])

theorem exec_transaction {body : Database → Except Exc (α × Database)}
    (h : body db = .ok (value, db')) :
    ((Repository.quiet now).transaction body).exec ⟨db, rest⟩ = some (.ok value, ⟨db', rest⟩) :=
  Program.exec_transact (by simp [h, Except.map])

theorem exec_transaction_error {body : Database → Except Exc (α × Database)} {failure : Exc}
    (h : body db = .error failure) :
    ((Repository.quiet now).transaction body).exec ⟨db, rest⟩ = some (.error failure, ⟨db, rest⟩) :=
  Program.exec_transact_error (by simp [h, Except.map])

theorem step_query {read : Database → Except Exc α} (h : read db = .ok value) :
    ((Repository.quiet now).query read).Step ⟨db, rest⟩ (.ret value) ⟨db, rest⟩ :=
  Program.step_transact (by simp [h, Except.map])

theorem step_transaction {body : Database → Except Exc (α × Database)}
    (h : body db = .ok (value, db')) :
    ((Repository.quiet now).transaction body).Step ⟨db, rest⟩ (.ret value) ⟨db', rest⟩ :=
  Program.step_transact (by simp [h, Except.map])

/-- An allowed transition is made at once. -/
theorem exists_withStatus {run : ProjectRun} {status : ProjectRunStatus}
    (hallowed : status ∈ allowedTransitions run.status) (hcreated : run.createdAt ≤ now) :
    ∃ updated : ProjectRun, updated.id = run.id ∧ updated.status = status ∧
      updated.updatedAt = now ∧
      run.withStatus (Repository.quiet now).now status none =
        (pure updated : Program (World κ) Exc ProjectRun) := by
  let updated : ProjectRun := { run with
    status := status
    updatedAt := now
    timestamps_valid := hcreated }
  have hvalidate : ProjectRun.validate run.id run.direction status run.warningCodes
      run.initialGenerationCount run.humanRevisionCount run.technicalAttemptCount run.createdAt
      now = .ok updated :=
    dif_pos ⟨run.warning_codes_valid, run.counts_valid, hcreated⟩
  refine ⟨updated, rfl, rfl, rfl, ?_⟩
  rw [ProjectRun.withStatus, if_pos hallowed]
  exact congrArg Program.ofExcept hvalidate

theorem Repository.exec_claimAnalysis {runId : UUID} {run : ProjectRun}
    (hcommit : db.claimAnalysis runId now = .ok (true, db')) (hget : db'.get runId = .ok run) :
    ((Repository.quiet now).claimAnalysis runId).exec ⟨db, rest⟩ =
      some (.ok (some run), ⟨db', rest⟩) := by
  refine (Program.exec_bind (exec_outside_pure rfl _)).trans ?_
  refine (Program.exec_bind (exec_transaction hcommit)).trans ?_
  exact Program.exec_bind (exec_query hget)

theorem Repository.exec_updateStatus {runId : UUID} {run : ProjectRun} {status : ProjectRunStatus}
    (hget : db.get runId = .ok run) (hid : run.id = runId)
    (hallowed : status ∈ allowedTransitions run.status) (hcreated : run.createdAt ≤ now)
    (hcommit : db.updateStatus runId status now = .ok ((), db')) :
    ∃ updated, ((Repository.quiet now).updateStatus runId status).exec ⟨db, rest⟩ =
      some (.ok updated, ⟨db', rest⟩) := by
  obtain ⟨updated, hupdated, hstatus, htime, htransition⟩ := exists_withStatus hallowed hcreated
  refine ⟨updated, ?_⟩
  refine (Program.exec_bind (exec_query hget)).trans ?_
  rw [htransition, Program.pure_eq_ret, Program.bind_ret, hupdated, hid, hstatus, htime]
  exact Program.exec_bind (exec_transaction hcommit)

theorem Repository.exec_completeAnalysis {runId : UUID} {run : ProjectRun} {request : RunCreate}
    {analysis : AdAnalysis} {repairAttempted : Bool} (hget : db.get runId = .ok run)
    (hprogress : run.status = .inProgress) (hcreated : run.createdAt ≤ now)
    (hrequest : db.getRequest runId = .ok request)
    (hmatches : analysis.sourceAsset = request.sourceAsset ∧
      analysis.brandLock = request.brandLock)
    (hcommit : db.completeAnalysis runId analysis repairAttempted .awaitingBrandLock now =
      .ok ((), db')) :
    ∃ updated, ((Repository.quiet now).completeAnalysis runId analysis repairAttempted).exec
      ⟨db, rest⟩ = some (.ok updated, ⟨db', rest⟩) := by
  have hallowed : ProjectRunStatus.awaitingBrandLock ∈ allowedTransitions run.status := by
    rw [hprogress]
    exact List.mem_cons_self
  obtain ⟨updated, -, hstatus, htime, htransition⟩ := exists_withStatus hallowed hcreated
  refine ⟨updated, ?_⟩
  refine (Program.exec_bind (exec_query hget)).trans ?_
  refine (Program.exec_bind (exec_query hrequest)).trans ?_
  refine (Program.exec_bind (exec_ofExcept (require_of _ hmatches) _)).trans ?_
  rw [htransition, Program.pure_eq_ret, Program.bind_ret, hstatus, htime]
  exact Program.exec_bind (exec_transaction hcommit)

end Quiet

/-! ## Transactions that commit -/

namespace Database

/-- The run is at a stage and can be read at `now`: it was created and last
updated by then, and nothing is held against it. -/
structure At (db : Database) (now : Datetime) (runId : UUID) (stage : Stage) : Prop where
  shows : db.Shows runId stage
  timely : ∃ row, db.runs.find runId = some row ∧ row.warningCodes = .dump [] ∧
    row.createdAt ≤ row.updatedAt ∧ row.updatedAt ≤ now

variable {db : Database} {now : Datetime} {runId : UUID} {stage : Stage}

/-- A run whose row and context fit together can be read. -/
theorem exists_get {row : RunRow} {context : ContextRow} (hrow : db.runs.find runId = some row)
    (hcontext : db.contexts.find runId = some context) (hcodes : row.warningCodes = .dump [])
    (hcounts : context.initialGenerationCount ≤ 1 ∧ context.humanRevisionCount ≤ 1)
    (hupdated : row.createdAt ≤ row.updatedAt) :
    ∃ run, db.get runId = .ok run ∧ run.id = runId ∧ run.status = row.status ∧
      run.warningCodes = [] ∧ run.createdAt = row.createdAt := by
  have hvalid : ValidWarningCodes [] := by decide
  refine ⟨⟨runId, row.direction, row.status, [], context.initialGenerationCount,
    context.humanRevisionCount, context.technicalAttemptCount, row.createdAt, row.updatedAt,
    hvalid, hcounts, hupdated⟩, ?_, rfl, rfl, rfl, rfl⟩
  simp only [Database.get, hrow, hcontext, orRaise_some, ok_bind, hcodes, load_dump,
    ProjectRun.validate, hvalid, hupdated, and_true, true_and]
  exact dif_pos hcounts

theorem At.get (h : db.At now runId stage) :
    ∃ run, db.get runId = .ok run ∧ run.warningCodes = [] ∧ run.createdAt ≤ now := by
  obtain ⟨row, hrow, hcodes, hupdated, hnow⟩ := h.timely
  have hcounts : stage.context.initialGenerationCount ≤ 1 ∧
      stage.context.humanRevisionCount ≤ 1 := by
    constructor <;> simp only [Stage.context] <;> split <;> decide
  obtain ⟨run, hget, -, -, hnone, hcreated⟩ :=
    exists_get hrow h.shows.context hcodes hcounts hupdated
  exact ⟨run, hget, hnone, hcreated ▸ hupdated.trans hnow⟩

/-- The row of a run at a stage. -/
theorem At.row (h : db.At now runId stage) :
    ∃ row, db.runs.find runId = some row ∧ row.direction = stage.request.direction ∧
      row.status = stage.status ∧ row.warningCodes = .dump [] ∧ row.createdAt ≤ now := by
  obtain ⟨row, hrow, hcodes, hupdated, hnow⟩ := h.timely
  obtain ⟨row', hrow', hdirection, hstatus⟩ := h.shows.run
  obtain rfl := Option.some.inj (hrow.symm.trans hrow')
  exact ⟨row, hrow, hdirection, hstatus, hcodes, hupdated.trans hnow⟩

/-- The next stage, with the rows of the run and of its context replaced. -/
theorem At.move (h : db.At now runId stage) (row : RunRow) (stage' : Stage)
    (hdirection : row.direction = stage'.request.direction) (hstatus : row.status = stage'.status)
    (hcodes : row.warningCodes = .dump []) (hupdated : row.createdAt ≤ row.updatedAt)
    (hnow : row.updatedAt ≤ now) (hrevised : stage'.revised? = stage.revised?)
    (hoperations : stage'.operations runId = stage.operations runId) :
    At { db with
      runs := db.runs.set runId row
      contexts := db.contexts.set runId stage'.context } now runId stage' where
  shows :=
    { run := ⟨row, Table.find_set_self _ _ _, hdirection, hstatus⟩
      context := Table.find_set_self _ _ _
      revision := by rw [hrevised]; exact h.shows.revision
      operations := by rw [hoperations]; exact h.shows.operations }
  timely := ⟨row, Table.find_set_self _ _ _, hcodes, hupdated, hnow⟩

/-- The next stage, with only the context replaced. -/
theorem At.fill (h : db.At now runId stage) (stage' : Stage)
    (hdirection : stage'.request.direction = stage.request.direction)
    (hstatus : stage'.status = stage.status) (hrevised : stage'.revised? = stage.revised?)
    (hoperations : stage'.operations runId = stage.operations runId) :
    At { db with contexts := db.contexts.set runId stage'.context } now runId stage' where
  shows :=
    { run := by rw [hdirection, hstatus]; exact h.shows.run
      context := Table.find_set_self _ _ _
      revision := by rw [hrevised]; exact h.shows.revision
      operations := by rw [hoperations]; exact h.shows.operations }
  timely := h.timely

theorem create_of_absent (run : ProjectRun) (request : RunCreate) (h : db.Absent run.id)
    (hdirection : request.direction = run.direction) (hstatus : run.status = .pending)
    (hcodes : run.warningCodes = []) (hnow : run.updatedAt ≤ now) :
    ∃ db', db.create run (some request) = .ok ((), db') ∧
      db'.At now run.id (.pending request) := by
  have hcommit : db.create run (some request) = .ok ((), { db with
      runs := db.runs.set run.id
        ⟨run.direction, run.status, .dump run.warningCodes, run.createdAt, run.updatedAt⟩
      contexts := db.contexts.set run.id (Stage.pending request).context }) := by
    simp only [Database.create, Table.insert_of_none h.run, Table.insert_of_none h.context,
      orRaise_some, ok_bind, hdirection, require_of]
    rfl
  refine ⟨_, hcommit, (create_commits h hstatus hcommit).shows, _, Table.find_set_self _ _ _, ?_,
    run.timestamps_valid, hnow⟩
  rw [hcodes]

theorem At.claimAnalysis {request : RunCreate} (h : db.At now runId (.pending request)) :
    ∃ db', db.claimAnalysis runId now = .ok (true, db') ∧
      db'.At now runId (.analyzing request) := by
  obtain ⟨row, hrow, hdirection, hstatus, hcodes, hcreated⟩ := h.row
  have hcommit : db.claimAnalysis runId now = .ok (true, { db with
      runs := db.runs.set runId { row with status := .inProgress, updatedAt := now } }) := by
    rw [Database.claimAnalysis, Table.updateWhere_of_some hrow (by simp [hstatus, Stage.status])]
  exact ⟨_, hcommit,
    ⟨⟨_, Table.find_set_self _ _ _, hdirection, rfl⟩, h.shows.context, h.shows.revision,
      h.shows.operations⟩, _, Table.find_set_self _ _ _, hcodes, hcreated, le_refl now⟩

theorem At.completeAnalysis {request : RunCreate} (h : db.At now runId (.analyzing request))
    {analysis : AdAnalysis} (repairAttempted : Bool)
    (hmatches : analysis.sourceAsset = request.sourceAsset ∧
      analysis.brandLock = request.brandLock) :
    ∃ db', db.completeAnalysis runId analysis repairAttempted .awaitingBrandLock now =
        .ok ((), db') ∧
      db'.At now runId (.awaiting ⟨request, analysis, repairAttempted, hmatches⟩) := by
  obtain ⟨row, hrow, hdirection, hstatus, hcodes, hcreated⟩ := h.row
  refine ⟨_, ?_, h.move { row with status := .awaitingBrandLock, updatedAt := now } _
    hdirection rfl hcodes hcreated (le_refl now) rfl rfl⟩
  rw [Database.completeAnalysis, Table.updateWhere_of_some h.shows.context rfl, orRaise_some,
    ok_bind, Table.updateWhere_of_some hrow (by simp [hstatus, Stage.status]), orRaise_some,
    ok_bind]
  rfl

theorem At.confirmBrandLock {evidence : Analyzed} (h : db.At now runId (.awaiting evidence))
    {lock : BrandLock} (hconfirms : Confirms lock evidence.analysis.brandLock) :
    ∃ db', db.confirmBrandLock runId lock now = .ok (⟨lock, now⟩, db') ∧
      db'.At now runId (.confirmed ⟨evidence, ⟨lock, now⟩, hconfirms⟩) := by
  obtain ⟨row, hrow, hdirection, hstatus, hcodes, hcreated⟩ := h.row
  have hawaiting : row.status = .awaitingBrandLock := hstatus
  have hjoined : db.joined runId = .ok (row, some (Stage.awaiting evidence).context) := by
    rw [Database.joined, hrow, h.shows.context]
    rfl
  refine ⟨_, ?_, h.move { row with status := .inProgress, updatedAt := now } _
    hdirection rfl hcodes hcreated (le_refl now) rfl rfl⟩
  refine bind_eq_ok.mpr ⟨_, hjoined, ?_⟩
  refine bind_eq_ok.mpr ⟨none, (Stage.awaiting evidence).confirmationRecord_context, ?_⟩
  refine bind_eq_ok.mpr ⟨(), require_of _ hcreated, ?_⟩
  refine bind_eq_ok.mpr ⟨(), require_of _ hawaiting, ?_⟩
  refine bind_eq_ok.mpr ⟨.dump evidence.analysis, rfl, ?_⟩
  refine bind_eq_ok.mpr ⟨evidence.analysis, load_dump _, ?_⟩
  refine bind_eq_ok.mpr
    ⟨lock, validateBrandLockConfirmation_eq_ok_iff.mpr ⟨rfl, hconfirms⟩, ?_⟩
  refine bind_eq_ok.mpr
    ⟨_, orRaise_eq_ok.mpr (Table.updateWhere_of_some h.shows.context rfl), ?_⟩
  exact bind_eq_ok.mpr
    ⟨_, orRaise_eq_ok.mpr (Table.updateWhere_of_some hrow (by simp [hawaiting])), rfl⟩

theorem At.saveDraft {evidence : Confirmed} (h : db.At now runId (.confirmed evidence))
    (draft : DraftRecord) (hlock : draft.brief.brandLock = evidence.confirmation.brandLock)
    (hfacts : draft.factReferences ≠ [] ∧
      ∀ fact ∈ draft.factReferences, fact ∈ evidence.confirmation.brandLock.facts) :
    ∃ db', db.saveDraft runId draft = .ok (draft, db') ∧
      db'.At now runId (.drafted ⟨evidence, draft, hlock, hfacts⟩) := by
  obtain ⟨row, hrow, -, hstatus, -⟩ := h.row
  have hprogress : row.status = .inProgress := hstatus
  have hjoined : db.joined runId = .ok (row, some (Stage.confirmed evidence).context) := by
    rw [Database.joined, hrow, h.shows.context]
    rfl
  refine ⟨_, ?_, h.fill _ rfl rfl rfl rfl⟩
  rw [Database.saveDraft, hjoined, ok_bind]
  simp only [Option.bind_some, Stage.draftRecord_context, ok_bind]
  rw [require_of _ hprogress, ok_bind]
  simp only [Stage.context, Stage.confirmed?, Option.map_some, orRaise_some, ok_bind, load_dump]
  rw [require_of _ hlock, ok_bind, require_of _ hfacts, ok_bind,
    Table.updateWhere_of_some h.shows.context rfl, orRaise_some, ok_bind]
  rfl

/-- Once a composition is stored, no other can be. -/
theorem Shows.saveComposition_other {evidence : Composed} (h : db.Shows runId (.composed evidence))
    {summary : CompositionGenerated} (hne : evidence.composition ≠ summary) :
    db.saveComposition runId summary =
      .error (.compositionImmutableError "composition is immutable") := by
  obtain ⟨row, hrow, -⟩ := h.run
  have hjoined : db.joined runId = .ok (row, some (Stage.composed evidence).context) := by
    rw [Database.joined, hrow, h.context]
    rfl
  rw [Database.saveComposition, hjoined, ok_bind]
  simp only [Option.bind_some, Stage.context, Stage.composed?, Option.map_some, load_dump, ok_bind]
  rw [require, if_neg hne]
  rfl

theorem At.saveComposition {evidence : Drafted} (h : db.At now runId (.drafted evidence))
    {composition : CompositionGenerated}
    (hsources : layerSource composition.layers .logo =
        some evidence.confirmation.brandLock.logoAssetId ∧
      ∃ assetId ∈ evidence.confirmation.brandLock.productUiAssetIds,
        layerSource composition.layers .productUi = some assetId) :
    ∃ db', db.saveComposition runId composition = .ok (composition, db') ∧
      db'.At now runId (.composed ⟨evidence, composition, hsources⟩) := by
  obtain ⟨row, hrow, -, hstatus, -⟩ := h.row
  have hprogress : row.status = .inProgress := hstatus
  have hjoined : db.joined runId = .ok (row, some (Stage.drafted evidence).context) := by
    rw [Database.joined, hrow, h.shows.context]
    rfl
  refine ⟨_, ?_, h.fill _ rfl rfl rfl rfl⟩
  rw [Database.saveComposition, hjoined, ok_bind]
  simp only [Option.bind_some, Stage.context, Stage.composed?, Stage.reviewed?, Option.map_none]
  rw [require_of _ hprogress, ok_bind]
  simp only [Stage.confirmed?, Stage.drafted?, Option.map_some, orRaise_some, ok_bind, load_dump,
    Option.isSome_some, require_of]
  rw [require_of _ hsources, ok_bind, Table.updateWhere_of_some h.shows.context rfl, orRaise_some,
    ok_bind]
  rfl

theorem At.saveCritique {evidence : Composed} (h : db.At now runId (.composed evidence))
    {report : CritiqueReport} (hnow : report.reviewedAt = now) :
    ∃ db', db.saveCritique runId report = .ok (⟨report, report.reviewedAt⟩, db') ∧
      db'.At now runId (evidence.review report) := by
  obtain ⟨row, hrow, hdirection, hstatus, hcodes, hcreated⟩ := h.row
  rw [← hnow] at hcreated
  have hprogress : row.status = .inProgress := hstatus
  have hjoined : db.joined runId = .ok (row, some (Stage.composed evidence).context) := by
    rw [Database.joined, hrow, h.shows.context]
    rfl
  have hcommit : db.saveCritique runId report = .ok (⟨report, report.reviewedAt⟩, { db with
      runs := db.runs.set runId
        { row with status := reviewedStatus report, updatedAt := report.reviewedAt }
      contexts := db.contexts.set runId
        { (Stage.composed evidence).context with
          critique := some (.dump report)
          criticReviewedAt := some report.reviewedAt } }) := by
    rw [Database.saveCritique, hjoined, ok_bind]
    dsimp only
    rw [require_of _ hcreated, ok_bind]
    have hreviewed : (Stage.composed evidence).reviewed? = none := rfl
    simp only [Option.bind_some, Stage.critiqueRecord_context, ok_bind, hreviewed, Option.map_none]
    rw [require_of _ ⟨hprogress, rfl, rfl, rfl, rfl⟩, ok_bind,
      Table.updateWhere_of_some h.shows.context rfl, orRaise_some, ok_bind,
      Table.updateWhere_of_some hrow (by simp [hprogress]), orRaise_some, ok_bind]
    rfl
  refine ⟨_, hcommit, ?_⟩
  unfold Composed.review
  by_cases hreject : report.status = .reject
  · rw [dif_pos hreject]
    exact h.move _ (.rejected ⟨⟨evidence, report⟩, hreject⟩) hdirection (if_pos hreject) hcodes
      hcreated hnow.le rfl rfl
  · rw [dif_neg hreject]
    exact h.move _ (.ready ⟨⟨evidence, report⟩, hreject⟩) hdirection (if_neg hreject) hcodes
      hcreated hnow.le rfl rfl

end Database

/-! ## Versions that are rendered and saved -/

namespace Studio

variable {studio : Studio κ} {db : Database} {rest rest' : κ}

/-- Rendering with collaborators that answer. -/
theorem exec_render {run : ProjectRun} {lock : BrandLock} {brief : CreativeBrief} {adCopy : AdCopy}
    {background : BackgroundRequest} {generated : GeneratedBackground}
    {logo productUi : RegisteredFixtureAsset} {productUiId : UUID} {composed : ComposedAd}
    (hbackground : BackgroundRequest.validate run.direction brief.targetLocale brief.narrative
      brief.useScenario = some background)
    (hgenerate : studio.generateBackground background = pure generated)
    (hlogo : studio.resolve lock.logoAssetId = pure logo)
    (hproductUiId : lock.productUiAssetIds.head? = some productUiId)
    (hproductUi : studio.resolve productUiId = pure productUi)
    (hcompose : studio.compose ⟨run.id, generated, lock, adCopy, logo, productUi⟩ =
      pure composed) :
    (studio.render run lock brief adCopy).exec ⟨db, rest⟩ = some (.ok composed, ⟨db, rest⟩) := by
  refine (Program.exec_bind (exec_ofExcept (validated_of_some hbackground) _)).trans ?_
  refine (Program.exec_bind (exec_outside_pure hgenerate _)).trans ?_
  refine (Program.exec_bind (exec_outside_pure hlogo _)).trans ?_
  refine (Program.exec_bind (exec_ofExcept (orRaise_eq_ok.mpr hproductUiId) _)).trans ?_
  refine (Program.exec_bind (exec_outside_pure hproductUi _)).trans ?_
  exact exec_outside_pure hcompose _

theorem exec_saveArtifact {artifactId : UUID} {composed : ComposedAd} {now expiresAt : Datetime}
    {stored : StoredCompositionArtifact} (hexpires : now.nextDay? = some expiresAt)
    (hsave : (studio.artifactStore.save artifactId composed.pngBytes expiresAt).exec rest =
      some (.ok stored, rest')) :
    (studio.saveArtifact artifactId composed now).exec ⟨db, rest⟩ =
      some (.ok stored, ⟨db, rest'⟩) := by
  refine (Program.exec_bind (exec_ofExcept (orRaise_eq_ok.mpr hexpires) _)).trans ?_
  exact exec_outside hsave db

end Studio

/-! ## Requests that are served alone -/

namespace App

variable (app : App κ) {now : Datetime} {db : Database} {rest rest' : κ} {runId : UUID}
  {request : HttpRequest}

/-- The check of the capability passes where everything outside the database,
the clock included, is like this. -/
def Authorised (required : Capability) (runId : UUID) (request : HttpRequest) (rest : κ) : Prop :=
  ∀ db, (app.requireCapability required runId request).exec ⟨db, rest⟩ =
    some (.ok (), ⟨db, rest⟩)

theorem exec_authorised {required : Capability} {program : Program (World κ) Exc α}
    (h : app.Authorised required runId request rest) (db : Database) :
    (app.requireCapability required runId request >>= fun _ => program).exec ⟨db, rest⟩ =
      program.exec ⟨db, rest⟩ :=
  Program.exec_bind (h db)

theorem exec_createRun (hruns : app.runs = .quiet now) {body : RunCreate} {token : String}
    {response : RunCreated} (huuid : app.uuid4 = pure runId)
    (htoken : app.tokens.issue runId.text
      [.readProjectRun, .analyzeProjectRun, .updateProjectRun] = pure token)
    (hresponse : RunCreated.validate runId .pending token now = some response)
    (habsent : db.Absent runId) :
    ∃ db', (app.createRun body).exec ⟨db, rest⟩ = some (.ok response, ⟨db', rest⟩) ∧
      db'.At now runId (.pending body) := by
  obtain ⟨db', hcommit, hat⟩ := Database.create_of_absent (ProjectRun.new runId body.direction now)
    body habsent rfl rfl rfl (le_refl now)
  refine ⟨db', ?_, hat⟩
  refine Program.exec_tryCatch ?_
  rw [hruns]
  refine (Program.exec_bind (exec_outside_pure huuid _)).trans ?_
  refine (Program.exec_bind (exec_outside_pure rfl _)).trans ?_
  refine (Program.exec_bind (exec_outside_pure htoken _)).trans ?_
  refine (Program.exec_bind (exec_ofExcept (validated_of_some hresponse) _)).trans ?_
  exact Program.exec_bind (Program.exec_bind (exec_transaction hcommit))

theorem exec_completeAnalysis (rest : κ) {body : RunCreate} {analysis : AdAnalysis}
    {repairAttempted : Bool}
    (hat : db.At now runId (.analyzing body))
    (hmatches : analysis.sourceAsset = body.sourceAsset ∧ analysis.brandLock = body.brandLock) :
    ∃ db' run, ((Repository.quiet now).completeAnalysis runId analysis repairAttempted).exec
        ⟨db, rest⟩ = some (.ok run, ⟨db', rest⟩) ∧
      db'.At now runId (.awaiting ⟨body, analysis, repairAttempted, hmatches⟩) := by
  obtain ⟨run, hget, -, hcreated⟩ := hat.get
  obtain ⟨db', hcommit, hat'⟩ := hat.completeAnalysis repairAttempted hmatches
  obtain ⟨updated, hexec⟩ := Repository.exec_completeAnalysis hget (hat.shows.get hget).status
    hcreated hat.shows.getRequest hmatches hcommit
  exact ⟨db', updated, hexec, hat'⟩

theorem exec_analyzeRun (hruns : app.runs = .quiet now)
    (hauthorised : app.Authorised .analyzeProjectRun runId request rest) {body : RunCreate}
    (hat : db.At now runId (.pending body)) {loaded : LoadedAsset} {outcome : AnalysisOutcome}
    (hload : app.assets.load body.sourceAsset.assetId = pure loaded)
    (hasset : loaded.asset = body.sourceAsset)
    (hanalyze : (AnalysisPipeline.analyze app.provider app.pipelineNow
      (App.visionRequest body loaded)).exec rest = some (.ok outcome, rest'))
    (hmatches : outcome.analysis.sourceAsset = body.sourceAsset ∧
      outcome.analysis.brandLock = body.brandLock) :
    ∃ db' response, (app.analyzeRun runId request).exec ⟨db, rest⟩ =
        some (.ok response, ⟨db', rest'⟩) ∧
      db'.At now runId (.awaiting ⟨body, outcome.analysis, outcome.repairAttempted, hmatches⟩) := by
  obtain ⟨run, hget, -, -⟩ := hat.get
  have hstatus : run.status = .pending := (hat.shows.get hget).status
  obtain ⟨db₁, hclaim, hat₁⟩ := hat.claimAnalysis
  obtain ⟨claimed, hclaimed, -, -⟩ := hat₁.get
  obtain ⟨db₂, completed, hcomplete, hat₂⟩ := exec_completeAnalysis rest' hat₁ hmatches
  refine ⟨db₂, ⟨completed.id, outcome.analysis, outcome.repairAttempted, completed.updatedAt⟩, ?_,
    hat₂⟩
  refine (app.exec_authorised hauthorised _).trans ?_
  rw [hruns]
  refine (Program.exec_bind (Program.exec_tryCatch (exec_query hget))).trans ?_
  rw [if_neg (by rw [hstatus]; decide), if_neg (by rw [hstatus]; decide)]
  refine (Program.exec_bind (?_ : _ = some (Except.ok (body, loaded), World.mk db₁ rest))).trans ?_
  · refine Program.exec_tryCatch ?_
    rw [hruns]
    refine (Program.exec_bind (exec_query hat.shows.getRequest)).trans ?_
    refine (Program.exec_bind
      (?_ : _ = some (Except.ok (some claimed), World.mk db₁ rest))).trans ?_
    · exact Repository.exec_claimAnalysis hclaim hclaimed
    · refine (Program.exec_bind (exec_outside_pure hload _)).trans ?_
      exact Program.exec_bind (exec_ofExcept (require_of _ hasset) _)
  refine (Program.exec_bind (?_ : _ = some (Except.ok outcome, World.mk db₁ rest'))).trans ?_
  · exact Program.exec_tryCatch (exec_outside hanalyze db₁)
  · exact Program.exec_bind (Program.exec_tryCatch hcomplete)

theorem exec_confirmBrandLock (hruns : app.runs = .quiet now)
    (hauthorised : app.Authorised .updateProjectRun runId request rest) {evidence : Analyzed}
    (hat : db.At now runId (.awaiting evidence)) {lock : BrandLock}
    (hconfirms : Confirms lock evidence.analysis.brandLock) :
    ∃ db', (app.confirmBrandLock runId lock request).exec ⟨db, rest⟩ =
        some (.ok ⟨runId, lock, now⟩, ⟨db', rest⟩) ∧
      db'.At now runId (.confirmed ⟨evidence, ⟨lock, now⟩, hconfirms⟩) := by
  obtain ⟨db', hcommit, hat'⟩ := hat.confirmBrandLock hconfirms
  refine ⟨db', ?_, hat'⟩
  refine (app.exec_authorised hauthorised _).trans ?_
  rw [hruns]
  refine (Program.exec_bind (Program.exec_tryCatch
    (?_ : _ = some (Except.ok (BrandLockConfirmationRecord.mk lock now),
      World.mk db' rest)))).trans rfl
  exact (Program.exec_bind (exec_outside_pure rfl _)).trans (exec_transaction hcommit)

theorem exec_generateDraft (hruns : app.runs = .quiet now)
    (hauthorised : app.Authorised .updateProjectRun runId request rest) {evidence : Confirmed}
    (hat : db.At now runId (.confirmed evidence)) {generated : DraftArtifacts}
    (hgenerated : generateDraftArtifacts app.copywriter evidence.analysis
      evidence.confirmation.brandLock evidence.request.direction = pure generated)
    (hlock : generated.brief.brandLock = evidence.confirmation.brandLock)
    (hfacts : generated.factReferences ≠ [] ∧
      ∀ fact ∈ generated.factReferences, fact ∈ evidence.confirmation.brandLock.facts)
    {response : DraftGenerated}
    (hresponse : DraftGenerated.validate runId generated.brief generated.adCopy generated.ruleIds
      now = some response) :
    ∃ db', (app.generateDraft runId request).exec ⟨db, rest⟩ =
        some (.ok response, ⟨db', rest⟩) ∧
      db'.At now runId (.drafted ⟨evidence,
        ⟨generated.brief, generated.adCopy, generated.factReferences, generated.ruleIds, now⟩,
        hlock, hfacts⟩) := by
  obtain ⟨run, hget, -, -⟩ := hat.get
  have hreads := hat.shows.get hget
  obtain ⟨db', hcommit, hat'⟩ := hat.saveDraft
    ⟨generated.brief, generated.adCopy, generated.factReferences, generated.ruleIds, now⟩
    hlock hfacts
  refine ⟨db', ?_, hat'⟩
  refine (app.exec_authorised hauthorised _).trans ?_
  rw [hruns]
  refine (Program.exec_bind (Program.exec_tryCatch
    (?_ : _ = some (Except.ok (none, run), World.mk db rest)))).trans ?_
  · refine (Program.exec_bind (exec_query hat.shows.getDraft)).trans ?_
    exact Program.exec_bind (exec_query hget)
  refine (Program.exec_bind (Program.exec_tryCatch
    (?_ : _ = some (Except.ok (some evidence.analysis, some evidence.confirmation),
      World.mk db rest)))).trans ?_
  · refine (Program.exec_bind (exec_query hat.shows.getAnalysis)).trans ?_
    exact Program.exec_bind (exec_query hat.shows.getConfirmedBrandLock)
  dsimp only
  rw [if_neg (by rw [hreads.status]; exact fun hne => hne rfl)]
  have hdirection : run.direction = evidence.request.direction := hreads.direction
  refine (Program.exec_bind (?_ : _ = some (Except.ok (DraftRecord.mk generated.brief
    generated.adCopy generated.factReferences generated.ruleIds now), World.mk db' rest))).trans ?_
  · unfold writeDraft
    rw [hruns, hdirection]
    refine (Program.exec_bind (Program.exec_tryCatch (exec_outside_pure hgenerated _))).trans ?_
    refine Program.exec_tryCatch ?_
    exact (Program.exec_bind (exec_outside_pure rfl _)).trans (exec_transaction hcommit)
  · rw [draftResponse, hreads.id]
    exact exec_ofExcept (validated_of_some hresponse) _

/-- Producing a version with collaborators that answer and a store that saves. -/
theorem exec_produce {service : CompositionService κ} {run : ProjectRun} {lock : BrandLock}
    {draft : DraftRecord} {artifactId : UUID} {composed : ComposedAd} {expiresAt : Datetime}
    {stored : StoredCompositionArtifact} {summary : CompositionGenerated}
    (hrender : (service.studio.render run lock draft.brief draft.adCopy).exec (World.mk db rest) =
      some (.ok composed, ⟨db, rest⟩))
    (hexpires : now.nextDay? = some expiresAt)
    (hsave : (service.studio.artifactStore.save artifactId composed.pngBytes expiresAt).exec rest =
      some (.ok stored, rest'))
    (hsummary : describeArtifact run.id artifactId composed stored now = .ok summary) :
    (service.produce run lock draft artifactId now).exec ⟨db, rest⟩ =
      some (.ok summary, ⟨db, rest'⟩) := by
  refine Program.exec_tryCatch ?_
  refine (Program.exec_bind hrender).trans ?_
  refine (Program.exec_bind (Studio.exec_saveArtifact hexpires hsave)).trans ?_
  exact exec_ofExcept hsummary _

/-- What the store does not take is given up. -/
theorem exec_produce_unsaved {service : CompositionService κ} {run : ProjectRun} {lock : BrandLock}
    {draft : DraftRecord} {artifactId : UUID} {composed : ComposedAd} {expiresAt : Datetime}
    {message : String} {removed : Bool} {rest'' : κ}
    (hrender : (service.studio.render run lock draft.brief draft.adCopy).exec (World.mk db rest) =
      some (.ok composed, ⟨db, rest⟩))
    (hexpires : now.nextDay? = some expiresAt)
    (hsave : (service.studio.artifactStore.save artifactId composed.pngBytes expiresAt).exec rest =
      some (.error (.compositionArtifactError message), rest'))
    (hdelete : (service.studio.artifactStore.delete artifactId).exec rest' =
      some (.ok removed, rest'')) :
    (service.produce run lock draft artifactId now).exec ⟨db, rest⟩ =
      some (.error (.compositionServiceError .persistenceFailed), ⟨db, rest''⟩) := by
  have hunsaved : (service.studio.saveArtifact artifactId composed now).exec (World.mk db rest) =
      some (.error (.compositionArtifactError message), ⟨db, rest'⟩) :=
    (Program.exec_bind (exec_ofExcept (orRaise_eq_ok.mpr hexpires) _)).trans (exec_outside hsave db)
  refine (Program.exec_tryCatch_error
    ((Program.exec_bind hrender).trans (Program.exec_bind_error hunsaved))).trans ?_
  exact Program.exec_bind (exec_outside hdelete db)

/-- A composition that comes second is deleted, and the first one is answered. -/
theorem exec_persist_lost {service : CompositionService κ}
    (hrepository : service.repository = .quiet now) {artifactId : UUID} {evidence : Composed}
    (hshows : db.Shows runId (.composed evidence)) {summary : CompositionGenerated} {removed : Bool}
    (hne : evidence.composition ≠ summary) (hsummary : summary.runId = runId)
    (hdelete : (service.studio.artifactStore.delete artifactId).exec rest =
      some (.ok removed, rest')) :
    (service.persist runId artifactId summary).exec ⟨db, rest⟩ =
      some (.ok evidence.composition, ⟨db, rest'⟩) := by
  have hcommit := hshows.saveComposition_other hne
  have hread : ((Repository.quiet now).getComposition runId).exec (World.mk db rest') =
      some (.ok (some evidence.composition), ⟨db, rest'⟩) := exec_query hshows.getComposition
  unfold CompositionService.persist
  rw [hrepository]
  refine (Program.exec_tryCatch_error ((Program.exec_bind
    (exec_ofExcept (require_of _ hsummary) _)).trans (exec_transaction_error hcommit))).trans ?_
  refine (Program.exec_bind (exec_outside hdelete db)).trans ?_
  exact Program.exec_bind (Program.exec_tryCatch hread)

/-- What a drafted run is composed from is read first, one transaction at a time. -/
theorem leads_generate {service : CompositionService κ}
    (hrepository : service.repository = .quiet now)
    {evidence : Drafted} (hat : db.At now runId (.drafted evidence)) {artifactId : UUID}
    (huuid : service.studio.uuid4 = pure artifactId) (rest : κ) :
    ∃ run : ProjectRun, run.id = runId ∧ run.direction = evidence.request.direction ∧
      (service.generate runId).Leads ⟨db, rest⟩
        (service.produce run evidence.confirmation.brandLock evidence.draft artifactId now >>=
          service.persist runId artifactId) ⟨db, rest⟩ := by
  obtain ⟨run, hget, -, -⟩ := hat.get
  have hreads := hat.shows.get hget
  have hprogress : run.status = .inProgress := hreads.status
  have hprepare : (service.prepare runId).exec ⟨db, rest⟩ =
      some (Except.ok (Sum.inr (CompositionService.Prerequisites.mk run evidence.request
        (some evidence.analysis) (some evidence.confirmation) (some evidence.draft))),
          World.mk db rest) := by
    refine Program.exec_tryCatch ?_
    rw [hrepository]
    refine (Program.exec_bind (exec_query hat.shows.getComposition)).trans ?_
    refine (Program.exec_bind (exec_query hget)).trans ?_
    refine (Program.exec_bind (exec_query hat.shows.getRequest)).trans ?_
    refine (Program.exec_bind (exec_query hat.shows.getAnalysis)).trans ?_
    refine (Program.exec_bind (exec_query hat.shows.getConfirmedBrandLock)).trans ?_
    exact Program.exec_bind (exec_query hat.shows.getDraft)
  refine ⟨run, hreads.id, hreads.direction, (Program.leads_bind hprepare).trans ?_⟩
  dsimp only
  rw [if_neg (by simp [hprogress]), if_neg (by simp [evidence.request.fixture_only])]
  refine (Program.leads_bind (exec_outside_pure huuid _)).trans ?_
  rw [hrepository]
  exact Program.leads_bind (exec_outside_pure rfl _)

/-- A call that composes a drafted run comes to store its composition. -/
theorem leads_persist {service : CompositionService κ}
    (hrepository : service.repository = .quiet now)
    {evidence : Drafted} (hat : db.At now runId (.drafted evidence)) {artifactId : UUID}
    (huuid : service.studio.uuid4 = pure artifactId) {summary : CompositionGenerated}
    (hproduce : ∀ run : ProjectRun, run.id = runId →
      run.direction = evidence.request.direction →
      (service.produce run evidence.confirmation.brandLock evidence.draft artifactId
        now).exec ⟨db, rest⟩ = some (.ok summary, ⟨db, rest'⟩)) :
    (service.generate runId).Leads ⟨db, rest⟩ (service.persist runId artifactId summary)
      ⟨db, rest'⟩ := by
  obtain ⟨run, hid, hdirection, hleads⟩ := leads_generate hrepository hat huuid rest
  exact hleads.trans (Program.leads_bind (hproduce run hid hdirection))

/-- The composition of a drafted run is stored. -/
theorem exec_persist {service : CompositionService κ}
    (hrepository : service.repository = .quiet now) {evidence : Drafted}
    (hat : db.At now runId (.drafted evidence)) {artifactId : UUID}
    {summary : CompositionGenerated} (hsummary : summary.runId = runId)
    (hsources : layerSource summary.layers .logo =
        some evidence.confirmation.brandLock.logoAssetId ∧
      ∃ assetId ∈ evidence.confirmation.brandLock.productUiAssetIds,
        layerSource summary.layers .productUi = some assetId) :
    ∃ db', (service.persist runId artifactId summary).exec ⟨db, rest⟩ =
        some (.ok summary, ⟨db', rest⟩) ∧
      db'.At now runId (.composed ⟨evidence, summary, hsources⟩) := by
  obtain ⟨db', hcommit, hat'⟩ := hat.saveComposition hsources
  refine ⟨db', Program.exec_tryCatch ?_, hat'⟩
  rw [hrepository]
  refine (Program.exec_bind (exec_ofExcept (require_of _ hsummary) _)).trans ?_
  exact exec_transaction hcommit

/-- A call whose composition cannot be made fails. -/
theorem exec_generate_failed {service : CompositionService κ}
    (hrepository : service.repository = .quiet now)
    {evidence : Drafted} (hat : db.At now runId (.drafted evidence)) {artifactId : UUID}
    (huuid : service.studio.uuid4 = pure artifactId) {failure : Exc}
    (hproduce : ∀ run : ProjectRun, run.id = runId →
      run.direction = evidence.request.direction →
      (service.produce run evidence.confirmation.brandLock evidence.draft artifactId
        now).exec ⟨db, rest⟩ = some (.error failure, ⟨db, rest'⟩)) :
    (service.generate runId).exec ⟨db, rest⟩ = some (.error failure, ⟨db, rest'⟩) := by
  obtain ⟨run, hid, hdirection, hleads⟩ := leads_generate hrepository hat huuid rest
  exact hleads.exec.trans (Program.exec_bind_error (hproduce run hid hdirection))

/-- A request that has been let through calls the composition service. -/
theorem leads_composing (hauthorised : app.Authorised .updateProjectRun runId request rest)
    (hbody : request.body = []) {program : Program (World κ) Exc CompositionGenerated}
    (hleads : (app.compositions.generate runId).Leads ⟨db, rest⟩ program ⟨db, rest'⟩) :
    ∃ handler, (app.generateComposition runId request).Leads ⟨db, rest⟩
      (program.tryCatch handler) ⟨db, rest'⟩ := by
  unfold generateComposition
  rw [if_neg (not_not.mpr hbody)]
  exact ⟨_, (Program.leads_bind (hauthorised db)).trans hleads.tryCatch⟩

theorem exec_composing (hauthorised : app.Authorised .updateProjectRun runId request rest)
    (hbody : request.body = []) {composition : CompositionGenerated} {world : World κ}
    (hgenerate : (app.compositions.generate runId).exec ⟨db, rest⟩ =
      some (.ok composition, world)) :
    (app.generateComposition runId request).exec ⟨db, rest⟩ = some (.ok composition, world) := by
  refine (app.exec_authorised hauthorised _).trans ?_
  rw [if_neg (not_not.mpr hbody)]
  exact Program.exec_tryCatch hgenerate

/-- A request whose composition cannot be made answers with its failure. -/
theorem exec_generateComposition_failed (hruns : app.compositions.repository = .quiet now)
    (hauthorised : app.Authorised .updateProjectRun runId request rest) (hbody : request.body = [])
    {evidence : Drafted} (hat : db.At now runId (.drafted evidence)) {artifactId : UUID}
    (huuid : app.compositions.studio.uuid4 = pure artifactId) {code : CompositionServiceErrorCode}
    (hproduce : ∀ run : ProjectRun, run.id = runId →
      run.direction = evidence.request.direction →
      (app.compositions.produce run evidence.confirmation.brandLock evidence.draft artifactId
        now).exec ⟨db, rest⟩ = some (.error (.compositionServiceError code), ⟨db, rest'⟩)) :
    (app.generateComposition runId request).exec ⟨db, rest⟩ =
      some (.error (.httpException (compositionStatus code) (StrEnum.value code)),
        ⟨db, rest'⟩) := by
  refine (app.exec_authorised hauthorised _).trans ?_
  rw [if_neg (not_not.mpr hbody)]
  exact Program.exec_tryCatch_error (exec_generate_failed hruns hat huuid hproduce)

theorem exec_generateComposition (hruns : app.compositions.repository = .quiet now)
    (hauthorised : app.Authorised .updateProjectRun runId request rest) (hbody : request.body = [])
    {evidence : Drafted} (hat : db.At now runId (.drafted evidence)) {artifactId : UUID}
    (huuid : app.compositions.studio.uuid4 = pure artifactId) {summary : CompositionGenerated}
    (hproduce : ∀ run : ProjectRun, run.id = runId →
      run.direction = evidence.request.direction →
      (app.compositions.produce run evidence.confirmation.brandLock evidence.draft artifactId
        now).exec ⟨db, rest⟩ = some (.ok summary, ⟨db, rest'⟩))
    (hsummary : summary.runId = runId)
    (hsources : layerSource summary.layers .logo =
        some evidence.confirmation.brandLock.logoAssetId ∧
      ∃ assetId ∈ evidence.confirmation.brandLock.productUiAssetIds,
        layerSource summary.layers .productUi = some assetId) :
    ∃ db', (app.generateComposition runId request).exec ⟨db, rest⟩ =
        some (.ok summary, ⟨db', rest'⟩) ∧
      db'.At now runId (.composed ⟨evidence, summary, hsources⟩) := by
  obtain ⟨db', hpersist, hat'⟩ := exec_persist hruns hat hsummary hsources
  exact ⟨db', app.exec_composing hauthorised hbody
    ((leads_persist hruns hat huuid hproduce).exec.trans hpersist), hat'⟩

theorem exec_runCritic (hruns : app.runs = .quiet now)
    (hauthorised : app.Authorised .updateProjectRun runId request rest) (hbody : request.body = [])
    {evidence : Composed} (hat : db.At now runId (.composed evidence)) {report : CritiqueReport}
    (hreview : app.review ⟨evidence.analysis, evidence.confirmation.brandLock, evidence.draft,
      evidence.composition, []⟩ = pure report)
    (hnow : report.reviewedAt = now) :
    ∃ db' response, (app.runCritic runId request).exec ⟨db, rest⟩ =
        some (.ok response, ⟨db', rest⟩) ∧
      response.critique = report ∧ db'.At now runId (evidence.review report) := by
  obtain ⟨run, hget, hcodes, -⟩ := hat.get
  obtain ⟨db', hcommit, hat'⟩ := hat.saveCritique hnow
  obtain ⟨reviewed, hreviewed, -, -⟩ := hat'.get
  have hstatus : reviewed.status = .ready ∨ reviewed.status = .failedFinal := by
    rw [(hat'.shows.get hreviewed).status]
    unfold Composed.review
    split
    · exact .inr rfl
    · exact .inl rfl
  refine ⟨db', ⟨reviewed.id, reviewed.status, report, reviewed.initialGenerationCount,
    reviewed.humanRevisionCount, reviewed.technicalAttemptCount, report.reviewedAt, hstatus,
    reviewed.counts_valid, rfl⟩, ?_, rfl, hat'⟩
  refine (app.exec_authorised hauthorised _).trans ?_
  rw [answerCritic, if_neg (not_not.mpr hbody)]
  refine (Program.exec_bind (Program.exec_tryCatch
    (?_ : _ = some (Except.ok (reviewed, report), World.mk db' rest)))).trans ?_
  · unfold critiqueOf
    rw [hruns]
    refine (Program.exec_bind (exec_query hget)).trans ?_
    refine (Program.exec_bind (exec_query hat.shows.getCritique)).trans ?_
    unfold reviewAndSave
    rw [hruns]
    refine (Program.exec_bind (exec_query hat.shows.getAnalysis)).trans ?_
    refine (Program.exec_bind (exec_query hat.shows.getConfirmedBrandLock)).trans ?_
    refine (Program.exec_bind (exec_query hat.shows.getDraft)).trans ?_
    refine (Program.exec_bind (exec_query hat.shows.getComposition)).trans ?_
    rw [← hcodes] at hreview
    refine (Program.exec_bind (exec_outside_pure hreview _)).trans ?_
    refine (Program.exec_bind (exec_transaction hcommit)).trans ?_
    exact Program.exec_bind (exec_query hreviewed)
  · exact exec_ofExcept (validated_of_some (dif_pos ⟨hstatus, reviewed.counts_valid, rfl⟩)) _

end App

/-! ## The first version -/

/-- Create a run and take it to its review; what is asked later is left open. -/
def firstVersion (runId : UUID) (body : RunCreate) (lock : BrandLock) (request : HttpRequest)
    (later : Nat → Request) : Nat → Request
  | 0 => .createRun body
  | 1 => .analyzeRun runId request
  | 2 => .confirmBrandLock runId lock request
  | 3 => .generateDraft runId request
  | 4 => .generateComposition runId request
  | 5 => .runCritic runId request
  | n + 6 => later n

/-- The collaborators answer the requests for a first version, and their
answers make up this evidence. The provider and the store may keep something. -/
structure App.Serves (app : App κ) (now : Datetime) (runId : UUID) (request : HttpRequest)
    (evidence : Composed) (report : CritiqueReport) (rest analysed rest' : κ) : Prop where
  runs : app.runs = .quiet now
  compositionRuns : app.compositions.repository = .quiet now
  authorised : ∀ required found, app.Authorised required runId request found
  bodyless : request.body = []
  identifier : app.uuid4 = pure runId
  token : ∃ token response, app.tokens.issue runId.text
      [.readProjectRun, .analyzeProjectRun, .updateProjectRun] = pure token ∧
    RunCreated.validate runId .pending token now = some response
  asset : ∃ loaded, app.assets.load evidence.request.sourceAsset.assetId = pure loaded ∧
    loaded.asset = evidence.request.sourceAsset ∧
    (AnalysisPipeline.analyze app.provider app.pipelineNow
      (App.visionRequest evidence.request loaded)).exec rest =
      some (.ok ⟨evidence.analysis, evidence.repairAttempted⟩, analysed)
  confirmedAt : evidence.confirmation.confirmedAt = now
  draft : ∃ response, generateDraftArtifacts app.copywriter evidence.analysis
      evidence.confirmation.brandLock evidence.request.direction =
        pure ⟨evidence.draft.brief, evidence.draft.adCopy, evidence.draft.factReferences,
          evidence.draft.ruleIds⟩ ∧
    DraftGenerated.validate runId evidence.draft.brief evidence.draft.adCopy
      evidence.draft.ruleIds now = some response
  generatedAt : evidence.draft.generatedAt = now
  artifactId : app.compositions.studio.uuid4 = pure evidence.composition.artifactId
  composition : ∀ db, ∀ run : ProjectRun, run.id = runId →
    run.direction = evidence.request.direction →
    (app.compositions.produce run evidence.confirmation.brandLock evidence.draft
      evidence.composition.artifactId now).exec ⟨db, analysed⟩ =
        some (.ok evidence.composition, ⟨db, rest'⟩)
  compositionRun : evidence.composition.runId = runId
  review : app.review ⟨evidence.analysis, evidence.confirmation.brandLock, evidence.draft,
    evidence.composition, []⟩ = pure report
  reviewedAt : report.reviewedAt = now

section Serves

variable {app : App κ} {now : Datetime} {runId : UUID} {request : HttpRequest}
  {evidence : Composed} {report : CritiqueReport} {rest analysed rest' : κ}

/-- A request that is served alone, among the others. -/
theorem serve_next {threads : Nat → Program (World κ) Exc Response}
    {start config : Config Nat (World κ) Exc Response} {program : Program (World κ) Exc α}
    {value : α} {last : World κ} (n : Nat) (respond : α → Response)
    (hreaches : Reaches start config) (hwaiting : ∀ m, n ≤ m → config.threads m = threads m)
    (hhandle : threads n = program >>= fun value => pure (respond value))
    (hexec : program.exec config.state = some (.ok value, last)) :
    ∃ config', Reaches start config' ∧ config'.state = last ∧
      (∀ m, n + 1 ≤ m → config'.threads m = threads m) ∧
      config'.threads n = .ret (respond value) := by
  have hserved : (threads n).exec config.state = some (.ok (respond value), last) := by
    rw [hhandle]
    exact Program.exec_bind hexec
  refine ⟨_, hreaches.serve (hwaiting n (le_refl n)) hserved, rfl, fun m hm => ?_,
    config.move_threads_self n last _⟩
  rw [config.move_threads_ne _ _ (by omega), hwaiting m (by omega)]

/-- Undisturbed, the first requests take a run to its draft, whatever the others are. -/
theorem exists_drafted (h : app.Serves now runId request evidence report rest analysed rest')
    {start : Config Nat (World κ) Exc Response} (hstate : start.state = ⟨.empty, rest⟩)
    {later : Nat → Request} (hthreads : ∀ m < 4, start.threads m =
      app.handle (firstVersion runId evidence.request evidence.confirmation.brandLock request
        later m)) :
    ∃ config db, Reaches start config ∧ config.state = ⟨db, analysed⟩ ∧
      db.At now runId (.drafted evidence.toDrafted) ∧
      ∀ m, 4 ≤ m → config.threads m = start.threads m := by
  obtain ⟨token, response, htoken, hresponse⟩ := h.token
  obtain ⟨loaded, hload, hloaded, hanalyze⟩ := h.asset
  obtain ⟨drafted, hgenerated, hdrafted⟩ := h.draft
  obtain ⟨⟨⟨⟨body, analysis, repairAttempted, hmatches⟩, ⟨lock, confirmedAt⟩, hconfirms⟩,
    draft, hlock, hfacts⟩, composition, hsources⟩ := evidence
  obtain rfl : confirmedAt = now := h.confirmedAt
  obtain ⟨brief, adCopy, factReferences, ruleIds, generatedAt⟩ := draft
  obtain rfl : generatedAt = confirmedAt := h.generatedAt
  obtain ⟨db₀, hcreate, hat₀⟩ := app.exec_createRun h.runs h.identifier htoken hresponse
    (empty_absent runId)
  obtain ⟨config₀, hreaches₀, hstate₀, hwaiting₀, -⟩ :=
    serve_next 0 .created (.refl start) (fun _ _ => rfl) (hthreads 0 (by decide))
      (hstate ▸ hcreate)
  obtain ⟨db₁, analyzed, hanalyzeRun, hat₁⟩ := app.exec_analyzeRun h.runs (h.authorised _ _) hat₀
    hload hloaded hanalyze hmatches
  obtain ⟨config₁, hreaches₁, hstate₁, hwaiting₁, -⟩ :=
    serve_next 1 .analyzed hreaches₀ hwaiting₀ (hthreads 1 (by decide)) (hstate₀ ▸ hanalyzeRun)
  obtain ⟨db₂, hconfirm, hat₂⟩ := app.exec_confirmBrandLock h.runs (h.authorised _ _) hat₁ hconfirms
  obtain ⟨config₂, hreaches₂, hstate₂, hwaiting₂, -⟩ :=
    serve_next 2 .confirmed hreaches₁ hwaiting₁ (hthreads 2 (by decide)) (hstate₁ ▸ hconfirm)
  obtain ⟨db₃, hdraft, hat₃⟩ := app.exec_generateDraft h.runs (h.authorised _ _) hat₂ hgenerated
    hlock hfacts hdrafted
  obtain ⟨config₃, hreaches₃, hstate₃, hwaiting₃, -⟩ :=
    serve_next 3 .drafted hreaches₂ hwaiting₂ (hthreads 3 (by decide)) (hstate₂ ▸ hdraft)
  exact ⟨config₃, db₃, hreaches₃, hstate₃, hat₃, hwaiting₃⟩

/-- Undisturbed, the requests take a run to its first version. -/
theorem exists_composed (h : app.Serves now runId request evidence report rest analysed rest')
    (later : Nat → Request) :
    ∃ config db, Reaches (workflow app rest (firstVersion runId evidence.request
        evidence.confirmation.brandLock request later)) config ∧
      config.state = ⟨db, rest'⟩ ∧ db.At now runId (.composed evidence) ∧
      ∀ m, 5 ≤ m → config.threads m = app.handle (firstVersion runId evidence.request
        evidence.confirmation.brandLock request later m) := by
  obtain ⟨config₃, db₃, hreaches₃, hstate₃, hat₃, hwaiting₃⟩ : ∃ config db,
      Reaches (workflow app rest (firstVersion runId evidence.request
        evidence.confirmation.brandLock request later)) config ∧ _ :=
    exists_drafted h rfl fun _ _ => rfl
  obtain ⟨db₄, hcompose, hat₄⟩ := app.exec_generateComposition h.compositionRuns (h.authorised _ _)
    h.bodyless hat₃ h.artifactId (h.composition db₃) h.compositionRun evidence.sources_locked
  obtain ⟨config₄, hreaches₄, hstate₄, hwaiting₄, -⟩ :=
    serve_next 4 .composed hreaches₃ hwaiting₃ rfl (hstate₃ ▸ hcompose)
  exact ⟨config₄, db₄, hreaches₄, hstate₄, hat₄, hwaiting₄⟩

/-- Undisturbed, the requests take a run to its review. -/
theorem exists_reviewed (h : app.Serves now runId request evidence report rest analysed rest')
    (later : Nat → Request) :
    ∃ config, Reaches (workflow app rest (firstVersion runId evidence.request
        evidence.confirmation.brandLock request later)) config ∧
      config.state.rest = rest' ∧ config.state.database.At now runId (evidence.review report) ∧
      ∀ n, config.threads (n + 6) = app.handle (later n) := by
  obtain ⟨config₄, db₄, hreaches₄, hstate₄, hat₄, hwaiting₄⟩ := exists_composed h later
  obtain ⟨db₅, critique, hcritic, -, hat₅⟩ := app.exec_runCritic h.runs (h.authorised _ _)
    h.bodyless hat₄ h.review h.reviewedAt
  obtain ⟨config₅, hreaches₅, hstate₅, hwaiting₅, -⟩ :=
    serve_next 5 .reviewed hreaches₄ hwaiting₄ rfl (hstate₄ ▸ hcritic)
  refine ⟨config₅, hreaches₅, by rw [hstate₅], by rw [hstate₅]; exact hat₅, fun n => ?_⟩
  exact hwaiting₅ (n + 6) (by omega)

end Serves

end CultureShift
