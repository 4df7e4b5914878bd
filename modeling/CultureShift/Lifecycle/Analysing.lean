/-
# One analysis

Any number of requests may ask for the analysis of a run. One of them claims the
run and asks the provider; whoever is answered, then or later, is answered with
the same analysis, the same repair flag and the same time of completion.
-/

import CultureShift.Concurrent.Phases
import CultureShift.Lifecycle.Custody
import CultureShift.Lifecycle.Demo
import CultureShift.Lifecycle.Effects
import CultureShift.Lifecycle.Reviewing

namespace CultureShift

open Serialization Relational Concurrent

variable {ι κ α β : Type}

/-! ## The claim -/

namespace Database

/-- The run waits for its analysis. -/
def Pending (db : Database) (runId : UUID) : Prop :=
  ∃ row, db.runs.find runId = some row ∧ row.status = .pending

/-- Somebody has claimed the analysis. -/
def AnalysisTaken (db : Database) (runId : UUID) : Prop :=
  ∃ stage, db.Shows runId stage ∧ .analysis ∈ stage.taken

/-- A step that ends the waiting of the run. -/
def ClaimsAnalysis (runId : UUID) (db db' : Database) : Prop :=
  db.Pending runId ∧ ¬db'.Pending runId

theorem claims_of_commit {runId : UUID} {claimedAt : Datetime} {db db' : Database}
    (hcommit : db.claimAnalysis runId claimedAt = .ok (true, db')) :
    ClaimsAnalysis runId db db' := by
  unfold Database.claimAnalysis at hcommit
  split at hcommit
  · next runs hruns =>
      cases hcommit
      obtain ⟨row, hrow, hpending, rfl⟩ := Table.updateWhere_eq_some hruns
      refine ⟨⟨row, hrow, of_decide_eq_true hpending⟩, ?_⟩
      rintro ⟨row', hrow', hpending'⟩
      rw [Table.find_set_self] at hrow'
      cases hrow'
      cases hpending'
  · cases hcommit

theorem AnalysisTaken.not_pending {db : Database} {runId : UUID} (h : db.AnalysisTaken runId) :
    ¬db.Pending runId := by
  obtain ⟨stage, hshows, htaken⟩ := h
  rintro ⟨row, hrow, hpending⟩
  obtain ⟨row', hrow', -, hstatus⟩ := hshows.run
  obtain rfl := Option.some.inj (hrow.symm.trans hrow')
  obtain ⟨request, rfl⟩ := Stage.eq_pending (hstatus.symm.trans hpending)
  cases htaken

section Steps

variable {runId : UUID} {db db' : Database}

theorem AnalysisTaken.of_le (h : db.AnalysisTaken runId)
    (hle : (lifecycle fun _ _ => True).le db db') : db'.AnalysisTaken runId := by
  obtain ⟨stage, hshows, htaken⟩ := h
  obtain ⟨stage', hshows', hsteps⟩ := hle runId stage hshows
  exact ⟨stage', hshows', Stage.taken_of_steps hsteps htaken⟩

/-- A run that does not wait any more has been claimed. -/
theorem ClaimsAnalysis.analysisTaken (h : ClaimsAnalysis runId db db')
    (hinv : (lifecycle fun _ _ => True).inv db) (hle : (lifecycle fun _ _ => True).le db db') :
    db'.AnalysisTaken runId := by
  obtain ⟨⟨row, hrow, -⟩, hleft⟩ := h
  rcases hinv runId with habsent | ⟨stage, hshows, -⟩
  · rw [habsent.run] at hrow
    cases hrow
  · obtain ⟨stage', hshows', -⟩ := hle runId stage hshows
    refine ⟨stage', hshows', ?_⟩
    cases stage' with
    | pending request =>
        obtain ⟨row', hrow', -, hstatus⟩ := hshows'.run
        exact absurd ⟨row', hrow', hstatus⟩ hleft
    | _ => exact List.mem_cons_self

end Steps

end Database

/-! ## Calls of the provider -/

section Asking

variable (runId : UUID) (asked : κ → β)

/-- Until it has claimed the run, a request does not change what is asked. -/
def asking : Phases (World κ) Prop where
  allows claimed before after := claimed ∨ asked after.rest = asked before.rest
  next claimed before after :=
    claimed ∨ Database.ClaimsAnalysis runId before.database after.database

/-- The request keeps to this, wherever it starts. -/
def Waits (program : Program (World κ) Exc α) : Prop :=
  ∀ claimed, program.Plays (asking runId asked) (fun _ _ => True) (fun _ _ => True) claimed

namespace Waits

variable {runId : UUID} {asked : κ → β} {program : Program (World κ) Exc α}
  {repository : Repository κ}

theorem raise (failure : Exc) : Waits runId asked (.raise failure : Program (World κ) Exc α) :=
  fun _ => trivial

theorem ret (value : α) : Waits runId asked (.ret value : Program (World κ) Exc α) :=
  fun _ => trivial

theorem bind {γ : Type} {rest : α → Program (World κ) Exc γ} (h : Waits runId asked program)
    (hrest : ∀ value, Waits runId asked (rest value)) : Waits runId asked (program >>= rest) :=
  fun claimed => Program.plays_bind ((h claimed).mono (fun claimed value _ => hrest value claimed)
    fun _ _ h => h)

theorem tryCatch {handler : Exc → Program (World κ) Exc α} (h : Waits runId asked program)
    (hhandler : ∀ failure, Waits runId asked (handler failure)) :
    Waits runId asked (program.tryCatch handler) :=
  fun claimed => Program.plays_tryCatch ((h claimed).mono (fun _ _ h => h)
    fun claimed failure _ => hhandler failure claimed)

theorem ofExcept (body : Except Exc α) :
    Waits runId asked (.ofExcept body : Program (World κ) Exc α) := by
  cases body with
  | ok value => exact .ret value
  | error failure => exact .raise failure

theorem outside {program : Program κ Exc α} (h : Elsewhere asked program) :
    Waits runId asked (outside program) :=
  fun _ => Program.plays_within h fun _ _ _ hsame => .inr hsame

/-- Transactions ask nothing. -/
theorem transaction (h : repository.Elsewhere asked)
    (body : Database → Except Exc (α × Database)) :
    Waits runId asked (repository.transaction body) := by
  refine .bind (.outside h.connect) fun _ claimed => Program.plays_transact ?_ ?_
  · intro world value after hcommit
    obtain ⟨⟨answer, database⟩, -, heq⟩ := map_eq_ok.mp hcommit
    cases heq
    exact ⟨.inr rfl, trivial⟩
  · exact fun world _ _ => ⟨.inr rfl, trivial⟩

theorem query (h : repository.Elsewhere asked) (read : Database → Except Exc α) :
    Waits runId asked (repository.query read) := by
  refine .bind (.outside h.connect) fun _ claimed => Program.plays_transact ?_ ?_
  · intro world value after hcommit
    obtain ⟨answer, -, heq⟩ := map_eq_ok.mp hcommit
    cases heq
    exact ⟨.inr rfl, trivial⟩
  · exact fun world _ _ => ⟨.inr rfl, trivial⟩

end Waits

variable {runId : UUID} {asked : κ → β} {repository : Repository κ}

/-- Whoever has claimed the run may ask. -/
theorem plays_of_claimed (program : Program (World κ) Exc α) {claimed : Prop} (h : claimed) :
    program.Plays (asking runId asked) (fun claimed _ => claimed) (fun _ _ => True) claimed := by
  induction program generalizing claimed with
  | ret value => exact h
  | raise failure => trivial
  | atomic effect next ih => exact fun state => ⟨.inl h, ih state (.inl h)⟩
  | choose κ next ih => exact fun answer => ih answer h

theorem waits_withStatus (h : repository.Elsewhere asked) (run : ProjectRun)
    (status : ProjectRunStatus) :
    Waits runId asked (run.withStatus repository.now status none) := by
  unfold ProjectRun.withStatus
  split_ifs
  · exact .bind (.outside h.utcNow) fun _ => .ofExcept _
  · exact .raise _

theorem waits_recordFailure (h : repository.Elsewhere asked) (status : ProjectRunStatus)
    (code : String) : Waits runId asked (repository.recordFailure runId status code) :=
  .bind (.ofExcept _) fun _ => .bind (.query h _) fun current =>
    .bind (waits_withStatus h current status) fun _ => .bind (.ofExcept _) fun _ =>
      .bind (.transaction h _) fun _ => .ret _

/-- A claim that returns the run has put the request into the phase where it may ask. -/
theorem plays_claimAnalysis (h : repository.Elsewhere asked) (claimed : Prop) :
    (repository.claimAnalysis runId).Plays (asking runId asked)
      (fun claimed run => run.isSome → claimed) (fun _ _ => True) claimed := by
  refine Program.plays_bind ((Waits.outside h.utcNow claimed).mono (fun claimed claimedAt _ => ?_)
    fun _ _ h => h)
  have hcommitted : (repository.transaction (Database.claimAnalysis runId claimedAt)).Plays
      (asking runId asked) (fun claimed done => done = true → claimed) (fun _ _ => True)
      claimed := by
    refine Program.plays_bind ((Waits.outside h.connect claimed).mono (fun claimed _ _ => ?_)
      fun _ _ h => h)
    refine Program.plays_transact ?_ ?_
    · intro world done after hcommit
      obtain ⟨⟨done', database⟩, hbody, heq⟩ := map_eq_ok.mp hcommit
      cases heq
      refine ⟨.inr rfl, ?_⟩
      rintro rfl
      exact .inr (Database.claims_of_commit hbody)
    · exact fun world _ _ => ⟨.inr rfl, trivial⟩
  refine Program.plays_bind (hcommitted.mono (fun claimed done hdone => ?_) fun _ _ h => h)
  cases done with
  | true =>
      exact (plays_of_claimed _ (hdone rfl)).mono (fun _ _ h _ => h) fun _ _ h => h
  | false =>
      refine Program.plays_bind ((Waits.query h _ claimed).mono (fun claimed run _ => ?_)
        fun _ _ h => h)
      exact nofun

variable {app : App κ} {request : HttpRequest}

theorem plays_claimAndLoad (hruns : app.runs.Elsewhere asked) (claimed : Prop) :
    (app.claimAndLoad runId).Plays (asking runId asked) (fun claimed _ => claimed)
      (fun _ _ => True) claimed := by
  refine Program.plays_tryCatch ((?_ : Program.Plays (asking runId asked) (fun claimed _ => claimed)
    (fun _ _ => True) claimed _).mono (fun _ _ h => h) fun claimed failure _ => ?_)
  · refine Program.plays_bind ((Waits.query hruns _ claimed).mono (fun claimed stored _ => ?_)
      fun _ _ h => h)
    refine Program.plays_bind ((plays_claimAnalysis hruns claimed).mono
      (fun claimed run hrun => ?_) fun _ _ h => h)
    cases run with
    | none => trivial
    | some run => exact plays_of_claimed _ (hrun rfl)
  · have hraised {program : Program (World κ) Exc ProjectRun} {failure : Exc}
        (h : Waits runId asked program) : (program >>= fun _ =>
          (.raise failure : Program (World κ) Exc (RunCreate × LoadedAsset))).Plays
            (asking runId asked) (fun claimed _ => claimed) (fun _ _ => True) claimed :=
      Program.plays_bind ((h claimed).mono (fun _ _ _ => trivial) fun _ _ h => h)
    cases failure <;> first
      | exact hraised (waits_recordFailure hruns _ _)
      | trivial

/-- A request for an analysis asks the provider only after it has claimed the run. -/
theorem waits_analyzeRun (hruns : app.runs.Elsewhere asked)
    (hverify : ∀ token required, Elsewhere asked (app.tokens.verify token required)) :
    Waits runId asked (app.analyzeRun runId request) := by
  have hcapability :
      Waits runId asked (app.requireCapability .analyzeProjectRun runId request) := by
    unfold App.requireCapability
    split
    · exact .raise _
    · refine .bind (.tryCatch (.outside (hverify _ _)) fun failure => ?_) fun claims => ?_
      · cases failure <;> exact .raise _
      · split_ifs
        · exact .ret ()
        · exact .raise _
  refine .bind hcapability fun _ => .bind (.tryCatch (.query hruns _) fun failure => ?_)
    fun run => ?_
  · cases failure <;> exact .raise _
  · split_ifs
    · refine .bind (.tryCatch (.query hruns _) fun _ => .ret none) fun existing => ?_
      cases existing with
      | none => exact .raise _
      | some analysis => exact .bind (.query hruns _) fun _ => .ret _
    · exact .raise _
    · intro claimed
      refine Program.plays_bind ((plays_claimAndLoad hruns claimed).mono
        (fun claimed answer hclaimed => ?_) fun _ _ h => h)
      exact (plays_of_claimed _ hclaimed).mono (fun _ _ _ => trivial) fun _ _ h => h

end Asking

/-! ## The answer -/

namespace Database

/-- The run has this analysis. -/
def Analysed (db : Database) (runId : UUID) (evidence : Analyzed) : Prop :=
  ∃ stage, db.Shows runId stage ∧ stage.analyzed? = some evidence

/-- The run awaits its Brand Lock since then. -/
def Stamped (db : Database) (runId : UUID) (completedAt : Datetime) : Prop :=
  ∃ row, db.runs.find runId = some row ∧ row.status = .awaitingBrandLock ∧
    row.updatedAt = completedAt

variable {runId : UUID} {db db' : Database}
  {evidence : Analyzed}

theorem Analysed.of_le (h : db.Analysed runId evidence)
    (hle : (lifecycle fun _ _ => True).le db db') : db'.Analysed runId evidence := by
  obtain ⟨stage, hshows, hanalyzed⟩ := h
  obtain ⟨stage', hshows', hsteps⟩ := hle runId stage hshows
  exact ⟨stage', hshows', Stage.persistent_analyzed?.of_steps hsteps hanalyzed⟩

theorem Analysed.unique {other : Analyzed} (h : db.Analysed runId evidence)
    (h' : db.Analysed runId other) : evidence = other := by
  obtain ⟨stage, hshows, hanalyzed⟩ := h
  obtain ⟨stage', hshows', hanalyzed'⟩ := h'
  obtain rfl := hshows.unique hshows'
  exact Option.some.inj (hanalyzed.symm.trans hanalyzed')

theorem Analysed.getAnalysis (h : db.Analysed runId evidence) :
    db.getAnalysis runId = .ok (some evidence.analysis) := by
  obtain ⟨stage, hshows, hanalyzed⟩ := h
  rw [hshows.getAnalysis, hanalyzed, Option.map_some]

theorem Analysed.getRepairAttempted (h : db.Analysed runId evidence) :
    db.getRepairAttempted runId = .ok evidence.repairAttempted := by
  obtain ⟨stage, hshows, hanalyzed⟩ := h
  have hcolumn : stage.context.repairAttempted = evidence.repairAttempted.toNat := by
    simp [Stage.context, hanalyzed]
  rw [Database.getRepairAttempted, hshows.contextOf, ok_bind, hcolumn]
  cases evidence.repairAttempted <;> rfl

theorem stamped_of_get {run : ProjectRun} (hget : db.get runId = .ok run)
    (hawaiting : run.status = .awaitingBrandLock) : db.Stamped runId run.updatedAt := by
  obtain ⟨row, hrow, hget⟩ := bind_eq_ok.mp hget
  obtain ⟨warningCodes, -, hget⟩ := bind_eq_ok.mp hget
  obtain ⟨-, -, hstatus, -, -, -, -, -, hupdatedAt⟩ := ProjectRun.of_validate hget
  exact ⟨row, orRaise_eq_ok.mp hrow, hstatus.symm.trans hawaiting, hupdatedAt.symm⟩

/-- A run that awaits its Brand Lock is analysed. -/
theorem Stamped.analysed {completedAt : Datetime} (h : db.Stamped runId completedAt)
    (hinv : (lifecycle fun _ _ => True).inv db) :
    ∃ evidence, db.Shows runId (.awaiting evidence) ∧ db.Analysed runId evidence := by
  obtain ⟨row, hrow, hawaiting, -⟩ := h
  rcases hinv runId with habsent | ⟨stage, hshows, -⟩
  · rw [habsent.run] at hrow
    cases hrow
  · obtain ⟨row', hrow', -, hstatus⟩ := hshows.run
    obtain rfl := Option.some.inj (hrow.symm.trans hrow')
    obtain ⟨evidence, rfl⟩ := Stage.eq_awaiting (hstatus.symm.trans hawaiting)
    exact ⟨evidence, hshows, _, hshows, rfl⟩

end Database

/-- The history of a request for an analysis, in a run that comes to these analyses and times of
completion: whether it has read the run with an analysis. -/
def answers (κ : Type) (runId : UUID) (analyses : Analyzed → Prop) (times : Datetime → Prop) :
    History (World κ) Prop where
  moves before after := (requests fun _ _ => True).inv after ∧
    (requests fun _ _ => True).le before after ∧
    (∀ evidence, after.database.Analysed runId evidence → analyses evidence) ∧
    ∀ completedAt, after.database.Stamped runId completedAt → times completedAt
  finds read world := (requests fun _ _ => True).inv world ∧
    (∀ evidence, world.database.Analysed runId evidence → analyses evidence) ∧
    (∀ completedAt, world.database.Stamped runId completedAt → times completedAt) ∧
    (read → ∃ evidence, world.database.Analysed runId evidence)
  next read before _ := read ∨ ∃ evidence, before.database.Analysed runId evidence
  finds_of_moves := by
    rintro read before after ⟨-, -, -, hread⟩ ⟨hinv, hle, hanalyses, htimes⟩
    refine ⟨hinv, hanalyses, htimes, fun h => ?_⟩
    obtain ⟨evidence, hevidence⟩ := hread h
    exact ⟨evidence, hevidence.of_le hle⟩
  finds_next := by
    rintro read before after ⟨-, -, -, hread⟩ ⟨hinv, hle, hanalyses, htimes⟩
    refine ⟨hinv, hanalyses, htimes, fun h => ?_⟩
    obtain ⟨evidence, hevidence⟩ := h.elim hread id
    exact ⟨evidence, hevidence.of_le hle⟩

section Answering

variable {runId : UUID} {analyses : Analyzed → Prop} {times : Datetime → Prop} {read : Prop}
  {app : App κ} {request : HttpRequest}

/-- What a request for the analysis of the run answers. -/
def AnswersWith (runId : UUID) (analyses : Analyzed → Prop) (times : Datetime → Prop)
    (response : AnalysisCompleted) : Prop :=
  ∃ evidence completedAt, analyses evidence ∧ times completedAt ∧
    response = ⟨runId, evidence.analysis, evidence.repairAttempted, completedAt⟩

theorem traces_any (program : Program (World κ) Exc α) :
    program.Traces (answers κ runId analyses times) (fun _ _ => True) (fun _ _ => True) read := by
  induction program generalizing read with
  | ret value => trivial
  | raise failure => trivial
  | atomic effect next ih => exact fun state _ _ => ih state
  | choose κ next ih => exact fun answer => ih answer

theorem traces_then {program : Program (World κ) Exc α} {rest : α → Program (World κ) Exc β}
    {post : Prop → β → Prop}
    (h : ∀ read value, (rest value).Traces (answers κ runId analyses times) post
      (fun _ _ => True) read) :
    (program >>= rest).Traces (answers κ runId analyses times) post (fun _ _ => True) read :=
  Program.traces_bind ((traces_any program).mono (fun read value _ => h read value)
    fun _ _ h => h)

theorem traces_checked {body : Except Exc α} {post : Prop → α → Prop}
    (h : ∀ value, body = .ok value → post read value) :
    (.ofExcept body : Program (World κ) Exc α).Traces (answers κ runId analyses times) post
      (fun _ _ => True) read := by
  cases body with
  | ok value => exact h value rfl
  | error failure => trivial

/-- A query is answered in a state that the request finds. -/
theorem traces_reads {repository : Repository κ} {ask : Database → Except Exc α}
    {post : Prop → α → Prop}
    (h : ∀ found world value, (read → found) →
      (answers κ runId analyses times).finds found world → ask world.database = .ok value →
        post ((answers κ runId analyses times).next found world world) value) :
    (repository.query ask).Traces (answers κ runId analyses times) post (fun _ _ => True)
      read := by
  refine Program.traces_bind (Program.traces_within (fun found => read → found) id
    (fun found world part hfound hread => .inl (hfound hread)) (fun found _ hfound => ?_)
    fun _ _ _ => trivial)
  refine Program.traces_transact ?_ fun _ _ _ _ => trivial
  intro world value after hfinds _ hcommit
  obtain ⟨answer, hanswer, heq⟩ := map_eq_ok.mp hcommit
  cases heq
  exact h found world value hfound hfinds hanswer

/-- The request that completes the analysis answers with what it stores. -/
theorem traces_completeAnalysis {repository : Repository κ} (analysis : AdAnalysis)
    (repairAttempted : Bool) :
    (repository.completeAnalysis runId analysis repairAttempted).Traces
      (answers κ runId analyses times)
      (fun _ run => AnswersWith runId analyses times
        ⟨run.id, analysis, repairAttempted, run.updatedAt⟩) (fun _ _ => True) read := by
  have hget : (repository.get runId).Traces (answers κ runId analyses times)
      (fun _ run => run.id = runId) (fun _ _ => True) read :=
    traces_reads fun _ _ _ _ _ hget => get_id hget
  refine Program.traces_bind (hget.mono (fun read current hcurrent => ?_) fun _ _ h => h)
  refine traces_then fun read stored => traces_then fun read _ => ?_
  have hupdated : (current.withStatus repository.now .awaitingBrandLock none).Traces
      (answers κ runId analyses times)
      (fun _ updated => updated.id = runId ∧ updated.status = .awaitingBrandLock)
      (fun _ _ => True) read := by
    unfold ProjectRun.withStatus
    split_ifs
    · refine traces_then fun read updatedAt => traces_checked fun updated hvalidate => ?_
      obtain ⟨hid, -, hstatus, -⟩ := ProjectRun.of_validate hvalidate
      exact ⟨hid.trans hcurrent, hstatus⟩
    · trivial
  refine Program.traces_bind (hupdated.mono (fun read updated hupdated => ?_) fun _ _ h => h)
  obtain ⟨hid, hstatus⟩ := hupdated
  refine Program.traces_bind (traces_then fun read _ => ?_)
  refine Program.traces_transact ?_ fun _ _ _ _ => trivial
  rintro world ⟨⟩ after - ⟨hinv, -, hanalyses, htimes⟩ hcommit
  obtain ⟨⟨⟨⟩, database⟩, hbody, heq⟩ := map_eq_ok.mp hcommit
  cases heq
  simp only [Database.completeAnalysis, bind_eq_ok, orRaise_eq_ok] at hbody
  obtain ⟨contexts, hcontexts, runs, hruns, hvalue⟩ := hbody
  cases hvalue
  obtain ⟨context, -, -, rfl⟩ := Table.updateWhere_eq_some hcontexts
  obtain ⟨row, -, -, rfl⟩ := Table.updateWhere_eq_some hruns
  -- The state after the commit shows the analysis that was stored.
  have hstamped := htimes _ ⟨_, Table.find_set_self _ _ _, hstatus, rfl⟩
  obtain ⟨evidence, hshows, hanalysed⟩ : ∃ evidence, Database.Shows _ runId (.awaiting evidence) ∧
      Database.Analysed _ runId evidence :=
    Database.Stamped.analysed ⟨_, Table.find_set_self _ _ _, hstatus, rfl⟩ hinv
  have hcontext : some (Stage.awaiting evidence).context = some _ :=
    hshows.context.symm.trans (Table.find_set_self _ _ _)
  have hanalysis : evidence.analysis = analysis :=
    Column.dump_inj.mp (Option.some.inj (congrArg ContextRow.analysis (Option.some.inj hcontext)))
  have hrepair : evidence.repairAttempted = repairAttempted :=
    toNat_inj.mp (congrArg ContextRow.repairAttempted (Option.some.inj hcontext))
  refine ⟨evidence, updated.updatedAt, hanalyses evidence hanalysed, hstamped, ?_⟩
  rw [hid, hanalysis, hrepair]

/-- A request that has read the run with its analysis answers with it. -/
theorem traces_analyzedBefore (hunique : ∀ evidence other, analyses evidence → analyses other →
      evidence = other) {run : ProjectRun} (hid : run.id = runId) (htime : times run.updatedAt)
    (hread : read) :
    (app.analyzedBefore runId run).Traces (answers κ runId analyses times)
      (fun _ => AnswersWith runId analyses times) (fun _ _ => True) read := by
  have hasked : (app.runs.getAnalysis runId).Traces (answers κ runId analyses times)
      (fun found existing => ∀ analysis, existing = some analysis → found ∧
        ∃ evidence, analyses evidence ∧ evidence.analysis = analysis) (fun _ _ => True) read := by
    refine traces_reads fun found world existing hfound hfinds hgot => ?_
    rintro analysis rfl
    obtain ⟨-, hanalyses, -, hanalysed⟩ := hfinds
    obtain ⟨evidence, hevidence⟩ := hanalysed (hfound hread)
    refine ⟨.inl (hfound hread), evidence, hanalyses evidence hevidence, ?_⟩
    exact Option.some.inj (Except.ok.inj (hevidence.getAnalysis.symm.trans hgot))
  refine Program.traces_bind (Program.traces_tryCatch (hasked.mono (fun read existing h => ?_)
    fun read failure _ => trivial))
  cases existing with
  | none => trivial
  | some analysis =>
      obtain ⟨hread, known, hknown, rfl⟩ := h analysis rfl
      have hrepaired : (app.runs.getRepairAttempted runId).Traces (answers κ runId analyses times)
          (fun _ repaired => repaired = known.repairAttempted) (fun _ _ => True) read := by
        refine traces_reads fun found world repaired hfound hfinds hgot => ?_
        obtain ⟨-, hanalyses, -, hanalysed⟩ := hfinds
        obtain ⟨evidence, hevidence⟩ := hanalysed (hfound hread)
        rw [hunique known evidence hknown (hanalyses evidence hevidence)]
        exact Except.ok.inj (hgot.symm.trans hevidence.getRepairAttempted)
      refine Program.traces_bind (hrepaired.mono (fun read repaired h => ?_) fun _ _ h => h)
      exact ⟨known, run.updatedAt, hknown, htime, by rw [hid, h]⟩

theorem traces_analyzeRun (hunique : ∀ evidence other, analyses evidence → analyses other →
      evidence = other) :
    (app.analyzeRun runId request).Traces (answers κ runId analyses times)
      (fun _ => AnswersWith runId analyses times) (fun _ _ => True) read := by
  refine traces_then fun read _ => ?_
  have hget : (App.orNotFound (app.runs.get runId)).Traces (answers κ runId analyses times)
      (fun read run => run.id = runId ∧ (run.status = .awaitingBrandLock →
        read ∧ times run.updatedAt)) (fun _ _ => True) read := by
    refine Program.traces_tryCatch ((traces_reads fun found world run _ hfinds hget => ?_).mono
      (fun _ _ h => h) fun read failure (_ : True) => ?_)
    · refine ⟨get_id hget, fun hawaiting => ?_⟩
      obtain ⟨hinv, -, htimes, -⟩ := hfinds
      have hstamped := Database.stamped_of_get hget hawaiting
      obtain ⟨evidence, -, hanalysed⟩ := hstamped.analysed hinv
      exact ⟨.inr ⟨evidence, hanalysed⟩, htimes _ hstamped⟩
    · cases failure <;> trivial
  refine Program.traces_bind (hget.mono (fun read run hrun => ?_) fun _ _ h => h)
  obtain ⟨hid, hstamped⟩ := hrun
  by_cases hawaiting : run.status = .awaitingBrandLock
  · obtain ⟨hread, htime⟩ := hstamped hawaiting
    rw [if_pos hawaiting]
    exact traces_analyzedBefore hunique hid htime hread
  · rw [if_neg hawaiting]
    by_cases hpending : run.status = .pending
    · rw [if_neg (not_not.mpr hpending)]
      refine traces_then fun read answer => traces_then fun read outcome => ?_
      refine Program.traces_bind (Program.traces_tryCatch
        ((traces_completeAnalysis outcome.analysis outcome.repairAttempted).mono
          (fun _ _ h => h) fun _ _ _ => trivial))
    · rw [if_pos hpending]
      trivial

end Answering

/-! ## Every run -/

section Runs

variable [DecidableEq ι] {app : App κ} {rest : κ} {inbox : ι → Request}
  {config : Config ι (World κ) Exc Response} {log : List (Event ι (World κ))}

/-- The request asks for the analysis of this run. -/
def Request.Analyzes (runId : UUID) (request : Request) : Prop :=
  ∃ http, request = .analyzeRun runId http

/-- In this run of the workflow, the run is analysed once. -/
structure AnalyzedOnce (runId : UUID) (asked : κ → β) (inbox : ι → Request)
    (log : List (Event ι (World κ))) (config : Config ι (World κ) Exc Response) : Prop where
  /-- It leaves its waiting once. -/
  claimed : log.Pairwise fun first second =>
    ¬(Database.ClaimsAnalysis runId first.before.database first.after.database ∧
      Database.ClaimsAnalysis runId second.before.database second.after.database)
  /-- Only the request that has claimed it asks the provider. -/
  asks : ∀ before event after, log = before ++ event :: after →
    (inbox event.client).Analyzes runId → asked event.after.rest ≠ asked event.before.rest →
      ∃ claim ∈ before, claim.client = event.client ∧
        Database.ClaimsAnalysis runId claim.before.database claim.after.database
  /-- Who is answered is answered with the analysis of the run. -/
  answers : ∀ i response, (inbox i).Analyzes runId → config.threads i = .ret response →
    ∃ evidence completedAt, config.state.database.Analysed runId evidence ∧
      response = .analyzed ⟨runId, evidence.analysis, evidence.repairAttempted, completedAt⟩
  /-- All are answered alike. -/
  alike : ∀ i j response response', (inbox i).Analyzes runId → (inbox j).Analyzes runId →
    config.threads i = .ret response → config.threads j = .ret response' → response = response'

theorem shared_of_runs (hruns : Runs (workflow app rest inbox) log config)
    {event : Event ι (World κ)} (hevent : event ∈ log) :
    (requests fun _ _ => True).inv event.before ∧ (requests fun _ _ => True).inv event.after ∧
      (requests fun _ _ => True).le event.before event.after ∧
      (requests fun _ _ => True).le event.after config.state := by
  obtain ⟨hafter, -, hstep, hlast⟩ :=
    Discipline.moves_of_runs hruns workflow_keeps_any (fun _ _ => trivial) hevent
  obtain ⟨log₁, log₂, mid, effect, next, -, hfirst, -, hbefore, -⟩ := hruns.split hevent
  obtain ⟨owns, hkeeps, -⟩ :=
    Discipline.keeps_of_runs hfirst workflow_keeps_any fun _ _ => trivial
  exact ⟨hbefore ▸ hkeeps.inv, hafter, hstep, hlast⟩

/-- The time at which the analysis was completed does not change. -/
theorem stamped_of_runs (hruns : Runs (workflow app rest inbox) log config) {runId : UUID}
    {event event' : Event ι (World κ)} (hevent : event ∈ log) (hevent' : event' ∈ log)
    {completedAt completedAt' : Datetime}
    (hstamped : event.after.database.Stamped runId completedAt)
    (hstamped' : event'.after.database.Stamped runId completedAt') :
    completedAt = completedAt' := by
  refine hruns.eq_of_shown (fun world => world.database.Stamped runId)
    (fun world => ∃ evidence, world.database.Analysed runId evidence)
    ?_ ?_ ?_ ?_ hevent hevent' hstamped hstamped'
  · rintro world _ _ ⟨row, hrow, -, rfl⟩ ⟨row', hrow', -, rfl⟩
    rw [Option.some.inj (hrow.symm.trans hrow')]
  · intro event hevent value hvalue
    obtain ⟨evidence, -, hanalysed⟩ := hvalue.analysed (shared_of_runs hruns hevent).2.1
    exact ⟨evidence, hanalysed⟩
  · rintro event hevent ⟨evidence, hanalysed⟩
    exact ⟨evidence, hanalysed.of_le (shared_of_runs hruns hevent).2.2.1⟩
  · rintro event hevent value hvalue ⟨evidence, stage, hshows, hanalyzed⟩
    obtain ⟨-, hinv, hle, -⟩ := shared_of_runs hruns hevent
    obtain ⟨evidence', hshows', -⟩ := hvalue.analysed hinv
    obtain ⟨row, hrow, hawaiting, htime⟩ := hvalue
    have hawaits := kept_of_runs hruns
      (fun runId => (Database.transacts_effect runId).mono fun _ _ => Database.Effect.awaits)
      (fun hcommit => (Database.create_effect hcommit).awaits) hevent
    rcases hawaits runId row hrow hawaiting with hsame | ⟨prior, hprior, hprogress⟩
    · exact ⟨row, hsame, hawaiting, htime⟩
    · -- A run that is analysed and in progress has its Brand Lock, and would keep it.
      obtain ⟨row', hrow', -, hstatus⟩ := hshows.run
      obtain rfl := Option.some.inj (hprior.symm.trans hrow')
      obtain ⟨later, hlater, hsteps⟩ := hle runId stage hshows
      obtain rfl := hshows'.unique hlater
      have hconfirmed : ∃ confirmed, stage.confirmed? = some confirmed := by
        cases stage <;>
          simp_all [Stage.analyzed?, Stage.confirmed?, Stage.drafted?, Stage.composed?,
            Stage.reviewed?, Stage.status]
      obtain ⟨confirmed, hconfirmed⟩ := hconfirmed
      have hkept := Stage.persistent_confirmed?.of_steps hsteps hconfirmed
      simp [Stage.confirmed?, Stage.drafted?, Stage.composed?, Stage.reviewed?] at hkept

/-- A request that is answered is answered with what the run came to. -/
theorem answered_of_runs (hruns : Runs (workflow app rest inbox) log config) {runId : UUID}
    {analyses : Analyzed → Prop} {times : Datetime → Prop}
    (hunique : ∀ evidence other, analyses evidence → analyses other → evidence = other)
    (hanalyses : ∀ event ∈ log, ∀ evidence, event.after.database.Analysed runId evidence →
      analyses evidence)
    (htimes : ∀ event ∈ log, ∀ completedAt, event.after.database.Stamped runId completedAt →
      times completedAt)
    {i : ι} {response : Response} (hanalyzes : (inbox i).Analyzes runId)
    (hdone : config.threads i = .ret response) :
    ∃ answer, AnswersWith runId analyses times answer ∧ response = .analyzed answer := by
  obtain ⟨http, hrequest⟩ := hanalyzes
  have hmoves : ∀ event ∈ log,
      (answers κ runId analyses times).moves event.before event.after := by
    intro event hevent
    obtain ⟨-, hinv, hstep, -⟩ := shared_of_runs hruns hevent
    exact ⟨hinv, hstep, hanalyses event hevent, htimes event hevent⟩
  have hfinds : (answers κ runId analyses times).finds False (workflow app rest inbox).state := by
    refine ⟨fun runId => .inl (empty_absent runId), ?_, ?_, False.elim⟩
    · rintro evidence ⟨stage, hshows, -⟩
      exact (hshows.not_absent (empty_absent runId)).elim
    · rintro completedAt ⟨row, hrow, -⟩
      cases hrow
  have hstart : ((workflow app rest inbox).threads i).Traces (answers κ runId analyses times)
      (fun _ response => ∃ answer, AnswersWith runId analyses times answer ∧
        response = .analyzed answer) (fun _ _ => True) False := by
    change (app.handle (inbox i)).Traces _ _ _ _
    rw [hrequest]
    exact Program.traces_bind ((traces_analyzeRun hunique).mono
      (fun _ answer h => ⟨answer, h, rfl⟩) fun _ _ h => h)
  obtain ⟨-, htraces⟩ := hruns.traces hmoves hfinds hstart
  rw [hdone] at htraces
  exact htraces

/-- However many requests for the analysis of a run there are, and however they interleave with
everything else, one of them at most claims it and asks the provider, and all that are answered
are answered with the analysis that is stored, at one time of completion. -/
theorem analyzed_once {asked : κ → β} (hrepository : app.runs.Elsewhere asked)
    (hverify : ∀ token required, Elsewhere asked (app.tokens.verify token required))
    (hruns : Runs (workflow app rest inbox) log config) (runId : UUID) :
    AnalyzedOnce runId asked inbox log config := by
  have hanswered {i : ι} {response : Response} (hanalyzes : (inbox i).Analyzes runId)
      (hdone : config.threads i = .ret response) :
      ∃ answer, AnswersWith runId (config.state.database.Analysed runId)
        (fun completedAt => ∃ event ∈ log, event.after.database.Stamped runId completedAt) answer ∧
          response = .analyzed answer :=
    answered_of_runs hruns (fun _ _ h h' => h.unique h')
      (fun event hevent evidence h => h.of_le (shared_of_runs hruns hevent).2.2.2)
      (fun event hevent completedAt h => ⟨event, hevent, h⟩) hanalyzes hdone
  refine ⟨?_, ?_, ?_, ?_⟩
  · refine hruns.pairwise_of_settles
      (fun before after => Database.ClaimsAnalysis runId before.database after.database)
      (fun world => world.database.AnalysisTaken runId)
      (fun event hevent hclaims => ?_) fun event hevent htaken => ?_
    · obtain ⟨hinv, -, hle, -⟩ := shared_of_runs hruns hevent
      exact ⟨fun htaken => htaken.not_pending hclaims.1, hclaims.analysisTaken hinv hle⟩
    · exact htaken.of_le (shared_of_runs hruns hevent).2.2.1
  · rintro before event after hsplit ⟨http, hrequest⟩ hasked
    have hwaits : ((workflow app rest inbox).threads event.client).Plays (asking runId asked)
        (fun _ _ => True) (fun _ _ => True) False := by
      change (app.handle (inbox event.client)).Plays _ _ _ _
      rw [hrequest]
      exact (waits_analyzeRun hrepository hverify).bind (fun _ => .ret _) False
    have hallowed := (hruns.plays hwaits).2 before event after hsplit rfl
    rcases hallowed with hclaimed | hsame
    · rw [Phases.after_iff (fun before after =>
        Database.ClaimsAnalysis runId before.database after.database)
        (fun _ _ _ => Iff.rfl)] at hclaimed
      obtain ⟨claim, hclaim, hclaims⟩ := hclaimed.resolve_left id
      obtain ⟨hmem, hclient⟩ := List.mem_filter.mp hclaim
      exact ⟨claim, hmem, of_decide_eq_true hclient, hclaims⟩
    · exact absurd hsame hasked
  · intro i response hanalyzes hdone
    obtain ⟨_, ⟨evidence, completedAt, hanalysed, -, rfl⟩, rfl⟩ := hanswered hanalyzes hdone
    exact ⟨evidence, completedAt, hanalysed, rfl⟩
  · intro i j response response' hanalyzes hanalyzes' hdone hdone'
    obtain ⟨_, ⟨evidence, completedAt, hanalysed, ⟨event, hevent, hstamped⟩, rfl⟩, rfl⟩ :=
      hanswered hanalyzes hdone
    obtain ⟨_, ⟨evidence', completedAt', hanalysed', ⟨event', hevent', hstamped'⟩, rfl⟩, rfl⟩ :=
      hanswered hanalyzes' hdone'
    rw [hanalysed.unique hanalysed', stamped_of_runs hruns hevent hevent' hstamped hstamped']

end Runs

/-! ## Two requests at the same time -/

namespace App

variable {app : App κ} {now : Datetime} {runId : UUID} {request : HttpRequest} {db : Database}
  {rest : κ}

/-- A request that has read the run as pending comes too late if somebody claims
the run before it does. -/
theorem exists_step_analyzeRun (hruns : app.runs = .quiet now)
    (hauthorised : app.requireCapability .analyzeProjectRun runId request = .ret ())
    {run : ProjectRun} (hget : db.get runId = .ok run) (hpending : run.status = .pending) :
    ∃ program, (app.handle (.analyzeRun runId request)).Step ⟨db, rest⟩ program ⟨db, rest⟩ ∧
      ∀ (db' : Database) (rest' : κ) (body : RunCreate) (claimed : ProjectRun),
        db'.getRequest runId = .ok body → db'.claimAnalysis runId now = .ok (false, db') →
        db'.get runId = .ok claimed → program.exec ⟨db', rest'⟩ =
          some (.error (.httpException 409 "invalid_run_state"), ⟨db', rest'⟩) := by
  have hstep : ((Repository.quiet now).get runId).Step (World.mk db rest) (.ret run) ⟨db, rest⟩ :=
    step_query hget
  unfold handle analyzeRun
  dsimp only
  rw [hauthorised, Program.bind_ret, hruns]
  refine ⟨_, (Program.Step.tryCatch hstep).bind.bind, ?_⟩
  intro db' rest' body claimed hrequest hclaim hclaimed
  have hlate : ((Repository.quiet now).claimAnalysis runId).exec (World.mk db' rest') =
      some (.ok none, ⟨db', rest'⟩) := by
    refine (Program.exec_bind (exec_outside_pure rfl _)).trans ?_
    refine (Program.exec_bind (exec_transaction hclaim)).trans ?_
    exact Program.exec_bind (exec_query hclaimed)
  refine Program.exec_bind_error
    ((Program.exec_bind (Program.exec_tryCatch (Program.exec_ret run _))).trans ?_)
  rw [if_neg (by rw [hpending]; decide), if_neg (not_not.mpr hpending)]
  apply Program.exec_bind_error
  unfold claimAndLoad
  rw [hruns]
  refine (Program.exec_tryCatch_error ((Program.exec_bind (exec_query hrequest)).trans
    ((Program.exec_bind hlate).trans (Program.exec_raise _ _)))).trans ?_
  rfl

/-- A run that is analysed already is answered from the database. -/
theorem exec_analyzeRun_awaiting (hruns : app.runs = .quiet now)
    (hauthorised : app.Authorised .analyzeProjectRun runId request rest) {evidence : Analyzed}
    (hat : db.At now runId (.awaiting evidence)) :
    ∃ response, (app.analyzeRun runId request).exec ⟨db, rest⟩ =
      some (.ok response, ⟨db, rest⟩) := by
  obtain ⟨run, hget, -, -⟩ := hat.get
  have hawaiting : run.status = .awaitingBrandLock := (hat.shows.get hget).status
  have hanalysed : db.Analysed runId evidence := ⟨_, hat.shows, rfl⟩
  refine ⟨⟨run.id, evidence.analysis, evidence.repairAttempted, run.updatedAt⟩,
    (app.exec_authorised hauthorised _).trans ?_⟩
  rw [hruns]
  refine (Program.exec_bind (Program.exec_tryCatch (exec_query hget))).trans ?_
  rw [if_pos hawaiting, analyzedBefore, hruns]
  refine (Program.exec_bind (Program.exec_tryCatch (exec_query hanalysed.getAnalysis))).trans ?_
  exact Program.exec_bind (exec_query hanalysed.getRepairAttempted)

end App

namespace Demo

/-- The demo with a provider that counts how often it is asked. -/
abbrev countingApp : App Nat :=
  { app [] noWarnings answeringStore (revisionService fixtureEngine answeringStore) with
    provider :=
      ⟨VisionProviderResult, fun _ _ => .atomic (· + 1) fun _ => .ret (visionResult [] noWarnings),
        .ok⟩ }

theorem exec_analyze_counting (asked : Nat) :
    (AnalysisPipeline.analyze countingApp.provider (pure now) visionRequest).exec asked =
      some (.ok ⟨analysis [] noWarnings, false⟩, asked + 1) := by
  have hask : (AnalysisPipeline.askTwice countingApp.provider visionRequest).exec asked =
      some (.ok (visionResult [] noWarnings, false), asked + 1) := rfl
  unfold AnalysisPipeline.analyze
  rw [Program.pure_eq_ret, Program.bind_ret, validateRequest_visionRequest, Program.ofExcept_ok,
    Program.bind_ret]
  refine (Program.exec_bind hask).trans ?_
  simp only [Program.pure_eq_ret, Program.bind_ret, validateResult_visionResult,
    validate_visionResult, validated_some, Program.ofExcept_ok, Program.exec_ret]

/-- A run is created, and everybody asks for its analysis. -/
def analysisRequests : Nat → Request
  | 0 => .createRun runCreate
  | _ => .analyzeRun runId httpRequest

end Demo

/-- Two requests read the pending run. One of them claims it and asks the
provider, the other comes too late, and a third is answered alike. -/
theorem analyzed_once_demo : ∃ log config response,
    Runs (workflow Demo.countingApp 0 Demo.analysisRequests) log config ∧
    config.state.rest = 1 ∧ config.threads 1 = .ret response ∧
    config.threads 2 = .raise (.httpException 409 "invalid_run_state") ∧
    config.threads 3 = .ret response ∧
    AnalyzedOnce Demo.runId (id : Nat → Nat) Demo.analysisRequests log config := by
  have hrepository : Demo.countingApp.runs.Elsewhere (id : Nat → Nat) := by
    constructor <;> exact trivial
  have hverify (token : String) (required : Capability) :
      Elsewhere (id : Nat → Nat) (Demo.countingApp.tokens.verify token required) := trivial
  have hcapability : Demo.countingApp.requireCapability .analyzeProjectRun Demo.runId
      Demo.httpRequest = .ret () :=
    Demo.requireCapability_demo [] Demo.noWarnings Demo.answeringStore
      Demo.countingApp.revisions .analyzeProjectRun
  have hauthorised (asked : Nat) : Demo.countingApp.Authorised .analyzeProjectRun Demo.runId
      Demo.httpRequest asked := by
    intro db
    rw [hcapability]
    rfl
  obtain ⟨token, created, htoken, hresponse⟩ := Demo.exists_runCreated
  obtain ⟨db, hcreate, hat⟩ : ∃ db, (Demo.countingApp.createRun Demo.runCreate).exec
      ⟨.empty, 0⟩ = some (.ok created, ⟨db, 0⟩) ∧
        db.At Demo.now Demo.runId (.pending Demo.runCreate) :=
    Demo.countingApp.exec_createRun rfl rfl htoken hresponse (empty_absent Demo.runId)
  obtain ⟨db', response, hanalyze, hat'⟩ := Demo.countingApp.exec_analyzeRun rfl (hauthorised 0)
    hat rfl rfl (Demo.exec_analyze_counting 0) ⟨rfl, rfl⟩
  obtain ⟨again, hagain⟩ := App.exec_analyzeRun_awaiting rfl (hauthorised 1) hat'
  obtain ⟨run, hget, -, -⟩ := hat.get
  obtain ⟨analysed, hanalysed, -, -⟩ := hat'.get
  obtain ⟨row, hrow, -, hawaiting, -⟩ := hat'.row
  have hlate : db'.claimAnalysis Demo.runId Demo.now = .ok (false, db') := by
    rw [Database.claimAnalysis, Table.updateWhere, hrow]
    simp [hawaiting, Stage.status]
  obtain ⟨found, hread, htoolate⟩ : ∃ found, (Demo.countingApp.handle
      (.analyzeRun Demo.runId Demo.httpRequest)).Step ⟨db, 0⟩ found ⟨db, 0⟩ ∧ _ :=
    App.exists_step_analyzeRun rfl hcapability hget (hat.shows.get hget).status
  have hfails := htoolate db' 1 _ _ hat'.shows.getRequest hlate hanalysed
  let start := workflow Demo.countingApp 0 Demo.analysisRequests
  obtain ⟨log₀, hcreated⟩ := (Runs.refl : Runs start [] start).serve (i := 0) rfl
    (Program.exec_bind hcreate)
  have hreads := hcreated.step (i := 2) (Config.move_threads_ne _ _ _ (by decide)) hread
  obtain ⟨log₁, hanalyses⟩ := hreads.serve (i := 1)
    ((Config.move_threads_ne _ _ _ (by decide)).trans (Config.move_threads_ne _ _ _ (by decide)))
    (Program.exec_bind hanalyze)
  obtain ⟨log₂, hrefused⟩ := hanalyses.serve (i := 2)
    ((Config.move_threads_ne _ _ _ (by decide)).trans (Config.move_threads_self _ _ _ _)) hfails
  obtain ⟨log, hruns⟩ := hrefused.serve (i := 3)
    ((Config.move_threads_ne _ _ _ (by decide)).trans
      ((Config.move_threads_ne _ _ _ (by decide)).trans
        ((Config.move_threads_ne _ _ _ (by decide)).trans
          (Config.move_threads_ne _ _ _ (by decide)))))
    (Program.exec_bind hagain)
  have honce := analyzed_once hrepository hverify hruns Demo.runId
  have halike := honce.alike 1 3 (.analyzed response) (.analyzed again) ⟨_, rfl⟩ ⟨_, rfl⟩
    ((Config.move_threads_ne _ _ _ (by decide)).trans
      ((Config.move_threads_ne _ _ _ (by decide)).trans (Config.move_threads_self _ _ _ _)))
    (Config.move_threads_self _ _ _ _)
  refine ⟨log, _, .analyzed response, hruns, rfl, ?_, ?_, ?_, honce⟩
  · exact (Config.move_threads_ne _ _ _ (by decide)).trans
      ((Config.move_threads_ne _ _ _ (by decide)).trans (Config.move_threads_self _ _ _ _))
  · exact (Config.move_threads_ne _ _ _ (by decide)).trans (Config.move_threads_self _ _ _ _)
  · rw [halike]
    exact Config.move_threads_self _ _ _ _

end CultureShift
