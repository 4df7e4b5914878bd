/-
# The handlers keep the discipline

Every handler of the first version is orderly, whatever its collaborators do.
The transactions check what they need themselves, with two exceptions: the end
of an analysis rests on the claim of the request, and a report on the evidence
that was read before it was made.
-/

import CultureShift.App
import CultureShift.Lifecycle.Rules

namespace CultureShift

open Serialization Relational Concurrent

variable {κ α : Type} {certifies : CriticRequest → CritiqueReport → Prop}

/-! ## Evidence that was read -/

/-- The run is at a stage with this evidence. -/
def Database.Has (db : Database) (runId : UUID) (evidence : Stage → Option α) (value : α) : Prop :=
  ∃ stage, db.Shows runId stage ∧ evidence stage = some value

namespace Database

variable {db : Database} {runId : UUID} {evidence : Stage → Option α} {value : α}

theorem Has.eq (h : db.Has runId evidence value) {stage : Stage} (hshows : db.Shows runId stage) :
    evidence stage = some value := by
  obtain ⟨stage', hshows', hvalue⟩ := h
  rwa [hshows.unique hshows']

/-- What was read is still there later on. -/
theorem Has.of_le {world found : World κ} (h : world.database.Has runId evidence value)
    (hpersistent : Stage.Persistent evidence) (hle : (requests certifies).le world found) :
    found.database.Has runId evidence value := by
  obtain ⟨stage, hshows, hvalue⟩ := h
  obtain ⟨stage', hshows', hsteps⟩ := hle runId stage hshows
  exact ⟨stage', hshows', hpersistent.of_steps hsteps hvalue⟩

theorem Has.of_rely {world found : World κ} {tokens : Set Token}
    (h : world.database.Has runId evidence value) (hpersistent : Stage.Persistent evidence)
    (hrely : (requests certifies).Rely tokens world found) :
    found.database.Has runId evidence value :=
  h.of_le hpersistent hrely.le

/-- A query that found the run has found it at a stage. -/
theorem shows_of_contextOf (hinv : (lifecycle certifies).inv db) {context : ContextRow}
    (hcontext : db.contextOf runId = .ok context) : ∃ stage, db.Shows runId stage := by
  rcases hinv runId with habsent | ⟨stage, hshows, -⟩
  · rw [Database.contextOf, habsent.context] at hcontext
    cases hcontext
  · exact ⟨stage, hshows⟩

theorem has_of_getAnalysis (hinv : (lifecycle certifies).inv db) {analysis : AdAnalysis}
    (hread : db.getAnalysis runId = .ok (some analysis)) :
    ∃ evidence, db.Has runId Stage.analyzed? evidence ∧ evidence.analysis = analysis := by
  obtain ⟨context, hcontext, -⟩ := bind_eq_ok.mp hread
  obtain ⟨stage, hshows⟩ := shows_of_contextOf hinv hcontext
  obtain ⟨evidence, hevidence, heq⟩ :=
    Option.map_eq_some_iff.mp (Except.ok.inj (hshows.getAnalysis.symm.trans hread))
  exact ⟨evidence, ⟨stage, hshows, hevidence⟩, heq⟩

theorem has_of_getConfirmedBrandLock (hinv : (lifecycle certifies).inv db)
    {record : BrandLockConfirmationRecord}
    (hread : db.getConfirmedBrandLock runId = .ok (some record)) :
    ∃ evidence, db.Has runId Stage.confirmed? evidence ∧ evidence.confirmation = record := by
  obtain ⟨context, hcontext, -⟩ := bind_eq_ok.mp hread
  obtain ⟨stage, hshows⟩ := shows_of_contextOf hinv hcontext
  obtain ⟨evidence, hevidence, heq⟩ :=
    Option.map_eq_some_iff.mp (Except.ok.inj (hshows.getConfirmedBrandLock.symm.trans hread))
  exact ⟨evidence, ⟨stage, hshows, hevidence⟩, heq⟩

theorem has_of_getDraft (hinv : (lifecycle certifies).inv db) {draft : DraftRecord}
    (hread : db.getDraft runId = .ok (some draft)) :
    ∃ evidence, db.Has runId Stage.drafted? evidence ∧ evidence.draft = draft := by
  obtain ⟨context, hcontext, -⟩ := bind_eq_ok.mp hread
  obtain ⟨stage, hshows⟩ := shows_of_contextOf hinv hcontext
  obtain ⟨evidence, hevidence, heq⟩ :=
    Option.map_eq_some_iff.mp (Except.ok.inj (hshows.getDraft.symm.trans hread))
  exact ⟨evidence, ⟨stage, hshows, hevidence⟩, heq⟩

theorem has_of_getComposition (hinv : (lifecycle certifies).inv db)
    {composition : CompositionGenerated}
    (hread : db.getComposition runId = .ok (some composition)) :
    ∃ evidence, db.Has runId Stage.composed? evidence ∧ evidence.composition = composition := by
  obtain ⟨context, hcontext, -⟩ := bind_eq_ok.mp hread
  obtain ⟨stage, hshows⟩ := shows_of_contextOf hinv hcontext
  obtain ⟨evidence, hevidence, heq⟩ :=
    Option.map_eq_some_iff.mp (Except.ok.inj (hshows.getComposition.symm.trans hread))
  exact ⟨evidence, ⟨stage, hshows, hevidence⟩, heq⟩

theorem shows_of_get (hinv : (lifecycle certifies).inv db) {run : ProjectRun}
    (hget : db.get runId = .ok run) : ∃ stage, db.Shows runId stage := by
  rcases hinv runId with habsent | ⟨stage, hshows, -⟩
  · rw [habsent.get] at hget
    cases hget
  · exact ⟨stage, hshows⟩

end Database

/-! ## Transactions that check for themselves -/

section Orderly

variable {tokens : Set Token} {db db' : Database} (runId : UUID)

/-- A commit keeps the discipline when it changes nothing or makes a step that
nobody holds. -/
theorem guarantee_of_commit (hinv : (lifecycle certifies).inv db)
    (hshows : ∀ stage, db.Shows runId stage → stage.Certified certifies →
      db' = db ∨ ∃ stage', Database.Advances runId db db' stage' ∧ stage.Step stage' ∧
        stage'.Certified certifies ∧ stage.hold? = none)
    (habsent : ¬db.Absent runId) : (lifecycle certifies).Guarantee tokens db db' := by
  rcases hinv runId with hnone | ⟨stage, hstage, hcertified⟩
  · exact absurd hnone habsent
  · rcases hshows stage hstage hcertified with rfl | ⟨stage', hadvances, hstep, hcertified', hfree⟩
    · exact Discipline.guarantee_self hinv
    · refine guarantee_of_advances hinv hstage hadvances (.single hstep) hcertified' ?_
      rw [hfree]
      exact fun _ hheld => nomatch hheld

variable (repository : Repository κ)

theorem orderly_now : Orderly certifies repository.now := .outside _

theorem orderly_nowOr (given : Option Datetime) : Orderly certifies (repository.nowOr given) := by
  cases given with
  | none => exact orderly_now repository
  | some given => exact .ret given

theorem orderly_create {run : ProjectRun} (hstatus : run.status = .pending)
    (request : RunCreate) : Orderly certifies (repository.create run (some request)) := by
  refine .bind (.transaction repository fun tokens db done db' hinv hcommit => ?_) fun _ => .ret run
  rcases hinv run.id with habsent | ⟨stage, hshows, -⟩
  · exact guarantee_of_creation hinv habsent (Database.create_commits habsent hstatus hcommit)
  · rw [hshows.create] at hcommit
    cases hcommit

theorem orderly_confirmBrandLock (proposed : BrandLock) (confirmedAt : Option Datetime) :
    Orderly certifies (repository.confirmBrandLock runId proposed confirmedAt) := by
  refine .bind (orderly_nowOr repository confirmedAt) fun time =>
    .transaction repository fun tokens db record db' hinv hcommit => ?_
  refine guarantee_of_commit runId hinv (fun stage hshows hcertified => ?_) fun habsent => ?_
  · rcases hshows.confirmBrandLock hcommit with rfl | ⟨evidence, rfl, hadvances⟩
    · exact .inl rfl
    · exact .inr ⟨_, hadvances, .confirmBrandLock evidence, hcertified.of_eq rfl rfl, rfl⟩
  · rw [Database.confirmBrandLock, habsent.joined] at hcommit
    cases hcommit

theorem orderly_saveDraft (brief : CreativeBrief) (adCopy : AdCopy)
    (factReferences ruleIds : List String) (generatedAt : Option Datetime) :
    Orderly certifies
      (repository.saveDraft runId brief adCopy factReferences ruleIds generatedAt) := by
  refine .bind (orderly_nowOr repository generatedAt) fun time =>
    .transaction repository fun tokens db record db' hinv hcommit => ?_
  refine guarantee_of_commit runId hinv (fun stage hshows hcertified => ?_) fun habsent => ?_
  · rcases hshows.saveDraft hcommit with rfl | ⟨evidence, rfl, hadvances⟩
    · exact .inl rfl
    · exact .inr ⟨_, hadvances, .saveDraft evidence, hcertified.of_eq rfl rfl, rfl⟩
  · rw [Database.saveDraft, habsent.joined] at hcommit
    cases hcommit

theorem orderly_saveComposition (composition : CompositionGenerated) :
    Orderly certifies (repository.saveComposition runId composition) := by
  refine .bind (.ofExcept _) fun _ =>
    .transaction repository fun tokens db record db' hinv hcommit => ?_
  refine guarantee_of_commit runId hinv (fun stage hshows hcertified => ?_) fun habsent => ?_
  · rcases hshows.saveComposition hcommit with rfl | ⟨evidence, rfl, hadvances⟩
    · exact .inl rfl
    · exact .inr ⟨_, hadvances, .saveComposition evidence, hcertified.of_eq rfl rfl, rfl⟩
  · rw [Database.saveComposition, habsent.joined] at hcommit
    cases hcommit

end Orderly

/-! ## Reviewing -/

section Review

variable {tokens : Set Token} {world : World κ} (repository : Repository κ)

/-- A report may be stored with the evidence it was made about. -/
theorem safe_saveCritique (runId : UUID) {report : CritiqueReport} {analyzed : Analyzed}
    {confirmed : Confirmed} {drafted : Drafted} {composed : Composed} {codes : List String}
    (hanalyzed : world.database.Has runId Stage.analyzed? analyzed)
    (hconfirmed : world.database.Has runId Stage.confirmed? confirmed)
    (hdrafted : world.database.Has runId Stage.drafted? drafted)
    (hcomposed : world.database.Has runId Stage.composed? composed)
    (hcertified : certifies ⟨analyzed.analysis, confirmed.confirmation.brandLock, drafted.draft,
      composed.composition, codes⟩ report) :
    Discipline.Safe (requests certifies) (fun _ => True) (fun _ _ _ => True) (fun _ _ _ => True)
      tokens world (repository.saveCritique runId report) := by
  refine safe_transaction repository.connect_raises
    (fun found record db' hfound _ hcommit => ⟨?_, fun _ _ => trivial⟩)
    (fun _ _ _ _ _ _ _ => trivial) fun _ _ _ _ => trivial
  refine guarantee_of_commit runId hfound.inv (fun stage hshows hstage => ?_) fun habsent => ?_
  · rcases hshows.saveCritique hcommit with heq | ⟨evidence, rfl, hadvances⟩
    · exact .inl heq
    · -- The evidence at the save is the evidence that was reviewed.
      obtain rfl : evidence.toAnalyzed = analyzed := Option.some.inj
        ((hanalyzed.of_rely Stage.persistent_analyzed? hfound).eq hshows)
      obtain rfl : evidence.toConfirmed = confirmed := Option.some.inj
        ((hconfirmed.of_rely Stage.persistent_confirmed? hfound).eq hshows)
      obtain rfl : evidence.toDrafted = drafted := Option.some.inj
        ((hdrafted.of_rely Stage.persistent_drafted? hfound).eq hshows)
      obtain rfl : evidence = composed := Option.some.inj
        ((hcomposed.of_rely Stage.persistent_composed? hfound).eq hshows)
      refine .inr ⟨_, hadvances, ?_, ?_, rfl⟩
      · unfold Composed.review
        split_ifs with hreject
        · exact .reject ⟨⟨evidence, report⟩, hreject⟩
        · exact .accept ⟨⟨evidence, report⟩, hreject⟩
      · unfold Composed.review
        split_ifs with hreject
        · refine ⟨fun other hother => ⟨codes, ?_⟩, fun other revision _ hrevised => ?_⟩
          · obtain rfl := Option.some.inj hother
            exact hcertified
          · cases hrevised
        · refine ⟨fun other hother => ⟨codes, ?_⟩, fun other revision _ hrevised => ?_⟩
          · obtain rfl := Option.some.inj hother
            exact hcertified
          · cases hrevised
  · rw [Database.saveCritique, habsent.joined] at hcommit
    cases hcommit

end Review

/-! ## Analysing -/

/-- The exceptions that refuse an analysis. -/
def Exc.refusesAnalysis : Exc → Bool
  | .assetLifecycleClosedError | .assetStorageError _ | .projectRunNotFoundError _ => true
  | _ => false

theorem Exc.refusesAnalysis_of_isForeign {failure : Exc} (h : failure.isForeign = true) :
    failure.refusesAnalysis = false := by
  cases failure <;> first | rfl | cases h

section Analysis

variable {assumes : World κ → Prop} {tokens : Set Token} {world : World κ}
  (repository : Repository κ) (runId : UUID)

theorem safe_withStatus {post : ProjectRun → Set Token → World κ → Prop} {run : ProjectRun}
    {status : ProjectRunStatus}
    (hpost : ∀ updated later, updated.id = run.id → updated.status = status →
      (requests certifies).Rely tokens world later → post updated tokens later) :
    Discipline.Safe (requests certifies) assumes post (fun _ _ _ => True) tokens world
      (run.withStatus repository.now status none) := by
  unfold ProjectRun.withStatus
  split_ifs
  · refine Discipline.safe_bind (safe_outside (Program.returns_true _) (Program.raises_true _)
      (fun updatedAt read _ hread => ?_) fun _ _ _ _ => trivial)
    refine safe_ofExcept (fun updated later hvalidate hlater => ?_) fun _ _ _ _ => trivial
    obtain ⟨hid, -, hstatus, -⟩ := ProjectRun.of_validate hvalidate
    exact hpost updated later hid hstatus (hread.trans hlater)
  · exact Discipline.safe_raise fun _ _ => trivial

/-- The request that holds the analysis may refuse it. -/
theorem safe_recordFailure (hhold : Token.hold runId .analysis ∈ tokens) (blocked : Bool)
    (code : String) :
    Discipline.Safe (requests certifies) (fun _ => True) (fun _ _ _ => True) (fun _ _ _ => True)
      tokens world
      (repository.recordFailure runId (if blocked then .blocked else .failed) code) := by
  refine Discipline.safe_bind (safe_ofExcept (fun _ _ _ _ => ?_) fun _ _ _ _ => trivial)
  refine Discipline.safe_bind (safe_query repository.connect_raises
    (fun found current _ hfound _ hget _ => ?_)
    (fun _ _ _ _ _ _ _ => trivial) fun _ _ _ _ => trivial)
  refine Discipline.safe_bind (safe_withStatus repository fun transitioned _ hid hstatus _ => ?_)
  refine Discipline.safe_bind (safe_ofExcept (fun updated _ hvalidate _ => ?_)
    fun _ _ _ _ => trivial)
  refine Discipline.safe_bind (safe_transaction repository.connect_raises
    (fun found' _ db' hfound' _ hcommit => ⟨?_, fun _ _ => ?_⟩) (fun _ _ _ _ _ _ _ => trivial)
    fun _ _ _ _ => trivial)
  · obtain ⟨stage, hshows, hheld, hcertified⟩ := shows_of_hold hfound' hhold
    obtain ⟨request, rfl⟩ := Stage.eq_analyzing hheld
    obtain ⟨stage', hshows', -⟩ := shows_of_hold hfound hhold
    obtain ⟨hid', -, hstatus', -⟩ := ProjectRun.of_validate hvalidate
    rw [hid', hid, (hshows'.get hget).id, hstatus', hstatus] at hcommit
    refine guarantee_of_advances hfound'.inv hshows (hshows.recordFailure hcommit)
      (.single (.recordFailure request blocked)) (hcertified.of_eq rfl rfl) fun hold hhold' => ?_
    obtain rfl := Option.some.inj hhold'
    exact .inr hhold
  · exact Discipline.safe_ret fun _ _ => trivial

/-- The request that holds the analysis may complete it. -/
theorem safe_completeAnalysis (hhold : Token.hold runId .analysis ∈ tokens)
    (analysis : AdAnalysis) (repairAttempted : Bool) :
    Discipline.Safe (requests certifies) (fun _ => True) (fun _ _ _ => True) (fun _ _ _ => True)
      tokens world (repository.completeAnalysis runId analysis repairAttempted) := by
  refine Discipline.safe_bind (safe_query repository.connect_raises
    (fun found current later hfound _ hget _ => ?_)
    (fun _ _ _ _ _ _ _ => trivial) fun _ _ _ _ => trivial)
  refine Discipline.safe_bind (safe_query repository.connect_raises
    (fun found' request later' hfound' _ hrequest hlater' => ?_)
    (fun _ _ _ _ _ _ _ => trivial) fun _ _ _ _ => trivial)
  refine Discipline.safe_bind (safe_ofExcept (fun _ checked hmatches hchecked => ?_)
    fun _ _ _ _ => trivial)
  refine Discipline.safe_bind (safe_withStatus repository
    fun updated opened hid hstatus hopened => ?_)
  refine Discipline.safe_bind (safe_transaction repository.connect_raises
    (fun found'' _ db' hfound'' _ hcommit => ⟨?_, fun _ _ => ?_⟩) (fun _ _ _ _ _ _ _ => trivial)
    fun _ _ _ _ => trivial)
  · obtain ⟨stage, hshows, hheld, hcertified⟩ := shows_of_hold hfound'' hhold
    obtain ⟨request', rfl⟩ := Stage.eq_analyzing hheld
    -- The stored request is the one that was read.
    obtain ⟨stage', hshows', -⟩ := shows_of_hold hfound' hhold
    obtain rfl : stage'.request = request := Except.ok.inj (hshows'.getRequest.symm.trans hrequest)
    have hsame : request' = stage'.request := by
      obtain ⟨stage'', hshows'', hsteps, -⟩ := shows_of_rely
        (hlater'.trans (hchecked.trans (hopened.trans hfound''))) hshows'
      obtain rfl := hshows.unique hshows''
      simpa [Stage.request] using
        Stage.persistent_request.of_steps hsteps (rfl : some stage'.request = _)
    subst hsame
    rw [hstatus] at hcommit
    refine guarantee_of_advances hfound''.inv hshows
      (hshows.completeAnalysis (require_eq_ok.mp hmatches) hcommit)
      (.single (.completeAnalysis ⟨_, analysis, repairAttempted, require_eq_ok.mp hmatches⟩))
      (hcertified.of_eq rfl rfl) fun hold hhold' => ?_
    obtain rfl := Option.some.inj hhold'
    exact .inr hhold
  · exact Discipline.safe_ret fun _ _ => trivial

/-- A claim that met a pending run holds its analysis. -/
theorem safe_claimAnalysis {stage : Stage} (hshows : world.database.Shows runId stage) :
    Discipline.Safe (requests certifies) (fun _ => True)
      (fun claimed tokens _ => claimed.isSome → Token.hold runId .analysis ∈ tokens)
      (fun failure tokens _ => failure.refusesAnalysis → Token.hold runId .analysis ∈ tokens)
      tokens world (repository.claimAnalysis runId) := by
  refine Discipline.safe_bind (safe_outside (Program.returns_true _) repository.utcNow_raises
    (fun claimedAt _ _ hread => ?_) fun failure _ hforeign _ hrefuses => ?_)
  · refine Discipline.safe_bind (safe_transaction repository.connect_raises
      (fun found claimed db' hfound _ hcommit => ?_) (fun _ _ _ _ _ hfailure _ => ?_)
      fun _ _ => nofun)
    · obtain ⟨stage', hshows', -, hcertified⟩ := shows_of_rely (hread.trans hfound) hshows
      -- The read after the claim finds the run, so its failures do not refuse the analysis.
      have hget {tokens' : Set Token} {later : World κ} {stage'' : Stage}
          (hlater : later.database.Shows runId stage'')
          (hclaimed : claimed = true → Token.hold runId .analysis ∈ tokens') :
          Discipline.Safe (requests certifies) (fun _ => True)
            (fun claimed tokens _ => claimed.isSome → Token.hold runId .analysis ∈ tokens)
            (fun failure tokens _ => failure.refusesAnalysis →
              Token.hold runId .analysis ∈ tokens) tokens' later
            (do
              let run ← repository.get runId
              return if claimed then some run else none) := by
        refine Discipline.safe_bind (safe_query repository.connect_raises
          (fun _ run _ _ _ _ _ => Discipline.safe_ret fun _ _ hsome => ?_)
          (fun found'' failure _ hfound'' _ hfailure _ hrefuses => ?_) fun _ _ => nofun)
        · cases claimed
          · cases hsome
          · exact hclaimed rfl
        · obtain ⟨_, hshows'', -⟩ := shows_of_rely hfound'' hlater
          rw [hshows''.get_error hfailure] at hrefuses
          cases hrefuses
      rcases hshows'.claimAnalysis hcommit with ⟨rfl, rfl⟩ | ⟨rfl, request, rfl, hadvances⟩
      · refine ⟨Discipline.guarantee_self hfound.inv, fun later hlater => ?_⟩
        obtain ⟨_, hshows'', -⟩ := shows_of_rely hlater hshows'
        exact hget hshows'' nofun
      · refine ⟨guarantee_of_advances hfound.inv hshows' hadvances
          (.single (.claimAnalysis request)) (hcertified.of_eq rfl rfl) (fun _ => nofun),
          fun later hlater => ?_⟩
        obtain ⟨_, hshows'', -⟩ := shows_of_rely hlater hadvances.shows
        refine hget hshows'' fun _ => ⟨⟨_, hadvances.shows, rfl⟩, .inr ?_⟩
        rintro ⟨_, hbefore, hheld⟩
        obtain rfl := hshows'.unique hbefore
        cases hheld
    · unfold Database.claimAnalysis at hfailure
      split at hfailure <;> cases hfailure
  · rw [Exc.refusesAnalysis_of_isForeign hforeign] at hrefuses
    cases hrefuses

/-- Claiming and loading leaves the request with the analysis, or refuses it. -/
theorem safe_claimAndLoad (app : App κ) {stage : Stage}
    (hshows : world.database.Shows runId stage) :
    Discipline.Safe (requests certifies) (fun _ => True)
      (fun _ tokens _ => Token.hold runId .analysis ∈ tokens) (fun _ _ _ => True)
      tokens world (app.claimAndLoad runId) := by
  refine Discipline.safe_tryCatch ((?_ : Discipline.Safe (requests certifies) (fun _ => True)
    (fun _ tokens _ => Token.hold runId .analysis ∈ tokens)
    (fun failure tokens _ => failure.refusesAnalysis → Token.hold runId .analysis ∈ tokens)
    tokens world _).mono (fun _ _ _ h => h) fun failure tokens' world' hrefuses => ?_)
  · refine Discipline.safe_bind (safe_query app.runs.connect_raises
      (fun found stored later hfound _ _ hlater => ?_)
      (fun found failure _ hfound _ hfailure _ => ?_) fun _ _ => nofun)
    · obtain ⟨_, hshows', -⟩ := shows_of_rely (hfound.trans hlater) hshows
      refine Discipline.safe_bind ((safe_claimAnalysis app.runs runId hshows').mono
        (fun claimed tokens' world' hclaimed => ?_) fun _ _ _ h => h)
      cases claimed with
      | none => exact Discipline.safe_raise fun _ _ => nofun
      | some run =>
          refine Discipline.safe_bind (safe_outside (Program.returns_true _)
            (Program.raises_true _) (fun loaded _ _ _ => ?_) fun _ _ _ _ _ => hclaimed rfl)
          refine Discipline.safe_bind (safe_ofExcept
            (fun _ _ _ _ => Discipline.safe_ret fun _ _ => hclaimed rfl)
            fun _ _ _ _ _ => hclaimed rfl)
    · obtain ⟨_, hshows', -⟩ := shows_of_rely hfound hshows
      rw [hshows'.getRequest] at hfailure
      cases hfailure
  · have hblock (hhold : Token.hold runId .analysis ∈ tokens') (code next : String) :
        Discipline.Safe (requests certifies) (fun _ => True)
          (fun (_ : RunCreate × LoadedAsset) tokens _ => Token.hold runId .analysis ∈ tokens)
          (fun _ _ _ => True) tokens' world'
          (do
            let _ ← app.runs.recordFailure runId .blocked code
            App.httpError 409 next) :=
      Discipline.safe_bind ((safe_recordFailure app.runs runId hhold true code).mono
        (fun _ _ _ _ => Discipline.safe_raise fun _ _ => trivial) fun _ _ _ _ => trivial)
    cases failure <;>
      first | exact hblock (hrefuses rfl) _ _ | exact Discipline.safe_raise fun _ _ => trivial

theorem safe_analyzeClaimed (app : App κ) (hhold : Token.hold runId .analysis ∈ tokens)
    (stored : RunCreate) (loaded : LoadedAsset) :
    Discipline.Safe (requests certifies) (fun _ => True)
      (fun _ tokens _ => Token.hold runId .analysis ∈ tokens) (fun _ _ _ => True) tokens world
      (app.analyzeClaimed runId stored loaded) := by
  refine Discipline.safe_tryCatch (safe_outside (Program.returns_true _) (Program.raises_true _)
    (fun _ _ _ _ => hhold) fun failure world' _ _ => ?_)
  cases failure with
  | analysisPipelineError code =>
      exact Discipline.safe_bind ((safe_recordFailure app.runs runId hhold
        (App.isBlockedCode code) (StrEnum.value code)).mono
        (fun _ _ _ _ => Discipline.safe_raise fun _ _ => trivial) fun _ _ _ _ => trivial)
  | _ => exact Discipline.safe_raise fun _ _ => trivial

end Analysis

/-! ## The handlers -/

theorem orderly_render (studio : Studio κ) (run : ProjectRun) (lock : BrandLock)
    (brief : CreativeBrief) (adCopy : AdCopy) :
    Orderly certifies (studio.render run lock brief adCopy) :=
  .bind (.ofExcept _) fun _ => .bind (.outside _) fun _ => .bind (.outside _) fun _ =>
    .bind (.ofExcept _) fun _ => .bind (.outside _) fun _ => .outside _

theorem orderly_saveArtifact (studio : Studio κ) (artifactId : UUID) (composed : ComposedAd)
    (now : Datetime) : Orderly certifies (studio.saveArtifact artifactId composed now) :=
  .bind (.ofExcept _) fun _ => .outside _

theorem orderly_generate (service : CompositionService κ) (runId : UUID) :
    Orderly certifies (service.generate runId) := by
  refine .bind (.tryCatch ?_ fun failure => ?_) fun prepared => ?_
  · refine .bind (.query _ _) fun existing => ?_
    cases existing with
    | some existing => exact .ret _
    | none =>
        exact .bind (.query _ _) fun run => .bind (.query _ _) fun request =>
          .bind (.query _ _) fun analysis => .bind (.query _ _) fun confirmation =>
            .bind (.query _ _) fun draft => .ret _
  · cases failure <;> exact .raise _
  · rcases prepared with existing | ⟨run, request, analysis, confirmation, draft⟩
    · exact .ret existing
    · dsimp only
      split_ifs
      · exact .raise _
      · exact .raise _
      · cases confirmation <;> cases draft <;> try exact .raise _
        refine .bind (.outside _) fun artifactId => .bind (orderly_now _) fun now =>
          .bind (.tryCatch ?_ fun failure => ?_) fun summary => .tryCatch ?_ fun failure => ?_
        · refine .bind (orderly_render _ _ _ _ _) fun composed =>
            .bind (orderly_saveArtifact _ _ _ _) fun stored => .ofExcept _
        · cases failure <;> try exact .raise _
          exact .bind (.outside _) fun _ => .raise _
        · exact orderly_saveComposition runId _ summary
        · refine .bind (.outside _) fun _ => ?_
          cases failure <;> try exact .raise _
          refine .bind (.tryCatch (.query _ _) fun failure => ?_) fun replay => ?_
          · cases failure <;> first | exact .raise _ | exact .ret _
          · cases replay <;> first | exact .raise _ | exact .ret _

namespace App

variable (app : App κ) (runId : UUID) (request : HttpRequest)

theorem orderly_requireCapability (required : Capability) :
    Orderly certifies (app.requireCapability required runId request) := by
  unfold requireCapability
  split
  · exact .raise _
  · refine .bind (.tryCatch (.outside _) fun failure => ?_) fun claims => ?_
    · cases failure <;> exact .raise _
    · split_ifs
      · exact .ret ()
      · exact .raise _

theorem orderly_orNotFound {program : Program (World κ) Exc α} (h : Orderly certifies program) :
    Orderly certifies (orNotFound program) := by
  refine .tryCatch h fun failure => ?_
  cases failure <;> exact .raise _

theorem orderly_createRun (body : RunCreate) : Orderly certifies (app.createRun body) := by
  refine .tryCatch ?_ fun _ => .raise _
  refine .bind (.outside _) fun id => .bind (orderly_now app.runs) fun now => ?_
  refine .bind (.outside _) fun token => ?_
  refine .bind (.ofExcept _) fun response => ?_
  exact .bind (orderly_create app.runs rfl body) fun _ => .ret response

theorem orderly_analyzedBefore (run : ProjectRun) :
    Orderly certifies (app.analyzedBefore runId run) := by
  refine .bind (.tryCatch (.query _ _) fun _ => .ret none) fun existing => ?_
  cases existing with
  | none => exact .raise _
  | some analysis => exact .bind (.query _ _) fun _ => .ret _

theorem orderly_analyzeRun : Orderly certifies (app.analyzeRun runId request) := by
  refine .bind (app.orderly_requireCapability runId request _) fun _ => ⟨fun tokens world => ?_⟩
  refine Discipline.safe_bind (Discipline.safe_tryCatch (safe_query app.runs.connect_raises
    (fun found run later hfound _ hget hlater => ?_)
    (fun _ failure later _ _ _ _ => ?_) fun failure _ hfault _ => ?_))
  · obtain ⟨_, hshows⟩ := Database.shows_of_get hfound.inv hget
    obtain ⟨_, hshows, -⟩ := shows_of_rely hlater hshows
    split_ifs
    · exact (app.orderly_analyzedBefore runId run).safe tokens later
    · exact Discipline.safe_raise fun _ _ => trivial
    · refine Discipline.safe_bind ((safe_claimAndLoad runId app hshows).mono
        (fun claimed tokens' world' hhold => ?_) fun _ _ _ _ => trivial)
      obtain ⟨stored, loaded⟩ := claimed
      refine Discipline.safe_bind ((safe_analyzeClaimed runId app hhold stored loaded).mono
        (fun outcome tokens'' world'' hhold => ?_) fun _ _ _ _ => trivial)
      refine Discipline.safe_bind (Discipline.safe_tryCatch ((safe_completeAnalysis app.runs runId
        hhold outcome.analysis outcome.repairAttempted).mono (fun _ _ _ _ => ?_)
        fun _ _ _ _ => Discipline.safe_raise fun _ _ => trivial))
      exact Discipline.safe_ret fun _ _ => trivial
  · cases failure <;> exact Discipline.safe_raise fun _ _ => trivial
  · subst hfault
    exact Discipline.safe_raise fun _ _ => trivial

theorem orderly_confirmBrandLock (brandLock : BrandLock) :
    Orderly certifies (app.confirmBrandLock runId brandLock request) := by
  refine .bind (app.orderly_requireCapability runId request _) fun _ =>
    .bind (.tryCatch (CultureShift.orderly_confirmBrandLock runId app.runs brandLock none)
      fun failure => ?_) fun record => .ret _
  cases failure <;> exact .raise _

theorem orderly_generateDraft : Orderly certifies (app.generateDraft runId request) := by
  refine .bind (app.orderly_requireCapability runId request _) fun _ =>
    .bind (orderly_orNotFound (.bind (.query _ _) fun existing => .bind (.query _ _) fun run =>
      .ret (existing, run))) fun ⟨existing, run⟩ => ?_
  cases existing with
  | some existing => exact .ofExcept _
  | none =>
      refine .bind (orderly_orNotFound (.bind (.query _ _) fun analysis =>
        .bind (.query _ _) fun confirmation => .ret (analysis, confirmation)))
        fun ⟨analysis, confirmation⟩ => ?_
      cases analysis <;> cases confirmation <;> try exact .raise _
      dsimp only
      split_ifs
      · exact .raise _
      · refine .bind ?_ fun record => .ofExcept _
        refine .bind (.tryCatch (.outside _) fun failure => ?_) fun generated =>
          .tryCatch (orderly_saveDraft runId app.runs _ _ _ _ none) fun failure => ?_
        · cases failure <;> exact .raise _
        · cases failure <;> exact .raise _

theorem orderly_generateComposition :
    Orderly certifies (app.generateComposition runId request) := by
  refine .bind (app.orderly_requireCapability runId request _) fun _ => ?_
  split_ifs
  · exact .raise _
  · refine .tryCatch (orderly_generate app.compositions runId) fun failure => ?_
    cases failure <;> exact .raise _

/-- A review is orderly when the report is certified for what was reviewed. -/
theorem orderly_reviewAndSave
    (hreview : ∀ request, (app.review request).Returns (certifies request)) (run : ProjectRun) :
    Orderly certifies (app.reviewAndSave runId run) where
  safe tokens world := by
    refine Discipline.safe_bind (safe_query app.runs.connect_raises
      (fun found₁ analysis world₁ hfound₁ _ hanalysis hworld₁ => ?_) (fun _ _ _ _ _ _ _ => trivial)
      fun _ _ _ _ => trivial)
    refine Discipline.safe_bind (safe_query app.runs.connect_raises
      (fun found₂ confirmation world₂ hfound₂ _ hconfirmation hworld₂ => ?_)
      (fun _ _ _ _ _ _ _ => trivial) fun _ _ _ _ => trivial)
    refine Discipline.safe_bind (safe_query app.runs.connect_raises
      (fun found₃ draft world₃ hfound₃ _ hdraft hworld₃ => ?_)
      (fun _ _ _ _ _ _ _ => trivial) fun _ _ _ _ => trivial)
    refine Discipline.safe_bind (safe_query app.runs.connect_raises
      (fun found₄ composition world₄ hfound₄ _ hcomposition hworld₄ => ?_)
      (fun _ _ _ _ _ _ _ => trivial) fun _ _ _ _ => trivial)
    rcases analysis with _ | analysis
    · exact Discipline.safe_raise fun _ _ => trivial
    rcases confirmation with _ | confirmation
    · exact Discipline.safe_raise fun _ _ => trivial
    rcases draft with _ | draft
    · exact Discipline.safe_raise fun _ _ => trivial
    rcases composition with _ | composition
    · exact Discipline.safe_raise fun _ _ => trivial
    -- What was read stays as it was until the report is saved.
    obtain ⟨analyzed, hanalyzed, rfl⟩ := Database.has_of_getAnalysis hfound₁.inv hanalysis
    obtain ⟨confirmed, hconfirmed, rfl⟩ :=
      Database.has_of_getConfirmedBrandLock hfound₂.inv hconfirmation
    obtain ⟨drafted, hdrafted, rfl⟩ := Database.has_of_getDraft hfound₃.inv hdraft
    obtain ⟨composed, hcomposed, rfl⟩ := Database.has_of_getComposition hfound₄.inv hcomposition
    have hrely₄ := hfound₄.trans hworld₄
    have hrely₃ := hworld₃.trans hrely₄
    have hrely₂ := hworld₂.trans (hfound₃.trans hrely₃)
    have hrely₁ := hworld₁.trans (hfound₂.trans hrely₂)
    refine Discipline.safe_bind (safe_outside (hreview _) (Program.raises_true _)
      (fun report reviewed hcertified hreviewed => ?_) fun _ _ _ _ => trivial)
    refine Discipline.safe_bind ((safe_saveCritique app.runs runId
      (hanalyzed.of_rely Stage.persistent_analyzed? (hrely₁.trans hreviewed))
      (hconfirmed.of_rely Stage.persistent_confirmed? (hrely₂.trans hreviewed))
      (hdrafted.of_rely Stage.persistent_drafted? (hrely₃.trans hreviewed))
      (hcomposed.of_rely Stage.persistent_composed? (hworld₄.trans hreviewed))
      hcertified).mono (fun _ tokens' world' _ => ?_) fun _ _ _ _ => trivial)
    exact (Orderly.bind (.query _ _) fun run => .ret (run, report)).safe tokens' world'

theorem orderly_runCritic (hreview : ∀ request, (app.review request).Returns (certifies request)) :
    Orderly certifies (app.runCritic runId request) := by
  refine .bind (app.orderly_requireCapability runId request _) fun _ => ?_
  unfold answerCritic
  split_ifs
  · exact .raise _
  · refine .bind (.tryCatch (.bind (.query _ _) fun run => .bind (.query _ _) fun existing => ?_)
      fun failure => ?_) fun ⟨run, report⟩ => .ofExcept _
    · cases existing with
      | some existing => exact .ret _
      | none => exact app.orderly_reviewAndSave runId hreview run
    · cases failure <;> exact .raise _

end App

end CultureShift
