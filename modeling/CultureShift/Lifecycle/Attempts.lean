/-
# Revision attempts from any state

One call to the revision service that nobody interferes with, from whatever
state calls to the repository have led to. After its claim the call works on a
database that only changes when the operation ends: it is completed, or failed
on every exception that a well behaved collaborator raises.
-/

import CultureShift.Concurrent.Undisturbed
import CultureShift.Lifecycle.RevisionProgress
import CultureShift.Repository.Attempts

namespace CultureShift

open Serialization Relational Concurrent

variable {κ α : Type}

/-! ## Steps of an undisturbed call -/

section Steps

variable {world : World κ} {db : Database} {post : α → World κ → Prop}
  {error : Exc → World κ → Prop} {repository : Repository κ}

/-- A collaborator leaves the database alone. -/
theorem ensures_outside {program : Program κ Exc α} {returns : α → Prop} {raises : Exc → Prop}
    (hworld : world.database = db) (hreturns : program.Returns returns)
    (hraises : program.Raises raises)
    (hpost : ∀ value last, returns value → last.database = db → post value last)
    (herror : ∀ failure last, raises failure → last.database = db → error failure last) :
    (outside program).Ensures post error world :=
  Program.ensures_within hreturns hraises (fun world => world.database = db) (fun _ _ h => h)
    hworld hpost herror

variable (hconnect : repository.connect.Raises fun _ => False) (hworld : world.database = db)
include hconnect hworld

theorem ensures_transaction {body : Database → Except Exc (α × Database)}
    (hpost : ∀ value last, body db = .ok (value, last.database) → post value last)
    (herror : ∀ failure last, body db = .error failure → last.database = db →
      error failure last) : (repository.transaction body).Ensures post error world := by
  apply Program.ensures_bind
  refine ensures_outside hworld (Program.returns_true _) hconnect (fun _ opened _ hopened => ?_)
    fun _ _ habsurd => habsurd.elim
  apply Program.ensures_transact
  · intro value after hcommit
    obtain ⟨⟨answer, db'⟩, hbody, heq⟩ := map_eq_ok.mp hcommit
    cases heq
    rw [hopened] at hbody
    exact hpost _ _ hbody
  · intro failure hrollback
    rw [hopened] at hrollback
    cases hbody : body db with
    | ok committed =>
        rw [hbody] at hrollback
        cases hrollback
    | error failure' =>
        rw [hbody] at hrollback
        cases hrollback
        exact herror _ _ hbody hopened

theorem ensures_query {read : Database → Except Exc α}
    (hpost : ∀ value last, read db = .ok value → last.database = db → post value last)
    (herror : ∀ failure last, read db = .error failure → last.database = db →
      error failure last) : (repository.query read).Ensures post error world := by
  apply Program.ensures_bind
  refine ensures_outside hworld (Program.returns_true _) hconnect (fun _ opened _ hopened => ?_)
    fun _ _ habsurd => habsurd.elim
  apply Program.ensures_transact
  · intro value after hcommit
    obtain ⟨answer, hread, heq⟩ := map_eq_ok.mp hcommit
    cases heq
    rw [hopened] at hread
    exact hpost _ _ hread hopened
  · intro failure hrollback
    rw [hopened] at hrollback
    cases hread : read db with
    | ok value =>
        rw [hread] at hrollback
        cases hrollback
    | error failure' =>
        rw [hread] at hrollback
        cases hrollback
        exact herror _ _ hread hopened

/-- A query whose answer is known. -/
theorem ensures_query_known {read : Database → Except Exc α} {value : α}
    (hread : read db = .ok value)
    (hpost : ∀ last, last.database = db → post value last) :
    (repository.query read).Ensures post error world := by
  apply ensures_query hconnect hworld
  · intro value' last hread' hlast
    obtain rfl := Except.ok.inj (hread.symm.trans hread')
    exact hpost last hlast
  · intro failure last hread' _
    rw [hread] at hread'
    cases hread'

end Steps

/-! ## Executing an operation -/

namespace RevisionService

variable {service : RevisionService κ} {world : World κ} {db : Database}
  {operation : OperationRecord}

/-- The failure releases the operation, and nothing has been stored. -/
def Releases (db : Database) (failure : Exc) (last : World κ) : Prop :=
  failure.isReleased = true ∧ last.database = db

/-- A stored run fails to be read by its own row only. -/
theorem isReleased_of_get {runId : UUID} {failure : Exc}
    (hrun : ∃ row, db.runs.find runId = some row) (h : db.get runId = .error failure) :
    failure.isReleased := by
  obtain ⟨row, hrow⟩ := hrun
  obtain ⟨codes, hcodes⟩ := exists_load row.warningCodes
  simp only [Database.get, hrow, orRaise_some, ok_bind, hcodes, ProjectRun.validate] at h
  split_ifs at h
  cases h
  rfl

section WellBehaved

variable (hwell : service.WellBehaved) (hworld : world.database = db)
include hwell hworld

theorem ensures_render (run : ProjectRun) (lock : BrandLock) (brief : CreativeBrief)
    (adCopy : AdCopy) :
    (service.studio.render run lock brief adCopy).Ensures (fun _ last => last.database = db)
      (Releases db) world := by
  have hstop (failure : Exc) (last : World κ) (hreleased : failure.isReleased = true)
      (hlast : last.database = db) : Releases db failure last := ⟨hreleased, hlast⟩
  apply Program.ensures_bind
  apply Program.ensures_ofExcept
  · intro request _
    apply Program.ensures_bind
    refine ensures_outside hworld (Program.returns_true _) (hwell.generateBackground request)
      (fun background world _ hworld => ?_) hstop
    apply Program.ensures_bind
    refine ensures_outside hworld (Program.returns_true _) (hwell.resolve _)
      (fun logo world _ hworld => ?_) hstop
    apply Program.ensures_bind
    apply Program.ensures_ofExcept
    · intro productUiId _
      apply Program.ensures_bind
      refine ensures_outside hworld (Program.returns_true _) (hwell.resolve _)
        (fun productUi world _ hworld => ?_) hstop
      exact ensures_outside hworld (Program.returns_true _) (hwell.compose _)
        (fun _ _ _ hlast => hlast) hstop
    · intro failure hfailure
      obtain ⟨-, rfl⟩ := orRaise_eq_error.mp hfailure
      exact ⟨rfl, hworld⟩
  · intro failure hfailure
    exact ⟨isReleased_of_validated hfailure, hworld⟩

theorem ensures_saveArtifact (artifactId : UUID) (composed : ComposedAd) {now : Datetime}
    (hcalendar : now.nextDay?.isSome) :
    (service.studio.saveArtifact artifactId composed now).Ensures
      (fun _ last => last.database = db) (Releases db) world := by
  obtain ⟨expiresAt, hexpires⟩ := Option.isSome_iff_exists.mp hcalendar
  unfold Studio.saveArtifact
  rw [hexpires, orRaise_some, Program.ofExcept_ok, Program.bind_ret]
  exact ensures_outside hworld (Program.returns_true _) (hwell.save _ _ _)
    (fun _ _ _ hlast => hlast) fun _ _ hreleased hlast => ⟨hreleased, hlast⟩

/-- The first half of an execution stores nothing. -/
theorem ensures_renderRevision (hunderway : db.Underway operation) (artifactId : UUID) :
    (service.renderRevision operation artifactId).Ensures
      (fun rendered last => rendered.run.id = operation.runId ∧ last.database = db) (Releases db)
      world := by
  obtain ⟨⟨request, hrequest⟩, ⟨analysis, hanalysis⟩, ⟨confirmation, hconfirmation⟩,
    ⟨draft, hdraft⟩, ⟨composition, hcomposition⟩, critique, hcritique, haccepted⟩ :=
    hunderway.revisable.reads
  apply Program.ensures_bind
  refine ensures_query hwell.connect hworld (fun run world hget hworld => ?_)
    fun failure last hget hlast => ⟨isReleased_of_get hunderway.run hget, hlast⟩
  apply Program.ensures_bind
  refine ensures_query_known hwell.connect hworld hrequest fun world hworld => ?_
  apply Program.ensures_bind
  refine ensures_query_known hwell.connect hworld hanalysis fun world hworld => ?_
  apply Program.ensures_bind
  refine ensures_query_known hwell.connect hworld hconfirmation fun world hworld => ?_
  apply Program.ensures_bind
  refine ensures_query_known hwell.connect hworld hdraft fun world hworld => ?_
  apply Program.ensures_bind
  refine ensures_query_known hwell.connect hworld hcomposition fun world hworld => ?_
  apply Program.ensures_bind
  refine ensures_query_known hwell.connect hworld hcritique fun world hworld => ?_
  -- Nothing is missing, and the first version was accepted.
  simp only [request.fixture_only, haccepted, ne_eq, not_false_eq_true, orRaise_some, require_of,
    Program.ofExcept_ok, Program.bind_ret]
  apply Program.ensures_bind
  refine ensures_outside hworld (Program.returns_true _) (hwell.revise _ _ _)
    (fun revised world _ hworld => ?_) fun _ _ hreleased hlast => ⟨hreleased, hlast⟩
  apply Program.ensures_bind
  refine ensures_outside hworld hwell.calendar hwell.clock
    (fun now world hcalendar hworld => ?_) fun _ _ habsurd _ => habsurd.elim
  apply Program.ensures_bind
  apply (ensures_render hwell hworld _ _ _ _).mono _ fun _ _ h => h
  intro composed world hworld
  apply Program.ensures_bind
  apply (ensures_saveArtifact hwell hworld artifactId composed hcalendar).mono _ fun _ _ h => h
  intro stored world hworld
  exact ⟨Database.id_of_get hget, hworld⟩

/-- The second half stores the version, or nothing. -/
theorem ensures_finishRevision (hunderway : db.Underway operation) (artifactId : UUID)
    {rendered : Rendered} (hrun : rendered.run.id = operation.runId) :
    (service.finishRevision operation artifactId rendered).Ensures
      (fun _ last => db.Ends last.database operation.id fun row => row.progress.state = .succeeded)
      (Releases db) world := by
  apply Program.ensures_bind
  apply Program.ensures_ofExcept
  · intro composition _
    apply Program.ensures_bind
    refine ensures_outside hworld (Program.returns_true _) (hwell.review _)
      (fun report world _ hworld => ?_) fun _ _ hreleased hlast => ⟨hreleased, hlast⟩
    apply Program.ensures_bind
    rw [hrun]
    refine ensures_query hwell.connect hworld (fun current world _ hworld => ?_)
      fun failure last hget hlast => ⟨isReleased_of_get hunderway.run hget, hlast⟩
    apply Program.ensures_bind
    apply Program.ensures_ofExcept
    · intro response _
      apply Program.ensures_bind
      apply Program.ensures_bind
      apply ensures_transaction hwell.connect hworld
      · intro done world hcommit
        -- What was stored is read back.
        apply Program.ensures_bind
        refine ensures_query_known hwell.connect rfl (Database.reads_completeRevision hcommit)
          fun world hworld => ?_
        rw [orRaise_some, Program.ofExcept_ok]
        show db.Ends world.database operation.id _
        rw [hworld]
        exact hunderway.ends_completed hcommit
      · intro failure last hfailed _
        obtain ⟨db', hcommit⟩ := hunderway.exists_completed _ _
        rw [hcommit] at hfailed
        cases hfailed
    · intro failure hfailure
      exact ⟨isReleased_of_validated hfailure, hworld⟩
  · intro failure hfailure
    exact ⟨isReleased_of_describeArtifact hfailure, hworld⟩

end WellBehaved

/-- The decision that is stored with a failed attempt. -/
def failureDecision (retrying : Bool) : RetryAction :=
  if retrying then .doNotRetry else .retryOnce

/-- The operation has failed, and so has its run. -/
def Fails (db : Database) (operation : OperationRecord) (retrying : Bool) (last : World κ) : Prop :=
  db.Ends last.database operation.id
    (last.database.FailedAs operation.runId (failureDecision retrying))

/-- The operation has failed, and the call says so. -/
def ReportsFailure (db : Database) (operation : OperationRecord) (retrying : Bool) (failure : Exc)
    (last : World κ) : Prop :=
  failure = .revisionServiceError (failureCode retrying) ∧ Fails db operation retrying last

section WellBehaved

variable (hwell : service.WellBehaved) (hworld : world.database = db)
  (hunderway : db.Underway operation)
include hwell hworld hunderway

theorem ensures_release (retrying : Bool) :
    (service.release operation retrying).Ensures (fun _ => Fails db operation retrying)
      (fun _ _ => False) world := by
  apply Program.ensures_tryCatch
  apply Program.ensures_bind
  refine ensures_outside hworld (Program.returns_true _) hwell.clock
    (fun failedAt world _ hworld => ?_) fun _ _ habsurd _ => habsurd.elim
  obtain ⟨record, db', hcommit, hends⟩ := hunderway.exists_failed .connectionBeforeAcceptance
    (failureDecision retrying) failedAt
  apply Program.ensures_bind
  apply ensures_transaction hwell.connect hworld
  · intro value last hcommit'
    obtain ⟨-, rfl⟩ := Prod.mk.inj (Except.ok.inj (hcommit.symm.trans hcommit'))
    exact hends
  · intro failure last hfailed _
    cases hcommit.symm.trans hfailed

/-- Every failure that is released ends the operation. -/
theorem ensures_recover (retrying : Bool) (artifactId : UUID) (artifactSaved : Bool)
    {failure : Exc} (hreleased : failure.isReleased = true) :
    (service.recover operation retrying artifactId artifactSaved failure).Ensures
      (fun _ _ => False) (ReportsFailure db operation retrying) world := by
  have hreport {world : World κ} (hworld : world.database = db) :
      (service.recover operation retrying artifactId false failure).Ensures (fun _ _ => False)
        (ReportsFailure db operation retrying) world := by
    have hrelease : (service.release operation retrying >>= fun _ =>
        (fail (failureCode retrying) : Program (World κ) Exc RevisionCompleted)).Ensures
          (fun _ _ => False) (ReportsFailure db operation retrying) world := by
      apply Program.ensures_bind
      apply (ensures_release hwell hworld hunderway retrying).mono
      · intro _ last hends
        exact ⟨rfl, hends⟩
      · intro _ _ habsurd
        exact habsurd.elim
    cases failure <;> first | exact hrelease | cases hreleased
  cases artifactSaved with
  | false => exact hreport hworld
  | true =>
      apply Program.ensures_bind
      exact ensures_outside hworld (Program.returns_true _) (hwell.delete artifactId)
        (fun _ _ _ hlast => hreport hlast) fun _ _ habsurd _ => habsurd.elim

/-- However the collaborators answer, an operation that is executed ends. -/
theorem ensures_execute (retrying : Bool) :
    (service.execute operation retrying).Ensures
      (fun _ last => db.Ends last.database operation.id fun row => row.progress.state = .succeeded)
      (ReportsFailure db operation retrying) world := by
  apply Program.ensures_bind
  refine ensures_outside hworld (Program.returns_true _) hwell.uuid4
    (fun artifactId world _ hworld => ?_) fun _ _ habsurd _ => habsurd.elim
  apply Program.ensures_bind
  apply Program.ensures_attempt
  apply (ensures_renderRevision hwell hworld hunderway artifactId).mono
  · rintro rendered last ⟨hrun, hlast⟩
    apply Program.ensures_tryCatch
    apply (ensures_finishRevision hwell hlast hunderway artifactId hrun).mono
    · exact fun _ _ hends => hends
    · rintro failure last ⟨hreleased, hlast⟩
      exact (ensures_recover hwell hlast hunderway retrying artifactId true hreleased).mono
        (fun _ _ habsurd => habsurd.elim) fun _ _ h => h
  · rintro failure last ⟨hreleased, hlast⟩
    exact (ensures_recover hwell hlast hunderway retrying artifactId false hreleased).mono
      (fun _ _ habsurd => habsurd.elim) fun _ _ h => h

end WellBehaved

/-! ## The two calls -/

/-- Whatever the call has claimed has succeeded. -/
def Concludes (db : Database) (last : World κ) : Prop :=
  ∀ claimed, db.Claims last.database claimed → claimed.progress.state = .succeeded

/-- Whatever the call has claimed has failed for good or until it is retried,
and a failed revision is reported only by a call that has claimed one. -/
structure Withdraws (db : Database) (runId : UUID) (retrying : Bool) (failure : Exc)
    (last : World κ) : Prop where
  failed : ∀ claimed, db.Claims last.database claimed →
    last.database.FailedAs runId (failureDecision retrying) claimed
  claimed : failure = .revisionServiceError (failureCode retrying) →
    ∃ claimed, db.Claims last.database claimed

/-- A call that stores nothing has claimed nothing. -/
theorem concludes_of_eq {last : World κ} (hlast : last.database = db) : Concludes db last := by
  intro claimed hclaims
  rw [hlast] at hclaims
  exact hclaims.irrefl.elim

theorem withdraws_of_eq {runId : UUID} {retrying : Bool} {failure : Exc} {last : World κ}
    (hlast : last.database = db)
    (hother : failure ≠ .revisionServiceError (failureCode retrying)) :
    Withdraws db runId retrying failure last := by
  refine ⟨?_, fun heq => absurd heq hother⟩
  intro claimed hclaims
  rw [hlast] at hclaims
  exact hclaims.irrefl.elim

/-- An earlier success is answered. -/
theorem replayed_of_replays {db' : Database} (hanswered : db.operations.Answered)
    (h : db.Replays db' operation) : ∃ response, replayed operation = some response := by
  obtain ⟨-, row, hrow, hrecord, hstate⟩ := h
  obtain ⟨column, hcolumn⟩ := Option.isSome_iff_exists.mp (hanswered row hrow hstate)
  obtain ⟨response, rfl⟩ := column.exists_dump
  obtain ⟨-, -, -, hstate', -, -⟩ := Database.of_operationRecord hrecord
  refine ⟨response, ?_⟩
  rw [replayed, if_pos (hstate'.trans hstate)]
  exact Database.publicResponse_of_operationRecord hrecord hcolumn

theorem replayed_of_inserts {db' : Database} {runId : UUID}
    (h : db.Inserts db' runId operation) : replayed operation = none := by
  rw [replayed, if_neg]
  rw [h.state]
  decide

section Calls

variable (hwell : service.WellBehaved) (hworld : world.database = db)
include hwell hworld

/-- A claimed operation is executed to its end. -/
theorem ensures_carryOut {db' : Database} {runId : UUID} (hinserts : db'.Inserts db runId operation)
    (hunderway : db.Underway operation) (retrying : Bool) :
    (service.execute operation retrying).Ensures (fun _ => Concludes db')
      (Withdraws db' runId retrying) world := by
  apply (ensures_execute hwell hworld hunderway retrying).mono
  · intro _ last hends claimed hclaims
    exact hinserts.ending_of_claims hends hclaims
  · rintro failure last ⟨-, hends⟩
    rw [Fails, hinserts.owner] at hends
    exact ⟨fun _ => hinserts.ending_of_claims hends, fun _ => hinserts.exists_claims hends⟩

omit hwell hworld in
theorem ensures_translating {claim : Program (World κ) Exc OperationRecord} {runId : UUID}
    {retrying : Bool}    {post : OperationRecord → World κ → Prop}
    (h : claim.Ensures post (fun failure last => (isClaimError failure ∨ failure.isForeign) ∧
      last.database = db) world) :
    (translating claim).Ensures post (Withdraws db runId retrying) world := by
  apply Program.ensures_tryCatch
  apply h.mono
  · exact fun _ _ h => h
  · rintro failure last ⟨hkind, hlast⟩
    split_ifs with hclaim
    · apply withdraws_of_eq hlast
      intro heq
      cases retrying <;> cases failure <;> cases heq
    · apply withdraws_of_eq hlast
      rintro rfl
      rcases hkind with hkind | hkind
      · exact hclaim hkind
      · cases hkind

omit hwell in
theorem ensures_keyDigest {key : String} {runId : UUID} {retrying : Bool}
    {post : String → World κ → Prop}
    (hpost : ∀ keyDigest, post keyDigest world) :
    (.ofExcept (service.keyDigest key) : Program (World κ) Exc String).Ensures post
      (Withdraws db runId retrying) world := by
  apply Program.ensures_ofExcept
  · exact fun keyDigest _ => hpost keyDigest
  · intro failure hfailure
    simp only [keyDigest, bind_eq_error, require_eq_error] at hfailure
    rcases hfailure with ⟨-, rfl⟩ | ⟨_, -, hfailure⟩
    · apply withdraws_of_eq hworld
      cases retrying <;> exact fun heq => by cases heq
    · cases hfailure

variable (hanswered : db.operations.Answered)
include hanswered

/-- Feedback on a run that can be revised. -/
theorem ensures_submitFeedback {request : FeedbackRequest} (key : String)
    (hrevisable : db.Revisable request.runId) :
    (service.submitFeedback request key).Ensures (fun _ => Concludes db)
      (Withdraws db request.runId false) world := by
  apply Program.ensures_bind
  apply ensures_keyDigest hworld
  intro keyDigest
  apply Program.ensures_bind
  refine ensures_outside hworld (Program.returns_true _) hwell.clock
    (fun now world _ hworld => ?_) fun _ _ habsurd _ => habsurd.elim
  apply Program.ensures_bind
  apply ensures_translating
  apply ensures_transaction hwell.connect hworld
  · intro operation last hclaim
    rcases Database.claimFeedbackOperation_inserts hclaim with hreplays | ⟨hinserts, hcontexts⟩
    · obtain ⟨response, hresponse⟩ := replayed_of_replays hanswered hreplays
      rw [hresponse]
      exact concludes_of_eq hreplays.1
    · rw [replayed_of_inserts hinserts]
      have hunderway : last.database.Underway operation := by
        apply hinserts.underway hrevisable
        intro row hrow
        rw [hcontexts]
        exact ⟨row, hrow, fun h => h⟩
      exact ensures_carryOut hwell rfl hinserts hunderway false
  · intro failure last hfailure hlast
    exact ⟨Database.claimFeedbackOperation_error hfailure, hlast⟩

/-- A retry of a run that can be revised, on the decision that is stored. -/
theorem ensures_retry {request : RetryRequest} (key : String)
    (hrevisable : db.Revisable request.runId) (hdecided : db.Decided request.runId)
    {run : ProjectRun} (hget : db.get request.runId = .ok run)
    (hclock : service.repository.utcNow.Returns (run.createdAt ≤ ·)) :
    (service.retry request key).Ensures (fun _ => Concludes db) (Withdraws db request.runId true)
      world := by
  apply Program.ensures_bind
  apply ensures_keyDigest hworld
  intro keyDigest
  apply Program.ensures_bind
  apply ensures_translating
  apply Program.ensures_bind
  refine ensures_outside hworld hclock hwell.clock (fun claimedAt world hcreated hworld => ?_)
    fun _ _ habsurd _ => habsurd.elim
  apply ensures_transaction hwell.connect hworld
  · intro operation last hclaim
    rcases Database.claimRetryOperation_resumes hclaim with hreplays | hresumes
    · obtain ⟨response, hresponse⟩ := replayed_of_replays hanswered hreplays
      rw [hresponse]
      exact concludes_of_eq hreplays.1
    · obtain ⟨source, hsource, hcondition, haction⟩ := hresumes.source
      obtain ⟨condition, decision, row, hstored, hstoredAction, hrow, hdecides, hretryable⟩ :=
        hdecided source hsource
      rw [replayed_of_inserts hresumes.toInserts, hcondition, haction, hstored, hstoredAction]
      obtain ⟨current, hcurrent, hcount⟩ := hresumes.exists_get hget hcreated hrow
      apply Program.ensures_bind
      refine ensures_query_known hwell.connect rfl hcurrent fun world hworld => ?_
      -- Without the attempt that the claim has counted, the decision is the stored one.
      have hbefore : (current.technicalAttemptCount : Int) - 1 = row.technicalAttemptCount := by
        rw [hcount]
        omega
      rw [hbefore, hdecides, Program.ofExcept_ok, Program.bind_ret, if_pos ⟨rfl, hretryable⟩]
      exact ensures_carryOut hwell hworld hresumes.toInserts (hresumes.underway hrevisable) true
  · intro failure last hfailure hlast
    exact ⟨Database.claimRetryOperation_error hfailure, hlast⟩

/-- A retry on any other decision leaves what it claims in progress. -/
theorem ensures_retry_undecided {request : RetryRequest} (key : String)
    (hundecided : ¬db.Decided request.runId) :
    (service.retry request key).Ensures (fun _ last => last.database = db)
      (fun _ last => ∀ claimed, db.Claims last.database claimed →
        claimed.progress.state = .inProgress) world := by
  have hunclaimed {last : World κ} (hlast : last.database = db) : ∀ claimed,
      db.Claims last.database claimed → claimed.progress.state = .inProgress := by
    intro claimed hclaims
    rw [hlast] at hclaims
    exact hclaims.irrefl.elim
  apply Program.ensures_bind
  apply Program.ensures_ofExcept (fun keyDigest _ => ?_) fun _ _ => hunclaimed hworld
  apply Program.ensures_bind
  apply Program.ensures_tryCatch
  apply Program.ensures_bind
  refine ensures_outside hworld (Program.returns_true _) hwell.clock
    (fun claimedAt world _ hworld => ?_) fun _ _ habsurd _ => habsurd.elim
  apply ensures_transaction hwell.connect hworld
  · intro operation last hclaim
    rcases Database.claimRetryOperation_resumes hclaim with hreplays | hresumes
    · obtain ⟨response, hresponse⟩ := replayed_of_replays hanswered hreplays
      rw [hresponse]
      exact hreplays.1
    · have hclaimed {later : World κ} (hlater : later.database = last.database) : ∀ claimed,
          db.Claims later.database claimed → claimed.progress.state = .inProgress := by
        intro claimed hclaims
        rw [hlater] at hclaims
        exact hresumes.inProgress_of_claims hclaims
      rw [replayed_of_inserts hresumes.toInserts]
      cases hcondition : operation.retryCondition with
      | none => exact hclaimed rfl
      | some condition =>
          cases haction : operation.retryAction with
          | none => exact hclaimed rfl
          | some action =>
              apply Program.ensures_bind
              refine ensures_query hwell.connect rfl (fun current later hget hlater => ?_)
                fun _ _ _ hlater => hclaimed hlater
              apply Program.ensures_bind
              apply Program.ensures_ofExcept (fun decision hdecides => ?_)
                fun _ _ => hclaimed hlater
              rw [if_neg]
              · exact hclaimed hlater
              · rintro ⟨rfl, hretryable⟩
                exact hundecided (hresumes.decided hget hcondition haction hdecides hretryable)
  · intro failure last _ hlast
    split_ifs <;> exact hunclaimed hlast

end Calls

end RevisionService

/-! ## Runs that can be revised -/

/-- A run whose first version was accepted can be revised until it has been. -/
theorem Database.Shows.revisable {db : Database} {runId : UUID} {stage : Stage}
    {evidence : Reviewed} (h : db.Shows runId stage) (hreviewed : stage.reviewed? = some evidence)
    (haccepted : evidence.critique.status ≠ .reject) (hunrevised : stage.revised? = none) :
    db.Revisable runId := by
  obtain ⟨-, hanalyzed, hconfirmed, hdrafted, hcomposed⟩ := Stage.evidence_of_reviewed? hreviewed
  refine ⟨⟨stage.context, h.context, ?_⟩, ?_⟩
  · constructor
    · exact ⟨evidence.analysis, by simp [Stage.context, hanalyzed, loadOption, Except.map]⟩
    · exact ⟨evidence.confirmation, by rw [Stage.confirmationRecord_context, hconfirmed]; rfl⟩
    · exact ⟨evidence.draft, by rw [Stage.draftRecord_context, hdrafted]; rfl⟩
    · exact ⟨evidence.composition, by simp [Stage.context, hcomposed, loadOption, Except.map]⟩
    · refine ⟨⟨evidence.critique, evidence.critique.reviewedAt⟩, ?_, haccepted⟩
      rw [Stage.critiqueRecord_context, hreviewed]
      rfl
    · simp [Stage.context, hunrevised]
  · rw [h.revision, hunrevised]
    rfl

end CultureShift
