/-
# Stranded operations

An operation that is in progress blocks its run until somebody ends it. With
collaborators that raise only what the service knows, a call that has claimed
an operation ends it, whether the call returns or raises. Any other exception
strands the operation: the service reports a failure and leaves it in progress.
-/

import CultureShift.Lifecycle.Attempts

namespace CultureShift

open Serialization Relational Concurrent

variable {ι κ : Type}

/-! ## What becomes of an operation -/

namespace Database

/-- The operation succeeded. -/
def Succeeded (db : Database) (runId : UUID) (operationId : Nat) : Prop :=
  ∃ row ∈ db.operations.ofRun runId, row.id = operationId ∧ row.progress.state = .succeeded

/-- The feedback failed. The run waits for the one retry that was decided on,
unless that has been claimed since. -/
def FeedbackFailed (db : Database) (runId : UUID) (operationId : Nat) : Prop :=
  ∃ row ∈ db.operations.ofRun runId, row.id = operationId ∧
    (row.progress.state = .failedRetryable ∨ row.progress.state = .succeeded) ∧
    row.progress.retryAction = some .retryOnce ∧
    ((∃ run, db.runs.find runId = some run ∧ run.status = .failedRetryable) ∨
      ∃ retry ∈ db.operations.ofRun runId, retry.kind = .retry)

/-- The retry failed, and that is the end of the run. -/
def RetryFailed (db : Database) (runId : UUID) (operationId : Nat) : Prop :=
  ∃ row ∈ db.operations.ofRun runId, row.id = operationId ∧ row.progress.state = .failedFinal ∧
    ∃ run, db.runs.find runId = some run ∧ run.status = .failedFinal

/-- The operation of a call failed. -/
def OperationFailed (db : Database) (retrying : Bool) (runId : UUID) (operationId : Nat) : Prop :=
  if retrying then db.RetryFailed runId operationId else db.FeedbackFailed runId operationId

end Database

namespace Stage

theorem steps_retryable {evidence : Accepted} {feedback : Feedback} {failedAt : Datetime}
    {stage : Stage} (h : Steps (.retryable evidence feedback failedAt) stage) :
    stage = .retryable evidence feedback failedAt ∨
      (∃ retry, stage = .retrying evidence feedback failedAt retry) ∨
      (∃ retry retryFailedAt, stage = .exhausted evidence feedback failedAt retry retryFailedAt) ∨
      ∃ retry revision, stage = .revised evidence feedback (some retry) revision := by
  induction h with
  | refl => exact .inl rfl
  | tail _ hstep ih =>
      rcases ih with rfl | ⟨retry, rfl⟩ | ⟨retry, retryFailedAt, rfl⟩ | ⟨retry, revision, rfl⟩
      · cases hstep with
        | claimRetry _ _ _ retry => exact .inr (.inl ⟨retry, rfl⟩)
      · cases hstep with
        | failRetry _ _ _ _ retryFailedAt => exact .inr (.inr (.inl ⟨retry, retryFailedAt, rfl⟩))
        | completeRetry _ _ _ _ revision => exact .inr (.inr (.inr ⟨retry, revision, rfl⟩))
      · cases hstep
      · cases hstep

theorem steps_exhausted {evidence : Accepted} {feedback : Feedback}
    {failedAt retryFailedAt : Datetime} {retry : Claim} {stage : Stage}
    (h : Steps (.exhausted evidence feedback failedAt retry retryFailedAt) stage) :
    stage = .exhausted evidence feedback failedAt retry retryFailedAt := by
  rcases Relation.ReflTransGen.cases_head h with heq | ⟨_, hstep, _⟩
  · exact heq.symm
  · cases hstep

/-- An operation of a stage was taken by whoever claimed it. -/
theorem taken_of_operation {stage : Stage} {runId : UUID} {row : OperationRow}
    (h : row ∈ stage.operations runId) :
    heldBy row.id (row.kind = .retry) ∈ stage.taken ∧ row.runId = runId := by
  cases stage
  case revising evidence feedback =>
    obtain rfl := List.mem_singleton.mp h
    simp [taken, feedback?, retried?, heldBy, Feedback.row]
  case retryable evidence feedback failedAt =>
    obtain rfl := List.mem_singleton.mp h
    simp [taken, feedback?, retried?, heldBy, Feedback.row]
  case retrying evidence feedback failedAt retry =>
    rcases List.mem_pair.mp h with rfl | rfl <;>
      simp [taken, feedback?, retried?, heldBy, Feedback.row, Claim.retryRow]
  case exhausted evidence feedback failedAt retry retryFailedAt =>
    rcases List.mem_pair.mp h with rfl | rfl <;>
      simp [taken, feedback?, retried?, heldBy, Feedback.row, Claim.retryRow]
  case revised evidence feedback retry revision =>
    cases retry with
    | none =>
        obtain rfl := List.mem_singleton.mp h
        simp [taken, feedback?, retried?, heldBy, Feedback.row]
    | some retry =>
        rcases List.mem_pair.mp h with rfl | rfl <;>
          simp [taken, feedback?, retried?, heldBy, Feedback.row, Claim.retryRow]
  all_goals cases h

theorem operation_of_feedback? {stage : Stage} (runId : UUID) {feedback : Feedback}
    (h : stage.feedback? = some feedback) :
    ∃ progress, feedback.row runId progress ∈ stage.operations runId := by
  cases stage with
  | revised evidence feedback' retry revision =>
      cases h
      cases retry with
      | none => exact ⟨_, List.mem_singleton_self _⟩
      | some retry => exact ⟨_, List.mem_cons_self⟩
  | revising | retryable | retrying | exhausted =>
      cases h
      exact ⟨_, List.mem_cons_self⟩
  | _ => cases h

theorem operation_of_retried? {stage : Stage} (runId : UUID) {retry : Claim}
    (h : stage.retried? = some retry) :
    ∃ feedback progress, retry.retryRow feedback runId progress ∈ stage.operations runId := by
  cases stage with
  | revised evidence feedback' retry' revision =>
      obtain rfl : retry' = some retry := h
      exact ⟨_, _, List.mem_cons_of_mem _ (List.mem_singleton_self _)⟩
  | retrying | exhausted =>
      cases h
      exact ⟨_, _, List.mem_cons_of_mem _ (List.mem_singleton_self _)⟩
  | _ => cases h

/-- What was taken as an operation is one. -/
theorem operation_of_taken {stage : Stage} (runId : UUID) {operationId : Nat} {retrying : Bool}
    (htaken : heldBy operationId retrying ∈ stage.taken) :
    ∃ row ∈ stage.operations runId, row.id = operationId := by
  have hclaimed : (∃ feedback, stage.feedback? = some feedback ∧ feedback.id = operationId) ∨
      ∃ retry, stage.retried? = some retry ∧ retry.id = operationId := by
    cases retrying <;> cases stage <;> simp [taken, feedback?, retried?, heldBy] at htaken ⊢ <;>
      simp [htaken]
  rcases hclaimed with ⟨feedback, hfeedback, rfl⟩ | ⟨retry, hretry, rfl⟩
  · obtain ⟨progress, hrow⟩ := operation_of_feedback? runId hfeedback
    exact ⟨_, hrow, rfl⟩
  · obtain ⟨_, progress, hrow⟩ := operation_of_retried? runId hretry
    exact ⟨_, hrow, rfl⟩

/-- All operations of a revised run have succeeded. -/
theorem succeeded_of_revised {stage : Stage} {revision : Revised} {runId : UUID}
    {row : OperationRow} (hrevised : stage.revised? = some revision)
    (hrow : row ∈ stage.operations runId) : row.progress.state = .succeeded := by
  cases stage with
  | revised evidence feedback retry revision =>
      cases retry with
      | none =>
          obtain rfl := List.mem_singleton.mp hrow
          rfl
      | some retry => rcases List.mem_pair.mp hrow with rfl | rfl <;> rfl
  | _ => cases hrevised

end Stage

namespace Database

variable {db : Database} {runId : UUID}

/-- A failure that has happened can be read off the tables. -/
theorem Failed.operationFailed {operationId : Nat} {retrying : Bool}
    (h : db.Failed runId (heldBy operationId retrying)) :
    db.OperationFailed retrying runId operationId := by
  obtain ⟨stage, stage', hshows, hsteps, hfailed⟩ := h
  obtain ⟨run, hrun, -, hstatus⟩ := hshows.run
  have hstored {row : OperationRow} (hrow : row ∈ stage'.operations runId) :
      row ∈ db.operations.ofRun runId := by
    rwa [hshows.operations]
  cases retrying with
  | true =>
      cases stage with
      | exhausted evidence feedback failedAt retry retryFailedAt =>
          obtain rfl : retry.id = operationId := by simpa [Stage.failed?, heldBy] using hfailed
          obtain rfl := Stage.steps_exhausted hsteps
          exact ⟨_, hstored (List.mem_cons_of_mem _ (List.mem_singleton_self _)), rfl, rfl, run,
            hrun, hstatus⟩
      | _ => simp [Stage.failed?, heldBy] at hfailed
  | false =>
      cases stage with
      | retryable evidence feedback failedAt =>
          obtain rfl : feedback.id = operationId := by simpa [Stage.failed?, heldBy] using hfailed
          rcases Stage.steps_retryable hsteps with rfl | ⟨retry, rfl⟩ |
            ⟨retry, retryFailedAt, rfl⟩ | ⟨retry, revision, rfl⟩
          · exact ⟨_, hstored List.mem_cons_self, rfl, .inl rfl, rfl, .inl ⟨run, hrun, hstatus⟩⟩
          · exact ⟨_, hstored List.mem_cons_self, rfl, .inl rfl, rfl, .inr
              ⟨_, hstored (List.mem_cons_of_mem _ (List.mem_singleton_self _)), rfl⟩⟩
          · exact ⟨_, hstored List.mem_cons_self, rfl, .inl rfl, rfl, .inr
              ⟨_, hstored (List.mem_cons_of_mem _ (List.mem_singleton_self _)), rfl⟩⟩
          · exact ⟨_, hstored List.mem_cons_self, rfl, .inr rfl, rfl, .inr
              ⟨_, hstored (List.mem_cons_of_mem _ (List.mem_singleton_self _)), rfl⟩⟩
      | _ => simp [Stage.failed?, heldBy] at hfailed

end Database

/-! ## Calls that have ended -/

theorem heldBy_inj {operationId operationId' : Nat} {retrying retrying' : Bool}
    (h : heldBy operationId retrying = heldBy operationId' retrying') :
    operationId = operationId' := by
  have hid := congrArg Hold.operationId? h
  rw [heldBy_operationId?, heldBy_operationId?] at hid
  exact Option.some.inj hid

section Reached

variable [DecidableEq ι] {app : App κ} {rest : κ} {inbox : ι → Request}
  {log : List (Event ι (World κ))} {config : Config ι (World κ) Exc Response}

/-- A claim leaves a receipt with the request that makes it. -/
theorem receipt_of_claims {posts : ι → Response → Set Token → World κ → Prop}
    {errors : ι → Exc → Set Token → World κ → Prop} {assumes : ι → World κ → Prop}
    (hstart : Discipline.Keeps (requests fun _ _ => True) assumes posts errors (fun _ => ∅)
      (workflow app rest inbox))
    (hruns : Runs (workflow app rest inbox) log config) (hassumed : Assumed assumes log)
    {event : Event ι (World κ)} (hevent : event ∈ log) {claimed : OperationRow}
    (hclaims : Database.Claims event.before.database event.after.database claimed) :
    ∃ owns, Discipline.Keeps (requests fun _ _ => True) assumes posts errors owns config ∧
      Token.receipt claimed.runId (heldBy claimed.id (claimed.kind = .retry)) ∈
        owns event.client := by
  have hheld : (requests fun _ _ => True).held
      (.receipt claimed.runId (heldBy claimed.id (claimed.kind = .retry))) event.after := by
    obtain ⟨later, hlater, hstate, -⟩ := hruns.reaches_after hevent
    have hmem : claimed ∈ event.after.database.operations.ofRun claimed.runId :=
      OperationTable.mem_ofRun.mpr ⟨hclaims.mem, rfl⟩
    rcases lifecycle_of_reaches (fun _ _ => True) (fun _ => Program.returns_true _)
      (fun _ => Program.returns_true _) hlater claimed.runId with habsent | ⟨stage, hshows, -⟩
    · rw [← hstate, habsent.operations] at hmem
      cases hmem
    · rw [hstate] at hshows
      rw [hshows.operations] at hmem
      exact ⟨stage, hshows, (Stage.taken_of_operation hmem).1⟩
  have hfresh : ¬(requests fun _ _ => True).held
      (.receipt claimed.runId (heldBy claimed.id (claimed.kind = .retry))) event.before := by
    rintro ⟨stage, hshows, htaken⟩
    obtain ⟨row, hrow, hid⟩ := Stage.operation_of_taken claimed.runId htaken
    rw [← hshows.operations, OperationTable.mem_ofRun] at hrow
    exact hclaims.fresh row hrow.1 hid
  obtain ⟨owns, hkeeps, howned | hspent⟩ :=
    Discipline.owned_of_event hruns hstart hassumed hevent hfresh hheld
  · exact ⟨owns, hkeeps, howned⟩
  · exact hspent.elim

/-- With well behaved collaborators, an operation has ended by the time the call
that claimed it has: it succeeded where the call returned, and failed where the
call raised. A call reports a failed revision only where it has left one. -/
theorem operation_ended_of_runs (hwell : app.revisions.WellBehaved)
    (hruns : Runs (workflow app rest inbox) log config) {i : ι} {call : ServiceCall}
    (hcall : (inbox i).call? app.revisions = some call)
    (hread : call.retrying = true → ∀ event ∈ log, event.client = i →
      event.before.database.Readable) :
    (∀ event ∈ log, event.client = i → ∀ claimed,
      Database.Claims event.before.database event.after.database claimed →
        (∀ response, config.threads i = .ret response →
          config.state.database.Succeeded call.runId claimed.id) ∧
        ∀ failure, config.threads i = .raise failure →
          config.state.database.OperationFailed call.retrying call.runId claimed.id) ∧
      (call.direct = true → config.threads i =
          .raise (.revisionServiceError (RevisionService.failureCode call.retrying)) →
        ∃ operationId,
          config.state.database.OperationFailed call.retrying call.runId operationId) := by
  let assumes (j : ι) (world : World κ) : Prop :=
    j = i → call.retrying = true → world.database.Readable
  have hstart : Discipline.Keeps (requests fun _ _ => True) assumes
      (fun j => (inbox j).Completed app.revisions)
      (fun j => (inbox j).Declined app.revisions (assumes j)) (fun _ => ∅)
      (workflow app rest inbox) :=
    workflow_keeps assumes (fun _ => Program.returns_true _) fun _ => Program.returns_true _
  have hassumed : Assumed assumes log :=
    fun event hevent hclient hretrying => hread hretrying event hevent hclient
  have hdependable : app.revisions.Dependable call.retrying (assumes i) :=
    ⟨hwell, fun hretrying found hfound => hfound rfl hretrying⟩
  constructor
  · rintro event hevent rfl claimed hclaims
    obtain ⟨owns, hkeeps, howned⟩ := receipt_of_claims hstart hruns hassumed hevent hclaims
    constructor
    · intro response hthread
      obtain ⟨revision, -, hcompletes⟩ := hkeeps.returned hthread call hcall
      obtain ⟨hrun, operationId, hhold⟩ := hcompletes.receipts _ _ howned
      obtain ⟨revised, ⟨stage, hshows, hrevised⟩, -⟩ := hcompletes.revised
      obtain ⟨stage', hshows', htaken⟩ := hkeeps.held _ _ howned
      rw [hrun] at hshows'
      obtain rfl := hshows.unique hshows'
      obtain ⟨row, hrow, hid⟩ := Stage.operation_of_taken call.runId htaken
      exact ⟨row, by rwa [hshows.operations], hid, Stage.succeeded_of_revised hrevised hrow⟩
    · intro failure hthread
      obtain ⟨reason, hdeclines, -⟩ := hkeeps.raised hthread call hcall
      obtain ⟨hrun, operationId, hhold⟩ := hdeclines.receipts _ _ howned
      have hfailed := hdeclines.failed hdependable _ _ howned
      rw [hrun, hhold] at hfailed
      rw [heldBy_inj hhold]
      exact hfailed.operationFailed
  · intro hdirect hthread
    obtain ⟨owns, hkeeps, -⟩ := Discipline.keeps_of_runs hruns hstart hassumed
    obtain ⟨reason, hdeclines, hreason⟩ := hkeeps.raised hthread call hcall
    obtain ⟨operationId, hfailed⟩ := hdeclines.reported hdependable (hreason hdirect)
    exact ⟨operationId, hfailed.operationFailed⟩

end Reached

/-! ## Calls from any state -/

/-- What a call has to find, whatever the state is: a first version that can be
revised, and for a retry a stored decision that the service comes to itself, and
a run that can be read and was created by now. -/
structure RevisionService.Prepared (service : RevisionService κ) (call : ServiceCall)
    (db : Database) : Prop where
  revisable : db.Revisable call.runId
  decided : call.retrying = true → db.Decided call.runId
  readable : call.retrying = true → ∃ run, db.get call.runId = .ok run ∧
    service.repository.utcNow.Returns (run.createdAt ≤ ·)

/-- The operation that a call has claimed is not left behind: it succeeded, or
it failed together with the run of the call. -/
def ServiceCall.Ends (call : ServiceCall) (outcome : Except Exc Response) (last : Database)
    (claimed : OperationRow) : Prop :=
  match outcome, call.retrying with
  | .ok _, _ => claimed.progress.state = .succeeded
  | .error _, false => claimed.progress.state = .failedRetryable ∧
      claimed.progress.retryAction = some .retryOnce ∧
      last.status? call.runId = some .failedRetryable
  | .error _, true => claimed.progress.state = .failedFinal ∧
      last.status? call.runId = some .failedFinal

section Undisturbed

variable {app : App κ} {request : Request} {call : ServiceCall} {world : World κ}

/-- A direct call ends what it claims, if it finds what it has to. -/
theorem ensures_handle (hwell : app.revisions.WellBehaved)
    (hcall : request.call? app.revisions = some call) (hdirect : call.direct = true)
    (hanswered : world.database.operations.Answered)
    (hprepared : app.revisions.Prepared call world.database) :
    (app.handle request).Ensures (fun _ => RevisionService.Concludes world.database)
      (RevisionService.Withdraws world.database call.runId call.retrying) world := by
  cases request with
  | feedbackCall feedback key =>
      obtain rfl := Option.some.inj hcall
      apply Program.ensures_bind
      exact RevisionService.ensures_submitFeedback hwell rfl hanswered key hprepared.revisable
  | retryCall retry key =>
      obtain rfl := Option.some.inj hcall
      obtain ⟨run, hget, hclock⟩ := hprepared.readable rfl
      apply Program.ensures_bind
      exact RevisionService.ensures_retry hwell rfl hanswered key hprepared.revisable
        (hprepared.decided rfl) hget hclock
  | submitFeedback | retryRevision =>
      obtain rfl := Option.some.inj hcall
      cases hdirect
  | _ => cases hcall

theorem ends_of_solo (hwell : app.revisions.WellBehaved)
    (hcall : request.call? app.revisions = some call) (hdirect : call.direct = true)
    (hanswered : world.database.operations.Answered)
    (hprepared : app.revisions.Prepared call world.database) {outcome : Except Exc Response}
    {last : World κ} (hsolo : (app.handle request).Solo world outcome last) :
    (∀ claimed, world.database.Claims last.database claimed →
        call.Ends outcome last.database claimed) ∧
      (outcome = .error (.revisionServiceError (RevisionService.failureCode call.retrying)) →
        ∃ claimed, world.database.Claims last.database claimed) := by
  have hensures := ensures_handle hwell hcall hdirect hanswered hprepared
  cases outcome with
  | ok response =>
      have hconcludes := hensures.returned hsolo
      refine ⟨fun claimed hclaims => ?_, fun heq => by cases heq⟩
      cases hretrying : call.retrying <;> simpa only [ServiceCall.Ends, hretrying] using
        hconcludes claimed hclaims
  | error failure =>
      have hwithdraws := hensures.raised hsolo
      refine ⟨fun claimed hclaims => ?_, fun heq => hwithdraws.claimed (Except.error.inj heq)⟩
      obtain ⟨hstate, hdecision, hrun⟩ := hwithdraws.failed claimed hclaims
      cases hretrying : call.retrying
      · rw [hretrying] at hstate hdecision hrun
        simp only [ServiceCall.Ends, hretrying]
        exact ⟨hstate, hdecision, hrun⟩
      · rw [hretrying] at hstate hrun
        simp only [ServiceCall.Ends, hretrying]
        exact ⟨hstate, hrun⟩

/-- A retry that finds another decision leaves what it claims in progress. -/
theorem stranded_of_solo (hwell : app.revisions.WellBehaved)
    (hcall : request.call? app.revisions = some call) (hdirect : call.direct = true)
    (hretrying : call.retrying = true) (hanswered : world.database.operations.Answered)
    (hundecided : ¬world.database.Decided call.runId) {outcome : Except Exc Response}
    {last : World κ} (hsolo : (app.handle request).Solo world outcome last) :
    ∀ claimed, world.database.Claims last.database claimed →
      claimed.progress.state = .inProgress := by
  cases request with
  | retryCall retry key =>
      obtain rfl := Option.some.inj hcall
      let stranded (last : World κ) : Prop := ∀ claimed,
        world.database.Claims last.database claimed → claimed.progress.state = .inProgress
      have hensures : (app.handle (.retryCall retry key)).Ensures (fun _ => stranded)
          (fun _ => stranded) world := by
        apply Program.ensures_bind
        apply (RevisionService.ensures_retry_undecided hwell rfl hanswered key hundecided).mono
        · intro _ last hlast claimed hclaims
          rw [hlast] at hclaims
          exact hclaims.irrefl.elim
        · exact fun _ _ h => h
      cases outcome with
      | ok response => exact hensures.returned hsolo
      | error failure => exact hensures.raised hsolo
  | feedbackCall feedback key =>
      obtain rfl := Option.some.inj hcall
      cases hretrying
  | submitFeedback | retryRevision =>
      obtain rfl := Option.some.inj hcall
      cases hdirect
  | _ => cases hcall

end Undisturbed

/-- With well behaved collaborators no operation is stranded. Called from any
state that calls to the repository lead to, the service ends what it claims if
the run is prepared for the call, and reports a failed attempt only where it has
claimed one; a retry that finds another decision than its own is the one that
strands its operation. In an interleaving of requests from an empty database
runs are always prepared, and every operation has ended by the time the call
that claimed it has. -/
theorem operation_ended [DecidableEq ι] {app : App κ} (hwell : app.revisions.WellBehaved) :
    (∀ (db : Database) (rest : κ) (request : Request) (call : ServiceCall)
        (outcome : Except Exc Response) (last : World κ), db.Reachable →
      request.call? app.revisions = some call → call.direct = true →
      (app.handle request).Solo ⟨db, rest⟩ outcome last →
      (app.revisions.Prepared call db →
        (∀ claimed, db.Claims last.database claimed →
          call.Ends outcome last.database claimed) ∧
        (outcome = .error (.revisionServiceError (RevisionService.failureCode call.retrying)) →
          ∃ claimed, db.Claims last.database claimed)) ∧
      (call.retrying = true → ¬db.Decided call.runId →
        ∀ claimed, db.Claims last.database claimed → claimed.progress.state = .inProgress)) ∧
    ∀ (rest : κ) (inbox : ι → Request) (log : List (Event ι (World κ)))
        (config : Config ι (World κ) Exc Response) (i : ι) (call : ServiceCall),
      Runs (workflow app rest inbox) log config → (inbox i).call? app.revisions = some call →
      (call.retrying = true → ∀ event ∈ log, event.client = i → event.before.database.Readable) →
      (∀ event ∈ log, event.client = i → ∀ claimed,
        event.before.database.Claims event.after.database claimed →
          (∀ response, config.threads i = .ret response →
            config.state.database.Succeeded call.runId claimed.id) ∧
          ∀ failure, config.threads i = .raise failure →
            config.state.database.OperationFailed call.retrying call.runId claimed.id) ∧
      (call.direct = true → config.threads i =
          .raise (.revisionServiceError (RevisionService.failureCode call.retrying)) →
        ∃ operationId,
          config.state.database.OperationFailed call.retrying call.runId operationId) := by
  constructor
  · intro db rest request call outcome last hreachable hcall hdirect hsolo
    refine ⟨fun hprepared => ?_, fun hretrying hundecided => ?_⟩
    · exact ends_of_solo hwell hcall hdirect hreachable.answered hprepared hsolo
    · exact stranded_of_solo hwell hcall hdirect hretrying hreachable.answered hundecided hsolo
  · intro rest inbox log config i call hruns hcall hread
    exact operation_ended_of_runs hwell hruns hcall hread

/-! ## Collaborators that raise -/

namespace Demo

/-- The Critic raises nothing but what fails to validate. -/
theorem review_raises (request : CriticRequest) :
    (Critic.review id (pure now) request : Program Unit Exc CritiqueReport).Raises
      (·.isReleased) := by
  apply Program.meets_bind
  apply Program.meets_bind
  apply Program.meets_ofExcept
  · intro codes _
    apply Program.meets_ofExcept
    · exact fun _ _ => trivial
    · exact fun _ hfailure => isReleased_of_validated hfailure
  · exact fun _ hfailure => isReleased_of_validated hfailure

theorem wellBehaved_compositionError : (failingApp .compositionError).revisions.WellBehaved where
  connect := trivial
  clock := trivial
  calendar := rfl
  uuid4 := trivial
  delete _ := trivial
  revise _ _ _ := rfl
  generateBackground _ := trivial
  resolve _ := trivial
  compose _ := trivial
  save _ _ _ := trivial
  review := review_raises

/-- Calls to the repository take the run of the demo to its first version. -/
theorem exists_ready_reachable : ∃ db : Database, db.Reachable ∧
    db.At now runId (.ready ⟨⟨evidence [] noWarnings, passed⟩, by decide⟩) := by
  obtain ⟨db₀, hcreate, hat₀⟩ := Database.create_of_absent (ProjectRun.new runId .chinaToUk now)
    runCreate (empty_absent runId) rfl rfl rfl (le_refl now)
  obtain ⟨db₁, hclaim, hat₁⟩ := hat₀.claimAnalysis
  obtain ⟨db₂, hcomplete, hat₂⟩ := hat₁.completeAnalysis false
    (evidence [] noWarnings).matches_request
  obtain ⟨db₃, hconfirm, hat₃⟩ := hat₂.confirmBrandLock (evidence [] noWarnings).confirms
  obtain ⟨db₄, hdraft, hat₄⟩ := hat₃.saveDraft (evidence [] noWarnings).draft
    (evidence [] noWarnings).lock_kept (evidence [] noWarnings).facts_verified
  obtain ⟨db₅, hcompose, hat₅⟩ := hat₄.saveComposition (evidence [] noWarnings).sources_locked
  obtain ⟨db₆, hreview, hat₆⟩ := hat₅.saveCritique (rfl : passed.reviewedAt = now)
  have hreachable₀ : db₀.Reachable :=
    .write (.create (ProjectRun.new runId .chinaToUk now) (some runCreate)) .empty hcreate
  have hreachable₁ : db₁.Reachable :=
    .write (.claimAnalysis runId) hreachable₀ ⟨_, _, hclaim⟩
  have hreachable₂ : db₂.Reachable :=
    .write (.completeAnalysis runId _ _) hreachable₁ ⟨_, hcomplete⟩
  have hreachable₃ : db₃.Reachable :=
    .write (.confirmBrandLock runId _ none) hreachable₂ ⟨_, _, hconfirm⟩
  have hreachable₄ : db₄.Reachable :=
    .write (.saveDraft runId _ _ _ _ none) hreachable₃ ⟨_, _, hdraft⟩
  have hreachable₅ : db₅.Reachable :=
    .write (.saveComposition runId _) hreachable₄ ⟨_, hcompose⟩
  have hreachable₆ : db₆.Reachable :=
    .write (.saveCritique runId _) hreachable₅ ⟨_, hreview⟩
  exact ⟨db₆, hreachable₆, hat₆⟩

end Demo

/-- The engine fails in a way that the service knows. The feedback has failed
when the call reports it: the call alone on a run that calls to the repository
have made ready, and the call among the requests that make it ready. -/
theorem operation_ended_compositionError :
    (∃ (db : Database) (last : World Unit) (claimed : OperationRow), db.Reachable ∧
      ((Demo.failingApp .compositionError).handle
        (.feedbackCall Demo.feedback Demo.feedbackKey)).Solo ⟨db, ()⟩
          (.error (.revisionServiceError .revisionFailed)) last ∧
      db.Claims last.database claimed ∧ claimed.progress.state = .failedRetryable ∧
      claimed.progress.retryAction = some .retryOnce ∧
      last.database.status? Demo.feedback.runId = some .failedRetryable) ∧
    ∃ (log : List (Event Nat (World Unit))) (config : Config Nat (World Unit) Exc Response),
      Runs (workflow (Demo.failingApp .compositionError) () Demo.feedbackRequests) log config ∧
      config.threads 6 = .raise (.revisionServiceError .revisionFailed) ∧
      ∃ operationId, config.state.database.OperationFailed false Demo.feedback.runId
        operationId := by
  have hended := operation_ended (ι := Nat) Demo.wellBehaved_compositionError
  constructor
  · obtain ⟨db, hreachable, hat⟩ := Demo.exists_ready_reachable
    obtain ⟨operationId, db', hexec, -⟩ := Demo.exec_feedback_failed (fun _ _ _ _ hshows hid =>
      RevisionService.exec_recover_compositionError rfl hshows hid) hat
    have hsolo := Program.solo_of_exec hexec
    have hprepared {fingerprint : String} :
        (Demo.failingApp .compositionError).revisions.Prepared
          ⟨true, false, Demo.feedback.runId, Demo.feedbackKey, fingerprint⟩ db := by
      constructor
      · exact hat.shows.revisable rfl (by decide) rfl
      · rintro ⟨⟩
      · rintro ⟨⟩
    obtain ⟨hends, hclaims⟩ := (hended.1 db () (.feedbackCall Demo.feedback Demo.feedbackKey) _ _ _
      hreachable rfl rfl hsolo).1 hprepared
    obtain ⟨claimed, hclaimed⟩ := hclaims rfl
    exact ⟨db, _, claimed, hreachable, hsolo, hclaimed, hends claimed hclaimed⟩
  · obtain ⟨log, config, -, hruns, hthread, -⟩ := Demo.exists_feedback_failed
      fun _ _ _ _ hshows hid => RevisionService.exec_recover_compositionError rfl hshows hid
    have hcall := hended.2 () Demo.feedbackRequests log config 6 _ hruns rfl
      fun hretrying => by cases hretrying
    exact ⟨log, config, hruns, hthread, hcall.2 rfl hthread⟩

/-- The engine fails in a way that the service does not know: the call that
claimed the operation reports a failed revision, and the operation is left in
progress. -/
theorem not_operation_ended_osError : ∃ log config operationId,
    Runs (workflow (Demo.failingApp .osError) () Demo.feedbackRequests) log config ∧
      config.threads 6 = .raise (.revisionServiceError .revisionFailed) ∧
      (∃ event ∈ log, event.client = 6 ∧ ∃ claimed, claimed.id = operationId ∧
        Database.Claims event.before.database event.after.database claimed) ∧
      ∃ row ∈ config.state.database.operations.rows, row.id = operationId ∧
        row.progress.state = .inProgress := by
  obtain ⟨log, config, operationId, hruns, hthread, ⟨event, hevent, hclient, hbefore, claimed,
    hmem, hid⟩, hleft⟩ := Demo.exists_feedback_failed fun _ _ _ _ hshows hid =>
      RevisionService.exec_recover_osError hshows hid
  refine ⟨log, config, operationId, hruns, hthread,
    ⟨event, hevent, hclient, claimed, hid, hmem, ?_⟩, hleft⟩
  rw [hid]
  exact hbefore

end CultureShift
