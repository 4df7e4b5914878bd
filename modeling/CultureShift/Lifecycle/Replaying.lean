/-
# Replaying a call

Once a run has its revision, nothing about it changes any more. A call to the
revision service under a key that was used is answered with the stored response
if it asks for the same, and refused if it does not; under a new key it is
refused. None of these calls writes anything.
-/

import CultureShift.Lifecycle.Reviewing
import CultureShift.Lifecycle.SecondVersion
import CultureShift.Lifecycle.Stranding

namespace CultureShift

open Serialization Relational Concurrent

variable {ι κ : Type}

/-! ## Claims of a revised run -/

namespace Database

/-- What a call is answered once the revision is stored: the operation of its
kind under its key decides. -/
def reply (db : Database) (retrying : Bool) (runId : UUID) (keyDigest fingerprint : String)
    (response : RevisionCompleted) : Except Exc RevisionCompleted :=
  match (db.operations.ofRun runId).find? fun row =>
      decide (row.kind = .retry) = retrying && row.keyDigest = keyDigest with
  | some row =>
      if row.fingerprint = fingerprint then .ok response
      else .error (.idempotencyConflictError "idempotency fingerprint mismatch")
  | none =>
      if retrying then .error (.invalidRunStateError "server-authorized retry required")
      else .error (.revisionLimitReachedError "one revision already exists")

/-- A claim is answered in this way and writes nothing. -/
def Replies (db : Database) (answer : Except Exc RevisionCompleted)
    (body : Database → Except Exc (OperationRecord × Database)) : Prop :=
  (body db).map (Prod.map RevisionService.replayed id) =
    answer.map fun response => (some response, db)

variable {db : Database} {runId : UUID} {stage : Stage} {revision : Revised}
  {keyDigest fingerprint : String}

/-- Every operation of a revised run has succeeded with the response of the
revision. -/
theorem Shows.succeeded_of_revised (h : db.Shows runId stage)
    (hrevised : stage.revised? = some revision) {row : OperationRow}
    (hrow : row ∈ db.operations.ofRun runId) :
    row.progress.state = .succeeded ∧
      row.progress.publicResponse = some (.dump revision.response) := by
  rw [h.operations] at hrow
  cases stage <;> simp only [Stage.revised?, reduceCtorEq] at hrevised
  case revised evidence feedback retry revision' =>
    obtain rfl := Option.some.inj hrevised
    cases retry with
    | none =>
        rw [List.mem_singleton.mp hrow]
        exact ⟨rfl, rfl⟩
    | some retry =>
        rcases List.mem_pair.mp hrow with rfl | rfl <;> exact ⟨rfl, rfl⟩

/-- An operation that has succeeded is replayed to who asks for the same. -/
theorem replay_of_succeeded {row : OperationRow} {response : RevisionCompleted}
    (fingerprint message : String) (hstate : row.progress.state = .succeeded)
    (hresponse : row.progress.publicResponse = some (.dump response)) :
    (replay row fingerprint message).map RevisionService.replayed =
      if row.fingerprint = fingerprint then .ok (some response)
      else .error (.idempotencyConflictError "idempotency fingerprint mismatch") := by
  obtain ⟨record, hrecord⟩ := exists_operationRecord row
  obtain ⟨-, -, hfingerprint, hsucceeded, -, -⟩ := of_operationRecord hrecord
  rw [hstate] at hsucceeded
  have hreplayed : RevisionService.replayed record = some response := by
    rw [RevisionService.replayed, if_pos hsucceeded]
    exact publicResponse_of_operationRecord hrecord hresponse
  rw [replay, hrecord, ok_bind, hfingerprint]
  by_cases hsame : row.fingerprint = fingerprint
  · rw [require_of _ hsame, ok_bind, require_of _ hsucceeded, ok_bind, if_pos hsame]
    exact congrArg Except.ok hreplayed
  · rw [require_eq_error.mpr ⟨hsame, rfl⟩, if_neg hsame]
    rfl

/-- What is found under the key of a call is replayed. -/
theorem Shows.replay_of_find (h : db.Shows runId stage) (hrevised : stage.revised? = some revision)
    {condition : OperationRow → Bool} {row : OperationRow} {message : String}
    (hfind : (db.operations.ofRun runId).find? condition = some row) :
    ((do
      let record ← replay row fingerprint message
      return (record, db)) : Except Exc (OperationRecord × Database)).map
        (Prod.map RevisionService.replayed id) =
      (if row.fingerprint = fingerprint then .ok revision.response
        else .error (.idempotencyConflictError "idempotency fingerprint mismatch") :
          Except Exc RevisionCompleted).map fun response => (some response, db) := by
  obtain ⟨hstate, hresponse⟩ := h.succeeded_of_revised hrevised (List.mem_of_find?_eq_some hfind)
  have hreplay := replay_of_succeeded fingerprint message hstate hresponse
  cases hrecord : replay row fingerprint message with
  | ok record =>
      rw [hrecord] at hreplay
      split_ifs at hreplay ⊢
      · exact congrArg (Except.map fun response => (response, db)) hreplay
      · cases hreplay
  | error failure =>
      rw [hrecord] at hreplay
      split_ifs at hreplay ⊢
      · cases hreplay
      · exact congrArg (Except.map fun response => (response, db)) hreplay

theorem Shows.replies_feedback (h : db.Shows runId stage)
    (hrevised : stage.revised? = some revision) (requestedChanges : List RevisionChange)
    (feedbackDigest : String) (claimedAt : Datetime) :
    db.Replies (db.reply false runId keyDigest fingerprint revision.response)
      (Database.claimFeedbackOperation runId keyDigest fingerprint requestedChanges feedbackDigest
        claimedAt) := by
  have hcondition : (fun row : OperationRow =>
      decide (row.kind = .retry) = false && row.keyDigest = keyDigest) =
        fun row => row.kind = .feedback && row.keyDigest = keyDigest := by
    funext row
    cases row.kind <;> rfl
  unfold Replies reply Database.claimFeedbackOperation
  rw [OperationTable.find_eq_ofRun, hcondition]
  cases hfind : (db.operations.ofRun runId).find? fun row =>
      row.kind = .feedback && row.keyDigest = keyDigest with
  | some row => exact h.replay_of_find hrevised hfind
  | none =>
      have hstored : ¬(db.revisions.find runId).isNone := by
        rw [h.revision, hrevised]
        simp
      dsimp only
      rw [require_eq_error.mpr ⟨hstored, rfl⟩]
      rfl

theorem Shows.replies_retry (h : db.Shows runId stage) (hrevised : stage.revised? = some revision)
    (claimedAt : Datetime) :
    db.Replies (db.reply true runId keyDigest fingerprint revision.response)
      (Database.claimRetryOperation runId keyDigest fingerprint claimedAt) := by
  have hcondition : (fun row : OperationRow =>
      decide (row.kind = .retry) = true && row.keyDigest = keyDigest) =
        fun row => row.kind = .retry && row.keyDigest = keyDigest := by
    funext row
    cases row.kind <;> rfl
  unfold Replies reply Database.claimRetryOperation
  rw [OperationTable.find_eq_ofRun, hcondition]
  cases hfind : (db.operations.ofRun runId).find? fun row =>
      row.kind = .retry && row.keyDigest = keyDigest with
  | some row => exact h.replay_of_find hrevised hfind
  | none =>
      obtain ⟨run, hrun, -, hstatus⟩ := h.run
      have hretryable : ¬run.status = .failedRetryable := by
        rw [hstatus]
        cases stage <;> simp only [Stage.revised?, reduceCtorEq] at hrevised
        case revised evidence feedback retry revision' =>
          rcases reviewedStatus_cases revision'.critique with ⟨-, hfinal⟩ | ⟨-, hready⟩
          · simp [Stage.status, hfinal]
          · simp [Stage.status, hready]
      dsimp only
      rw [hrun, orRaise_some, ok_bind, require_eq_error.mpr ⟨hretryable, rfl⟩]
      rfl

theorem isClaimError_of_reply {retrying : Bool} {response : RevisionCompleted} {refusal : Exc}
    (h : db.reply retrying runId keyDigest fingerprint response = .error refusal) :
    RevisionService.isClaimError refusal = true := by
  unfold reply at h
  split at h <;> split_ifs at h <;> cases h <;> rfl

end Database

/-! ## Calls that are replayed -/

/-- A failure that this answer is reported with, or one of the environment. -/
def Reports (answer : Except Exc RevisionCompleted) (failure : Exc) : Prop :=
  (∃ refusal, answer = .error refusal ∧
    failure = .revisionServiceError (RevisionService.mapRepositoryError refusal)) ∨
  failure.isForeign = true

/-- The program finds only what it assumes, writes nothing, and answers like this. -/
abbrev RepliesWith (assumes : World κ → Prop) (answer : Except Exc RevisionCompleted)
    (program : Program (World κ) Exc RevisionCompleted) : Prop :=
  program.Meets assumes (fun before after => after.database = before.database)
    (fun response => answer = .ok response) (Reports answer)

section Calls

variable {assumes : World κ → Prop} {answer : Except Exc RevisionCompleted}
  {repository : Repository κ}

/-- Collaborators outside the database write nothing in it. -/
theorem meets_outside {α : Type} {program : Program κ Exc α}
    (hraises : program.Raises fun failure => failure.isForeign = true) :
    (outside program).Meets assumes (fun before after => after.database = before.database)
      (fun _ => True) fun failure => failure.isForeign = true :=
  Program.meets_within (Program.returns_true program) hraises fun _ _ => rfl

theorem meets_claim {body : Database → Except Exc (OperationRecord × Database)}
    (hreplies : ∀ world, assumes world → world.database.Replies answer body) :
    (repository.transaction body).Meets assumes
      (fun before after => after.database = before.database)
      (fun operation => ∃ response, answer = .ok response ∧
        RevisionService.replayed operation = some response)
      fun failure => answer = .error failure ∨ failure.isForeign = true := by
  have hconnect : repository.connect.Raises fun failure => failure.isForeign = true :=
    Program.meets_mono repository.connect_raises (fun _ h => h) fun _ h => by rw [h]; rfl
  apply Program.meets_bind
  refine Program.meets_mono (meets_outside hconnect) (fun _ _ => ?_) fun _ h => .inr h
  apply Program.meets_transact
  · intro world operation after hworld hdone
    obtain ⟨⟨record, database⟩, hbody, heq⟩ := map_eq_ok.mp hdone
    obtain ⟨rfl, rfl⟩ := Prod.mk.inj heq
    have hanswer := hreplies world hworld
    rw [Database.Replies, hbody] at hanswer
    obtain ⟨response, hok, heq⟩ := map_eq_ok.mp hanswer.symm
    obtain ⟨hreplayed, hsame⟩ := Prod.mk.inj heq
    exact ⟨hsame.symm, response, hok, hreplayed.symm⟩
  · intro world failure hworld hfailed
    refine ⟨rfl, .inl ?_⟩
    have hanswer := hreplies world hworld
    cases hbody : body world.database with
    | ok result => simp [hbody, Except.map] at hfailed
    | error failure' =>
        obtain rfl : failure' = failure := by simpa [hbody, Except.map] using hfailed
        rw [Database.Replies, hbody] at hanswer
        cases answer with
        | ok response => cases hanswer
        | error refusal => exact congrArg Except.error (Except.error.inj hanswer).symm

/-- A refusal is translated; a fault of the environment is not. -/
theorem meets_translating {claim : Program (World κ) Exc OperationRecord}
    (hrefusal : ∀ refusal, answer = .error refusal → RevisionService.isClaimError refusal = true)
    (h : claim.Meets assumes (fun before after => after.database = before.database)
      (fun operation => ∃ response, answer = .ok response ∧
        RevisionService.replayed operation = some response)
      fun failure => answer = .error failure ∨ failure.isForeign = true) :
    (RevisionService.translating claim).Meets assumes
      (fun before after => after.database = before.database)
      (fun operation => ∃ response, answer = .ok response ∧
        RevisionService.replayed operation = some response) (Reports answer) := by
  apply Program.meets_tryCatch
  refine Program.meets_mono h (fun _ h => h) fun failure hfailure => ?_
  rcases hfailure with hanswer | hforeign
  · rw [if_pos (hrefusal failure hanswer)]
    exact .inl ⟨failure, hanswer, rfl⟩
  · have hclaim : ¬RevisionService.isClaimError failure = true := by
      cases failure <;> simp_all [Exc.isForeign, RevisionService.isClaimError]
    rw [if_neg hclaim]
    exact .inr hforeign

variable {service : RevisionService κ}

theorem meets_submitFeedback {request : FeedbackRequest} {key : String}
    (hkey : isIdempotencyKey key = true)
    (hrefusal : ∀ refusal, answer = .error refusal → RevisionService.isClaimError refusal = true)
    (hreplies : ∀ world claimedAt, assumes world → world.database.Replies answer
      (Database.claimFeedbackOperation request.runId (service.digest key)
        (service.fingerprint request) request.requestedChanges
        (service.digest request.feedback.text) claimedAt)) :
    RepliesWith assumes answer (service.submitFeedback request key) := by
  have hdigest : service.keyDigest key = .ok (service.digest key) :=
    RevisionService.keyDigest_eq_ok.mpr ⟨hkey, rfl⟩
  unfold RevisionService.submitFeedback
  rw [hdigest, Program.ofExcept_ok, Program.bind_ret]
  apply Program.meets_bind
  refine Program.meets_mono (meets_outside service.repository.utcNow_raises) (fun now _ => ?_)
    fun _ h => .inr h
  apply Program.meets_bind
  refine Program.meets_mono (meets_translating hrefusal
    (meets_claim fun world hworld => hreplies world now hworld)) ?_ fun _ h => h
  rintro operation ⟨response, hanswer, hreplayed⟩
  rw [hreplayed]
  exact hanswer

theorem meets_retry {request : RetryRequest} {key : String} (hkey : isIdempotencyKey key = true)
    (hrefusal : ∀ refusal, answer = .error refusal → RevisionService.isClaimError refusal = true)
    (hreplies : ∀ world claimedAt, assumes world → world.database.Replies answer
      (Database.claimRetryOperation request.runId (service.digest key)
        (service.fingerprint request) claimedAt)) :
    RepliesWith assumes answer (service.retry request key) := by
  have hdigest : service.keyDigest key = .ok (service.digest key) :=
    RevisionService.keyDigest_eq_ok.mpr ⟨hkey, rfl⟩
  unfold RevisionService.retry
  rw [hdigest, Program.ofExcept_ok, Program.bind_ret]
  apply Program.meets_bind
  refine Program.meets_mono (meets_translating hrefusal ?_) ?_ fun _ h => h
  · apply Program.meets_bind
    exact Program.meets_mono (meets_outside service.repository.utcNow_raises)
      (fun now _ => meets_claim fun world hworld => hreplies world now hworld) fun _ h => .inr h
  · rintro operation ⟨response, hanswer, hreplayed⟩
    rw [hreplayed]
    exact hanswer

end Calls

/-! ## The operations of a revised run -/

namespace Stage

variable {stage : Stage} {revision : Revised} {runId : UUID} {retrying : Bool}

/-- There is one operation of each kind at most, so the one under the key of a
call is the one that is found. -/
theorem find_of_revised (hrevised : stage.revised? = some revision) {row : OperationRow}
    (hrow : row ∈ stage.operations runId) (hkind : decide (row.kind = .retry) = retrying) :
    (stage.operations runId).find? (fun other =>
      decide (other.kind = .retry) = retrying && other.keyDigest = row.keyDigest) = some row := by
  cases stage <;> simp only [Stage.revised?, reduceCtorEq] at hrevised
  case revised evidence feedback retry revision' =>
    cases retry with
    | none =>
        obtain rfl := List.mem_singleton.mp hrow
        subst hkind
        simp [Stage.operations]
    | some retry =>
        rcases List.mem_pair.mp hrow with rfl | rfl
        · subst hkind
          simp [Stage.operations]
        · subst hkind
          simp [Stage.operations, Feedback.row, Claim.retryRow]

theorem operation_of_claim? (runId : UUID) {claim : Claim}
    (h : stage.claim? retrying = some claim) :
    ∃ row ∈ stage.operations runId, decide (row.kind = .retry) = retrying ∧
      row.keyDigest = claim.keyDigest ∧ row.fingerprint = claim.fingerprint := by
  cases retrying with
  | true =>
      obtain ⟨feedback, progress, hrow⟩ := operation_of_retried? runId h
      exact ⟨_, hrow, rfl, rfl, rfl⟩
  | false =>
      obtain ⟨feedback, hfeedback, rfl⟩ := Option.map_eq_some_iff.mp h
      obtain ⟨progress, hrow⟩ := operation_of_feedback? runId hfeedback
      exact ⟨_, hrow, rfl, rfl, rfl⟩

end Stage

namespace Database

variable {db : Database} {runId : UUID} {stage : Stage} {revision : Revised} {retrying : Bool}
  {fingerprint : String} {response : RevisionCompleted}

/-- An operation of the run decides what a call under its key is answered. -/
theorem Shows.reply_of_mem (h : db.Shows runId stage) (hrevised : stage.revised? = some revision)
    {row : OperationRow} (hrow : row ∈ db.operations.ofRun runId)
    (hkind : decide (row.kind = .retry) = retrying) :
    db.reply retrying runId row.keyDigest fingerprint response =
      if row.fingerprint = fingerprint then .ok response
      else .error (.idempotencyConflictError "idempotency fingerprint mismatch") := by
  rw [h.operations] at hrow
  rw [reply, h.operations, Stage.find_of_revised hrevised hrow hkind]

/-- Under a new key, feedback is refused. -/
theorem reply_of_new {keyDigest : String}
    (hnew : ∀ row ∈ db.operations.ofRun runId, row.kind = .feedback → row.keyDigest ≠ keyDigest) :
    db.reply false runId keyDigest fingerprint response =
      .error (.revisionLimitReachedError "one revision already exists") := by
  have hfind : (db.operations.ofRun runId).find? (fun row =>
      decide (row.kind = .retry) = false && row.keyDigest = keyDigest) = none := by
    apply List.find?_eq_none.mpr
    intro row hrow
    cases hkind : row.kind with
    | feedback => simpa [hkind] using hnew row hrow hkind
    | retry => simp
  rw [reply, hfind]
  rfl

theorem Shows.reply_eq {db' : Database} (h : db.Shows runId stage) (h' : db'.Shows runId stage)
    (keyDigest : String) : db'.reply retrying runId keyDigest fingerprint response =
      db.reply retrying runId keyDigest fingerprint response := by
  unfold reply
  rw [h.operations, h'.operations]

end Database

/-! ## Every run -/

section Runs

variable [DecidableEq ι] {app : App κ} {rest : κ} {inbox : ι → Request}
  {start config : Config ι (World κ) Exc Response} {log : List (Event ι (World κ))}

/-- What a call comes to after another one has returned this response. -/
structure Replays (db : Database) (service : RevisionService κ) (call later : ServiceCall)
    (response : RevisionCompleted) (outcome : Except Exc Response) : Prop where
  same : later.retrying = call.retrying → later.key = call.key →
    later.fingerprint = call.fingerprint → outcome = .ok (.revised response)
  conflict : later.retrying = call.retrying → later.key = call.key →
    later.fingerprint ≠ call.fingerprint →
      outcome = .error (.revisionServiceError .idempotencyConflict)
  /-- The feedback that a retry carried on is answered like the retry. -/
  original : later.retrying = false → ∀ row ∈ db.operations.ofRun later.runId,
    row.kind = .feedback → row.keyDigest = service.digest later.key →
      row.fingerprint = later.fingerprint → outcome = .ok (.revised response)
  limit : later.retrying = false → (∀ row ∈ db.operations.ofRun later.runId,
    row.kind = .feedback → row.keyDigest ≠ service.digest later.key) →
      outcome = .error (.revisionServiceError .revisionLimitReached)

/-- How a call to the service itself reports its answer. -/
def reported : Except Exc RevisionCompleted → Except Exc Response
  | .ok response => .ok (.revised response)
  | .error refusal => .error (.revisionServiceError (RevisionService.mapRepositoryError refusal))

theorem replays_of_reply {db : Database} {service : RevisionService κ} {call later : ServiceCall}
    {response : RevisionCompleted} {stage : Stage} {revision : Revised}
    {outcome : Except Exc Response} (hshows : db.Shows later.runId stage)
    (hrevised : stage.revised? = some revision)
    (hclaimed : ∃ claim, stage.claim? call.retrying = some claim ∧
      claim.keyDigest = service.digest call.key ∧ claim.fingerprint = call.fingerprint)
    (houtcome : outcome = reported (db.reply later.retrying later.runId
      (service.digest later.key) later.fingerprint response)) :
    Replays db service call later response outcome := by
  -- The operation of the call that has returned is one of the rows.
  have hown (hretrying : later.retrying = call.retrying) (hkey : later.key = call.key) :
      outcome = reported (if call.fingerprint = later.fingerprint then .ok response
        else .error (.idempotencyConflictError "idempotency fingerprint mismatch")) := by
    obtain ⟨claim, hclaim, hdigest, hfingerprint⟩ := hclaimed
    obtain ⟨row, hrow, hkind, hrowKey, hrowFingerprint⟩ :=
      Stage.operation_of_claim? later.runId hclaim
    rw [← hshows.operations] at hrow
    rw [houtcome, hkey, ← hdigest, ← hrowKey,
      hshows.reply_of_mem hrevised hrow (hkind.trans hretrying.symm), hrowFingerprint,
      hfingerprint]
  refine ⟨fun hretrying hkey hsame => ?_, fun hretrying hkey hother => ?_,
    fun hfeedback row hrow hkind hkey hsame => ?_, fun hfeedback hnew => ?_⟩
  · rw [hown hretrying hkey, if_pos hsame.symm]
    rfl
  · rw [hown hretrying hkey, if_neg (Ne.symm hother)]
    rfl
  · rw [houtcome, ← hkey, hshows.reply_of_mem hrevised hrow (by rw [hkind, hfeedback]; rfl),
      if_pos hsame]
    rfl
  · rw [houtcome, hfeedback, Database.reply_of_new hnew]
    rfl

/-- A call to the service on a revised run meets this contract. -/
theorem meets_call (app : App κ) {request : Request} {later : ServiceCall} {db : Database}
    {stage : Stage} {revision : Revised} (hlater : request.call? app.revisions = some later)
    (hdirect : later.direct = true) (hkey : isIdempotencyKey later.key = true)
    (hshows : db.Shows later.runId stage) (hrevised : stage.revised? = some revision) :
    (app.handle request).Meets (fun world => world.database.Shows later.runId stage)
      (fun before after => after.database = before.database)
      (fun response => reported (db.reply later.retrying later.runId
        (app.revisions.digest later.key) later.fingerprint revision.response) = .ok response)
      fun failure => reported (db.reply later.retrying later.runId
        (app.revisions.digest later.key) later.fingerprint revision.response) = .error failure ∨
          failure.isForeign = true := by
  have hanswered {answer : Except Exc RevisionCompleted} {program : Program (World κ) Exc _}
      (h : RepliesWith (fun world : World κ => world.database.Shows later.runId stage) answer
        program) :
      (program >>= fun response => .ret (.revised response)).Meets
        (fun world => world.database.Shows later.runId stage)
        (fun before after => after.database = before.database)
        (fun response => reported answer = .ok response)
        fun failure => reported answer = .error failure ∨ failure.isForeign = true := by
    apply Program.meets_bind
    refine Program.meets_mono h (fun response hresponse => ?_) fun failure hfailure => ?_
    · rw [hresponse]
      rfl
    · rcases hfailure with ⟨refusal, hrefusal, rfl⟩ | hforeign
      · rw [hrefusal]
        exact .inl rfl
      · exact .inr hforeign
  cases request with
  | feedbackCall feedback key =>
      cases hlater
      refine hanswered (meets_submitFeedback hkey (fun _ => Database.isClaimError_of_reply) ?_)
      intro world claimedAt hworld
      rw [← hshows.reply_eq hworld]
      exact hworld.replies_feedback hrevised _ _ claimedAt
  | retryCall retry key =>
      cases hlater
      refine hanswered (meets_retry hkey (fun _ => Database.isClaimError_of_reply) ?_)
      intro world claimedAt hworld
      rw [← hshows.reply_eq hworld]
      exact hworld.replies_retry hrevised claimedAt
  | submitFeedback | retryRevision =>
      cases hlater
      cases hdirect
  | createRun | analyzeRun | confirmBrandLock | generateDraft | generateComposition | runCritic =>
      cases hlater

/-- Where a call has returned, every later one on the same run writes nothing,
and unless the connection or the clock fails it is answered like this, however
the requests interleave. -/
theorem replayed_of_runs {i j : ι} {call later : ServiceCall} {response : RevisionCompleted}
    (hreaches : Reaches (workflow app rest inbox) start)
    (hcall : (inbox i).call? app.revisions = some call)
    (hreturned : start.threads i = .ret (.revised response))
    (hlater : (inbox j).call? app.revisions = some later) (hdirect : later.direct = true)
    (hrun : later.runId = call.runId) (hkey : isIdempotencyKey later.key = true)
    (hwaiting : start.threads j = app.handle (inbox j)) (hruns : Runs start log config) :
    (∀ event ∈ log, event.client = j → event.after.database = event.before.database) ∧
      ∀ outcome, (config.threads j).result? = some outcome →
        Replays start.state.database app.revisions call later response outcome ∨
          ∃ failure, outcome = .error failure ∧ failure.isForeign = true := by
  obtain ⟨prior, hprior⟩ := hreaches
  obtain ⟨owns, hkeeps, -⟩ := Discipline.keeps_of_runs hprior workflow_keeps_any
    fun _ _ => trivial
  obtain ⟨completed, hresponse, hcompletes⟩ := hkeeps.returned hreturned call hcall
  obtain rfl := Response.revised.inj hresponse
  obtain ⟨revision, ⟨stage, hshows, hrevised⟩, rfl⟩ := hcompletes.revised
  obtain ⟨keyDigest, hdigest, claim, hclaim, hclaimKey, hfingerprint⟩ := hcompletes.claimed
  rw [← hrun] at hshows hclaim
  -- Whatever a later step finds, the run is still at this stage.
  have hassumes : ∀ event ∈ log, event.client = j →
      event.before.database.Shows later.runId stage := by
    intro event hevent _
    obtain ⟨-, hle, -, -⟩ := Discipline.moves_of_runs hruns hkeeps (fun _ _ => trivial) hevent
    obtain ⟨stage', hshows', hsteps⟩ := hle later.runId stage hshows
    rwa [Stage.eq_of_steps_of_revised? hsteps hrevised] at hshows'
  have hcalled := meets_call app hlater hdirect hkey hshows hrevised
  rw [← hwaiting] at hcalled
  obtain ⟨hmeets, hkept⟩ := hruns.meets hcalled hassumes
  refine ⟨hkept, fun outcome hdone => ?_⟩
  have hclaimed : ∃ claim, stage.claim? call.retrying = some claim ∧
      claim.keyDigest = app.revisions.digest call.key ∧ claim.fingerprint = call.fingerprint :=
    ⟨claim, hclaim.eq hshows, hclaimKey.trans (RevisionService.keyDigest_eq_ok.mp hdigest).2,
      hfingerprint⟩
  cases hprogram : config.threads j with
  | ret answered =>
      rw [hprogram] at hdone hmeets
      cases hdone
      exact .inl (replays_of_reply hshows hrevised hclaimed hmeets.symm)
  | raise failure =>
      rw [hprogram] at hdone hmeets
      cases hdone
      rcases hmeets with hanswer | hforeign
      · exact .inl (replays_of_reply hshows hrevised hclaimed hanswer.symm)
      · exact .inr ⟨failure, rfl, hforeign⟩
  | atomic effect next =>
      rw [hprogram] at hdone
      cases hdone
  | choose κ next =>
      rw [hprogram] at hdone
      cases hdone

/-- The feedback of the demo is asked for twice. -/
theorem replayed_of_runs_revised : ∃ start config log,
    Reaches (workflow Demo.fixtureApp ()
      (Demo.requests fun _ => .feedbackCall Demo.feedback Demo.feedbackKey)) start ∧
      Runs start log config ∧ config.threads 7 = .ret (.revised Demo.revisedCompleted) ∧
      ∀ event ∈ log, event.after.database = event.before.database := by
  obtain ⟨config, hreaches, ⟨id, revision, hshows, hresponse, -⟩, hreturned, hwaiting⟩ :=
    Demo.exists_revised (fun _ => .feedbackCall Demo.feedback Demo.feedbackKey) rfl
  let fingerprint := Demo.fixtureApp.revisions.fingerprint Demo.feedback
  -- Under the same key the claim finds the operation that has succeeded.
  have hreply : config.state.database.reply false Demo.feedback.runId Demo.feedbackKey fingerprint
      revision.response = .ok revision.response := by
    obtain ⟨row, hrow, hkind, hkey, hfingerprint⟩ :=
      Stage.operation_of_claim? Demo.feedback.runId
        (rfl : (Stage.revised Demo.accepted (Demo.fixtureApp.revisions.claimed Demo.feedback
          Demo.feedbackKey id Demo.now) none revision).claim? false = some _)
    rw [← hshows.operations] at hrow
    have hdigest : row.keyDigest = Demo.feedbackKey := hkey
    rw [← hdigest, hshows.reply_of_mem rfl hrow hkind]
    exact if_pos hfingerprint
  have hreplies : config.state.database.Replies (config.state.database.reply false
      Demo.feedback.runId Demo.feedbackKey fingerprint revision.response) _ :=
    hshows.replies_feedback rfl Demo.feedback.requestedChanges Demo.feedback.feedback.text Demo.now
  rw [hreply, Database.Replies] at hreplies
  obtain ⟨⟨record, db⟩, hclaim, heq⟩ := map_eq_ok.mp hreplies
  obtain ⟨hreplayed, rfl⟩ := Prod.mk.inj heq
  have hcall : (Demo.fixtureApp.handle (.feedbackCall Demo.feedback Demo.feedbackKey)).exec
      config.state = some (.ok (.revised revision.response), config.state) :=
    Program.exec_bind (RevisionService.exec_submitFeedback_replayed rfl
      Demo.isIdempotencyKey_feedbackKey hclaim hreplayed)
  obtain ⟨log, hruns, hclient⟩ := runs_of_solo (Program.solo_of_exec hcall) (hwaiting 0) rfl
  obtain ⟨hkept, hreplays⟩ := replayed_of_runs (i := 6) (j := 7) hreaches rfl hreturned rfl rfl
    rfl Demo.isIdempotencyKey_feedbackKey (hwaiting 0) hruns
  refine ⟨config, _, log, hreaches, hruns, ?_, fun event hevent =>
    hkept event hevent (hclient event hevent)⟩
  rcases hreplays _ (by rw [Config.move_threads_self]; rfl) with hanswered | ⟨failure, hfailure, -⟩
  · rw [Config.move_threads_self, ← hresponse]
    rfl
  · cases hfailure

end Runs

end CultureShift
