/-
# Calls of the repository

The public methods that write, as one type of calls with arbitrary arguments.
A call may be made alone or while others are under way; the rules below say
what each of its transactions does to the database.
-/

import CultureShift.Repository.Methods

namespace CultureShift

open Serialization Relational Concurrent

variable {κ α : Type}

inductive Call
  | create (run : ProjectRun) (request : Option RunCreate)
  | updateStatus (runId : UUID) (status : ProjectRunStatus)
  | claimAnalysis (runId : UUID)
  | completeAnalysis (runId : UUID) (analysis : AdAnalysis) (repairAttempted : Bool)
  | recordFailure (runId : UUID) (status : ProjectRunStatus) (code : String)
  | confirmBrandLock (runId : UUID) (proposed : BrandLock) (confirmedAt : Option Datetime)
  | saveDraft (runId : UUID) (brief : CreativeBrief) (adCopy : AdCopy)
      (factReferences ruleIds : List String) (generatedAt : Option Datetime)
  | saveComposition (runId : UUID) (composition : CompositionGenerated)
  | saveCritique (runId : UUID) (report : CritiqueReport)
  | claimFeedbackOperation (runId : UUID) (keyDigest fingerprint : String)
      (requestedChanges : List RevisionChange) (feedbackDigest : String) (claimedAt : Datetime)
  | failRevisionOperation (runId : UUID) (operationId : Nat) (condition : RetryCondition)
      (action : RetryAction) (failedAt : Datetime)
  | claimRetryOperation (runId : UUID) (keyDigest fingerprint : String) (claimedAt : Datetime)
  | completeRevision (runId : UUID) (operationId : Nat) (revision : RevisionRecord)
      (publicResponse : RevisionCompleted)
  | incrementTechnicalAttempt (runId : UUID)

namespace Repository

variable (repository : Repository κ)

/-- Make a call; what it returns is not looked at. -/
def perform : Call → Program (World κ) Exc Unit
  | .create run request => do let _ ← repository.create run request
  | .updateStatus runId status => do let _ ← repository.updateStatus runId status
  | .claimAnalysis runId => do let _ ← repository.claimAnalysis runId
  | .completeAnalysis runId analysis repairAttempted => do
      let _ ← repository.completeAnalysis runId analysis repairAttempted
  | .recordFailure runId status code => do let _ ← repository.recordFailure runId status code
  | .confirmBrandLock runId proposed confirmedAt => do
      let _ ← repository.confirmBrandLock runId proposed confirmedAt
  | .saveDraft runId brief adCopy factReferences ruleIds generatedAt => do
      let _ ← repository.saveDraft runId brief adCopy factReferences ruleIds generatedAt
  | .saveComposition runId composition => do
      let _ ← repository.saveComposition runId composition
  | .saveCritique runId report => do let _ ← repository.saveCritique runId report
  | .claimFeedbackOperation runId keyDigest fingerprint requestedChanges feedbackDigest
      claimedAt => do
      let _ ← repository.claimFeedbackOperation runId keyDigest fingerprint requestedChanges
        feedbackDigest claimedAt
  | .failRevisionOperation runId operationId condition action failedAt => do
      let _ ← repository.failRevisionOperation runId operationId condition action failedAt
  | .claimRetryOperation runId keyDigest fingerprint claimedAt => do
      let _ ← repository.claimRetryOperation runId keyDigest fingerprint claimedAt
  | .completeRevision runId operationId revision publicResponse => do
      let _ ← repository.completeRevision runId operationId revision publicResponse
  | .incrementTechnicalAttempt runId => do let _ ← repository.incrementTechnicalAttempt runId

/-! ## What a call does, transaction by transaction -/

/-- As long as it finds what is assumed, every transaction of the program does
to the database what is promised, and the values it returns are in `post`. -/
def Does (assumes : World κ → Prop) (promises : Database → Database → Prop) (post : α → Prop)
    (program : Program (World κ) Exc α) : Prop :=
  program.Meets assumes (fun world world' => promises world.database world'.database) post
    fun _ => True

section Does

variable {assumes : World κ → Prop} {promises : Database → Database → Prop} {β : Type}

theorem does_bind {post : β → Prop} {program : Program (World κ) Exc α}
    {rest : α → Program (World κ) Exc β}
    (h : Does assumes promises (fun value => Does assumes promises post (rest value)) program) :
    Does assumes promises post (program >>= rest) :=
  Program.meets_bind h

theorem does_ofExcept {post : α → Prop} {body : Except Exc α}
    (h : ∀ value, body = .ok value → post value) :
    Does assumes promises post (.ofExcept body : Program (World κ) Exc α) :=
  Program.meets_ofExcept h fun _ _ => trivial

variable (hrefl : ∀ db, promises db db)
include hrefl

theorem does_outside {post : α → Prop} {program : Program κ Exc α} (h : ∀ value, post value) :
    Does assumes promises post (outside program) :=
  Program.meets_within (Program.meets_mono (Program.returns_true _) (fun value _ => h value)
    fun _ h => h) (Program.raises_true _) fun _ _ => hrefl _

theorem does_transaction {post : α → Prop} {body : Database → Except Exc (α × Database)}
    (h : ∀ world value db', assumes world → body world.database = .ok (value, db') →
      promises world.database db' ∧ post value) :
    Does assumes promises post (repository.transaction body) := by
  apply does_bind
  apply does_outside hrefl
  intro _
  apply Program.meets_transact
  · intro world value after hassumed hbody
    obtain ⟨⟨answer, db'⟩, hcommit, heq⟩ := map_eq_ok.mp hbody
    cases heq
    exact h world value db' hassumed hcommit
  · intro world _ _ _
    exact ⟨hrefl _, trivial⟩

theorem does_query {post : α → Prop} {read : Database → Except Exc α}
    (h : ∀ world value, assumes world → read world.database = .ok value → post value) :
    Does assumes promises post (repository.query read) := by
  apply does_bind
  apply does_outside hrefl
  intro _
  apply Program.meets_transact
  · intro world value after hassumed hbody
    obtain ⟨answer, hread, heq⟩ := map_eq_ok.mp hbody
    cases heq
    exact ⟨hrefl _, h world value hassumed hread⟩
  · intro world _ _ _
    exact ⟨hrefl _, trivial⟩

theorem does_nowOr {post : Datetime → Prop} {given : Option Datetime} (h : ∀ time, post time) :
    Does assumes promises post (repository.nowOr given) := by
  cases given with
  | some given => exact h given
  | none => exact does_outside hrefl h

/-- A transition that is made has been allowed for the run as read. -/
theorem does_withStatus {post : ProjectRun → Prop} {run : ProjectRun} {status : ProjectRunStatus}
    {updatedAt : Option Datetime}
    (h : ∀ updated : ProjectRun, updated.id = run.id → updated.status = status →
      status ∈ allowedTransitions run.status → post updated) :
    Does assumes promises post (run.withStatus repository.now status updatedAt) := by
  unfold ProjectRun.withStatus
  split
  next hallowed =>
    have hvalidated (updatedAt : Datetime) : Does assumes promises post
        (Program.ofExcept (ProjectRun.validate run.id run.direction status run.warningCodes
          run.initialGenerationCount run.humanRevisionCount run.technicalAttemptCount
          run.createdAt updatedAt) : Program (World κ) Exc ProjectRun) := by
      apply does_ofExcept
      intro updated hvalidate
      obtain ⟨hid, -, hstatus, -⟩ := ProjectRun.of_validate hvalidate
      exact h updated hid hstatus hallowed
    cases updatedAt with
    | some updatedAt => exact hvalidated updatedAt
    | none =>
        apply does_bind
        exact does_outside hrefl hvalidated
  next => exact trivial

end Does

end Repository

/-! ## The write of a call -/

/-- What the transaction of a call that writes does to the database. Where the
call has read the run before, that was in an earlier database, of which the
same was `assumed` as of every database the call finds. -/
def Call.Writes (assumed : Database → Prop) (db db' : Database) : Call → Prop
  | .create run request => db.create run request = .ok ((), db')
  | .updateStatus runId status => ∃ earlier current updatedAt, assumed earlier ∧
      earlier.get runId = .ok current ∧ status ∈ allowedTransitions current.status ∧
      db.updateStatus runId status updatedAt = .ok ((), db')
  | .claimAnalysis runId => ∃ claimedAt claimed,
      db.claimAnalysis runId claimedAt = .ok (claimed, db')
  | .completeAnalysis runId analysis repairAttempted => ∃ updatedAt,
      db.completeAnalysis runId analysis repairAttempted .awaitingBrandLock updatedAt =
        .ok ((), db')
  | .recordFailure runId status _ => ∃ earlier current codes updatedAt, assumed earlier ∧
      earlier.get runId = .ok current ∧ status ∈ allowedTransitions current.status ∧
      db.recordFailure runId status codes updatedAt = .ok ((), db')
  | .confirmBrandLock runId proposed _ => ∃ confirmedAt record,
      db.confirmBrandLock runId proposed confirmedAt = .ok (record, db')
  | .saveDraft runId brief adCopy factReferences ruleIds _ => ∃ generatedAt record,
      db.saveDraft runId ⟨brief, adCopy, factReferences, ruleIds, generatedAt⟩ = .ok (record, db')
  | .saveComposition runId composition => ∃ saved,
      db.saveComposition runId composition = .ok (saved, db')
  | .saveCritique runId report => ∃ record, db.saveCritique runId report = .ok (record, db')
  | .claimFeedbackOperation runId keyDigest fingerprint requestedChanges feedbackDigest claimedAt =>
      ∃ record, db.claimFeedbackOperation runId keyDigest fingerprint requestedChanges
        feedbackDigest claimedAt = .ok (record, db')
  | .failRevisionOperation runId operationId condition action failedAt => ∃ record,
      db.failRevisionOperation runId operationId condition action failedAt = .ok (record, db')
  | .claimRetryOperation runId keyDigest fingerprint claimedAt => ∃ record,
      db.claimRetryOperation runId keyDigest fingerprint claimedAt = .ok (record, db')
  | .completeRevision runId operationId revision publicResponse =>
      db.completeRevision runId operationId revision publicResponse = .ok ((), db')
  | .incrementTechnicalAttempt runId => db.incrementTechnicalAttempt runId = .ok ((), db')

/-- A run is read under its own identifier. -/
theorem Database.id_of_get {db : Database} {runId : UUID} {run : ProjectRun}
    (h : db.get runId = .ok run) : run.id = runId := by
  simp only [Database.get, bind_eq_ok] at h
  obtain ⟨row, -, codes, -, hvalidate⟩ := h
  exact (ProjectRun.of_validate hvalidate).1

namespace Repository

variable (repository : Repository κ)

/-- Every transaction of the program leaves the database alone or is the call's
write. -/
abbrev OnlyWrites (assumed : Database → Prop) (call : Call) (program : Program (World κ) Exc α) :
    Prop :=
  Does (fun world => assumed world.database)
    (fun db db' => db' = db ∨ call.Writes assumed db db') (fun _ => True) program

section Writes

variable {assumed : Database → Prop}

theorem onlyWrites_refl (call : Call) (db : Database) : db = db ∨ call.Writes assumed db db :=
  .inl rfl

theorem OnlyWrites.discard {call : Call} {program : Program (World κ) Exc α}
    (h : OnlyWrites assumed call program) :
    OnlyWrites assumed call (program >>= fun _ => .ret ()) :=
  does_bind h

theorem create_writes (run : ProjectRun) (request : Option RunCreate) :
    OnlyWrites assumed (.create run request) (repository.create run request) := by
  apply does_bind
  apply repository.does_transaction (onlyWrites_refl _)
  intro world done db' _ hcommit
  exact ⟨.inr hcommit, trivial⟩

theorem updateStatus_writes (runId : UUID) (status : ProjectRunStatus) :
    OnlyWrites assumed (.updateStatus runId status) (repository.updateStatus runId status) := by
  apply does_bind
  apply repository.does_query (onlyWrites_refl _)
  intro earlier current hearlier hget
  have hid := Database.id_of_get hget
  apply does_bind
  apply repository.does_withStatus (onlyWrites_refl _)
  intro updated hupdated htarget hallowed
  apply does_bind
  apply repository.does_transaction (onlyWrites_refl _)
  intro world done db' _ hcommit
  rw [hupdated, hid, htarget] at hcommit
  exact ⟨.inr ⟨earlier.database, current, updated.updatedAt, hearlier, hget, hallowed,
    hcommit⟩, trivial⟩

theorem recordFailure_writes (runId : UUID) (status : ProjectRunStatus) (code : String) :
    OnlyWrites assumed (.recordFailure runId status code)
      (repository.recordFailure runId status code) := by
  apply does_bind
  apply does_ofExcept
  intro _ _
  apply does_bind
  apply repository.does_query (onlyWrites_refl _)
  intro earlier current hearlier hget
  have hid := Database.id_of_get hget
  apply does_bind
  apply repository.does_withStatus (onlyWrites_refl _)
  intro transitioned hmoved htarget hallowed
  apply does_bind
  apply does_ofExcept
  intro updated hvalidate
  obtain ⟨hupdated, -, htarget', -⟩ := ProjectRun.of_validate hvalidate
  apply does_bind
  apply repository.does_transaction (onlyWrites_refl _)
  intro world done db' _ hcommit
  rw [hupdated, hmoved, hid, htarget', htarget] at hcommit
  exact ⟨.inr ⟨earlier.database, current, updated.warningCodes, updated.updatedAt, hearlier,
    hget, hallowed, hcommit⟩, trivial⟩

theorem claimAnalysis_writes (runId : UUID) :
    OnlyWrites assumed (.claimAnalysis runId) (repository.claimAnalysis runId) := by
  apply does_bind
  apply does_outside (onlyWrites_refl _)
  intro claimedAt
  apply does_bind
  apply repository.does_transaction (onlyWrites_refl _)
  intro world claimed db' _ hcommit
  refine ⟨.inr ⟨_, _, hcommit⟩, ?_⟩
  apply does_bind
  apply repository.does_query (onlyWrites_refl _)
  intro _ run _ _
  exact trivial

theorem completeAnalysis_writes (runId : UUID) (analysis : AdAnalysis) (repairAttempted : Bool) :
    OnlyWrites assumed (.completeAnalysis runId analysis repairAttempted)
      (repository.completeAnalysis runId analysis repairAttempted) := by
  apply does_bind
  apply repository.does_query (onlyWrites_refl _)
  intro _ current _ _
  apply does_bind
  apply repository.does_query (onlyWrites_refl _)
  intro _ request _ _
  apply does_bind
  apply does_ofExcept
  intro _ _
  apply does_bind
  apply repository.does_withStatus (onlyWrites_refl _)
  intro updated _ htarget _
  apply does_bind
  apply repository.does_transaction (onlyWrites_refl _)
  intro world done db' _ hcommit
  rw [htarget] at hcommit
  exact ⟨.inr ⟨_, hcommit⟩, trivial⟩

theorem confirmBrandLock_writes (runId : UUID) (proposed : BrandLock)
    (confirmedAt : Option Datetime) :
    OnlyWrites assumed (.confirmBrandLock runId proposed confirmedAt)
      (repository.confirmBrandLock runId proposed confirmedAt) := by
  apply does_bind
  apply repository.does_nowOr (onlyWrites_refl _)
  intro confirmationTime
  apply repository.does_transaction (onlyWrites_refl _)
  intro world record db' _ hcommit
  exact ⟨.inr ⟨_, _, hcommit⟩, trivial⟩

theorem saveDraft_writes (runId : UUID) (brief : CreativeBrief) (adCopy : AdCopy)
    (factReferences ruleIds : List String) (generatedAt : Option Datetime) :
    OnlyWrites assumed (.saveDraft runId brief adCopy factReferences ruleIds generatedAt)
      (repository.saveDraft runId brief adCopy factReferences ruleIds generatedAt) := by
  apply does_bind
  apply repository.does_nowOr (onlyWrites_refl _)
  intro generationTime
  apply repository.does_transaction (onlyWrites_refl _)
  intro world record db' _ hcommit
  exact ⟨.inr ⟨_, _, hcommit⟩, trivial⟩

theorem saveComposition_writes (runId : UUID) (composition : CompositionGenerated) :
    OnlyWrites assumed (.saveComposition runId composition)
      (repository.saveComposition runId composition) := by
  apply does_bind
  apply does_ofExcept
  intro _ _
  apply repository.does_transaction (onlyWrites_refl _)
  intro world saved db' _ hcommit
  exact ⟨.inr ⟨_, hcommit⟩, trivial⟩

theorem saveCritique_writes (runId : UUID) (report : CritiqueReport) :
    OnlyWrites assumed (.saveCritique runId report) (repository.saveCritique runId report) := by
  apply repository.does_transaction (onlyWrites_refl _)
  intro world record db' _ hcommit
  exact ⟨.inr ⟨_, hcommit⟩, trivial⟩

theorem claimFeedbackOperation_writes (runId : UUID) (keyDigest fingerprint : String)
    (requestedChanges : List RevisionChange) (feedbackDigest : String) (claimedAt : Datetime) :
    OnlyWrites assumed
      (.claimFeedbackOperation runId keyDigest fingerprint requestedChanges feedbackDigest
        claimedAt)
      (repository.claimFeedbackOperation runId keyDigest fingerprint requestedChanges
        feedbackDigest claimedAt) := by
  apply repository.does_transaction (onlyWrites_refl _)
  intro world record db' _ hcommit
  exact ⟨.inr ⟨_, hcommit⟩, trivial⟩

theorem failRevisionOperation_writes (runId : UUID) (operationId : Nat)
    (condition : RetryCondition) (action : RetryAction) (failedAt : Datetime) :
    OnlyWrites assumed (.failRevisionOperation runId operationId condition action failedAt)
      (repository.failRevisionOperation runId operationId condition action failedAt) := by
  apply repository.does_transaction (onlyWrites_refl _)
  intro world record db' _ hcommit
  exact ⟨.inr ⟨_, hcommit⟩, trivial⟩

theorem claimRetryOperation_writes (runId : UUID) (keyDigest fingerprint : String)
    (claimedAt : Datetime) :
    OnlyWrites assumed (.claimRetryOperation runId keyDigest fingerprint claimedAt)
      (repository.claimRetryOperation runId keyDigest fingerprint claimedAt) := by
  apply repository.does_transaction (onlyWrites_refl _)
  intro world record db' _ hcommit
  exact ⟨.inr ⟨_, hcommit⟩, trivial⟩

theorem completeRevision_writes (runId : UUID) (operationId : Nat) (revision : RevisionRecord)
    (publicResponse : RevisionCompleted) :
    OnlyWrites assumed (.completeRevision runId operationId revision publicResponse)
      (repository.completeRevision runId operationId revision publicResponse) := by
  apply does_bind
  apply repository.does_transaction (onlyWrites_refl _)
  intro world done db' _ hcommit
  refine ⟨.inr hcommit, ?_⟩
  apply does_bind
  apply repository.does_query (onlyWrites_refl _)
  intro _ stored _ _
  apply does_ofExcept
  intro _ _
  exact trivial

theorem incrementTechnicalAttempt_writes (runId : UUID) :
    OnlyWrites assumed (.incrementTechnicalAttempt runId)
      (repository.incrementTechnicalAttempt runId) := by
  apply does_bind
  apply repository.does_transaction (onlyWrites_refl _)
  intro world done db' _ hcommit
  refine ⟨.inr hcommit, ?_⟩
  apply repository.does_query (onlyWrites_refl _)
  intro _ run _ _
  exact trivial

/-- Every call does so. -/
theorem perform_writes (assumed : Database → Prop) (call : Call) :
    OnlyWrites assumed call (repository.perform call) := by
  cases call with
  | create => exact (repository.create_writes _ _).discard
  | updateStatus => exact (repository.updateStatus_writes _ _).discard
  | recordFailure => exact (repository.recordFailure_writes _ _ _).discard
  | claimAnalysis => exact (repository.claimAnalysis_writes _).discard
  | completeAnalysis => exact (repository.completeAnalysis_writes _ _ _).discard
  | confirmBrandLock => exact (repository.confirmBrandLock_writes _ _ _).discard
  | saveDraft => exact (repository.saveDraft_writes _ _ _ _ _ _).discard
  | saveComposition => exact (repository.saveComposition_writes _ _).discard
  | saveCritique => exact (repository.saveCritique_writes _ _).discard
  | claimFeedbackOperation => exact (repository.claimFeedbackOperation_writes _ _ _ _ _ _).discard
  | failRevisionOperation => exact (repository.failRevisionOperation_writes _ _ _ _ _).discard
  | claimRetryOperation => exact (repository.claimRetryOperation_writes _ _ _ _).discard
  | completeRevision => exact (repository.completeRevision_writes _ _ _ _).discard
  | incrementTechnicalAttempt => exact (repository.incrementTechnicalAttempt_writes _).discard

end Writes

/-! ## Calls that are made alone -/

section Alone

variable {world last : World κ} {outcome : Except Exc α}

theorem database_of_solo {post : α → Prop} {program : Program (World κ) Exc α}
    (hkept : Does (fun _ => True) (fun db db' => db' = db) post program)
    (h : program.Solo world outcome last) : last.database = world.database := by
  apply Program.Meets.of_solo _ _ hkept h
  · intro world
    rfl
  · intro first second third hfirst hsecond
    exact hsecond.trans hfirst

theorem database_of_solo_outside {program : Program κ Exc α}
    (h : (outside program).Solo world outcome last) : last.database = world.database := by
  obtain ⟨rest, -, rfl⟩ := solo_outside_iff.mp h
  rfl

variable {repository}

/-- A transition that was made was allowed for the run as read. -/
theorem of_solo_withStatus {run : ProjectRun} {status : ProjectRunStatus}
    {updatedAt : Option Datetime} {outcome : Except Exc ProjectRun}
    (h : (run.withStatus repository.now status updatedAt).Solo world outcome last) :
    last.database = world.database ∧ ∀ updated, outcome = .ok updated →
      updated.id = run.id ∧ updated.status = status ∧ status ∈ allowedTransitions run.status := by
  have hkept : Does (fun _ => True) (fun db db' => db' = db)
      (fun updated : ProjectRun => updated.id = run.id ∧ updated.status = status ∧
        status ∈ allowedTransitions run.status)
      (run.withStatus repository.now status updatedAt) := by
    apply repository.does_withStatus
    · intro db
      rfl
    · intro updated hid hstatus hallowed
      exact ⟨hid, hstatus, hallowed⟩
  refine ⟨database_of_solo hkept h, ?_⟩
  intro updated heq
  subst heq
  exact Program.Meets.returned hkept h

theorem of_solo_query {read : Database → Except Exc α}
    (h : (repository.query read).Solo world outcome last) :
    last.database = world.database ∧ ∀ value, outcome = .ok value →
      read world.database = .ok value := by
  rcases Program.solo_bind_iff.mp h with ⟨_, opened, hopen, hquery⟩ | ⟨_, hopen, rfl⟩
  · rcases Program.solo_transact_iff.mp hquery with ⟨value, hread, rfl⟩ | ⟨_, _, rfl, rfl⟩
    · obtain ⟨answer, hread, heq⟩ := map_eq_ok.mp hread
      cases heq
      rw [← database_of_solo_outside hopen]
      refine ⟨rfl, ?_⟩
      intro value heq
      cases heq
      exact hread
    · refine ⟨database_of_solo_outside hopen, ?_⟩
      intro value heq
      cases heq
  · refine ⟨database_of_solo_outside hopen, ?_⟩
    intro value heq
    cases heq

theorem of_solo_transaction {body : Database → Except Exc (α × Database)}
    (h : (repository.transaction body).Solo world outcome last) :
    (∃ value, body world.database = .ok (value, last.database) ∧ outcome = .ok value) ∨
      last.database = world.database ∧ ∃ error, outcome = .error error := by
  rcases Program.solo_bind_iff.mp h with ⟨_, opened, hopen, hcommit⟩ | ⟨error, hopen, rfl⟩
  · rcases Program.solo_transact_iff.mp hcommit with ⟨value, hbody, rfl⟩ | ⟨error, _, rfl, rfl⟩
    · obtain ⟨⟨answer, db'⟩, hcommitted, heq⟩ := map_eq_ok.mp hbody
      cases heq
      rw [← database_of_solo_outside hopen]
      exact .inl ⟨_, hcommitted, rfl⟩
    · exact .inr ⟨database_of_solo_outside hopen, error, rfl⟩
  · exact .inr ⟨database_of_solo_outside hopen, error, rfl⟩

/-- A sequence that returns has run both parts to their end. -/
theorem of_solo_bind {β : Type} {program : Program (World κ) Exc α}
    {rest : α → Program (World κ) Exc β} {value : β}
    (h : (program >>= rest).Solo world (.ok value) last) :
    ∃ mid between, program.Solo world (.ok mid) between ∧
      (rest mid).Solo between (.ok value) last := by
  rcases Program.solo_bind_iff.mp h with ⟨mid, between, hfirst, hrest⟩ | ⟨_, _, hbad⟩
  · exact ⟨mid, between, hfirst, hrest⟩
  · cases hbad

theorem of_solo_discard {program : Program (World κ) Exc α}
    (h : (program >>= fun _ => .ret ()).Solo world (.ok ()) last) :
    ∃ value, program.Solo world (.ok value) last := by
  obtain ⟨value, between, hsolo, hdone⟩ := of_solo_bind h
  cases hdone
  exact ⟨value, hsolo⟩

/-- A transaction that returns has committed. -/
theorem of_solo_commit {body : Database → Except Exc (α × Database)} {value : α}
    (h : (repository.transaction body).Solo world (.ok value) last) :
    body world.database = .ok (value, last.database) := by
  rcases of_solo_transaction h with ⟨other, hbody, heq⟩ | ⟨-, error, heq⟩
  · cases heq
    exact hbody
  · cases heq

theorem database_of_solo_nowOr {given : Option Datetime} {time : Datetime}
    (h : (repository.nowOr given).Solo world (.ok time) last) :
    last.database = world.database := by
  cases given with
  | some given =>
      cases h
      rfl
  | none => exact database_of_solo_outside h

end Alone

end Repository

end CultureShift
