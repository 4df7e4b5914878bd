/-
# A second version

Feedback on a ready run that is served alone, with collaborators that answer and
a store that saves, makes the second version and completes the run.
-/

import CultureShift.Lifecycle.RevisionProgress

namespace CultureShift

open Serialization Relational Concurrent

variable {κ : Type}

/-! ## A revision served alone -/

/-- The collaborators answer for a revision of this evidence, and their answers
make up this version and this response. -/
structure RevisionService.Revises (service : RevisionService κ) (now : Datetime) (runId : UUID)
    (evidence : Accepted) (requestedChanges : List RevisionChange) (revised : RevisionArtifacts)
    (composition : CompositionGenerated) (report : CritiqueReport) (response : RevisionCompleted)
    (rest rest' : κ) : Prop where
  repository : service.repository = .quiet now
  artifactId : service.studio.uuid4 = pure composition.artifactId
  revise : service.revise evidence.request.direction evidence.draft requestedChanges = pure revised
  artifact : ∃ composed expiresAt stored, (∀ db, ∀ run : ProjectRun, run.id = runId →
      run.direction = evidence.request.direction →
      (service.studio.render run evidence.confirmation.brandLock revised.brief revised.adCopy).exec
        ⟨db, rest⟩ = some (.ok composed, ⟨db, rest⟩)) ∧
    now.nextDay? = some expiresAt ∧
    (service.studio.artifactStore.save composition.artifactId composed.pngBytes expiresAt).exec
      rest = some (.ok stored, rest') ∧
    describeArtifact runId composition.artifactId composed stored now = .ok composition
  review : service.review ⟨evidence.analysis, evidence.confirmation.brandLock,
    ⟨revised.brief, revised.adCopy, revised.factReferences, revised.ruleIds, now⟩, composition,
    []⟩ = pure report
  response : RevisionCompleted.validate runId (Database.reviewedStatus report)
    evidence.composition revised.brief revised.adCopy composition report 0 report.reviewedAt =
      some response

namespace RevisionService

variable {service : RevisionService κ} {now : Datetime} {runId : UUID} {evidence : Accepted}
  {requestedChanges : List RevisionChange} {revised : RevisionArtifacts}
  {composition : CompositionGenerated} {report : CritiqueReport} {response : RevisionCompleted}
  {rest rest' : κ} {db : Database}

theorem keyDigest_eq_ok {key digest : String} :
    service.keyDigest key = .ok digest ↔
      isIdempotencyKey key = true ∧ digest = service.digest key := by
  unfold keyDigest
  rw [bind_eq_ok]
  constructor
  · rintro ⟨_, hkey, hdigest⟩
    exact ⟨require_eq_ok.mp hkey, (Except.ok.inj hdigest).symm⟩
  · rintro ⟨hkey, rfl⟩
    exact ⟨(), require_of _ hkey, rfl⟩

/-- The digest that a second version is stored with. -/
def storedDigest (service : RevisionService κ) (operation : OperationRecord) : String :=
  match operation.feedbackDigest with
  | some digest => if digest = "" then service.digest "" else digest
  | none => service.digest ""

/-- The operation of the feedback is completed with the response. -/
theorem exec_execute_completes
    (h : service.Revises now runId evidence requestedChanges revised composition report response
      rest rest') {operation : OperationRecord} {feedback : Feedback}
    (hclaimed : Database.ClaimedAs operation runId feedback.toClaim feedback)
    (hchanges : feedback.requestedChanges = requestedChanges)
    (hat : db.At now runId (.revising evidence feedback)) :
    ∃ db' revision, (service.execute operation false).exec ⟨db, rest⟩ =
        some (.ok response, ⟨db', rest'⟩) ∧
      db'.Shows runId (.revised evidence feedback none revision) ∧
      revision.response = response ∧ revision.composition = composition ∧
      revision.critique = report := by
  obtain ⟨composed, expiresAt, stored, hrender, hexpires, hsave, hdescribe⟩ := h.artifact
  obtain ⟨run, hget, hcodes, -⟩ := hat.get
  have hreads := hat.shows.get hget
  have hrunId := hclaimed.runId
  have hid : run.id = runId := hreads.id
  have hdirection : run.direction = evidence.request.direction := hreads.direction
  have hattempts : run.technicalAttemptCount = 0 := hreads.technicalAttemptCount
  have hrevise : service.revise run.direction evidence.draft operation.requestedChanges =
      pure revised := by
    rw [hdirection, hclaimed.requestedChanges, hchanges]
    exact h.revise
  have hrendered : (service.renderRevision operation composition.artifactId).exec ⟨db, rest⟩ =
      some (.ok ⟨run, evidence.analysis, evidence.confirmation, evidence.composition, revised,
        composed, stored, now⟩, ⟨db, rest'⟩) := by
    rw [← hrunId] at hat hget
    rw [exec_renderRevision h.repository hat rfl hget]
    refine (Program.exec_bind (exec_outside_pure hrevise _)).trans ?_
    refine (Program.exec_bind (exec_outside_pure rfl _)).trans ?_
    refine (Program.exec_bind (hrender db run hid hdirection)).trans ?_
    exact Program.exec_bind (Studio.exec_saveArtifact hexpires hsave)
  let record : RevisionRecord :=
    ⟨runId, 2, operation.requestedChanges, service.storedDigest operation,
      ⟨revised.brief, revised.adCopy, revised.factReferences, revised.ruleIds, now⟩, composition,
      report, report.reviewedAt⟩
  obtain ⟨db', hcommit⟩ := hat.shows.completeRevision_commits rfl
    (congrArg some hclaimed.id.symm) record response
  have hshows' : db'.Shows runId (.revised evidence feedback none (record.revised response)) := by
    rcases hat.shows.completeRevision hcommit with
      ⟨evidence', feedback', hstage, -, hadvances⟩ | ⟨_, _, _, _, hstage, -⟩
    · cases hstage
      exact hadvances.shows
    · cases hstage
  have hread : db'.getRevision runId = .ok (some ((record.revised response).record runId)) :=
    hshows'.getRevision
  have hcompleted : (service.repository.completeRevision runId operation.id record response).exec
      ⟨db, rest'⟩ = some (.ok ((record.revised response).record runId), ⟨db', rest'⟩) := by
    rw [h.repository]
    refine (Program.exec_bind (exec_transaction hcommit)).trans ?_
    refine (Program.exec_bind (exec_query hread)).trans ?_
    rfl
  have hfinished : (service.finishRevision operation composition.artifactId
      ⟨run, evidence.analysis, evidence.confirmation, evidence.composition, revised, composed,
        stored, now⟩).exec ⟨db, rest'⟩ = some (.ok response, ⟨db', rest'⟩) := by
    unfold finishRevision
    rw [← hid] at hdescribe
    refine (Program.exec_bind (exec_ofExcept hdescribe _)).trans ?_
    have hreview := h.review
    rw [← hcodes] at hreview
    refine (Program.exec_bind (exec_outside_pure hreview _)).trans ?_
    rw [h.repository, hid]
    refine (Program.exec_bind (exec_query hget)).trans ?_
    have hresponse := h.response
    rw [← hattempts] at hresponse
    refine (Program.exec_bind (exec_ofExcept (validated_of_some hresponse) _)).trans ?_
    rw [h.repository] at hcompleted
    exact Program.exec_bind hcompleted
  refine ⟨db', record.revised response, ?_, hshows', rfl, rfl, rfl⟩
  refine (Program.exec_bind (exec_outside_pure h.artifactId _)).trans ?_
  refine (Program.exec_bind (Program.exec_attempt hrendered)).trans ?_
  exact Program.exec_tryCatch hfinished

/-- What feedback claimed at this time leaves in its run. -/
def claimed (service : RevisionService κ) (request : FeedbackRequest) (key : String) (id : Nat)
    (now : Datetime) : Feedback :=
  ⟨⟨id, service.digest key, service.fingerprint request, now⟩, request.requestedChanges,
    service.digest request.feedback.text⟩

/-- Feedback on a ready run is claimed and carried out. -/
theorem exec_submitFeedback_completes {request : FeedbackRequest} {key : String}
    (h : service.Revises now request.runId evidence request.requestedChanges revised composition
      report response rest rest') (hkey : isIdempotencyKey key = true)
    (hat : db.At now request.runId (.ready evidence)) :
    ∃ db' id revision, (service.submitFeedback request key).exec ⟨db, rest⟩ =
        some (.ok response, ⟨db', rest'⟩) ∧
      db'.Shows request.runId
        (.revised evidence (service.claimed request key id now) none revision) ∧
      revision.response = response ∧ revision.composition = composition ∧
      revision.critique = report := by
  obtain ⟨operationId, record, db₁, hclaim, hclaimed, -, hat₁, -⟩ :=
    hat.claimFeedbackOperation (service.digest key) (service.fingerprint request)
      (service.digest request.feedback.text) request.requestedChanges
  obtain ⟨db', revision, hexec, hshows, hrevision⟩ :=
    exec_execute_completes h hclaimed rfl hat₁
  refine ⟨db', operationId, revision, ?_, hshows, hrevision⟩
  exact (exec_submitFeedback h.repository hkey hclaim hclaimed.state).trans hexec

/-- A claim that is replayed is answered with the stored response. -/
theorem exec_submitFeedback_replayed (hrepository : service.repository = .quiet now)
    {request : FeedbackRequest} {key : String} (hkey : isIdempotencyKey key = true)
    {record : OperationRecord}
    (hclaim : db.claimFeedbackOperation request.runId (service.digest key)
      (service.fingerprint request) request.requestedChanges
      (service.digest request.feedback.text) now = .ok (record, db))
    (hreplayed : replayed record = some response) :
    (service.submitFeedback request key).exec ⟨db, rest⟩ = some (.ok response, ⟨db, rest⟩) := by
  have hdigest : service.keyDigest key = .ok (service.digest key) :=
    RevisionService.keyDigest_eq_ok.mpr ⟨hkey, rfl⟩
  refine (Program.exec_bind (exec_ofExcept hdigest _)).trans ?_
  rw [hrepository]
  refine (Program.exec_bind (exec_outside_pure rfl _)).trans ?_
  refine (Program.exec_bind (Program.exec_tryCatch (exec_transaction hclaim))).trans ?_
  rw [hreplayed]
  rfl

end RevisionService

/-! ## The demo -/

namespace Demo

/-- The demo before the feedback. -/
def accepted : Accepted := ⟨⟨evidence [] noWarnings, passed⟩, by decide⟩

/-- The draft with the shorter headline. -/
def shortened : RevisionArtifacts where
  brief := (draft [] noWarnings).brief
  adCopy := { (draft [] noWarnings).adCopy with headline := (revisionFixture .chinaToUk).headline }
  factReferences := (draft [] noWarnings).factReferences
  ruleIds := (draft [] noWarnings).ruleIds

def revisedRequest : CriticRequest :=
  ⟨analysis [] noWarnings, lock,
    ⟨shortened.brief, shortened.adCopy, shortened.factReferences, shortened.ruleIds, now⟩,
    composition revisedArtifactId, []⟩

theorem review_revisedRequest :
    Critic.review id (pure now) revisedRequest = (pure passed : Program κ Exc CritiqueReport) := by
  have hlock : Critic.BrandLockPreserved revisedRequest :=
    ⟨rfl, rfl, rfl, rfl, uiId, List.mem_singleton_self _, rfl⟩
  have hfacts : Critic.FactsSupported revisedRequest :=
    ⟨(evidence [] noWarnings).facts_verified.1, fun _ h => h⟩
  have hreadable : ¬Critic.Unreadable revisedRequest.draft.adCopy := by
    simp only [Critic.Unreadable, not_or, not_lt]
    exact ⟨(length_ofList (by decide)).2, (length_ofList (by decide)).2,
      (length_ofList (by decide)).2⟩
  have hwarnings : Critic.warnings revisedRequest = [] := by
    simp [Critic.warnings, revisedRequest, analysis]
  have hissues : Critic.issues id revisedRequest = [] := by
    rw [Critic.issues_eq hlock hfacts hreadable rfl, hwarnings, if_neg (by simp)]
  refine Critic.review_eq (?_ : _ = some []) ?_
  · rw [hwarnings]
    rfl
  · rw [hissues, decide_eq_true hlock]
    rfl

theorem passed_status : Database.reviewedStatus passed = .ready ∨
    Database.reviewedStatus passed = .failedFinal :=
  .inl rfl

/-- The response to the feedback of the demo. -/
def revisedCompleted : RevisionCompleted where
  runId := runId
  status := Database.reviewedStatus passed
  previousComposition := composition artifactId
  brief := shortened.brief
  adCopy := shortened.adCopy
  composition := composition revisedArtifactId
  critique := passed
  technicalAttemptCount := 0
  revisedAt := now
  status_valid := passed_status
  identity := ⟨⟨rfl, rfl⟩, by decide, ⟨rfl, rfl⟩, by decide⟩

theorem revises {store : CompositionArtifactStore κ} {rest rest' : κ}
    (hkeeps : Keeps store revisedArtifactId rest rest') :
    (revisionService fixtureEngine store).Revises now feedback.runId accepted
      feedback.requestedChanges shortened (composition revisedArtifactId) passed revisedCompleted
      rest rest' where
  repository := rfl
  artifactId := rfl
  revise := rfl
  artifact := by
    obtain ⟨stored, hstored, hsave⟩ := hkeeps
    refine ⟨composedAd, tomorrow, stored, fun db run _ hdirection => ?_, nextDay?_now, hsave,
      describeArtifact_stored _ hstored⟩
    exact exec_render_studio revisedArtifactId [] noWarnings _ db rest hdirection
  review := review_revisedRequest
  response := RevisionCompleted.validate_self revisedCompleted

/-- The feedback of the demo is served and its run is revised. -/
theorem exists_revised (later : Nat → Request)
    (hlater : later 0 = .feedbackCall feedback feedbackKey) :
    ∃ config, Reaches (workflow fixtureApp () (requests later)) config ∧
      (∃ id revision, config.state.database.Shows feedback.runId
        (.revised accepted (fixtureApp.revisions.claimed feedback feedbackKey id now) none
          revision) ∧
        revision.response = revisedCompleted ∧ revision.critique = passed) ∧
      config.threads 6 = .ret (.revised revisedCompleted) ∧
      ∀ n, config.threads (n + 7) = fixtureApp.handle (later (n + 1)) := by
  obtain ⟨⟨⟨db, ⟨⟩⟩, threads⟩, hready, -, hat, hwaiting⟩ :=
    exists_ready fixtureApp.revisions (keeps_answeringStore _ ()) later
  obtain ⟨db', id, revision, hexec, hshows, hresponse, -, hcritique⟩ :=
    RevisionService.exec_submitFeedback_completes (revises (keeps_answeringStore _ ()))
      isIdempotencyKey_feedbackKey
      (hat : db.At now feedback.runId (.ready accepted))
  have hcalls : ∀ m, 6 ≤ m → threads m = fixtureApp.handle (requests later m) := by
    intro m hm
    obtain ⟨n, rfl⟩ : ∃ n, m = n + 6 := ⟨m - 6, by omega⟩
    exact hwaiting n
  have hhandle : fixtureApp.handle (requests later 6) =
      fixtureApp.revisions.submitFeedback feedback feedbackKey >>=
        fun response => pure (.revised response) := by
    change fixtureApp.handle (later 0) = _
    rw [hlater]
    rfl
  obtain ⟨config, hreaches, hstate, hwaiting', hserved⟩ :=
    serve_next 6 Response.revised hready hcalls hhandle hexec
  refine ⟨config, hreaches, ⟨id, revision, ?_, hresponse, hcritique⟩, hserved, fun n => ?_⟩
  · rw [hstate]
    exact hshows
  · exact hwaiting' (n + 7) (by omega)

end Demo

end CultureShift
