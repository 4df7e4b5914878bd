/-
# The fixture demo, served

The demo with the Critic of the source and with collaborators that answer at
once. The artifact store and the revision service are left open, and so are the
warnings of the vision provider.
-/

import CultureShift.ConfirmedDraft
import CultureShift.Lifecycle.Progress

namespace CultureShift

open Serialization Relational Concurrent

variable {κ : Type}

/-! ## Reviews that can be computed -/

theorem Critic.review_eq {casefold : String → String} {now : Datetime} {request : CriticRequest}
    {codes : List WarningCode} {report : CritiqueReport}
    (hcodes : (warnings request).mapM (PatternText.validate : String → Option WarningCode) =
      some codes)
    (hreport : CritiqueReport.validate (statusOf (issues casefold request))
      (issues casefold request) codes (decide (BrandLockPreserved request))
      ((issues casefold request).any (·.requiresHumanReview)) now = some report) :
    review casefold (pure now) request = (pure report : Program κ Exc CritiqueReport) := by
  simp only [review, Program.pure_eq_ret, Program.bind_ret, hcodes, hreport, validated_some,
    Program.ofExcept_ok]

/-- With the Brand Lock kept, verified facts, readable copy and no hypotheses,
only the warnings can raise an issue. -/
theorem Critic.issues_eq {casefold : String → String} {request : CriticRequest}
    (hlock : BrandLockPreserved request) (hfacts : FactsSupported request)
    (hreadable : ¬Unreadable request.draft.adCopy) (hnone : request.analysis.hypotheses = []) :
    issues casefold request =
      if ∃ code ∈ warnings request, code ∈ safetyRefusals then [safetyRefusal] else [] := by
  rw [issues, if_pos hlock, if_pos hfacts, if_neg hreadable, hnone]
  simp

namespace Demo

def runId : UUID := ⟨0xb1111111111141118111111111111111, by decide⟩

def artifactId : UUID := ⟨0xb2222222222242228222222222222222, by decide⟩

def httpRequest : HttpRequest := ⟨"Bearer demo-capability", "demo-idempotency-key", []⟩

/-! ## Version 1 -/

def layer (kind : CompositionLayerKind) (sourceAssetId : Option UUID)
    (h : (kind = .logo ∨ kind = .productUi) ↔ sourceAssetId.isSome) : CompositionLayer :=
  ⟨kind, sourceAssetId, digest, 0, 0, 1600, 900, 1600, 900, h, by decide⟩

def layers : List CompositionLayer :=
  [layer .background none (by decide), layer .productUi (some uiId) (by decide),
    layer .logo (some logoId) (by decide), layer .headline none (by decide),
    layer .body none (by decide), layer .cta none (by decide),
    layer .disclosure none (by decide)]

def composedAd : ComposedAd := ⟨artifactBytes, digest.text, layers⟩

def composition (artifactId : UUID) : CompositionGenerated :=
  ⟨runId, digest, artifactId, layers, now, .inl rfl⟩

theorem describeArtifact_stored (artifactId : UUID) {stored : StoredCompositionArtifact}
    (hstored : stored.sha256 = digest.text) :
    describeArtifact runId artifactId composedAd stored now = .ok (composition artifactId) := by
  refine bind_eq_ok.mpr ⟨(), require_of _ hstored, ?_⟩
  refine bind_eq_ok.mpr ⟨digest, ?_, ?_⟩
  · exact congrArg validated (PatternText.validate_text digest)
  · exact congrArg validated (dif_pos (.inl rfl))

section Version

variable (warnings : List WarningCode) (h : warnings.length ≤ 32)

def draft : DraftRecord :=
  let artifacts := fixtureDraft (analysis warnings h) lock .chinaToUk
  ⟨artifacts.brief, artifacts.adCopy, artifacts.factReferences, artifacts.ruleIds, now⟩

/-- The evidence of version 1. -/
def evidence : Composed where
  request := runCreate
  analysis := analysis warnings h
  repairAttempted := false
  matches_request := ⟨rfl, rfl⟩
  confirmation := ⟨lock, now⟩
  confirms := ⟨⟨rfl, rfl, rfl, rfl, rfl, rfl⟩, ⟨rfl, fun _ h => h, fun _ h => h⟩, fun _ h => h⟩
  draft := draft warnings h
  lock_kept := rfl
  facts_verified := ⟨by simp [draft, fixtureDraft, fixtureCopy, draftBrief, lock, brandLock,
    BrandLock.facts], fun _ h => h⟩
  composition := composition artifactId
  sources_locked := ⟨rfl, uiId, List.mem_singleton_self _, rfl⟩

def criticRequest : CriticRequest :=
  ⟨analysis warnings h, lock, draft warnings h, composition artifactId, []⟩

theorem brandLockPreserved : Critic.BrandLockPreserved (criticRequest warnings h) :=
  ⟨rfl, rfl, rfl, rfl, uiId, List.mem_singleton_self _, rfl⟩

theorem factsSupported : Critic.FactsSupported (criticRequest warnings h) :=
  ⟨(evidence warnings h).facts_verified.1, fun _ h => h⟩

theorem readable : ¬Critic.Unreadable (criticRequest warnings h).draft.adCopy := by
  simp only [Critic.Unreadable, not_or, not_lt]
  exact ⟨(length_ofList (by decide)).2, (length_ofList (by decide)).2,
    (length_ofList (by decide)).2⟩

theorem warnings_criticRequest :
    Critic.warnings (criticRequest warnings h) =
      (warnings.map fun code => code.text).eraseDups := by
  simp [Critic.warnings, criticRequest, analysis]

theorem issues_criticRequest :
    Critic.issues id (criticRequest warnings h) =
      if ∃ code ∈ Critic.warnings (criticRequest warnings h), code ∈ Critic.safetyRefusals then
        [Critic.safetyRefusal]
      else [] := by
  rw [Critic.issues_eq (brandLockPreserved warnings h) (factsSupported warnings h)
    (readable warnings h) rfl]

end Version

/-- The report of a version without warnings. -/
def passed : CritiqueReport :=
  ⟨.pass, [], [], true, false, now, by decide, by decide⟩

def prohibitedContent : WarningCode :=
  ⟨"prohibited_content", strip_ofList (by decide), accepts_ofList (by decide)⟩

/-- The report of a version whose source ad was found to be prohibited. -/
def rejected : CritiqueReport where
  status := .reject
  issues := [Critic.safetyRefusal]
  warnings := [prohibitedContent]
  brandLockPreserved := true
  requiresHumanReview := false
  reviewedAt := now
  lengths_valid := by simp
  status_consistent := ⟨.inl rfl, ⟨fun _ => rfl, fun _ => ⟨_, List.mem_singleton_self _, rfl⟩⟩,
    nofun, nofun⟩

theorem review_passed :
    Critic.review id (pure now) (criticRequest [] noWarnings) =
      (pure passed : Program κ Exc CritiqueReport) := by
  have hissues : Critic.issues id (criticRequest [] noWarnings) = [] := by
    simp [issues_criticRequest, warnings_criticRequest]
  refine Critic.review_eq (?_ : _ = some []) ?_
  · rw [warnings_criticRequest]
    rfl
  · rw [hissues, decide_eq_true (brandLockPreserved [] noWarnings)]
    rfl

theorem review_rejected :
    Critic.review id (pure now) (criticRequest [prohibitedContent] (by simp)) =
      (pure rejected : Program κ Exc CritiqueReport) := by
  have hwarnings : ([prohibitedContent].map fun code => code.text).eraseDups =
      [prohibitedContent.text] := rfl
  have hissues : Critic.issues id (criticRequest [prohibitedContent] (by simp)) =
      [Critic.safetyRefusal] := by
    rw [issues_criticRequest, warnings_criticRequest, hwarnings]
    exact if_pos ⟨_, List.mem_singleton_self _, List.mem_cons_self⟩
  refine Critic.review_eq (?_ : _ = some [prohibitedContent]) ?_
  · rw [warnings_criticRequest, hwarnings]
    simp
  · rw [hissues, decide_eq_true (brandLockPreserved [prohibitedContent] (by simp))]
    exact dif_pos ⟨rejected.lengths_valid, rejected.status_consistent⟩

/-! ## The application -/

def asset (assetId : UUID) : RegisteredFixtureAsset :=
  ⟨assetId, digest.text, "fixture:demo", content⟩

/-- A studio whose artifacts get this identifier. -/
def studio (artifactId : UUID) (store : CompositionArtifactStore κ) : Studio κ where
  uuid4 := pure artifactId
  generateBackground _ := pure ⟨digest.text, "fixture:demo", content⟩
  resolve assetId := pure (asset assetId)
  compose _ := pure composedAd
  artifactStore := store

def tokens : CapabilityTokenService κ where
  issue _ _ := pure "demo-capability-token"
  verify _ _ := pure ⟨runId.text⟩

def app (warnings : List WarningCode) (h : warnings.length ≤ 32)
    (store : CompositionArtifactStore κ) (revisions : RevisionService κ) : App κ where
  runs := .quiet now
  tokens := tokens
  assets := { load := fun _ => pure ⟨sourceAsset, content⟩ }
  provider := provider (visionResult warnings h)
  copywriter := fixtureCopywriter
  compositions := ⟨.quiet now, studio artifactId store⟩
  exports := ⟨.quiet now, store, fun _ => pure ⟨"PNG", 1600, 900⟩⟩
  review := Critic.review id (pure now)
  revisions := revisions
  uuid4 := pure runId
  pipelineNow := pure now

theorem requireCapability_demo (warnings : List WarningCode) (h : warnings.length ≤ 32)
    (store : CompositionArtifactStore κ) (revisions : RevisionService κ) (required : Capability) :
    (app warnings h store revisions).requireCapability required runId httpRequest = .ret () := by
  have htoken : bearerToken httpRequest.authorization = some "demo-capability" := by
    decide
  unfold App.requireCapability
  rw [htoken]
  exact (if_pos rfl : (if runId.text = runId.text then .ret () else
    App.httpError 403 "capability_subject_mismatch") = (.ret () : Program (World κ) Exc Unit))

theorem authorised (warnings : List WarningCode) (h : warnings.length ≤ 32)
    (store : CompositionArtifactStore κ) (revisions : RevisionService κ) (required : Capability)
    (rest : κ) :
    (app warnings h store revisions).Authorised required runId httpRequest rest := by
  intro db
  rw [requireCapability_demo]
  rfl

theorem exists_runCreated : ∃ token response,
    (tokens : CapabilityTokenService κ).issue runId.text
      [.readProjectRun, .analyzeProjectRun, .updateProjectRun] = pure token ∧
    RunCreated.validate runId .pending token now = some response := by
  have hstrip : strip "demo-capability-token" = "demo-capability-token" :=
    strip_ofList (by decide)
  refine ⟨"demo-capability-token", ⟨runId, .pending, strip "demo-capability-token", now, ?_⟩, rfl,
    dif_pos ?_⟩ <;> rw [hstrip] <;> decide

theorem exists_draftGenerated (warnings : List WarningCode) (h : warnings.length ≤ 32) :
    ∃ response, DraftGenerated.validate runId (draft warnings h).brief (draft warnings h).adCopy
      (draft warnings h).ruleIds now = some response := by
  have hstrip : (draft warnings h).ruleIds.map strip = ["ZEU-S1", "ZEU-S3"] :=
    congrArg₂ (fun first second => [first, second]) (strip_ofList (by decide))
      (strip_ofList (by decide))
  refine ⟨_, dif_pos ?_⟩
  rw [hstrip]
  exact ⟨⟨rfl, rfl⟩, rfl, rfl⟩

/-- A store keeps the artifact of a version. -/
def Keeps (store : CompositionArtifactStore κ) (artifactId : UUID) (rest rest' : κ) : Prop :=
  ∃ stored : StoredCompositionArtifact, stored.sha256 = digest.text ∧
    (store.save artifactId artifactBytes tomorrow).exec rest = some (.ok stored, rest')

variable {store : CompositionArtifactStore κ} {revisions : RevisionService κ} {rest rest' : κ}

/-- The studio renders whatever is asked of it. -/
theorem exec_render_studio (artifactId : UUID) (warnings : List WarningCode)
    (h : warnings.length ≤ 32) (adCopy : AdCopy) (db : Database) (rest : κ) {run : ProjectRun}
    (hdirection : run.direction = .chinaToUk) :
    ((studio artifactId store).render run lock (draft warnings h).brief adCopy).exec ⟨db, rest⟩ =
      some (.ok composedAd, ⟨db, rest⟩) := by
  obtain ⟨background, hbackground⟩ : ∃ background, BackgroundRequest.validate run.direction
      (draft warnings h).brief.targetLocale (draft warnings h).brief.narrative
      (draft warnings h).brief.useScenario = some background := by
    rw [hdirection]
    exact ⟨_, dif_pos rfl⟩
  exact Studio.exec_render hbackground rfl rfl rfl rfl rfl

/-- Version 1 is composed as soon as its artifact is kept. -/
theorem exec_produce_studio {artifactId : UUID} (warnings : List WarningCode)
    (h : warnings.length ≤ 32)
    (db : Database) {run : ProjectRun} (hrun : run.id = runId)
    (hdirection : run.direction = .chinaToUk) (hkeeps : Keeps store artifactId rest rest') :
    (CompositionService.produce ⟨.quiet now, studio artifactId store⟩ run lock (draft warnings h)
      artifactId now).exec ⟨db, rest⟩ = some (.ok (composition artifactId), ⟨db, rest'⟩) := by
  obtain ⟨stored, hstored, hsave⟩ := hkeeps
  have hsummary : describeArtifact run.id artifactId composedAd stored now =
      .ok (composition artifactId) := by
    rw [hrun]
    exact describeArtifact_stored artifactId hstored
  exact App.exec_produce (exec_render_studio artifactId warnings h _ db rest hdirection)
    nextDay?_now hsave hsummary

theorem serves {warnings : List WarningCode} {h : warnings.length ≤ 32} {report : CritiqueReport}
    (hreview : Critic.review id (pure now) (criticRequest warnings h) =
      (pure report : Program κ Exc CritiqueReport))
    (hnow : report.reviewedAt = now) (hkeeps : Keeps store artifactId rest rest') :
    (app warnings h store revisions).Serves now runId httpRequest (evidence warnings h) report rest
      rest rest' where
  runs := rfl
  compositionRuns := rfl
  authorised := authorised warnings h store revisions
  bodyless := rfl
  identifier := rfl
  token := exists_runCreated
  asset := ⟨_, rfl, rfl,
    congrArg (fun program => program.exec rest) (analyze_visionRequest warnings h)⟩
  confirmedAt := rfl
  draft := by
    obtain ⟨response, hresponse⟩ := exists_draftGenerated warnings h
    exact ⟨response, generateDraftArtifacts_eq_fixtureDraft rfl rfl
      (fun _ hmem => absurd hmem List.not_mem_nil), hresponse⟩
  generatedAt := rfl
  artifactId := rfl
  composition := fun db run hrun hdirection =>
    exec_produce_studio warnings h db hrun hdirection hkeeps
  compositionRun := rfl
  review := hreview
  reviewedAt := hnow

/-! ## A reviewed run -/

/-- A store that answers and keeps nothing. -/
def answeringStore : CompositionArtifactStore κ where
  save artifactId content expiresAt := pure ⟨artifactId, digest.text, content.length, expiresAt⟩
  load _ := .raise (.compositionArtifactError "composition artifact unavailable")
  delete _ := pure true

theorem keeps_answeringStore (artifactId : UUID) (rest : κ) :
    Keeps answeringStore artifactId rest rest :=
  ⟨_, rfl, rfl⟩

def revisedArtifactId : UUID := ⟨0xb3333333333343338333333333333333, by decide⟩

/-- Revisions that are written by this engine and kept in this store. -/
def revisionService (revise : LocalizationDirection → DraftRecord → List RevisionChange →
    Program κ Exc RevisionArtifacts) (store : CompositionArtifactStore κ) : RevisionService κ where
  repository := .quiet now
  revise := revise
  studio := studio revisedArtifactId store
  review := Critic.review id (pure now)
  digest := id

def fixtureEngine : LocalizationDirection → DraftRecord → List RevisionChange →
    Program κ Exc RevisionArtifacts :=
  fun direction draft requestedChanges => .ofExcept (revise direction draft requestedChanges)

/-- The demo with the fixture engine, where no artifact is kept. -/
abbrev fixtureApp : App Unit :=
  app [] noWarnings answeringStore (revisionService fixtureEngine answeringStore)

/-- The requests of the demo, and whatever comes after them. -/
abbrev requests (later : Nat → Request) : Nat → Request :=
  firstVersion runId runCreate lock httpRequest later

theorem exists_ready (revisions : RevisionService κ) (hkeeps : Keeps store artifactId rest rest')
    (later : Nat → Request) :
    ∃ config, Reaches (workflow (app [] noWarnings store revisions) rest (requests later)) config ∧
      config.state.rest = rest' ∧
      config.state.database.At now runId ((evidence [] noWarnings).review passed) ∧
      ∀ n, config.threads (n + 6) = (app [] noWarnings store revisions).handle (later n) :=
  exists_reviewed (serves review_passed rfl hkeeps) later

theorem exists_rejected (revisions : RevisionService κ) (hkeeps : Keeps store artifactId rest rest')
    (later : Nat → Request) :
    ∃ config, Reaches (workflow (app [prohibitedContent] (by simp) store revisions) rest
        (requests later)) config ∧
      config.state.rest = rest' ∧
      config.state.database.At now runId
        ((evidence [prohibitedContent] (by simp)).review rejected) ∧
      ∀ n, config.threads (n + 6) =
        (app [prohibitedContent] (by simp) store revisions).handle (later n) :=
  exists_reviewed (serves review_rejected rfl hkeeps) later

end Demo

end CultureShift
