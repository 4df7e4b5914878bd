/-
# The revision service keeps the discipline

A request that has claimed an operation holds it until the operation is
completed or failed. While it holds it, every read answers with the evidence of
the reviewed run, so the second version is reviewed against the same Brand Lock
as the first.

What becomes of an operation whose request raises depends on the collaborators:
only some exceptions release it.
-/

import CultureShift.Lifecycle.Handlers

namespace CultureShift

open Serialization Relational Concurrent

variable {κ α : Type} {certifies : CriticRequest → CritiqueReport → Prop}

/-- The exceptions after which the service releases its operation. -/
def Exc.isReleased : Exc → Bool
  | .compositionError | .compositionArtifactError _ | .fixtureAssetError | .imageProviderError
  | .indexError | .validationError => true
  | _ => false

theorem isReleased_of_validated {validation : Option α} {failure : Exc}
    (h : validated validation = .error failure) : failure.isReleased := by
  cases validation with
  | none =>
      cases h
      rfl
  | some value => cases h

/-- Collaborators whose failures do not strand an operation: those that produce
a version raise only what releases it, and those that are needed to release it
do not raise. -/
structure RevisionService.WellBehaved (service : RevisionService κ) : Prop where
  connect : service.repository.connect.Raises fun _ => False
  clock : service.repository.utcNow.Raises fun _ => False
  calendar : service.repository.utcNow.Returns fun now => now.nextDay?.isSome
  uuid4 : service.studio.uuid4.Raises fun _ => False
  delete : ∀ artifactId, (service.studio.artifactStore.delete artifactId).Raises fun _ => False
  revise : ∀ direction draft changes,
    (service.revise direction draft changes).Raises (·.isReleased)
  generateBackground : ∀ request,
    (service.studio.generateBackground request).Raises (·.isReleased)
  resolve : ∀ assetId, (service.studio.resolve assetId).Raises (·.isReleased)
  compose : ∀ request, (service.studio.compose request).Raises (·.isReleased)
  save : ∀ artifactId content expiresAt,
    (service.studio.artifactStore.save artifactId content expiresAt).Raises (·.isReleased)
  review : ∀ request, (service.review request).Raises (·.isReleased)

/-- What a program raises when a condition holds, if the condition does not hold
it raises anything. -/
theorem raises_of_imp {condition : Prop} {program : Program κ Exc α} {raises : Exc → Prop}
    (h : condition → program.Raises raises) :
    program.Raises fun failure => condition → raises failure := by
  by_cases hcondition : condition
  · exact Program.meets_mono (h hcondition) (fun _ h => h) fun _ hfailure _ => hfailure
  · exact Program.meets_mono (Program.raises_true program) (fun _ h => h)
      fun _ _ habsurd => absurd habsurd hcondition

theorem returns_of_imp {condition : Prop} {program : Program κ Exc α} {returns : α → Prop}
    (h : condition → program.Returns returns) :
    program.Returns fun value => condition → returns value := by
  by_cases hcondition : condition
  · exact Program.meets_mono (h hcondition) (fun _ hvalue _ => hvalue) fun _ h => h
  · exact Program.meets_mono (Program.returns_true program)
      (fun _ _ habsurd => absurd habsurd hcondition) fun _ h => h

/-! ## While an operation is held -/

/-- The request holds an operation on a run with this evidence. -/
structure Tends (runId : UUID) (hold : Hold) (evidence : Reviewed) (tokens : Set Token)
    (world : World κ) : Prop where
  hold : Token.hold runId hold ∈ tokens
  reviewed : world.database.Has runId Stage.reviewed? evidence

section Held

variable {assumes : World κ → Prop} {post : α → Set Token → World κ → Prop}
  {error : Exc → Set Token → World κ → Prop} {tokens : Set Token} {world found : World κ}
  {runId : UUID} {hold : Hold} {evidence : Reviewed}

theorem Tends.of_rely (h : Tends runId hold evidence tokens world)
    (hrely : (requests certifies).Rely tokens world found) :
    Tends runId hold evidence tokens found :=
  ⟨h.hold, h.reviewed.of_rely Stage.persistent_reviewed? hrely⟩

/-- Where the run is found while it is held. -/
theorem Tends.shows (h : Tends runId hold evidence tokens world)
    (hrely : (requests certifies).Rely tokens world found) :
    ∃ stage, found.database.Shows runId stage ∧ stage.hold? = some hold ∧
      stage.reviewed? = some evidence ∧ stage.Certified certifies := by
  obtain ⟨stage, hshows, hheld, hcertified⟩ := shows_of_hold hrely h.hold
  exact ⟨stage, hshows, hheld, (h.of_rely hrely).reviewed.eq hshows, hcertified⟩

variable (service : RevisionService κ)

/-- A query whose answer the evidence determines. -/
theorem safe_tended_query {read : Database → Except Exc α} {value : α}
    (htends : Tends runId hold evidence tokens world)
    (hread : ∀ db stage, db.Shows runId stage → stage.reviewed? = some evidence →
      read db = .ok value)
    (hpost : ∀ later, Tends runId hold evidence tokens later → post value tokens later)
    (hconnect : ∀ failure later, (service.WellBehaved → False) →
      Tends runId hold evidence tokens later → error failure tokens later) :
    Discipline.Safe (requests certifies) assumes post error tokens world
      (service.repository.query read) := by
  refine safe_query (raises_of_imp RevisionService.WellBehaved.connect)
    (fun found answer later hfound _ hanswer hlater => ?_)
    (fun found failure later hfound _ hfailure _ => ?_)
    fun failure later hfault hlater => hconnect failure later hfault (htends.of_rely hlater)
  · obtain ⟨stage, hshows, -, hreviewed, -⟩ := htends.shows hfound
    obtain rfl := Except.ok.inj ((hread _ _ hshows hreviewed).symm.trans hanswer)
    exact hpost later (htends.of_rely (hfound.trans hlater))
  · obtain ⟨stage, hshows, -, hreviewed, -⟩ := htends.shows hfound
    rw [hread _ _ hshows hreviewed] at hfailure
    cases hfailure

/-- Reading the run itself may fail, for its own row may be invalid. -/
theorem safe_tended_get {post : ProjectRun → Set Token → World κ → Prop}
    (htends : Tends runId hold evidence tokens world)
    (hpost : ∀ run later, run.id = runId → Tends runId hold evidence tokens later →
      post run tokens later)
    (herror : ∀ failure later, (service.WellBehaved → failure.isReleased) →
      Tends runId hold evidence tokens later → error failure tokens later) :
    Discipline.Safe (requests certifies) assumes post error tokens world
      (service.repository.get runId) := by
  refine safe_query (raises_of_imp RevisionService.WellBehaved.connect)
    (fun found run later hfound _ hget hlater => ?_)
    (fun found failure later hfound _ hfailure hlater => ?_)
    fun failure later hfault hlater => herror failure later (fun hwell => (hfault hwell).elim)
      (htends.of_rely hlater)
  · obtain ⟨stage, hshows, -⟩ := htends.shows hfound
    exact hpost run later (hshows.get hget).id (htends.of_rely (hfound.trans hlater))
  · obtain ⟨stage, hshows, -⟩ := htends.shows hfound
    obtain rfl := hshows.get_error hfailure
    exact herror _ later (fun _ => rfl) (htends.of_rely (hfound.trans hlater))

/-- A collaborator that may raise what releases the operation. -/
theorem safe_tended_outside {program : Program κ Exc α}
    (hraises : service.WellBehaved → program.Raises (·.isReleased))
    (htends : Tends runId hold evidence tokens world)
    (hpost : ∀ value later, Tends runId hold evidence tokens later → post value tokens later)
    (herror : ∀ failure later, (service.WellBehaved → failure.isReleased) →
      Tends runId hold evidence tokens later → error failure tokens later) :
    Discipline.Safe (requests certifies) assumes post error tokens world (outside program) :=
  safe_outside (Program.returns_true _) (raises_of_imp hraises)
    (fun value later _ hlater => hpost value later (htends.of_rely hlater))
    fun failure later hfailure hlater => herror failure later hfailure (htends.of_rely hlater)

/-- What every query answers about a reviewed run. -/
theorem Database.Shows.reads_reviewed {db : Database} {stage : Stage}
    (h : db.Shows runId stage) (hreviewed : stage.reviewed? = some evidence) :
    db.getRequest runId = .ok evidence.request ∧
      db.getAnalysis runId = .ok (some evidence.analysis) ∧
      db.getConfirmedBrandLock runId = .ok (some evidence.confirmation) ∧
      db.getDraft runId = .ok (some evidence.draft) ∧
      db.getComposition runId = .ok (some evidence.composition) ∧
      db.getCritique runId = .ok (some ⟨evidence.critique, evidence.critique.reviewedAt⟩) := by
  obtain ⟨hrequest, hanalyzed, hconfirmed, hdrafted, hcomposed⟩ :=
    Stage.evidence_of_reviewed? hreviewed
  refine ⟨?_, ?_, ?_, ?_, ?_, ?_⟩
  · rw [h.getRequest, hrequest]
  · rw [h.getAnalysis, hanalyzed, Option.map_some]
  · rw [h.getConfirmedBrandLock, hconfirmed, Option.map_some]
  · rw [h.getDraft, hdrafted, Option.map_some]
  · rw [h.getComposition, hcomposed, Option.map_some]
  · rw [h.getCritique, hreviewed, Option.map_some]

/-- A failure that leaves the operation with the request. -/
def FailsHolding (service : RevisionService κ) (runId : UUID) (hold : Hold) (evidence : Reviewed)
    (tokens : Set Token) (failure : Exc) (tokens' : Set Token) (later : World κ) : Prop :=
  tokens' = tokens ∧ Tends runId hold evidence tokens' later ∧
    (service.WellBehaved → failure.isReleased)

theorem failsHolding {failure : Exc} (htends : Tends runId hold evidence tokens world)
    (hreleased : service.WellBehaved → failure.isReleased) :
    FailsHolding service runId hold evidence tokens failure tokens world :=
  ⟨rfl, htends, hreleased⟩

theorem failsHolding_of_fault {failure : Exc} (hfault : service.WellBehaved → False)
    (htends : Tends runId hold evidence tokens world) :
    FailsHolding service runId hold evidence tokens failure tokens world :=
  ⟨rfl, htends, fun hwell => (hfault hwell).elim⟩

theorem safe_tended_render {post : ComposedAd → Set Token → World κ → Prop} {run : ProjectRun}
    {lock : BrandLock} {brief : CreativeBrief} {adCopy : AdCopy}
    (htends : Tends runId hold evidence tokens world)
    (hpost : ∀ composed later, Tends runId hold evidence tokens later →
      post composed tokens later) :
    Discipline.Safe (requests certifies) assumes post
      (FailsHolding service runId hold evidence tokens) tokens world
      (service.studio.render run lock brief adCopy) := by
  refine Discipline.safe_bind (safe_ofExcept (fun request later _ hlater => ?_)
    fun failure later hfailure hlater => ?_)
  · refine Discipline.safe_bind (safe_tended_outside service
      (fun hwell => hwell.generateBackground request) (htends.of_rely hlater)
      (fun background _ htends => ?_)
      fun _ _ hreleased htends => failsHolding service htends hreleased)
    refine Discipline.safe_bind (safe_tended_outside service (fun hwell => hwell.resolve _) htends
      (fun logo _ htends => ?_) fun _ _ hreleased htends => failsHolding service htends hreleased)
    refine Discipline.safe_bind (safe_ofExcept (fun productUiId _ _ hlater => ?_)
      fun failure _ hfailure hlater => ?_)
    · refine Discipline.safe_bind (safe_tended_outside service (fun hwell => hwell.resolve _)
        (htends.of_rely hlater) (fun productUi _ htends => ?_)
        fun _ _ hreleased htends => failsHolding service htends hreleased)
      exact safe_tended_outside service (fun hwell => hwell.compose _) htends hpost
        fun _ _ hreleased htends => failsHolding service htends hreleased
    · refine failsHolding service (htends.of_rely hlater) fun _ => ?_
      cases hhead : lock.productUiAssetIds.head? with
      | some id => simp [hhead] at hfailure
      | none =>
          rw [hhead, orRaise_none] at hfailure
          cases hfailure
          rfl
  · exact failsHolding service (htends.of_rely hlater) fun _ => isReleased_of_validated hfailure

theorem safe_tended_saveArtifact
    {post : StoredCompositionArtifact → Set Token → World κ → Prop} {artifactId : UUID}
    {composed : ComposedAd} {now : Datetime}
    (hcalendar : service.WellBehaved → now.nextDay?.isSome)
    (htends : Tends runId hold evidence tokens world)
    (hpost : ∀ stored later, Tends runId hold evidence tokens later → post stored tokens later) :
    Discipline.Safe (requests certifies) assumes post
      (FailsHolding service runId hold evidence tokens) tokens world
      (service.studio.saveArtifact artifactId composed now) := by
  cases hnextDay : now.nextDay? with
  | none =>
      simp only [Studio.saveArtifact, hnextDay, orRaise_none, Program.ofExcept_error,
        Program.bind_raise]
      refine Discipline.safe_raise fun _ hlater =>
        failsHolding_of_fault service (fun hwell => ?_) (htends.of_rely hlater)
      simpa [hnextDay] using hcalendar hwell
  | some expiresAt =>
      simp only [Studio.saveArtifact, hnextDay, orRaise_some, Program.ofExcept_ok,
        Program.bind_ret]
      exact safe_tended_outside service (fun hwell => hwell.save _ _ _) htends hpost
        fun _ _ hreleased htends => failsHolding service htends hreleased

/-- Rendering a version leaves the operation held, and what it read is the
evidence of the run. -/
theorem safe_renderRevision {operation : OperationRecord} (artifactId : UUID)
    (hoperation : operation.runId = runId) (htends : Tends runId hold evidence tokens world) :
    Discipline.Safe (requests certifies) assumes
      (fun rendered tokens' later => tokens' = tokens ∧ Tends runId hold evidence tokens' later ∧
        rendered.run.id = runId ∧ rendered.analysis = evidence.analysis ∧
        rendered.confirmation = evidence.confirmation)
      (FailsHolding service runId hold evidence tokens) tokens world
      (service.renderRevision operation artifactId) := by
  subst hoperation
  have hconnect : ∀ failure later, (service.WellBehaved → False) →
      Tends operation.runId hold evidence tokens later →
      FailsHolding service operation.runId hold evidence tokens failure tokens later :=
    fun _ _ => failsHolding_of_fault service
  refine Discipline.safe_bind (safe_tended_get service htends (fun run _ hid htends => ?_)
    fun _ _ hreleased htends => failsHolding service htends hreleased)
  refine Discipline.safe_bind (safe_tended_query service htends
    (fun _ _ hshows hreviewed => (hshows.reads_reviewed hreviewed).1) (fun _ htends => ?_) hconnect)
  refine Discipline.safe_bind (safe_tended_query service htends
    (fun _ _ hshows hreviewed => (hshows.reads_reviewed hreviewed).2.1) (fun _ htends => ?_)
    hconnect)
  refine Discipline.safe_bind (safe_tended_query service htends
    (fun _ _ hshows hreviewed => (hshows.reads_reviewed hreviewed).2.2.1) (fun _ htends => ?_)
    hconnect)
  refine Discipline.safe_bind (safe_tended_query service htends
    (fun _ _ hshows hreviewed => (hshows.reads_reviewed hreviewed).2.2.2.1) (fun _ htends => ?_)
    hconnect)
  refine Discipline.safe_bind (safe_tended_query service htends
    (fun _ _ hshows hreviewed => (hshows.reads_reviewed hreviewed).2.2.2.2.1) (fun _ htends => ?_)
    hconnect)
  refine Discipline.safe_bind (safe_tended_query service htends
    (fun _ _ hshows hreviewed => (hshows.reads_reviewed hreviewed).2.2.2.2.2) (fun _ htends => ?_)
    hconnect)
  -- Nothing is missing, and the first version was accepted.
  refine Discipline.safe_of_found fun found hfound => ?_
  obtain ⟨stage, -, hheld, hreviewed, -⟩ := htends.shows hfound
  have haccepted : evidence.critique.status ≠ .reject := Stage.accepted_of_hold hheld hreviewed
  simp only [evidence.request.fixture_only, haccepted, ne_eq, not_false_eq_true, orRaise_some,
    require_of, Program.ofExcept_ok, Program.bind_ret]
  refine Discipline.safe_bind (safe_tended_outside service (fun hwell => hwell.revise _ _ _)
    (htends.of_rely hfound) (fun revised _ htends => ?_)
    fun _ _ hreleased htends => failsHolding service htends hreleased)
  refine Discipline.safe_bind (safe_outside
    (returns_of_imp fun hwell : service.WellBehaved => hwell.calendar)
    (raises_of_imp RevisionService.WellBehaved.clock) (fun now later hcalendar hlater => ?_)
    fun _ _ hfault hlater => failsHolding_of_fault service hfault (htends.of_rely hlater))
  refine Discipline.safe_bind (safe_tended_render service (htends.of_rely hlater)
    fun composed _ htends => ?_)
  refine Discipline.safe_bind (safe_tended_saveArtifact service hcalendar htends
    fun stored _ htends => Discipline.safe_ret fun _ hlater => ?_)
  exact ⟨rfl, htends.of_rely hlater, hid, rfl, rfl⟩

end Held

/-! ## Ending the operation -/

theorem isReleased_of_describeArtifact {runId artifactId : UUID} {composed : ComposedAd}
    {stored : StoredCompositionArtifact} {now : Datetime} {failure : Exc}
    (h : describeArtifact runId artifactId composed stored now = .error failure) :
    failure.isReleased := by
  unfold describeArtifact at h
  by_cases hdigest : stored.sha256 = composed.sha256
  · rw [require_of _ hdigest, ok_bind] at h
    cases hvalidated : validated (PatternText.validate composed.sha256) with
    | error failure' =>
        rw [hvalidated] at h
        cases h
        exact isReleased_of_validated hvalidated
    | ok sha256 =>
        rw [hvalidated, ok_bind] at h
        exact isReleased_of_validated h
  · rw [require, if_neg hdigest] at h
    cases h
    rfl

/-- The request has made no claim but this one. -/
def OnlyReceipt (runId : UUID) (hold : Hold) (tokens : Set Token) : Prop :=
  ∀ runId' hold', Token.receipt runId' hold' ∈ tokens → runId' = runId ∧ hold' = hold

/-- A step of the run brings no receipts but for what it takes. -/
theorem OnlyReceipt.after {runId : UUID} {hold : Hold} {tokens : Set Token} {db db' : Database}
    {stage stage' : Stage} (h : OnlyReceipt runId hold tokens) (hshows : db.Shows runId stage)
    (hadvances : Database.Advances runId db db' stage')
    (htaken : ∀ other ∈ stage'.taken, other ∈ stage.taken ∨ other = hold) :
    OnlyReceipt runId hold ((lifecycle certifies).after tokens db db') := by
  rintro runId' hold' ⟨⟨stage'', hshows'', hmem⟩, hmine | hfresh⟩
  · exact h runId' hold' hmine
  · by_cases hne : runId' = runId
    · subst hne
      obtain rfl := hadvances.shows.unique hshows''
      rcases htaken hold' hmem with hold | hnew
      · exact absurd ⟨stage, hshows, hold⟩ hfresh
      · exact ⟨rfl, hnew⟩
    · exact absurd ⟨stage'', (hadvances.frame.shows_iff hne).mp hshows'', hmem⟩ hfresh

/-- How producing a version fails: the operation is still held, or the failure
came after it was completed. -/
structure Fails (service : RevisionService κ) (runId : UUID) (hold : Hold) (evidence : Reviewed)
    (failure : Exc) (tokens : Set Token) (later : World κ) : Prop where
  receipts : OnlyReceipt runId hold tokens
  outcome : Tends runId hold evidence tokens later ∨
    ∃ revision, later.database.Has runId Stage.revised? revision
  wellBehaved : service.WellBehaved →
    failure.isReleased ∧ Tends runId hold evidence tokens later

theorem FailsHolding.fails {service : RevisionService κ} {runId : UUID} {hold : Hold}
    {evidence : Reviewed} {failure : Exc} {tokens tokens' : Set Token} {later : World κ}
    (h : FailsHolding service runId hold evidence tokens failure tokens' later)
    (honly : OnlyReceipt runId hold tokens) :
    Fails service runId hold evidence failure tokens' later := by
  obtain ⟨rfl, htends, hreleased⟩ := h
  exact ⟨honly, .inl htends, fun hwell => ⟨hreleased hwell, htends⟩⟩

section Completing

variable {assumes : World κ → Prop} {tokens : Set Token} {world : World κ} {runId : UUID}
  {hold : Hold} {evidence : Reviewed} (service : RevisionService κ)

/-- The request that holds the operation completes it. -/
theorem safe_completeRevision {operationId : Nat} {record : RevisionRecord}
    {response : RevisionCompleted} (htends : Tends runId hold evidence tokens world)
    (honly : OnlyReceipt runId hold tokens) (hid : hold.operationId? = some operationId)
    (hcertified : ∃ codes generatedAt,
      certifies ⟨evidence.analysis, evidence.confirmation.brandLock,
        { (record.revised response).draft with generatedAt }, record.composition, codes⟩
        record.critique) :
    Discipline.Safe (requests certifies) assumes
      (fun _ tokens' later => OnlyReceipt runId hold tokens' ∧
        later.database.Has runId Stage.revised? (record.revised response))
      (Fails service runId hold evidence) tokens world
      (service.repository.completeRevision runId operationId record response) := by
  refine Discipline.safe_bind (safe_transaction (raises_of_imp RevisionService.WellBehaved.connect)
    (fun found done db' hfound _ hcommit => ?_)
    (fun found failure later hfound _ hfailure _ => ?_)
    fun failure later hfault hlater =>
      (failsHolding_of_fault service hfault (htends.of_rely hlater)).fails honly)
  · obtain ⟨stage, hshows, hheld, hreviewed, hstage⟩ := htends.shows hfound
    have hholds : ∀ other, stage.hold? = some other →
        (none : Option Hold) = some other ∨ Token.hold runId other ∈ tokens := by
      intro other hother
      obtain rfl := Option.some.inj (hheld.symm.trans hother)
      exact .inr htends.hold
    -- The report of the second version is certified for the evidence of the run.
    have hrevised : ∀ stage' : Stage, stage'.reviewed? = stage.reviewed? →
        stage'.revised? = some (record.revised response) → stage'.Certified certifies := by
      intro stage' hsame hrevision
      refine ⟨by simpa only [hsame] using hstage.reviewed, fun other revision hother hsome => ?_⟩
      obtain rfl := Option.some.inj (hreviewed.symm.trans (hsame.symm.trans hother))
      obtain rfl := Option.some.inj (hrevision.symm.trans hsome)
      exact hcertified
    obtain ⟨stage', hadvances, hstep, hrevision, hsame, hfree, htaken⟩ :
        ∃ stage', Database.Advances runId found.database db' stage' ∧ stage.Step stage' ∧
          stage'.revised? = some (record.revised response) ∧
          stage'.reviewed? = stage.reviewed? ∧ stage'.hold? = none ∧
          ∀ other ∈ stage'.taken, other ∈ stage.taken := by
      rcases hshows.completeRevision hcommit with ⟨accepted, feedback, rfl, -, hadvances⟩ |
        ⟨accepted, feedback, failedAt, retry, rfl, -, hadvances⟩
      · exact ⟨_, hadvances, .completeFeedback _ _ _, rfl, rfl, rfl, fun _ h => h⟩
      · exact ⟨_, hadvances, .completeRetry _ _ _ _ _, rfl, rfl, rfl, fun _ h => h⟩
    have honly' : OnlyReceipt runId hold ((lifecycle certifies).after tokens found.database db') :=
      honly.after hshows hadvances fun other hother => .inl (htaken other hother)
    refine ⟨guarantee_of_advances hfound.inv hshows hadvances (.single hstep)
      (hrevised stage' hsame hrevision) (by rwa [hfree]), fun later hlater => ?_⟩
    have hhas : later.database.Has runId Stage.revised? (record.revised response) :=
      Database.Has.of_rely ⟨stage', hadvances.shows, hrevision⟩ Stage.persistent_revised? hlater
    -- The revision is read back in a transaction of its own.
    have hdone {failure : Exc} {later' : World κ} (hfault : service.WellBehaved → False)
        (hlater' : (requests certifies).Rely
          ((lifecycle certifies).after tokens found.database db') later later') :
        Fails service runId hold evidence failure
          ((lifecycle certifies).after tokens found.database db') later' :=
      ⟨honly', .inr ⟨_, hhas.of_rely Stage.persistent_revised? hlater'⟩,
        fun hwell => (hfault hwell).elim⟩
    refine Discipline.safe_bind (safe_query (raises_of_imp RevisionService.WellBehaved.connect)
      (fun read stored world' hread _ hstored hworld' => ?_)
      (fun read failure world' hread _ hfailure _ => ?_)
      fun failure later' hfault hlater' => hdone hfault hlater')
    · obtain ⟨stage'', hshows'', hrevised''⟩ := hhas.of_rely Stage.persistent_revised? hread
      rw [hshows''.getRevision, hrevised''] at hstored
      obtain rfl := Except.ok.inj hstored
      exact Discipline.safe_ret fun last hlast =>
        ⟨honly', hhas.of_rely Stage.persistent_revised? (hread.trans (hworld'.trans hlast))⟩
    · obtain ⟨stage'', hshows'', -⟩ := hhas.of_rely Stage.persistent_revised? hread
      rw [hshows''.getRevision] at hfailure
      cases hfailure
  · -- Nothing stands in the way of the operation that the stage waits for.
    obtain ⟨stage, hshows, hheld, -⟩ := htends.shows hfound
    obtain ⟨db', hcommit⟩ := hshows.completeRevision_commits hheld hid record response
    rw [hcommit] at hfailure
    cases hfailure

/-- A saved version is described, reviewed and stored. -/
theorem safe_finishRevision {operation : OperationRecord} (artifactId : UUID)
    {rendered : RevisionService.Rendered} (htends : Tends runId hold evidence tokens world)
    (honly : OnlyReceipt runId hold tokens) (hid : hold.operationId? = some operation.id)
    (hrun : rendered.run.id = runId) (hanalysis : rendered.analysis = evidence.analysis)
    (hconfirmation : rendered.confirmation = evidence.confirmation)
    (hreview : ∀ request, (service.review request).Returns (certifies request)) :
    Discipline.Safe (requests certifies) assumes
      (fun response tokens' later => OnlyReceipt runId hold tokens' ∧
        ∃ revision, later.database.Has runId Stage.revised? revision ∧
          revision.response = response)
      (Fails service runId hold evidence) tokens world
      (service.finishRevision operation artifactId rendered) := by
  obtain ⟨run, analysis, confirmation, previous, revised, composed, stored, now⟩ := rendered
  dsimp only at hrun hanalysis hconfirmation
  subst hrun hanalysis hconfirmation
  have hvalidation {later : World κ} {failure : Exc} (hfailure : failure.isReleased)
      (htends : Tends run.id hold evidence tokens later) :
      Fails service run.id hold evidence failure tokens later :=
    (failsHolding service htends fun _ => hfailure).fails honly
  refine Discipline.safe_bind (safe_ofExcept (fun composition described hdescribed hlater => ?_)
    fun failure _ hfailure hlater => hvalidation ?_ (htends.of_rely hlater))
  · replace htends := htends.of_rely hlater
    refine Discipline.safe_bind (safe_outside (hreview _)
      (raises_of_imp fun hwell => RevisionService.WellBehaved.review hwell _)
      (fun report reviewed hcertified hlater => ?_) fun failure _ hreleased hlater =>
        (failsHolding service (htends.of_rely hlater) hreleased).fails honly)
    refine Discipline.safe_bind (safe_tended_get service (htends.of_rely hlater)
      (fun current _ _ htends => ?_)
      fun _ _ hreleased htends => (failsHolding service htends hreleased).fails honly)
    refine Discipline.safe_bind (safe_ofExcept (fun response _ _ hlater => ?_)
      fun failure _ hfailure hlater => hvalidation ?_ (htends.of_rely hlater))
    · refine Discipline.safe_bind ((safe_completeRevision service (htends.of_rely hlater) honly hid
        ⟨run.warningCodes, now, hcertified⟩).mono (fun _ _ _ hdone => ?_) fun _ _ _ h => h)
      exact Discipline.safe_ret fun _ hlater =>
        ⟨hdone.1, _, hdone.2.of_rely Stage.persistent_revised? hlater, rfl⟩
    · exact isReleased_of_validated hfailure
  · exact isReleased_of_describeArtifact hfailure

end Completing

/-! ## Releasing the operation -/

/-- The operation of a hold has failed; a retry may have been claimed since. -/
def Database.Failed (db : Database) (runId : UUID) (hold : Hold) : Prop :=
  ∃ stage stage' : Stage, db.Shows runId stage' ∧ stage.Steps stage' ∧ stage.failed? = some hold

theorem Database.Failed.of_rely {tokens : Set Token} {world found : World κ} {runId : UUID}
    {hold : Hold} (h : world.database.Failed runId hold)
    (hrely : (requests certifies).Rely tokens world found) :
    found.database.Failed runId hold := by
  obtain ⟨stage, stage', hshows, hsteps, hfailed⟩ := h
  obtain ⟨stage'', hshows', hsteps', -⟩ := shows_of_rely hrely hshows
  exact ⟨stage, stage'', hshows', hsteps.trans hsteps', hfailed⟩

/-- How a request that claimed an operation fails. -/
structure Abandons (service : RevisionService κ) (runId : UUID) (hold : Hold)
    (tokens : Set Token) (later : World κ) : Prop where
  receipts : OnlyReceipt runId hold tokens
  failed : service.WellBehaved → later.database.Failed runId hold

/-- What the service claims: feedback, or a retry. -/
def heldBy (operationId : Nat) (retrying : Bool) : Hold :=
  if retrying then .retry operationId else .feedback operationId

theorem heldBy_operationId? (operationId : Nat) (retrying : Bool) :
    (heldBy operationId retrying).operationId? = some operationId := by
  cases retrying <;> rfl

section Releasing

variable {assumes : World κ → Prop} {tokens : Set Token} {world : World κ} {runId : UUID}
  {evidence : Reviewed} (service : RevisionService κ) {operation : OperationRecord}
  {retrying : Bool}

theorem abandons_of_fault {later : World κ}
    (honly : OnlyReceipt runId (heldBy operation.id retrying) tokens)
    (hfault : service.WellBehaved → False) :
    Abandons service runId (heldBy operation.id retrying) tokens later :=
  ⟨honly, fun hwell => (hfault hwell).elim⟩

/-- The request that holds the operation may declare it failed. -/
theorem safe_failRevisionOperation
    {post : OperationRecord → Set Token → World κ → Prop}
    {error : Exc → Set Token → World κ → Prop} (failedAt : Datetime)
    (honly : OnlyReceipt runId (heldBy operation.id retrying) tokens)
    (houtcome : Tends runId (heldBy operation.id retrying) evidence tokens world ∨
      ∃ revision, world.database.Has runId Stage.revised? revision)
    (hwell : service.WellBehaved → Tends runId (heldBy operation.id retrying) evidence tokens world)
    (hpost : ∀ record tokens' later,
      Abandons service runId (heldBy operation.id retrying) tokens' later →
      post record tokens' later)
    (herror : ∀ failure later, (service.WellBehaved → False) → error failure tokens later) :
    Discipline.Safe (requests certifies) assumes post error tokens world
      (service.repository.failRevisionOperation runId operation.id .connectionBeforeAcceptance
        (if retrying then .doNotRetry else .retryOnce) failedAt) := by
  refine safe_transaction (raises_of_imp RevisionService.WellBehaved.connect)
    (fun found record db' hfound _ hcommit => ?_)
    (fun found failure later hfound _ hfailure _ => herror failure later fun hservice => ?_)
    fun failure later hfault _ => herror failure later hfault
  · rcases houtcome with htends | ⟨revision, hrevised⟩
    · obtain ⟨stage, hshows, hheld, -, hstage⟩ := htends.shows hfound
      obtain ⟨stage', hadvances, hstep, hfailed, hsame, hnone, hfree, htaken⟩ :
          ∃ stage', Database.Advances runId found.database db' stage' ∧ stage.Step stage' ∧
            stage'.failed? = some (heldBy operation.id retrying) ∧
            stage'.reviewed? = stage.reviewed? ∧ stage'.revised? = stage.revised? ∧
            stage'.hold? = none ∧ ∀ other ∈ stage'.taken, other ∈ stage.taken := by
        rcases hshows.failRevisionOperation hcommit with
          ⟨accepted, feedback, rfl, hid, hadvances⟩ |
          ⟨accepted, feedback, claimFailedAt, retry, rfl, hid, hadvances⟩
        · cases retrying with
          | false =>
              exact ⟨_, hadvances rfl, .failFeedback _ _ _, hheld, rfl, rfl, rfl, fun _ h => h⟩
          | true => cases hheld
        · cases retrying with
          | false => cases hheld
          | true =>
              exact ⟨_, hadvances rfl, .failRetry _ _ _ _ _, hheld, rfl, rfl, rfl, fun _ h => h⟩
      refine ⟨guarantee_of_advances hfound.inv hshows hadvances (.single hstep)
        (hstage.of_eq hsame hnone) fun other hother => ?_, fun later hlater => ?_⟩
      · obtain rfl := Option.some.inj (hheld.symm.trans hother)
        exact .inr htends.hold
      · have hfailed : (World.mk db' found.rest).database.Failed runId
            (heldBy operation.id retrying) :=
          ⟨stage', stage', hadvances.shows, .refl stage', hfailed⟩
        exact hpost _ _ _
          ⟨honly.after hshows hadvances fun other hother => .inl (htaken other hother),
            fun _ => hfailed.of_rely hlater⟩
    · -- A completed operation is not active any more.
      obtain ⟨stage, hshows, hrevision⟩ := hrevised.of_rely Stage.persistent_revised? hfound
      rcases hshows.failRevisionOperation hcommit with
        ⟨accepted, feedback, rfl, -⟩ | ⟨accepted, feedback, claimFailedAt, retry, rfl, -⟩
      · cases hrevision
      · cases hrevision
  · obtain ⟨stage, hshows, hheld, -⟩ := (hwell hservice).shows hfound
    obtain ⟨record, db', hcommit⟩ := hshows.failRevisionOperation_commits hheld
      (heldBy_operationId? operation.id retrying) .connectionBeforeAcceptance
      (if retrying then .doNotRetry else .retryOnce) failedAt
    rw [hcommit] at hfailure
    cases hfailure

/-- Releasing never raises, and with well behaved collaborators it succeeds. -/
theorem safe_release {post : Unit → Set Token → World κ → Prop}
    {error : Exc → Set Token → World κ → Prop} (hrun : operation.runId = runId)
    (honly : OnlyReceipt runId (heldBy operation.id retrying) tokens)
    (houtcome : Tends runId (heldBy operation.id retrying) evidence tokens world ∨
      ∃ revision, world.database.Has runId Stage.revised? revision)
    (hwell : service.WellBehaved → Tends runId (heldBy operation.id retrying) evidence tokens world)
    (hpost : ∀ tokens' later,
      Abandons service runId (heldBy operation.id retrying) tokens' later →
      post () tokens' later) :
    Discipline.Safe (requests certifies) assumes post error tokens world
      (service.release operation retrying) := by
  subst hrun
  have hfault {later : World κ} (hfault : service.WellBehaved → False) :
      Discipline.Safe (requests certifies) assumes post error tokens later (pure ()) :=
    Discipline.safe_ret fun _ _ => hpost _ _ (abandons_of_fault service honly hfault)
  refine Discipline.safe_tryCatch (Discipline.safe_bind (safe_outside (Program.returns_true _)
    (raises_of_imp RevisionService.WellBehaved.clock) (fun failedAt read _ hread => ?_)
    fun _ _ hclock _ => hfault hclock))
  refine Discipline.safe_bind (safe_failRevisionOperation service failedAt honly ?_
    (fun hservice => (hwell hservice).of_rely hread) (fun _ _ _ habandons => ?_)
    fun _ _ hconnect => hfault hconnect)
  · rcases houtcome with htends | ⟨revision, hrevised⟩
    · exact .inl (htends.of_rely hread)
    · exact .inr ⟨revision, hrevised.of_rely Stage.persistent_revised? hread⟩
  · exact Discipline.safe_ret fun _ hlater => hpost _ _
      ⟨habandons.receipts, fun hservice => (habandons.failed hservice).of_rely hlater⟩

/-- However the request fails, a well behaved service leaves a failed operation. -/
theorem safe_recover {post : RevisionCompleted → Set Token → World κ → Prop} {failure : Exc}
    {artifactId : UUID} {artifactSaved : Bool} (hrun : operation.runId = runId)
    (hfails : Fails service runId (heldBy operation.id retrying) evidence failure tokens world) :
    Discipline.Safe (requests certifies) assumes post
      (fun _ => Abandons service runId (heldBy operation.id retrying)) tokens world
      (service.recover operation retrying artifactId artifactSaved failure) := by
  have houtcome {later : World κ} (hlater : (requests certifies).Rely tokens world later) :
      Tends runId (heldBy operation.id retrying) evidence tokens later ∨
        ∃ revision, later.database.Has runId Stage.revised? revision := by
    rcases hfails.outcome with htends | ⟨revision, hrevised⟩
    · exact .inl (htends.of_rely hlater)
    · exact .inr ⟨revision, hrevised.of_rely Stage.persistent_revised? hlater⟩
  -- What does not release the operation is not raised by well behaved collaborators.
  have hother {later : World κ} (hunreleased : failure.isReleased = false) :
      Abandons service runId (heldBy operation.id retrying) tokens later :=
    abandons_of_fault service hfails.receipts fun hwell => by
      simpa [hunreleased] using (hfails.wellBehaved hwell).1
  have hrecover {later : World κ} (hlater : (requests certifies).Rely tokens world later)
      (code : RevisionServiceErrorCode) :
      Discipline.Safe (requests certifies) assumes post
        (fun _ => Abandons service runId (heldBy operation.id retrying)) tokens later
        (do
          service.release operation retrying
          RevisionService.fail code) :=
    Discipline.safe_bind (safe_release service hrun hfails.receipts (houtcome hlater)
      (fun hwell => (hfails.wellBehaved hwell).2.of_rely hlater) fun _ _ habandons =>
        Discipline.safe_raise fun _ hfound =>
          ⟨habandons.receipts, fun hwell => (habandons.failed hwell).of_rely hfound⟩)
  have hhandle {later : World κ} (hlater : (requests certifies).Rely tokens world later) :
      Discipline.Safe (requests certifies) assumes post
        (fun _ => Abandons service runId (heldBy operation.id retrying)) tokens later
        (service.recover operation retrying artifactId false failure) := by
    cases failure <;> first
      | exact hrecover hlater _
      | exact Discipline.safe_raise fun _ _ => hother rfl
  cases artifactSaved with
  | false => exact Discipline.safe_of_found fun found hfound => hhandle hfound
  | true =>
      refine Discipline.safe_bind (safe_outside (Program.returns_true _)
        (raises_of_imp fun hwell => RevisionService.WellBehaved.delete hwell artifactId)
        (fun _ _ _ hlater => hhandle hlater)
        fun _ _ hfault _ => abandons_of_fault service hfails.receipts hfault)

/-- Carrying out a claimed operation either completes or abandons it. -/
theorem safe_execute (hrun : operation.runId = runId)
    (htends : Tends runId (heldBy operation.id retrying) evidence tokens world)
    (honly : OnlyReceipt runId (heldBy operation.id retrying) tokens)
    (hreview : ∀ request, (service.review request).Returns (certifies request)) :
    Discipline.Safe (requests certifies) assumes
      (fun response tokens' later => OnlyReceipt runId (heldBy operation.id retrying) tokens' ∧
        ∃ revision, later.database.Has runId Stage.revised? revision ∧
          revision.response = response)
      (fun _ => Abandons service runId (heldBy operation.id retrying)) tokens world
      (service.execute operation retrying) := by
  refine Discipline.safe_bind (safe_outside (Program.returns_true _)
    (raises_of_imp RevisionService.WellBehaved.uuid4) (fun artifactId _ _ hlater => ?_)
    fun _ _ hfault _ => abandons_of_fault service honly hfault)
  refine Discipline.safe_bind (Discipline.safe_attempt
    ((safe_renderRevision service artifactId hrun (htends.of_rely hlater)).mono
      (fun rendered tokens' later hrendered => ?_) fun failure tokens' later hfailure => ?_))
  · obtain ⟨rfl, htends, hid, hanalysis, hconfirmation⟩ := hrendered
    exact Discipline.safe_tryCatch ((safe_finishRevision service artifactId htends honly
      (heldBy_operationId? operation.id retrying) hid hanalysis hconfirmation hreview).mono
        (fun _ _ _ h => h) fun _ _ _ hfails => safe_recover service hrun hfails)
  · obtain rfl := hfailure.1
    exact safe_recover service hrun (hfailure.fails honly)

end Releasing

end CultureShift
