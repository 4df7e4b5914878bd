/-
# What the Studio shows, and for which run

When the phases are backed by their evidence, when only a passed version is
shown, when all artifacts belong to the current run, and what becomes of a
deletion that fails.
-/

import CultureShift.Web.StudioTransitions
import CultureShift.Lifecycle.Demo

namespace CultureShift

namespace Web

open Serialization Sequential

variable {state : StudioState} {event : StudioEvent}

/-- The first version passed its review. -/
def CritiqueReady (state : StudioState) : Prop :=
  ∃ critique, state.critique = some critique ∧ critique.status = .ready

/-- A phase that presents a version or waits for one. -/
def StudioPhase.IsPresenting (phase : StudioPhase) : Prop :=
  phase = .readyV1 ∨ phase = .submittingRevision ∨ phase = .readyV2

instance (phase : StudioPhase) : Decidable phase.IsPresenting :=
  inferInstanceAs (Decidable (_ ∨ _ ∨ _))

/-! ## Evidence -/

/-- The evidence that the phase and the visible versions stand for. -/
def Backed (state : StudioState) : Prop :=
  (state.phase.IsPresenting →
    state.upload.isSome = true ∧ state.run.isSome = true ∧ state.analysis.isSome = true ∧
      state.confirmation.isSome = true ∧ state.draft.isSome = true ∧
      state.composition.isSome = true ∧ CritiqueReady state) ∧
    (state.visibleVersions = [1, 2] ↔ state.revision.isSome = true) ∧
    (state.visibleVersions ≠ [] → CritiqueReady state)

/-- A retry is started only for a run whose first version passed. -/
def RetriesReviewed (state : StudioState) (event : StudioEvent) : Prop :=
  event = .retryStarted → canRetry state = true → CritiqueReady state

/-- What is presented or shown has passed the review. -/
def Reviewed (state : StudioState) : Prop :=
  (state.phase.IsPresenting → CritiqueReady state) ∧
    (state.visibleVersions ≠ [] → CritiqueReady state)

theorem Ordered.backed (h : Ordered state) (hreviewed : Reviewed state) : Backed state := by
  refine ⟨fun hphase => ?_, h.versions_of_revision.symm, hreviewed.2⟩
  have hready := hreviewed.1 hphase
  obtain ⟨critique, hcritique, -⟩ := id hready
  have hcomposition := h.composition_of_critique (by rw [hcritique]; rfl)
  have hdraft := h.draft_of_composition hcomposition
  have hconfirmation := h.confirmation_of_draft hdraft
  have hanalysis := h.analysis_of_confirmation hconfirmation
  have hrun := h.run_of_analysis hanalysis
  exact ⟨h.upload_of_run hrun, hrun, hanalysis, hconfirmation, hdraft, hcomposition, hready⟩

theorem reviewed_initialStudioState (fixtureId : FixtureId) :
    Reviewed (initialStudioState fixtureId) := by
  constructor
  · exact fun hphase => absurd hphase (of_decide_eq_false rfl)
  · exact fun h => absurd rfl h

theorem Reviewed.transition {state' : StudioState} (h : Reviewed state) (hordered : Ordered state)
    (hgood : RetriesReviewed state event) (hstep : Transition state event state') :
    Reviewed state' := by
  cases hstep with
  | ignored => exact h
  | reset => exact reviewed_initialStudioState _
  | fixtureSelected => exact reviewed_initialStudioState _
  | deleteSucceeded => exact reviewed_initialStudioState _
  | criticPassed result hphase hcomposition hready =>
      exact ⟨fun _ => ⟨result, rfl, hready⟩, fun _ => ⟨result, rfl, hready⟩⟩
  | criticRejected result hphase =>
      have hhidden := hordered.hidden_of_early (by simp [StudioPhase.IsEarly, hphase])
      exact ⟨fun hphase => absurd hphase (of_decide_eq_false rfl),
        fun hvisible => absurd hhidden.2 hvisible⟩
  | revisionStarted hphase => exact ⟨fun _ => h.1 (Or.inl hphase), h.2⟩
  | revisionSucceeded result hphase =>
      have hready := h.1 (Or.inr hphase)
      exact ⟨fun _ => hready, fun _ => hready⟩
  | retryStarted hretry => exact ⟨fun _ => hgood rfl hretry, h.2⟩
  | operationFailed code phase hconfigure hdeleting hphase =>
      refine ⟨?_, h.2⟩
      rcases hphase with rfl | rfl | rfl
      · exact fun hphase => absurd hphase (of_decide_eq_false rfl)
      · exact fun hphase => absurd hphase (of_decide_eq_false rfl)
      · exact fun hphase => absurd hphase (of_decide_eq_false rfl)
  | uploadSucceeded result hphase => exact h
  | brandLockConfirmed result hphase => exact h
  | _ => exact ⟨fun hphase => absurd hphase (of_decide_eq_false rfl), h.2⟩

/-- The phases are backed by their evidence in exactly the runs of the Studio that start a
retry only when the first version has passed; and an event out of its phase changes
nothing. -/
theorem backed_iff_retriesReviewed (fixtureId : FixtureId) (events : List StudioEvent) :
    (Throughout studioReducer
        (fun state => Backed state ∧ ∀ event : StudioEvent, ¬event.EnabledIn state.phase →
          studioReducer state event = state)
        (initialStudioState fixtureId) events ↔
      EachStep studioReducer RetriesReviewed (initialStudioState fixtureId) events) := by
  apply throughout_iff_eachStep fun state => Ordered state ∧ Reviewed state
  · exact ⟨ordered_initialStudioState _, reviewed_initialStudioState _⟩
  · rintro state ⟨hordered, hreviewed⟩
    exact ⟨hordered.backed hreviewed, fun event => studioReducer_of_not_enabledIn⟩
  · rintro state event ⟨hordered, hreviewed⟩ hgood
    have hstep := transition_studioReducer state event
    exact ⟨hordered.transition hstep, hreviewed.transition hordered hgood hstep⟩
  · rintro state event - hbad ⟨hbacked, -⟩
    simp only [RetriesReviewed, Classical.not_imp] at hbad
    obtain ⟨rfl, hretry, hnot⟩ := hbad
    have hreduced : studioReducer state .retryStarted =
        { state with phase := .submittingRevision, errorCode := none } := if_pos hretry
    rw [hreduced] at hbacked
    exact hnot (hbacked.1 (Or.inr (Or.inl rfl))).2.2.2.2.2.2

/-- An upload. -/
def Demo.uploaded : AssetUploaded := ⟨CultureShift.Demo.assetId, "delete-secret"⟩

/-- A failure that reports a failed revision lets a retry start before there is a run. -/
theorem not_backed_of_early_retry :
    ¬∀ (fixtureId : FixtureId) (events : List StudioEvent),
      Backed (studioAfter fixtureId events) := by
  intro hclaim
  obtain ⟨hphase, -⟩ := hclaim .chinaToUk
    [.uploadStarted, .uploadSucceeded Demo.uploaded, .operationFailed .revisionFailed,
      .retryStarted]
  have hrun := (hphase (Or.inr (Or.inl rfl))).2.1
  exact absurd hrun Bool.noConfusion

/-! ## Versions that passed -/

def RevisionReady (state : StudioState) : Prop :=
  ∃ revision, state.revision = some revision ∧ revision.status = .ready

/-- What is presented as ready or can be exported has passed. -/
def Passed (state : StudioState) : Prop :=
  (state.phase = .readyV1 ∨ canExport state 1 = true → CritiqueReady state) ∧
    (state.phase = .readyV2 ∨ canExport state 2 = true → RevisionReady state)

/-- A revision that is taken has passed, and so has the first version. For a result that
meets the contract the two numbers are as they should be. -/
def RevisionsPassed (state : StudioState) (event : StudioEvent) : Prop :=
  ∀ result, event = .revisionSucceeded result →
    state.phase = .submittingRevision ∨ state.phase = .readyV2 →
      result.resultVersion = 2 → result.humanRevisionCount = 1 →
        result.status = .ready ∧ CritiqueReady state

/-- What the runs of passed revisions keep. -/
structure Approved (state : StudioState) : Prop where
  readyV1 : state.phase = .readyV1 → CritiqueReady state
  visible : state.visibleVersions ≠ [] → CritiqueReady state
  revision : state.revision.isSome = true → RevisionReady state
  versions : state.visibleVersions = [] ∨ state.visibleVersions = [1] ∨
    state.visibleVersions = [1, 2]

theorem approved_initialStudioState (fixtureId : FixtureId) :
    Approved (initialStudioState fixtureId) :=
  ⟨fun h => StudioPhase.noConfusion h, fun h => absurd rfl h, fun h => Bool.noConfusion h,
    Or.inl rfl⟩

theorem Approved.passed (h : Approved state) (hordered : Ordered state) : Passed state := by
  constructor
  · rintro (hphase | hexport)
    · exact h.readyV1 hphase
    · apply h.visible
      intro hnone
      simp [canExport, hnone] at hexport
  · rintro (hphase | hexport)
    · exact h.revision (hordered.revision_of_readyV2 hphase)
    · apply h.revision
      rw [hordered.versions_of_revision]
      rcases h.versions with hnone | hone | hboth
      · simp [canExport, hnone] at hexport
      · simp [canExport, hone] at hexport
      · exact hboth

theorem Approved.transition {state' : StudioState} (h : Approved state) (hordered : Ordered state)
    (hgood : RevisionsPassed state event) (hstep : Transition state event state') :
    Approved state' := by
  cases hstep with
  | reset => exact approved_initialStudioState _
  | fixtureSelected => exact approved_initialStudioState _
  | deleteSucceeded => exact approved_initialStudioState _
  | criticPassed result hphase hcomposition hready =>
      exact ⟨fun _ => ⟨result, rfl, hready⟩, fun _ => ⟨result, rfl, hready⟩, h.revision,
        Or.inr (Or.inl rfl)⟩
  | criticRejected result hphase =>
      have hhidden := hordered.hidden_of_early (by simp [StudioPhase.IsEarly, hphase])
      exact ⟨fun h => StudioPhase.noConfusion h, fun hvisible => absurd hhidden.2 hvisible,
        h.revision, h.versions⟩
  | revisionSucceeded result hphase hversion hcount =>
      obtain ⟨hready, hcritique⟩ := hgood result rfl hphase hversion hcount
      exact ⟨fun _ => hcritique, fun _ => hcritique, fun _ => ⟨result, rfl, hready⟩,
        Or.inr (Or.inr rfl)⟩
  | operationFailed code phase hconfigure hdeleting hphase =>
      refine ⟨?_, h.visible, h.revision, h.versions⟩
      rintro rfl
      rcases hphase with hphase | hphase | hphase <;> cases hphase
  | ignored => exact h
  | uploadSucceeded => exact ⟨h.readyV1, h.visible, h.revision, h.versions⟩
  | brandLockConfirmed => exact ⟨h.readyV1, h.visible, h.revision, h.versions⟩
  | _ => exact ⟨fun h => StudioPhase.noConfusion h, h.visible, h.revision, h.versions⟩

/-- Only passed versions are presented as ready in exactly the runs in which every revision
that is taken has passed, after a first version that has. -/
theorem passed_iff_revisionsPassed (fixtureId : FixtureId) (events : List StudioEvent) :
    Throughout studioReducer Passed (initialStudioState fixtureId) events ↔
      EachStep studioReducer RevisionsPassed (initialStudioState fixtureId) events := by
  apply throughout_iff_eachStep fun state => Ordered state ∧ Approved state
  · exact ⟨ordered_initialStudioState _, approved_initialStudioState _⟩
  · exact fun state h => h.2.passed h.1
  · rintro state event ⟨hordered, happroved⟩ hgood
    have hstep := transition_studioReducer state event
    exact ⟨hordered.transition hstep, happroved.transition hordered hgood hstep⟩
  · rintro state event - hbad ⟨hfirst, hsecond⟩
    simp only [RevisionsPassed, Classical.not_forall] at hbad
    obtain ⟨result, rfl, hphase, hversion, hcount, hnot⟩ := hbad
    have hreduced : studioReducer state (.revisionSucceeded result) =
        { state with
          phase := .readyV2
          revision := some result
          visibleVersions := [1, 2]
          errorCode := none } := by
      have hpast : ¬(state.phase ≠ .submittingRevision ∧ state.phase ≠ .readyV2) := by
        rintro ⟨hsubmitting, hready⟩
        exact hphase.elim hsubmitting hready
      have hliterals : ¬(result.resultVersion ≠ 2 ∨ result.humanRevisionCount ≠ 1) := by
        rw [not_or, not_not, not_not]
        exact ⟨hversion, hcount⟩
      exact (if_neg hpast).trans (if_neg hliterals)
    rw [hreduced] at hfirst hsecond
    obtain ⟨revision, hrevision, hready⟩ := hsecond (Or.inl rfl)
    cases hrevision
    exact hnot ⟨hready, hfirst (Or.inr rfl)⟩

/-- A revision whose second version is rejected. -/
def Demo.rejectedRevision : CultureShift.RevisionCompleted where
  runId := CultureShift.Demo.runId
  status := .failedFinal
  previousComposition := CultureShift.Demo.composition CultureShift.Demo.artifactId
  brief := (CultureShift.Demo.draft [] CultureShift.Demo.noWarnings).brief
  adCopy := (CultureShift.Demo.draft [] CultureShift.Demo.noWarnings).adCopy
  composition := CultureShift.Demo.composition CultureShift.Demo.revisedArtifactId
  critique := CultureShift.Demo.rejected
  technicalAttemptCount := 0
  revisedAt := CultureShift.Demo.now
  status_valid := Or.inr rfl
  identity := ⟨⟨rfl, rfl⟩, by decide, ⟨rfl, rfl⟩, Iff.intro (fun _ => rfl) fun _ => rfl⟩

/-- The events up to a first version that passed. -/
def Demo.toReadyV1 : List StudioEvent :=
  let runId := CultureShift.Demo.runId
  [.uploadStarted, .uploadSucceeded Demo.uploaded, .runCreated ⟨runId, "capability"⟩,
    .analysisSucceeded ⟨runId⟩, .brandLockConfirmed ⟨runId⟩, .generationStarted,
    .draftSucceeded ⟨runId⟩, .compositionSucceeded ⟨runId⟩, .criticSucceeded ⟨runId, .ready⟩]

/-- A rejected second version is presented as ready. -/
theorem not_passed_of_rejected_revision :
    ¬∀ (fixtureId : FixtureId) (events : List StudioEvent),
      (∀ result, .revisionSucceeded result ∈ events →
        ∃ response, result = RevisionCompleted.ofContract response) →
          Passed (studioAfter fixtureId events) := by
  intro hclaim
  have hpassed := hclaim .chinaToUk (Demo.toReadyV1 ++
    [.revisionStarted, .revisionSucceeded (.ofContract Demo.rejectedRevision)])
  obtain ⟨-, hsecond⟩ := hpassed fun result hmem => by
    simp only [Demo.toReadyV1, List.cons_append, List.nil_append, List.mem_cons, reduceCtorEq,
      List.not_mem_nil, false_or, or_false, StudioEvent.revisionSucceeded.injEq] at hmem
    exact ⟨Demo.rejectedRevision, hmem⟩
  obtain ⟨revision, hrevision, hready⟩ := hsecond (Or.inl rfl)
  cases hrevision
  have hstatus : ProjectRunStatus.failedFinal = .ready := hready
  cases hstatus

/-! ## Artifacts of one run -/

def currentRun (state : StudioState) : Option UUID := state.run.map (·.runId)

/-- Every artifact of the state was produced for its run. -/
structure OfOneRun (state : StudioState) : Prop where
  analysis : ∀ result, state.analysis = some result → currentRun state = some result.runId
  confirmation :
    ∀ result, state.confirmation = some result → currentRun state = some result.runId
  draft : ∀ result, state.draft = some result → currentRun state = some result.runId
  composition :
    ∀ result, state.composition = some result → currentRun state = some result.runId
  critique : ∀ result, state.critique = some result → currentRun state = some result.runId
  revision : ∀ result, state.revision = some result → currentRun state = some result.runId

/-- The run that the result of an event was produced for. -/
def StudioEvent.resultRun : StudioEvent → Option UUID
  | .analysisSucceeded result => some result.runId
  | .brandLockConfirmed result => some result.runId
  | .draftSucceeded result => some result.runId
  | .compositionSucceeded result => some result.runId
  | .criticSucceeded result => some result.runId
  | .revisionSucceeded result => some result.runId
  | _ => none

/-- The state waits for the result of the event. -/
def StudioEvent.AwaitedIn : StudioEvent → StudioState → Prop
  | .analysisSucceeded _, state => state.phase = .analyzing ∧ state.run.isSome = true
  | .brandLockConfirmed _, state => canConfirmBrandLock state = true
  | .draftSucceeded _, state => state.phase = .generatingDraft
  | .compositionSucceeded _, state => state.phase = .composing ∧ state.draft.isSome = true
  | .criticSucceeded _, state => state.phase = .reviewing ∧ state.composition.isSome = true
  | .revisionSucceeded result, state =>
      (state.phase = .submittingRevision ∨ state.phase = .readyV2) ∧
        result.resultVersion = 2 ∧ result.humanRevisionCount = 1
  | _, _ => False

/-- A result that the state waits for is a result of the current run. -/
def ResultsCurrent (state : StudioState) (event : StudioEvent) : Prop :=
  ∀ runId, event.resultRun = some runId → event.AwaitedIn state →
    currentRun state = some runId

theorem ofOneRun_initialStudioState (fixtureId : FixtureId) :
    OfOneRun (initialStudioState fixtureId) := by
  constructor <;> exact fun result h => by cases h

/-- Before the analysis there is no artifact. -/
theorem Ordered.artifacts_of_fresh (h : Ordered state)
    (hphase : state.phase = .configure ∨ state.phase = .uploading ∨ state.phase = .analyzing) :
    state.analysis = none ∧ state.confirmation = none ∧ state.draft = none ∧
      state.composition = none ∧ state.critique = none ∧ state.revision = none := by
  have hnone : ∀ {α β : Type} {later : Option α} {earlier : Option β},
      (later.isSome = true → earlier.isSome = true) → earlier = none → later = none := by
    rintro α β later earlier himp rfl
    rw [← Option.not_isSome_iff_eq_none]
    exact fun hlater => Bool.noConfusion (himp hlater)
  have hanalysis := h.analysis_of_fresh hphase
  have hconfirmation := hnone h.analysis_of_confirmation hanalysis
  have hdraft := hnone h.confirmation_of_draft hconfirmation
  have hcomposition := hnone h.draft_of_composition hdraft
  have hcritique := hnone h.composition_of_critique hcomposition
  have hearly : state.phase.IsEarly := by
    rcases hphase with hphase | hphase | hphase <;> simp [StudioPhase.IsEarly, hphase]
  exact ⟨hanalysis, hconfirmation, hdraft, hcomposition, hcritique, (h.hidden_of_early hearly).1⟩

theorem OfOneRun.transition {state' : StudioState} (h : OfOneRun state) (hordered : Ordered state)
    (hgood : ResultsCurrent state event) (hstep : Transition state event state') :
    OfOneRun state' := by
  obtain ⟨h1, h2, h3, h4, h5, h6⟩ := id h
  cases hstep with
  | ignored => exact h
  | reset => exact ofOneRun_initialStudioState _
  | fixtureSelected => exact ofOneRun_initialStudioState _
  | deleteSucceeded => exact ofOneRun_initialStudioState _
  | runCreated result hphase hupload =>
      obtain ⟨hanalysis, hconfirmation, hdraft, hcomposition, hcritique, hrevision⟩ :=
        hordered.artifacts_of_fresh (Or.inr (Or.inl hphase))
      constructor
      · exact fun other hother => by cases hanalysis.symm.trans hother
      · exact fun other hother => by cases hconfirmation.symm.trans hother
      · exact fun other hother => by cases hdraft.symm.trans hother
      · exact fun other hother => by cases hcomposition.symm.trans hother
      · exact fun other hother => by cases hcritique.symm.trans hother
      · exact fun other hother => by cases hrevision.symm.trans hother
  | analysisSucceeded result hphase hrun =>
      refine ⟨fun other hother => ?_, h2, h3, h4, h5, h6⟩
      cases hother
      exact hgood _ rfl ⟨hphase, hrun⟩
  | brandLockConfirmed result hphase hanalysis hconfirm =>
      refine ⟨h1, fun other hother => ?_, h3, h4, h5, h6⟩
      cases hother
      exact hgood _ rfl hconfirm
  | draftSucceeded result hphase =>
      refine ⟨h1, h2, fun other hother => ?_, h4, h5, h6⟩
      cases hother
      exact hgood _ rfl hphase
  | compositionSucceeded result hphase hdraft =>
      refine ⟨h1, h2, h3, fun other hother => ?_, h5, h6⟩
      cases hother
      exact hgood _ rfl ⟨hphase, hdraft⟩
  | criticPassed result hphase hcomposition =>
      refine ⟨h1, h2, h3, h4, fun other hother => ?_, h6⟩
      cases hother
      exact hgood _ rfl ⟨hphase, hcomposition⟩
  | criticRejected result hphase hcomposition =>
      refine ⟨h1, h2, h3, h4, fun other hother => ?_, h6⟩
      cases hother
      exact hgood _ rfl ⟨hphase, hcomposition⟩
  | revisionSucceeded result hphase hversion hcount =>
      refine ⟨h1, h2, h3, h4, h5, fun other hother => ?_⟩
      cases hother
      exact hgood _ rfl ⟨hphase, hversion, hcount⟩
  | _ => exact ⟨h1, h2, h3, h4, h5, h6⟩

/-- A result that the state waits for is taken, and the run stays. -/
theorem currentRun_of_awaitedIn {runId : UUID} (hresult : event.resultRun = some runId)
    (hawaited : event.AwaitedIn state) (h : OfOneRun (studioReducer state event)) :
    currentRun state = some runId := by
  cases event with
  | analysisSucceeded result =>
      cases hresult
      have hreduced : studioReducer state (.analysisSucceeded result) = _ := if_pos hawaited
      rw [hreduced] at h
      exact h.analysis result rfl
  | brandLockConfirmed result =>
      cases hresult
      have hreduced : studioReducer state (.brandLockConfirmed result) = _ := if_pos hawaited
      rw [hreduced] at h
      exact h.confirmation result rfl
  | draftSucceeded result =>
      cases hresult
      have hreduced : studioReducer state (.draftSucceeded result) = _ := if_pos hawaited
      rw [hreduced] at h
      exact h.draft result rfl
  | compositionSucceeded result =>
      cases hresult
      have hreduced : studioReducer state (.compositionSucceeded result) = _ := if_pos hawaited
      rw [hreduced] at h
      exact h.composition result rfl
  | criticSucceeded result =>
      cases hresult
      have hpast : ¬(state.phase ≠ .reviewing ∨ state.composition.isNone = true) := by
        rw [not_or, not_not, Bool.not_eq_true, Option.isNone_eq_false_iff]
        exact hawaited
      rw [studioReducer, if_neg hpast] at h
      split_ifs at h
      · exact h.critique result rfl
      · exact h.critique result rfl
  | revisionSucceeded result =>
      cases hresult
      obtain ⟨hphase, hversion, hcount⟩ := hawaited
      have hpast : ¬(state.phase ≠ .submittingRevision ∧ state.phase ≠ .readyV2) := by
        rintro ⟨hsubmitting, hready⟩
        exact hphase.elim hsubmitting hready
      have hliterals : ¬(result.resultVersion ≠ 2 ∨ result.humanRevisionCount ≠ 1) := by
        rw [not_or, not_not, not_not]
        exact ⟨hversion, hcount⟩
      rw [studioReducer, if_neg hpast, if_neg hliterals] at h
      exact h.revision result rfl
  | _ => cases hresult

/-- All artifacts belong to the current run in exactly the runs of the Studio in which every
result that it takes is a result of that run. -/
theorem ofOneRun_iff_resultsCurrent (fixtureId : FixtureId) (events : List StudioEvent) :
    Throughout studioReducer OfOneRun (initialStudioState fixtureId) events ↔
      EachStep studioReducer ResultsCurrent (initialStudioState fixtureId) events := by
  apply throughout_iff_eachStep fun state => Ordered state ∧ OfOneRun state
  · exact ⟨ordered_initialStudioState _, ofOneRun_initialStudioState _⟩
  · exact fun state h => h.2
  · rintro state event ⟨hordered, hone⟩ hgood
    have hstep := transition_studioReducer state event
    exact ⟨hordered.transition hstep, hone.transition hordered hgood hstep⟩
  · rintro state event - hbad hone
    simp only [ResultsCurrent, Classical.not_forall] at hbad
    obtain ⟨runId, hresult, hawaited, hnot⟩ := hbad
    exact hnot (currentRun_of_awaitedIn hresult hawaited hone)

/-- An analysis that arrives after its source was deleted is taken for the next run. -/
theorem not_ofOneRun_of_late_analysis :
    ¬∀ (fixtureId : FixtureId) (events : List StudioEvent),
      OfOneRun (studioAfter fixtureId events) := by
  intro hclaim
  have hone := hclaim .chinaToUk
    [.uploadStarted, .uploadSucceeded Demo.uploaded,
      .runCreated ⟨CultureShift.Demo.runId, "first-capability"⟩, .deleteStarted, .deleteSucceeded,
      .uploadStarted, .uploadSucceeded Demo.uploaded,
      .runCreated ⟨CultureShift.Demo.artifactId, "second-capability"⟩,
      .analysisSucceeded ⟨CultureShift.Demo.runId⟩]
  exact absurd (hone.analysis ⟨CultureShift.Demo.runId⟩ rfl) (by decide)

/-! ## Deletion -/

/-- Only three events change the upload that is held. -/
theorem upload_studioReducer (hordered : Ordered state)
    (hdelete : event ≠ .deleteSucceeded) (hreset : event ≠ .reset)
    (hupload : ∀ result, event ≠ .uploadSucceeded result) :
    (studioReducer state event).upload = state.upload := by
  have hstep := transition_studioReducer state event
  cases hstate : studioReducer state event
  rw [hstate] at hstep
  cases hstep with
  | reset => exact absurd rfl hreset
  | deleteSucceeded => exact absurd rfl hdelete
  | uploadSucceeded result => exact absurd rfl (hupload result)
  | fixtureSelected fixtureId hphase => exact (hordered.upload_of_configure hphase).symm
  | _ => rfl

/-- A deletion that fails leaves the Studio where it is: it holds the upload, and no deletion
can be started any more. Otherwise the upload is kept. -/
theorem deletion_not_retried (fixtureId : FixtureId) (events : List StudioEvent) :
    ((studioAfter fixtureId events).phase = .deleting → ∀ code,
      (studioReducer (studioAfter fixtureId events) (.operationFailed code)).upload =
          (studioAfter fixtureId events).upload ∧
        canDelete (studioReducer (studioAfter fixtureId events) (.operationFailed code)) = false ∧
        studioReducer (studioReducer (studioAfter fixtureId events) (.operationFailed code))
            .deleteStarted =
          studioReducer (studioAfter fixtureId events) (.operationFailed code)) ∧
    ∀ event, event ≠ .deleteSucceeded → event ≠ .reset →
      (∀ result, event ≠ .uploadSucceeded result) →
        (studioReducer (studioAfter fixtureId events) event).upload =
          (studioAfter fixtureId events).upload := by
  constructor
  · intro hphase code
    have hfailed : studioReducer (studioAfter fixtureId events) (.operationFailed code) =
        studioAfter fixtureId events := if_pos (Or.inr hphase)
    have hdelete : canDelete (studioAfter fixtureId events) = false := by
      apply decide_eq_false
      rintro ⟨-, -, hnot⟩
      exact hnot hphase
    rw [hfailed]
    refine ⟨rfl, hdelete, if_neg ?_⟩
    rw [hdelete]
    exact Bool.noConfusion
  · intro event hdelete hreset hupload
    exact upload_studioReducer (ordered_studioAfter _ _) hdelete hreset hupload

/-- The events up to a deletion. -/
def Demo.deleting : List StudioEvent :=
  [.uploadStarted, .uploadSucceeded Demo.uploaded,
    .runCreated ⟨CultureShift.Demo.runId, "capability"⟩, .deleteStarted]

theorem deletion_not_retried_uploaded :
    canDelete (studioReducer (studioAfter .chinaToUk Demo.deleting)
      (.operationFailed .serviceUnavailable)) = false :=
  ((deletion_not_retried .chinaToUk Demo.deleting).1 rfl .serviceUnavailable).2.1

theorem not_delete_retried :
    ¬∀ (fixtureId : FixtureId) (events : List StudioEvent) (code : StudioErrorCode),
      (studioAfter fixtureId events).phase = .deleting →
        canDelete
          (studioReducer (studioAfter fixtureId events) (.operationFailed code)) = true := by
  intro hclaim
  have hdelete := hclaim .chinaToUk Demo.deleting .serviceUnavailable rfl
  exact absurd hdelete Bool.noConfusion

end Web

end CultureShift
