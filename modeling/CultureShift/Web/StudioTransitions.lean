/-
# The transitions of the Studio

What one event can do to a state, once for all the invariants. Whatever the
order of the events, a later artifact is never held without the earlier ones,
and nothing is shown before the review.
-/

import CultureShift.Web.StudioState

namespace CultureShift

namespace Web

/-- The transitions that the reducer makes, each with its guard. -/
inductive Transition (state : StudioState) : StudioEvent → StudioState → Prop
  | ignored (event : StudioEvent) : Transition state event state
  | reset : Transition state .reset (initialStudioState state.fixtureId)
  | fixtureSelected (fixtureId : FixtureId) (hphase : state.phase = .configure) :
      Transition state (.fixtureSelected fixtureId) (initialStudioState fixtureId)
  | uploadStarted (hphase : state.phase = .configure) :
      Transition state .uploadStarted { state with phase := .uploading }
  | uploadSucceeded (result : AssetUploaded) (hphase : state.phase = .uploading) :
      Transition state (.uploadSucceeded result) { state with upload := some result }
  | runCreated (result : RunCreated) (hphase : state.phase = .uploading)
      (hupload : state.upload.isSome = true) :
      Transition state (.runCreated result)
        { state with phase := .analyzing, run := some result }
  | analysisSucceeded (result : AnalysisCompleted) (hphase : state.phase = .analyzing)
      (hrun : state.run.isSome = true) :
      Transition state (.analysisSucceeded result)
        { state with phase := .awaitingBrandLock, analysis := some result }
  | brandLockConfirmed (result : BrandLockConfirmed) (hphase : state.phase = .awaitingBrandLock)
      (hanalysis : state.analysis.isSome = true) (hconfirm : canConfirmBrandLock state = true) :
      Transition state (.brandLockConfirmed result) { state with confirmation := some result }
  | generationStarted (hphase : state.phase = .awaitingBrandLock)
      (hconfirmation : state.confirmation.isSome = true) :
      Transition state .generationStarted { state with phase := .generatingDraft }
  | draftSucceeded (result : DraftGenerated) (hphase : state.phase = .generatingDraft) :
      Transition state (.draftSucceeded result)
        { state with phase := .composing, draft := some result }
  | compositionSucceeded (result : CompositionGenerated) (hphase : state.phase = .composing)
      (hdraft : state.draft.isSome = true) :
      Transition state (.compositionSucceeded result)
        { state with phase := .reviewing, composition := some result }
  | criticPassed (result : CritiqueCompleted) (hphase : state.phase = .reviewing)
      (hcomposition : state.composition.isSome = true) (hready : result.status = .ready) :
      Transition state (.criticSucceeded result)
        { state with
          phase := .readyV1
          critique := some result
          visibleVersions := [1]
          errorCode := none }
  | criticRejected (result : CritiqueCompleted) (hphase : state.phase = .reviewing)
      (hcomposition : state.composition.isSome = true) (hready : result.status ≠ .ready) :
      Transition state (.criticSucceeded result)
        { state with
          phase := .finalFailure
          critique := some result
          errorCode := some .criticFailed }
  | revisionStarted (hphase : state.phase = .readyV1) (hrevision : state.revision = none) :
      Transition state .revisionStarted
        { state with phase := .submittingRevision, errorCode := none }
  | revisionRefused (result : RevisionCompleted)
      (hphase : state.phase = .submittingRevision ∨ state.phase = .readyV2)
      (hliterals : result.resultVersion ≠ 2 ∨ result.humanRevisionCount ≠ 1) :
      Transition state (.revisionSucceeded result)
        { state with phase := .finalFailure, errorCode := some .revisionFailed }
  | revisionSucceeded (result : RevisionCompleted)
      (hphase : state.phase = .submittingRevision ∨ state.phase = .readyV2)
      (hversion : result.resultVersion = 2) (hcount : result.humanRevisionCount = 1) :
      Transition state (.revisionSucceeded result)
        { state with
          phase := .readyV2
          revision := some result
          visibleVersions := [1, 2]
          errorCode := none }
  | retryStarted (hretry : canRetry state = true) :
      Transition state .retryStarted
        { state with phase := .submittingRevision, errorCode := none }
  | operationFailed (code : StudioErrorCode) (phase : StudioPhase)
      (hconfigure : state.phase ≠ .configure) (hdeleting : state.phase ≠ .deleting)
      (hphase : phase = .conflict ∨ phase = .retryableFailure ∨ phase = .finalFailure) :
      Transition state (.operationFailed code) { state with phase, errorCode := some code }
  | deleteStarted (hdelete : canDelete state = true) :
      Transition state .deleteStarted { state with phase := .deleting }
  | deleteSucceeded (hphase : state.phase = .deleting) :
      Transition state .deleteSucceeded (initialStudioState state.fixtureId)

section Reducer

variable {state : StudioState}

/-- An event whose guard fails is ignored. -/
theorem Transition.guarded {event : StudioEvent} {next : StudioState} {guard : Prop}
    [Decidable guard] (h : guard → Transition state event next) :
    Transition state event (if guard then next else state) := by
  split_ifs with hguard
  · exact h hguard
  · exact .ignored event

theorem transition_criticSucceeded (result : CritiqueCompleted) :
    Transition state (.criticSucceeded result)
      (studioReducer state (.criticSucceeded result)) := by
  unfold studioReducer
  dsimp only
  split_ifs with hguard hready
  · exact .ignored _
  all_goals
    have hphase : state.phase = .reviewing := not_not.mp (not_or.mp hguard).1
    have hcomposition := (not_or.mp hguard).2
    rw [Bool.not_eq_true, Option.isNone_eq_false_iff] at hcomposition
  · exact .criticPassed result hphase hcomposition hready
  · exact .criticRejected result hphase hcomposition hready

theorem transition_revisionSucceeded (result : RevisionCompleted) :
    Transition state (.revisionSucceeded result)
      (studioReducer state (.revisionSucceeded result)) := by
  unfold studioReducer
  dsimp only
  split_ifs with hguard hliterals
  · exact .ignored _
  all_goals
    have hphase : state.phase = .submittingRevision ∨ state.phase = .readyV2 := by
      rw [not_and_or, not_not, not_not] at hguard
      exact hguard
  · exact .revisionRefused result hphase hliterals
  · rw [not_or, not_not, not_not] at hliterals
    exact .revisionSucceeded result hphase hliterals.1 hliterals.2

theorem transition_operationFailed (code : StudioErrorCode) :
    Transition state (.operationFailed code) (studioReducer state (.operationFailed code)) := by
  unfold studioReducer
  dsimp only
  split_ifs with hguard
  · exact .ignored _
  all_goals obtain ⟨hconfigure, hdeleting⟩ := not_or.mp hguard
  · exact .operationFailed code _ hconfigure hdeleting (Or.inl rfl)
  · exact .operationFailed code _ hconfigure hdeleting (Or.inr (Or.inl rfl))
  · exact .operationFailed code _ hconfigure hdeleting (Or.inr (Or.inr rfl))

/-- The reducer makes no other transition. -/
theorem transition_studioReducer (state : StudioState) (event : StudioEvent) :
    Transition state event (studioReducer state event) := by
  cases event with
  | reset => exact .reset
  | fixtureSelected fixtureId => exact .guarded fun hphase => .fixtureSelected fixtureId hphase
  | uploadStarted => exact .guarded fun hcan => .uploadStarted (of_decide_eq_true hcan)
  | uploadSucceeded result => exact .guarded fun hphase => .uploadSucceeded result hphase
  | runCreated result => exact .guarded fun hguard => .runCreated result hguard.1 hguard.2
  | analysisSucceeded result =>
      exact .guarded fun hguard => .analysisSucceeded result hguard.1 hguard.2
  | brandLockConfirmed result =>
      apply Transition.guarded
      intro hcan
      obtain ⟨hphase, hanalysis, -⟩ := of_decide_eq_true hcan
      exact .brandLockConfirmed result hphase hanalysis hcan
  | generationStarted =>
      apply Transition.guarded
      intro hcan
      obtain ⟨hphase, hconfirmation⟩ := of_decide_eq_true hcan
      exact .generationStarted hphase hconfirmation
  | draftSucceeded result => exact .guarded fun hphase => .draftSucceeded result hphase
  | compositionSucceeded result =>
      exact .guarded fun hguard => .compositionSucceeded result hguard.1 hguard.2
  | criticSucceeded result => exact transition_criticSucceeded result
  | revisionStarted =>
      apply Transition.guarded
      intro hcan
      obtain ⟨hphase, hrevision⟩ := of_decide_eq_true hcan
      exact .revisionStarted hphase (Option.isNone_iff_eq_none.mp hrevision)
  | revisionSucceeded result => exact transition_revisionSucceeded result
  | retryStarted => exact .guarded .retryStarted
  | operationFailed code => exact transition_operationFailed code
  | deleteStarted => exact .guarded .deleteStarted
  | deleteSucceeded => exact .guarded .deleteSucceeded

end Reducer

/-! ## Every artifact has its predecessors -/

/-- A phase before the first review. -/
def StudioPhase.IsEarly (phase : StudioPhase) : Prop :=
  phase = .configure ∨ phase = .uploading ∨ phase = .analyzing ∨ phase = .awaitingBrandLock ∨
    phase = .generatingDraft ∨ phase = .composing ∨ phase = .reviewing

/-- What holds in every state that any events lead to. -/
structure Ordered (state : StudioState) : Prop where
  upload_of_run : state.run.isSome = true → state.upload.isSome = true
  run_of_analysis : state.analysis.isSome = true → state.run.isSome = true
  analysis_of_confirmation : state.confirmation.isSome = true → state.analysis.isSome = true
  confirmation_of_draft : state.draft.isSome = true → state.confirmation.isSome = true
  draft_of_composition : state.composition.isSome = true → state.draft.isSome = true
  composition_of_critique : state.critique.isSome = true → state.composition.isSome = true
  confirmation_of_generating :
    state.phase = .generatingDraft → state.confirmation.isSome = true
  upload_of_configure : state.phase = .configure → state.upload = none
  analysis_of_fresh :
    state.phase = .configure ∨ state.phase = .uploading ∨ state.phase = .analyzing →
      state.analysis = none
  hidden_of_early : state.phase.IsEarly → state.revision = none ∧ state.visibleVersions = []
  revision_of_readyV2 : state.phase = .readyV2 → state.revision.isSome = true
  versions_of_revision : state.revision.isSome = true ↔ state.visibleVersions = [1, 2]

theorem ordered_initialStudioState (fixtureId : FixtureId) :
    Ordered (initialStudioState fixtureId) := by
  constructor <;> simp [initialStudioState]

/-- A later phase that is not the one of version 2 asks for nothing. -/
theorem Ordered.settle {state : StudioState} (h : Ordered state) (phase : StudioPhase)
    (errorCode : Option StudioErrorCode) (hlate : ¬phase.IsEarly) (hready : phase ≠ .readyV2) :
    Ordered { state with phase, errorCode } :=
  { h with
    confirmation_of_generating := fun hphase => by
      change phase = .generatingDraft at hphase
      exact absurd (by simp [StudioPhase.IsEarly, hphase]) hlate
    upload_of_configure := fun hphase => absurd (Or.inl hphase) hlate
    analysis_of_fresh := fun hphase => by
      refine absurd ?_ hlate
      rcases hphase with hphase | hphase | hphase
      · exact Or.inl hphase
      · exact Or.inr (Or.inl hphase)
      · exact Or.inr (Or.inr (Or.inl hphase))
    hidden_of_early := fun hphase => absurd hphase hlate
    revision_of_readyV2 := fun hphase => absurd hphase hready }

/-- An early phase asks for its own artifact only, as long as nothing is shown. -/
theorem Ordered.advance {state : StudioState} (h : Ordered state) (phase : StudioPhase)
    (hearly : state.phase.IsEarly) (hconfigure : phase ≠ .configure) (hready : phase ≠ .readyV2)
    (hgenerating : phase = .generatingDraft → state.confirmation.isSome = true)
    (hfresh : phase = .uploading ∨ phase = .analyzing → state.analysis = none) :
    Ordered { state with phase } :=
  { h with
    confirmation_of_generating := hgenerating
    upload_of_configure := fun hphase => absurd hphase hconfigure
    analysis_of_fresh := fun hphase => hfresh (hphase.resolve_left hconfigure)
    hidden_of_early := fun _ => h.hidden_of_early hearly
    revision_of_readyV2 := fun hphase => absurd hphase hready }

theorem Ordered.transition {state state' : StudioState} {event : StudioEvent}
    (h : Ordered state) (hstep : Transition state event state') : Ordered state' := by
  cases hstep with
  | ignored => exact h
  | reset => exact ordered_initialStudioState _
  | fixtureSelected => exact ordered_initialStudioState _
  | deleteSucceeded => exact ordered_initialStudioState _
  | uploadStarted hphase =>
      exact h.advance _ (Or.inl hphase) nofun nofun nofun
        fun _ => h.analysis_of_fresh (Or.inl hphase)
  | uploadSucceeded result hphase =>
      exact
        { h with
          upload_of_run := fun _ => rfl
          upload_of_configure := fun hconfigure => by
            rw [hphase] at hconfigure
            cases hconfigure }
  | runCreated result hphase hupload =>
      have hmoved := h.advance .analyzing (Or.inr (Or.inl hphase)) nofun nofun nofun
        fun _ => h.analysis_of_fresh (Or.inr (Or.inl hphase))
      exact { hmoved with upload_of_run := fun _ => hupload, run_of_analysis := fun _ => rfl }
  | analysisSucceeded result hphase hrun =>
      have hmoved := h.advance .awaitingBrandLock (by simp [StudioPhase.IsEarly, hphase])
        nofun nofun nofun (by simp)
      exact
        { hmoved with
          run_of_analysis := fun _ => hrun
          analysis_of_confirmation := fun _ => rfl
          analysis_of_fresh := by simp }
  | brandLockConfirmed result hphase hanalysis hconfirm =>
      exact
        { h with
          analysis_of_confirmation := fun _ => hanalysis
          confirmation_of_draft := fun _ => rfl
          confirmation_of_generating := fun _ => rfl }
  | generationStarted hphase hconfirmation =>
      exact h.advance _ (by simp [StudioPhase.IsEarly, hphase]) nofun nofun (fun _ => hconfirmation)
        (by simp)
  | draftSucceeded result hphase =>
      have hmoved := h.advance .composing (by simp [StudioPhase.IsEarly, hphase])
        nofun nofun nofun (by simp)
      exact
        { hmoved with
          confirmation_of_draft := fun _ => h.confirmation_of_generating hphase
          draft_of_composition := fun _ => rfl }
  | compositionSucceeded result hphase hdraft =>
      have hmoved := h.advance .reviewing (by simp [StudioPhase.IsEarly, hphase])
        nofun nofun nofun (by simp)
      exact
        { hmoved with
          draft_of_composition := fun _ => hdraft
          composition_of_critique := fun _ => rfl }
  | criticPassed result hphase hcomposition hready =>
      have hhidden := h.hidden_of_early (by simp [StudioPhase.IsEarly, hphase])
      have hmoved := h.settle .readyV1 none (by simp [StudioPhase.IsEarly]) nofun
      exact
        { hmoved with
          composition_of_critique := fun _ => hcomposition
          hidden_of_early := by simp [StudioPhase.IsEarly]
          versions_of_revision := by simp [hhidden.1] }
  | criticRejected result hphase hcomposition hready =>
      have hmoved := h.settle .finalFailure (some .criticFailed)
        (by simp [StudioPhase.IsEarly]) nofun
      exact { hmoved with composition_of_critique := fun _ => hcomposition }
  | revisionStarted hphase hrevision =>
      exact h.settle _ none (by simp [StudioPhase.IsEarly]) nofun
  | revisionRefused result hphase hliterals =>
      exact h.settle _ _ (by simp [StudioPhase.IsEarly]) nofun
  | revisionSucceeded result hphase hversion hcount =>
      exact
        { h with
          confirmation_of_generating := nofun
          upload_of_configure := nofun
          analysis_of_fresh := by simp
          hidden_of_early := by simp [StudioPhase.IsEarly]
          revision_of_readyV2 := fun _ => rfl
          versions_of_revision := by simp }
  | retryStarted hretry => exact h.settle _ none (by simp [StudioPhase.IsEarly]) nofun
  | operationFailed code phase hconfigure hdeleting hphase =>
      rcases hphase with rfl | rfl | rfl
      · exact h.settle _ _ (by simp [StudioPhase.IsEarly]) nofun
      · exact h.settle _ _ (by simp [StudioPhase.IsEarly]) nofun
      · exact h.settle _ _ (by simp [StudioPhase.IsEarly]) nofun
  | deleteStarted hdelete => exact h.settle _ _ (by simp [StudioPhase.IsEarly]) nofun

theorem ordered_studioAfter (fixtureId : FixtureId) (events : List StudioEvent) :
    Ordered (studioAfter fixtureId events) :=
  Sequential.invariant_after Ordered (ordered_initialStudioState fixtureId) fun state event h =>
    h.transition (transition_studioReducer state event)

end Web

end CultureShift
