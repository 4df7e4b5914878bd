/-
# Artifacts and versions

However requests interleave, every stored first version has its artifact on the
shelf, and a request that has ended leaves no artifact there that no version
refers to, unless its composition violated the contract or the store could not
delete. The artifact of a stored second version is lost only where the version
could not be read back.
-/

import CultureShift.Lifecycle.LocalShelf
import CultureShift.Lifecycle.SecondVersion
import CultureShift.Lifecycle.Shelving

namespace CultureShift

open Serialization Relational Concurrent

variable {ι κ : Type}

/-! ## Every request -/

/-- The run that a request composes. -/
def Request.composes? : Request → Option UUID
  | .generateComposition runId _ => some runId
  | _ => none

/-- The failure after which the artifact of a composition is left behind. -/
def contractViolation : Exc :=
  .httpException 422 (StrEnum.value CompositionServiceErrorCode.outputInvalid)

section Handling

variable {onShelf : κ → Set UUID} {supplies : ι → Set UUID} {i : ι} {world : World κ}

/-- A request that has returned is settled, and one that composes answers with what is stored. -/
structure Request.Answered (onShelf : κ → Set UUID) (supplies : ι → Set UUID) (i : ι)
    (request : Request) (response : Response) (world : World κ) : Prop where
  settles : Settles onShelf supplies i world
  composes : ∀ runId, request.composes? = some runId → ∃ composition,
    response = .composed composition ∧ Composes onShelf supplies i runId composition world
  revises : ∀ revision, response = .revised revision → Revises onShelf supplies i revision world

/-- What a delete of either service may raise. -/
def App.FailsToDelete (app : App κ) (failure : Exc) : Prop :=
  app.compositions.studio.artifactStore.Fails failure ∨
    app.revisions.studio.artifactStore.Fails failure

theorem App.not_failsToDelete (app : App κ) {failure : Exc}
    (hnone : failure.isStorageFault = false) : ¬app.FailsToDelete failure := by
  rintro (⟨hfault, -⟩ | ⟨hfault, -⟩) <;> exact absurd (hfault.symm.trans hnone) nofun

/-- A request that has raised leaves nothing on the shelf, unless its composition violated the
contract or the store could not delete. -/
def Refused (onShelf : κ → Set UUID) (supplies : ι → Set UUID) (i : ι) (app : App κ)
    (failure : Exc) (world : World κ) : Prop :=
  (failure = contractViolation → app.compositions.studio.Describable) →
    ¬app.FailsToDelete failure → Empties onShelf supplies i world

theorem Composes.settles {runId : UUID} {composition : CompositionGenerated}
    (h : Composes onShelf supplies i runId composition world) : Settles onShelf supplies i world :=
  h.owns.elim (⟨_, ·, Custody.settled_clean⟩) (⟨_, ·, Custody.settled_composedOf _⟩)

variable {app : App κ}

theorem Refused.of_releases {failure : Exc}
    (h : Releases onShelf supplies i app.revisions.studio.artifactStore failure world) :
    Refused onShelf supplies i app failure world := fun _ hdeletes => h fun hfails =>
  hdeletes (.inr hfails)

theorem Refused.of_empties (h : Empties onShelf supplies i world) (failure : Exc) :
    Refused onShelf supplies i app failure world := fun _ _ => h

/-- A request that revises answers with what it has on the shelf. -/
theorem minds_revised {program : Program (World κ) Exc RevisionCompleted} {request : Request}
    (hcomposes : request.composes? = none)
    (h : (artifactShares onShelf supplies).Minds i (Revises onShelf supplies i)
      (Releases onShelf supplies i app.revisions.studio.artifactStore) world program) :
    (artifactShares onShelf supplies).Minds i (request.Answered onShelf supplies i)
      (Refused onShelf supplies i app) world
      (program >>= fun response => .ret (.revised response)) := by
  apply Shares.minds_bind
  apply h.mono ?_ fun _ _ h => .of_releases h
  intro revision found hrevises
  refine Shares.minds_ret fun later hlater =>
    ⟨(hrevises.spared hlater).settles, fun runId hruns => ?_, ?_⟩
  · rw [hcomposes] at hruns
    cases hruns
  · rintro _ ⟨⟩
    exact hrevises.spared hlater

/-- A bystander has nothing on the shelf. -/
theorem minds_bystander {α : Type} {program : Program (World κ) Exc α} {respond : α → Response}
    {request : Request} (hcomposes : request.composes? = none) (h : Bystander onShelf program)
    (howns : Owns onShelf supplies i .clean world) :
    (artifactShares onShelf supplies).Minds i (request.Answered onShelf supplies i)
      (Refused onShelf supplies i app) world (program >>= fun value => .ret (respond value)) := by
  apply h.minds_then subset_rfl howns ?_ fun failure _ h => .of_empties h.empties failure
  intro value found hclean
  refine Shares.minds_ret fun later hlater => ⟨⟨_, hclean.spared hlater, Custody.settled_clean⟩,
    fun runId hruns => ?_, fun _ _ => .inl (hclean.spared hlater)⟩
  rw [hcomposes] at hruns
  cases hruns

variable (hdisjoint : Pairwise fun i j => Disjoint (supplies i) (supplies j))
  (h : app.Shelves onShelf (supplies i))
include h

theorem App.minds_revising {runId bodyRunId : UUID} {request : HttpRequest}
    {program : String → Program (World κ) Exc RevisionCompleted}
    (howns : Owns onShelf supplies i .clean world)
    (hprogram : ∀ key found, Owns onShelf supplies i .clean found →
      (artifactShares onShelf supplies).Minds i (Revises onShelf supplies i)
        (Releases onShelf supplies i app.revisions.studio.artifactStore) found (program key)) :
    (artifactShares onShelf supplies).Minds i (Revises onShelf supplies i)
      (Releases onShelf supplies i app.revisions.studio.artifactStore) world
      (app.revising runId bodyRunId request program) := by
  apply (app.bystander_requireCapability runId request h _).minds_then subset_rfl howns ?_
    fun failure _ h => h.releases failure
  intro _ found hfound
  have hrefused {status : Nat} {code : String} {later : World κ}
      (hlater : Empties onShelf supplies i later) : (artifactShares onShelf supplies).Minds i
        (Revises onShelf supplies i) (Releases onShelf supplies i
          app.revisions.studio.artifactStore) later (App.httpError status code) :=
    Shares.minds_raise fun _ hspared => (hlater.spared hspared).releases _
  split_ifs
  · exact hrefused hfound.empties
  · exact hrefused hfound.empties
  · refine Shares.minds_tryCatch ((hprogram _ found hfound).mono (fun _ _ h => h) ?_)
    intro failure later hreleases
    cases failure with
    | revisionServiceError code => exact hrefused (hreleases nofun)
    | _ => exact Shares.minds_raise fun _ hspared hnone => (hreleases hnone).spared hspared

include hdisjoint

theorem App.minds_generateComposition {runId : UUID} {request : HttpRequest}
    (howns : Owns onShelf supplies i .clean world) :
    (artifactShares onShelf supplies).Minds i (Composes onShelf supplies i runId)
      (Refused onShelf supplies i app) world (app.generateComposition runId request) := by
  apply (app.bystander_requireCapability runId request h _).minds_then subset_rfl howns ?_
    fun failure _ h => .of_empties h.empties failure
  intro _ found hfound
  split_ifs
  · exact Shares.minds_raise fun _ hlater => .of_empties (hfound.spared hlater).empties _
  · refine Shares.minds_tryCatch ((minds_generate hdisjoint h.compositionRuns h.compositions
      hfound).mono (fun _ _ h => h) ?_)
    rintro failure later (hclean | ⟨⟨rfl, hviolates⟩ | hfails, artifactId, -⟩)
    · cases failure <;>
        exact Shares.minds_raise fun _ hspared => .of_empties (hclean.spared hspared).empties _
    · exact Shares.minds_raise fun _ _ hdescribable => (hviolates (hdescribable rfl)).elim
    · -- The endpoint passes such a failure on.
      have hraised {failure : Exc}
          (hfails : app.compositions.studio.artifactStore.Fails failure) {program}
          (hprogram : program = .raise failure) :
          (artifactShares onShelf supplies).Minds i (Composes onShelf supplies i runId)
            (Refused onShelf supplies i app) later program := by
        subst hprogram
        exact Shares.minds_raise fun _ _ _ hdeletes => (hdeletes (.inl hfails)).elim
      cases failure with
      | osError | objectStorageError => exact hraised hfails rfl
      | _ => cases hfails.1

/-- Every request minds its share. -/
theorem App.minds_handle (request : Request) (howns : Owns onShelf supplies i .clean world) :
    (artifactShares onShelf supplies).Minds i (request.Answered onShelf supplies i)
      (Refused onShelf supplies i app) world (app.handle request) := by
  have hfeedback (feedback : FeedbackRequest) (key : String) {found : World κ}
      (hfound : Owns onShelf supplies i .clean found) :=
    minds_submitFeedback hdisjoint h.revisionRuns h.revisions h.revise h.revisionReview feedback
      key hfound
  have hretry (retry : RetryRequest) (key : String) {found : World κ}
      (hfound : Owns onShelf supplies i .clean found) :=
    minds_retry hdisjoint h.revisionRuns h.revisions h.revise h.revisionReview retry key hfound
  cases request with
  | createRun body => exact minds_bystander rfl (app.bystander_createRun h body) howns
  | analyzeRun runId request =>
      exact minds_bystander rfl (app.bystander_analyzeRun runId request h) howns
  | confirmBrandLock runId brandLock request =>
      exact minds_bystander rfl (app.bystander_confirmBrandLock runId request h brandLock) howns
  | generateDraft runId request =>
      exact minds_bystander rfl (app.bystander_generateDraft runId request h) howns
  | generateComposition runId request =>
      apply Shares.minds_bind
      apply (app.minds_generateComposition hdisjoint h howns).mono ?_ fun _ _ h => h
      intro composition found hcomposes
      refine Shares.minds_ret fun later hlater => ⟨(hcomposes.spared hlater).settles, ?_, ?_⟩
      · rintro _ ⟨⟩
        exact ⟨composition, rfl, hcomposes.spared hlater⟩
      · intro revision hrevision
        cases hrevision
  | runCritic runId request =>
      exact minds_bystander rfl (app.bystander_runCritic runId request h) howns
  | submitFeedback runId feedback request =>
      exact minds_revised rfl (app.minds_revising h howns fun key _ hfound =>
        hfeedback feedback key hfound)
  | retryRevision runId retry request =>
      exact minds_revised rfl (app.minds_revising h howns fun key _ hfound =>
        hretry retry key hfound)
  | feedbackCall feedback key => exact minds_revised rfl (hfeedback feedback key howns)
  | retryCall retry key => exact minds_revised rfl (hretry retry key howns)

end Handling

/-! ## Every run -/

/-- The workflow, where every request has its own source of identifiers. -/
def serving (apps : ι → App κ) (rest : κ) (requests : ι → Request) :
    Config ι (World κ) Exc Response where
  state := ⟨.empty, rest⟩
  threads i := (apps i).handle (requests i)

/-- The identifiers of the requests are apart, and none is on the shelf yet. -/
structure Separate (onShelf : κ → Set UUID) (supplies : ι → Set UUID) (apps : ι → App κ)
    (rest : κ) : Prop where
  shelves : ∀ i, (apps i).Shelves onShelf (supplies i)
  disjoint : Pairwise fun i j => Disjoint (supplies i) (supplies j)
  fresh : ∀ i, Disjoint (onShelf rest) (supplies i)

section Runs

variable {onShelf : κ → Set UUID} {supplies : ι → Set UUID} {apps : ι → App κ} {rest : κ}
  {inbox : ι → Request} {config : Config ι (World κ) Exc Response}

theorem composedArtifacts_empty : Database.empty.composedArtifacts = ∅ := by
  refine Set.eq_empty_iff_forall_notMem.mpr ?_
  rintro artifactId ⟨runId, composition, hstored, -⟩
  cases hstored

theorem revisedArtifacts_empty : Database.empty.revisedArtifacts = ∅ := by
  refine Set.eq_empty_iff_forall_notMem.mpr ?_
  rintro artifactId ⟨runId, composition, ⟨revision, hstored, -⟩, -⟩
  cases hstored

/-- Before the first step nobody has anything. -/
theorem Separate.owns_clean (h : Separate onShelf supplies apps rest) (i : ι) :
    Owns onShelf supplies i .clean (⟨.empty, rest⟩ : World κ) := by
  refine owns_iff.mpr ⟨(h.fresh i).inter_eq, ?_, ?_⟩
  · exact (congrArg (· ∩ supplies i) composedArtifacts_empty).trans (Set.empty_inter _)
  · exact (congrArg (· ∩ supplies i) revisedArtifacts_empty).trans (Set.empty_inter _)

theorem sound_empty (rest : κ) (owner : Option ι) : (artifactShares onShelf supplies).sound
    ((artifactShares onShelf supplies).share owner (⟨.empty, rest⟩ : World κ)) := by
  show Database.empty.composedArtifacts ∩ _ ⊆ _
  rw [composedArtifacts_empty, Set.empty_inter]
  exact Set.empty_subset _

theorem Separate.allMind (h : Separate onShelf supplies apps rest) (inbox : ι → Request) :
    (artifactShares onShelf supplies).AllMind
      (fun i => (inbox i).Answered onShelf supplies i)
      (fun i => Refused onShelf supplies i (apps i))
      (serving apps rest inbox) where
  sound := sound_empty rest
  minds i := (apps i).minds_handle h.disjoint (h.shelves i) (inbox i) (h.owns_clean i)

/-- Every identifier is nobody's or that of a request. -/
theorem mem_supplyOf (supplies : ι → Set UUID) (artifactId : UUID) :
    ∃ owner, artifactId ∈ supplyOf supplies owner := by
  by_cases hmine : ∃ i, artifactId ∈ supplies i
  · obtain ⟨i, hmine⟩ := hmine
    exact ⟨some i, hmine⟩
  · exact ⟨none, fun i hi => hmine ⟨i, hi⟩⟩

variable [DecidableEq ι]

theorem Separate.allMind_of_reaches (h : Separate onShelf supplies apps rest)
    (hreaches : Reaches (serving apps rest inbox) config) :
    (artifactShares onShelf supplies).AllMind
      (fun i => (inbox i).Answered onShelf supplies i)
      (fun i => Refused onShelf supplies i (apps i))
      config ∧
      (artifactShares onShelf supplies).share none config.state =
        (artifactShares onShelf supplies).share none ⟨.empty, rest⟩ := by
  obtain ⟨log, hruns⟩ := hreaches
  obtain ⟨hall, -, hnobody⟩ := (h.allMind inbox).of_runs hruns
  exact ⟨hall, hnobody⟩

end Runs

/-! ## The demo in a directory -/

namespace Demo

open CompositionStorage

abbrev Shelf : Type := Directory CompositionStorage.Demo.storeConfig

def shelfStore : CompositionArtifactStore Shelf :=
  localStore CompositionStorage.Demo.storeConfig (fun _ => none) now

/-- A directory that has an artifact already. -/
def shelf : Shelf :=
  Directory.step ⟨.initial, holds_empty⟩ (.save uiId artifactBytes tomorrow none)

def rivalArtifactId : UUID := ⟨0xb7777777777747778777777777777777, by decide⟩

def oversizedArtifactId : UUID := ⟨0xb5555555555545558555555555555555, by decide⟩

/-- What each request draws. -/
def drawn : Nat → Option UUID
  | 4 => some artifactId
  | 6 => some rivalArtifactId
  | 7 => some oversizedArtifactId
  | 8 => some revisedArtifactId
  | _ => none

def shelfSupplies (i : Nat) : Set UUID := {artifactId | drawn i = some artifactId}

/-- An ad that the store does not take. -/
def oversizedAd : ComposedAd := ⟨artifactBytes ++ List.replicate 100 0, digest.text, layers⟩

def shelfStudio (i : Nat) : Studio Shelf :=
  { studio artifactId shelfStore with
    uuid4 := .ofExcept (orRaise (drawn i) (.other "exhausted"))
    compose := fun _ => .ret (if i = 7 then oversizedAd else composedAd) }

def shelfApp (i : Nat) : App Shelf :=
  { app [] noWarnings shelfStore (revisionService fixtureEngine shelfStore) with
    compositions := ⟨.quiet now, shelfStudio i⟩
    revisions := { revisionService fixtureEngine shelfStore with studio := shelfStudio i } }

theorem mem_shelf : uiId ∈ shelf.onShelf := mem_onShelf_save (by decide) rfl

/-- Whatever is drawn is not in the directory yet. -/
theorem free_of_drawn {i : Nat} {artifactId : UUID} (h : drawn i = some artifactId) :
    shelf.history.stored artifactId = none := by
  have hne : artifactId ≠ uiId := by
    rintro rfl
    revert h
    unfold drawn
    split <;> decide
  exact Directory.stored_step_ne _ _ hne

theorem drawn_inj {i j : Nat} {artifactId : UUID} (hi : drawn i = some artifactId)
    (hj : drawn j = some artifactId) : i = j := by
  revert hi hj
  unfold drawn
  split <;> split <;> rintro ⟨⟩ hj <;> first | rfl | exact absurd hj (by decide)

theorem shelves_shelfStudio (i : Nat) :
    (shelfStudio i).Shelves Directory.onShelf (shelfSupplies i) where
  uuid4 := by
    apply Program.meets_ofExcept
    · exact fun artifactId hdrawn => orRaise_eq_ok.mp hdrawn
    · exact fun _ _ => trivial
  generateBackground _ := trivial
  resolve _ := trivial
  compose _ := trivial
  artifactStore := shelves_localStore _ _

theorem elsewhere_quiet {onShelf : κ → Set UUID} : (Repository.quiet now).Elsewhere onShelf :=
  ⟨trivial, trivial⟩

theorem separate : Separate Directory.onShelf shelfSupplies shelfApp shelf where
  shelves i :=
    { runs := elsewhere_quiet
      compositionRuns := elsewhere_quiet
      revisionRuns := elsewhere_quiet
      compositions := shelves_shelfStudio i
      revisions := shelves_shelfStudio i
      issue := fun _ _ => trivial
      verify := fun _ _ => trivial
      assets := fun _ => trivial
      provider := fun _ _ => trivial
      copywriter := fun _ _ => trivial
      review := elsewhere_review (.ret now) id
      revise := fun _ _ _ => .ofExcept _
      revisionReview := elsewhere_review (.ret now) id
      uuid4 := trivial
      pipelineNow := trivial }
  disjoint _ _ hne := Set.disjoint_left.mpr fun _ hi hj => hne (drawn_inj hi hj)
  fresh _ := Set.disjoint_left.mpr fun _ hshelved hdrawn => hshelved (free_of_drawn hdrawn)

/-- The requests for a first version, two that compose it as well, and feedback on it. -/
def shelfInbox : Nat → Request := requests fun n =>
  if n < 2 then .generateComposition runId httpRequest else .feedbackCall feedback feedbackKey

/-- The directory after the save of a composed ad. -/
def saving (directory : Shelf) (artifactId : UUID) : Shelf :=
  directory.step (.save artifactId artifactBytes tomorrow none)

def deleting (directory : Shelf) (artifactId : UUID) : Shelf :=
  directory.step (.delete artifactId)

/-- The directory after a save that was refused and the delete that follows. -/
def abandoning (directory : Shelf) (artifactId : UUID) : Shelf :=
  deleting (directory.step (.save artifactId oversizedAd.pngBytes tomorrow none)) artifactId

section Free

variable {directory : Shelf} {artifactId other : UUID}

theorem free_saving (hne : other ≠ artifactId) (hfree : directory.history.stored other = none) :
    (saving directory artifactId).history.stored other = none :=
  (directory.stored_step_ne _ hne).trans hfree

theorem free_deleting (hne : other ≠ artifactId) (hfree : directory.history.stored other = none) :
    (deleting directory artifactId).history.stored other = none :=
  (directory.stored_step_ne _ hne).trans hfree

theorem free_abandoning (hne : other ≠ artifactId)
    (hfree : directory.history.stored other = none) :
    (abandoning directory artifactId).history.stored other = none :=
  free_deleting hne ((directory.stored_step_ne _ hne).trans hfree)

/-- An artifact is saved where none has been. -/
theorem keeps_shelfStore (hfree : directory.history.stored artifactId = none) :
    Keeps shelfStore artifactId directory (saving directory artifactId) :=
  ⟨_, rfl, exec_save rfl (by decide) hfree⟩

end Free

theorem authorised_shelfApp (i : Nat) (required : Capability) (directory : Shelf) :
    (shelfApp i).Authorised required runId httpRequest directory :=
  authorised [] noWarnings shelfStore (revisionService fixtureEngine shelfStore) required directory

theorem exec_render_shelf (i : Nat) (adCopy : AdCopy) (db : Database) (directory : Shelf)
    {run : ProjectRun} (hdirection : run.direction = .chinaToUk) :
    ((shelfStudio i).render run lock (draft [] noWarnings).brief adCopy).exec ⟨db, directory⟩ =
      some (.ok (if i = 7 then oversizedAd else composedAd), ⟨db, directory⟩) := by
  obtain ⟨background, hbackground⟩ : ∃ background, BackgroundRequest.validate run.direction
      (draft [] noWarnings).brief.targetLocale (draft [] noWarnings).brief.narrative
      (draft [] noWarnings).brief.useScenario = some background := by
    rw [hdirection]
    exact ⟨_, dif_pos rfl⟩
  exact Studio.exec_render hbackground rfl rfl rfl rfl rfl

theorem exec_produce_shelf {i : Nat} (hi : i ≠ 7) {artifactId : UUID} (db : Database)
    {directory : Shelf} (hfree : directory.history.stored artifactId = none) {run : ProjectRun}
    (hrun : run.id = runId) (hdirection : run.direction = .chinaToUk) :
    ((shelfApp i).compositions.produce run lock (draft [] noWarnings) artifactId now).exec
      ⟨db, directory⟩ = some (.ok (composition artifactId),
        ⟨db, saving directory artifactId⟩) := by
  obtain ⟨stored, hstored, hsave⟩ := keeps_shelfStore hfree
  have hrender := exec_render_shelf i (draft [] noWarnings).adCopy db directory hdirection
  rw [if_neg hi] at hrender
  have hsummary : describeArtifact run.id artifactId composedAd stored now =
      .ok (composition artifactId) := by
    rw [hrun]
    exact describeArtifact_stored artifactId hstored
  exact App.exec_produce hrender nextDay?_now hsave hsummary

/-- The request that renders too much gives up. -/
theorem exec_produce_oversized (db : Database) (directory : Shelf) {run : ProjectRun}
    (hdirection : run.direction = .chinaToUk) :
    ((shelfApp 7).compositions.produce run lock (draft [] noWarnings) oversizedArtifactId now).exec
      ⟨db, directory⟩ = some (.error (.compositionServiceError .persistenceFailed),
        ⟨db, abandoning directory oversizedArtifactId⟩) := by
  obtain ⟨removed, hdelete⟩ := exec_delete (directory.step (.save oversizedArtifactId
    oversizedAd.pngBytes tomorrow none)) oversizedArtifactId
  exact App.exec_produce_unsaved (exec_render_shelf 7 (draft [] noWarnings).adCopy db directory
    hdirection) nextDay?_now (exec_save_refused rfl (by decide)) hdelete

/-- Two calls compose one run: one has saved its artifact when the other stores its composition,
and so it deletes the artifact again and answers with that composition. -/
theorem exists_race {db : Database} (directory : Shelf)
    (hat : db.At now runId (.drafted (evidence [] noWarnings).toDrafted))
    (hrival : directory.history.stored rivalArtifactId = none)
    (hfree : directory.history.stored artifactId = none) :
    ∃ composedDb,
      ((shelfApp 6).compositions.generate runId).Leads ⟨db, directory⟩
        ((shelfApp 6).compositions.persist runId rivalArtifactId (composition rivalArtifactId))
        ⟨db, saving directory rivalArtifactId⟩ ∧
      ((shelfApp 4).compositions.generate runId).exec ⟨db, saving directory rivalArtifactId⟩ =
        some (.ok (composition artifactId),
          ⟨composedDb, saving (saving directory rivalArtifactId) artifactId⟩) ∧
      composedDb.At now runId (.composed (evidence [] noWarnings)) ∧
      ((shelfApp 6).compositions.persist runId rivalArtifactId
          (composition rivalArtifactId)).exec
          ⟨composedDb, saving (saving directory rivalArtifactId) artifactId⟩ =
        some (.ok (composition artifactId), ⟨composedDb,
          deleting (saving (saving directory rivalArtifactId) artifactId) rivalArtifactId⟩) := by
  have hleads := App.leads_persist (rfl : (shelfApp 6).compositions.repository = .quiet now) hat
    rfl fun run hid hdirection => exec_produce_shelf (by decide) db hrival hid hdirection
  have hfree' : (saving directory rivalArtifactId).history.stored artifactId = none :=
    free_saving (by decide) hfree
  have hwins := App.leads_persist (rfl : (shelfApp 4).compositions.repository = .quiet now) hat
    rfl fun run hid hdirection => exec_produce_shelf (by decide) db hfree' hid hdirection
  obtain ⟨composedDb, hpersist, hat'⟩ := App.exec_persist
    (rfl : (shelfApp 4).compositions.repository = .quiet now) hat
    (rfl : (composition artifactId).runId = runId) (evidence [] noWarnings).sources_locked
  obtain ⟨removed, hdelete⟩ :=
    exec_delete (saving (saving directory rivalArtifactId) artifactId) rivalArtifactId
  have hne : composition artifactId ≠ composition rivalArtifactId := by
    intro heq
    have hid : artifactId = rivalArtifactId := congrArg CompositionGenerated.artifactId heq
    exact absurd hid (by decide)
  have hlost := App.exec_persist_lost (rfl : (shelfApp 6).compositions.repository = .quiet now)
    hat'.shows hne rfl hdelete
  exact ⟨composedDb, hleads, hwins.exec.trans hpersist, hat', hlost⟩

/-- One request renders too much, and two race for the composition. The one that comes second
answers with the composition of the first. Then the run is reviewed and revised. -/
theorem exists_shelved : ∃ config, Reaches (serving shelfApp shelf shelfInbox) config ∧
    config.threads 4 = .ret (.composed (composition artifactId)) ∧
    config.threads 6 = .ret (.composed (composition artifactId)) ∧
    config.threads 7 = .raise (.httpException 500 "composition_persistence_failed") ∧
    config.threads 8 = .ret (.revised revisedCompleted) ∧
    config.state.database.getComposition runId = .ok (some (composition artifactId)) ∧
    ∃ revision, config.state.database.getRevision runId = .ok (some revision) ∧
      revision.composition = composition revisedArtifactId := by
  have hserves : (app [] noWarnings shelfStore
      (revisionService fixtureEngine shelfStore)).Serves now runId httpRequest
        (evidence [] noWarnings) passed shelf shelf _ :=
    serves review_passed rfl (keeps_shelfStore (free_of_drawn (rfl : drawn 4 = some artifactId)))
  have hfirst : ∀ m < 4, (serving shelfApp shelf shelfInbox).threads m =
      (app [] noWarnings shelfStore (revisionService fixtureEngine shelfStore)).handle
        (shelfInbox m) := by
    intro m hm
    interval_cases m <;> rfl
  obtain ⟨⟨_, threads⟩, db, hreaches, rfl, hat, hwaiting⟩ := exists_drafted hserves rfl hfirst
  -- The request that renders too much.
  have hfailed := (shelfApp 7).exec_generateComposition_failed rfl
    (authorised_shelfApp 7 .updateProjectRun shelf) rfl hat rfl fun run _ hdirection =>
      exec_produce_oversized db shelf hdirection
  have hrival : (abandoning shelf oversizedArtifactId).history.stored rivalArtifactId = none :=
    free_abandoning (by decide) (free_of_drawn (rfl : drawn 6 = some rivalArtifactId))
  have hfree : (abandoning shelf oversizedArtifactId).history.stored artifactId = none :=
    free_abandoning (by decide) (free_of_drawn (rfl : drawn 4 = some artifactId))
  have hunused : (deleting (saving (saving (abandoning shelf oversizedArtifactId) rivalArtifactId)
      artifactId) rivalArtifactId).history.stored revisedArtifactId = none :=
    free_deleting (by decide) (free_saving (by decide) (free_saving (by decide)
      (free_abandoning (by decide) (free_of_drawn (rfl : drawn 8 = some revisedArtifactId)))))
  generalize abandoning shelf oversizedArtifactId = abandoned at *
  obtain ⟨composedDb, hgenerating, hgenerated, hat', hpersisted⟩ :=
    exists_race abandoned hat hrival hfree
  obtain ⟨handler, hleads⟩ := (shelfApp 6).leads_composing
    (authorised_shelfApp 6 .updateProjectRun abandoned) rfl hgenerating
  have hcomposed := (shelfApp 4).exec_composing
    (authorised_shelfApp 4 .updateProjectRun (saving abandoned rivalArtifactId)) rfl hgenerated
  -- The review and the revision.
  obtain ⟨reviewedDb, critique, hcritic, -, hready⟩ := (shelfApp 5).exec_runCritic rfl
    (authorised_shelfApp 5 .updateProjectRun (deleting (saving (saving abandoned
      rivalArtifactId) artifactId) rivalArtifactId)) rfl hat' review_passed rfl
  have hrevises : (shelfApp 8).revisions.Revises now feedback.runId accepted
      feedback.requestedChanges shortened (composition revisedArtifactId) passed revisedCompleted
      _ _ := revises (keeps_shelfStore hunused)
  obtain ⟨revisedDb, id, revision, hrevised, hshows, -, hrevision, -⟩ :=
    RevisionService.exec_submitFeedback_completes hrevises isIdempotencyKey_feedbackKey
      (hready : reviewedDb.At now feedback.runId (.ready accepted))
  have hother {config : Config Nat (World Shelf) Exc Response} {i j : Nat} {world : World Shelf}
      {program thread : Program (World Shelf) Exc Response} (hne : j ≠ i)
      (hthread : config.threads j = thread) : (config.move i world program).threads j = thread :=
    (config.move_threads_ne world program hne).trans hthread
  have hthreads (m : Nat) (hm : 4 ≤ m) : threads m = (shelfApp m).handle (shelfInbox m) :=
    hwaiting m hm
  have hgivenUp := hreaches.serve (i := 7) (hthreads 7 (by decide))
    (Program.exec_bind_error hfailed)
  have hrivals := hgivenUp.lead (i := 6) (hother (by decide) (hthreads 6 (by decide))) rfl
    hleads.bind
  have hwon := hrivals.serve (i := 4) (hother (by decide) (hother (by decide)
    (hthreads 4 (by decide)))) (Program.exec_bind hcomposed)
  have hbeaten := hwon.serve (i := 6) (hother (by decide) (Config.move_threads_self _ _ _ _))
    (Program.exec_bind (Program.exec_tryCatch hpersisted))
  have hreviewed := hbeaten.serve (i := 5) (hother (by decide) (hother (by decide)
    (hother (by decide) (hother (by decide) (hthreads 5 (by decide)))))) (Program.exec_bind hcritic)
  have hlast := hreviewed.serve (i := 8) (hother (by decide) (hother (by decide)
    (hother (by decide) (hother (by decide) (hother (by decide) (hthreads 8 (by decide)))))))
      (Program.exec_bind hrevised)
  refine ⟨_, hlast, ?_, ?_, ?_, ?_, hshows.getComposition, _, hshows.getRevision, hrevision⟩
  · exact hother (by decide) (hother (by decide) (hother (by decide)
      (Config.move_threads_self _ _ _ _)))
  · exact hother (by decide) (hother (by decide) (Config.move_threads_self _ _ _ _))
  · exact hother (by decide) (hother (by decide) (hother (by decide) (hother (by decide)
      (hother (by decide) (Config.move_threads_self _ _ _ _)))))
  · exact Config.move_threads_self _ _ _ _

end Demo

/-! ## What the shelf has -/

section Shelf

variable {onShelf : κ → Set UUID} {supplies : ι → Set UUID} {apps : ι → App κ} {rest : κ}
  {inbox : ι → Request} {config : Config ι (World κ) Exc Response} [DecidableEq ι]

/-- In every reachable state each stored first version has its artifact on the shelf, and a stored
second version has it too, unless the request that stored it never returns. -/
theorem artifacts_of_reaches (h : Separate onShelf supplies apps rest)
    (hreaches : Reaches (serving apps rest inbox) config) :
    (∀ runId composition, config.state.database.getComposition runId = .ok (some composition) →
      composition.artifactId ∈ onShelf config.state.rest) ∧
    ∀ runId revision, config.state.database.getRevision runId = .ok (some revision) →
      revision.composition.artifactId ∈ onShelf config.state.rest ∨
        ∃ i, revision.composition.artifactId ∈ supplies i ∧
          ∀ later, Reaches config later → ∀ response, later.threads i ≠ .ret response := by
  obtain ⟨hall, hnobody⟩ := h.allMind_of_reaches hreaches
  constructor
  · intro runId composition hstored
    obtain ⟨owner, howner⟩ := mem_supplyOf supplies composition.artifactId
    exact (hall.sound owner ⟨⟨runId, composition, hstored, rfl⟩, howner⟩).1
  · intro runId revision hstored
    have hrevised : revision.composition.artifactId ∈ config.state.database.revisedArtifacts :=
      ⟨runId, _, ⟨revision, hstored, rfl⟩, rfl⟩
    obtain ⟨owner | i, howner⟩ := mem_supplyOf supplies revision.composition.artifactId
    · -- Nobody's artifacts are in no version.
      have hempty : config.state.database.revisedArtifacts ∩ supplyOf supplies none = ∅ :=
        (congrArg Custody.revised hnobody).trans
          ((congrArg (· ∩ supplyOf supplies none) revisedArtifacts_empty).trans (Set.empty_inter _))
      exact (Set.eq_empty_iff_forall_notMem.mp hempty _ ⟨hrevised, howner⟩).elim
    · by_cases hshelved : revision.composition.artifactId ∈ onShelf config.state.rest
      · exact .inl hshelved
      · refine .inr ⟨i, howner, fun later ⟨log, hruns⟩ response hthread => hshelved ?_⟩
        obtain ⟨hall', hle, -⟩ := hall.of_runs hruns
        obtain ⟨_, rfl, hsettled⟩ := (hall'.returned hthread).settles
        have hback := (Set.ext_iff.mp hsettled revision.composition.artifactId).mpr
          (.inr ⟨hle.versions.revisedArtifacts_subset hrevised, howner⟩)
        exact hle.gone _ hrevised hback.1

theorem artifacts_of_reaches_demo : ∃ config,
    Reaches (serving Demo.shelfApp Demo.shelf Demo.shelfInbox) config ∧
      config.threads 4 = .ret (.composed (Demo.composition Demo.artifactId)) ∧
      config.threads 8 = .ret (.revised Demo.revisedCompleted) ∧
      Demo.artifactId ∈ config.state.rest.onShelf ∧
      Demo.revisedArtifactId ∈ config.state.rest.onShelf := by
  obtain ⟨config, hreaches, hcomposed, -, -, hrevised, hfirst, revision, hsecond, hrevision⟩ :=
    Demo.exists_shelved
  obtain ⟨hversions, hrevisions⟩ := artifacts_of_reaches Demo.separate hreaches
  refine ⟨config, hreaches, hcomposed, hrevised, hversions _ _ hfirst, ?_⟩
  have hid : revision.composition.artifactId = Demo.revisedArtifactId :=
    congrArg CompositionGenerated.artifactId hrevision
  rw [← hid]
  rcases hrevisions _ _ hsecond with hshelved | ⟨i, hsupply, hnever⟩
  · exact hshelved
  · -- The request that drew it has returned.
    rw [hid] at hsupply
    have hi : i = 8 := Demo.drawn_inj hsupply rfl
    rw [hi] at hnever
    exact (hnever config (.refl _) _ hrevised).elim

/-- A request that has returned left on the shelf exactly what the versions refer to, one that has
raised left nothing, unless its composition violated the contract or the store could not delete,
and what was there before is still there. -/
theorem shelf_of_reaches (h : Separate onShelf supplies apps rest)
    (hreaches : Reaches (serving apps rest inbox) config) :
    (∀ i response, config.threads i = .ret response →
      onShelf config.state.rest ∩ supplies i =
        (config.state.database.composedArtifacts ∪ config.state.database.revisedArtifacts) ∩
          supplies i) ∧
    (∀ i failure, config.threads i = .raise failure → failure ≠ contractViolation →
      failure.isStorageFault = false → onShelf config.state.rest ∩ supplies i = ∅) ∧
    {artifactId ∈ onShelf config.state.rest | ∀ i, artifactId ∉ supplies i} = onShelf rest := by
  obtain ⟨hall, hnobody⟩ := h.allMind_of_reaches hreaches
  refine ⟨fun i response hthread => ?_, fun i failure hthread hviolation hnone => ?_, ?_⟩
  · obtain ⟨_, rfl, hsettled⟩ := (hall.returned hthread).settles
    rw [Set.union_inter_distrib_right]
    exact hsettled
  · obtain ⟨_, rfl, hempty⟩ := hall.raised hthread (fun h => absurd h hviolation)
      ((apps i).not_failsToDelete hnone)
    exact hempty
  · have hshelf : onShelf config.state.rest ∩ supplyOf supplies none =
        onShelf rest ∩ supplyOf supplies none := congrArg Custody.shelved hnobody
    have hfresh : onShelf rest ∩ supplyOf supplies none = onShelf rest :=
      Set.inter_eq_left.mpr fun artifactId hbefore i hi =>
        Set.disjoint_left.mp (h.fresh i) hbefore hi
    exact hshelf.trans hfresh

theorem shelf_of_reaches_demo : ∃ config,
    Reaches (serving Demo.shelfApp Demo.shelf Demo.shelfInbox) config ∧
      config.state.rest.onShelf ∩ Demo.shelfSupplies 6 =
        (config.state.database.composedArtifacts ∪ config.state.database.revisedArtifacts) ∩
          Demo.shelfSupplies 6 ∧
      config.state.rest.onShelf ∩ Demo.shelfSupplies 7 = ∅ ∧
      Demo.uiId ∈ config.state.rest.onShelf := by
  obtain ⟨config, hreaches, -, hbeaten, hraised, -⟩ := Demo.exists_shelved
  obtain ⟨hreturned, hempty, hbefore⟩ := shelf_of_reaches Demo.separate hreaches
  refine ⟨config, hreaches, hreturned 6 _ hbeaten, hempty 7 _ hraised ?_ rfl, ?_⟩
  · rintro ⟨⟩
  · have hthere : Demo.uiId ∈ Demo.shelf.onShelf := Demo.mem_shelf
    rw [← hbefore] at hthere
    exact hthere.1

/-- Of all requests that compose one run, however they race, those that return answer with the
stored composition, and of all their artifacts only its own is on the shelf. Those that raise leave
none, unless their composition violated the contract or the store could not delete. -/
theorem composed_of_race (h : Separate onShelf supplies apps rest)
    (hreaches : Reaches (serving apps rest inbox) config) {runId : UUID} {i : ι}
    {response : Response} (hcomposes : (inbox i).composes? = some runId)
    (hthread : config.threads i = .ret response) :
    ∃ composition, response = .composed composition ∧
      config.state.database.getComposition runId = .ok (some composition) ∧
      composition.artifactId ∈ onShelf config.state.rest ∧
      (∀ j response', (inbox j).composes? = some runId → config.threads j = .ret response' →
        response' = .composed composition ∧
          onShelf config.state.rest ∩ supplies j ⊆ {composition.artifactId}) ∧
      ∀ j failure, config.threads j = .raise failure → failure ≠ contractViolation →
        failure.isStorageFault = false → onShelf config.state.rest ∩ supplies j = ∅ := by
  obtain ⟨hall, -⟩ := h.allMind_of_reaches hreaches
  obtain ⟨composition, rfl, hanswer⟩ := (hall.returned hthread).composes runId hcomposes
  refine ⟨composition, rfl, hanswer.stored, ?_, fun j response' hcomposes' hthread' => ?_,
    fun j failure hthread' hviolation hnone => ?_⟩
  · obtain ⟨owner, howner⟩ := mem_supplyOf supplies composition.artifactId
    exact (hall.sound owner ⟨⟨runId, composition, hanswer.stored, rfl⟩, howner⟩).1
  · obtain ⟨other, rfl, hanswer'⟩ := (hall.returned hthread').composes runId hcomposes'
    -- Both are the stored composition.
    have hstored := hanswer'.stored.symm.trans hanswer.stored
    cases hstored
    exact ⟨rfl, hanswer'.onShelf_subset⟩
  · obtain ⟨_, rfl, hempty⟩ := hall.raised hthread' (fun h => absurd h hviolation)
      ((apps j).not_failsToDelete hnone)
    exact hempty

theorem composed_of_race_demo : ∃ config,
    Reaches (serving Demo.shelfApp Demo.shelf Demo.shelfInbox) config ∧
      config.threads 6 = .ret (.composed (Demo.composition Demo.artifactId)) ∧
      config.state.database.getComposition Demo.runId =
        .ok (some (Demo.composition Demo.artifactId)) ∧
      Demo.artifactId ∈ config.state.rest.onShelf ∧
      config.state.rest.onShelf ∩ Demo.shelfSupplies 4 ⊆ {Demo.artifactId} ∧
      config.state.rest.onShelf ∩ Demo.shelfSupplies 7 = ∅ := by
  obtain ⟨config, hreaches, hcomposed, hbeaten, hraised, -⟩ := Demo.exists_shelved
  obtain ⟨composition, hresponse, hstored, hshelved, hothers, hempty⟩ :=
    composed_of_race Demo.separate hreaches (i := 6) rfl hbeaten
  cases hresponse
  refine ⟨config, hreaches, hbeaten, hstored, hshelved, (hothers 4 _ rfl hcomposed).2,
    hempty 7 _ hraised ?_ rfl⟩
  rintro ⟨⟩

end Shelf

end CultureShift
