/-
# Compositions at the same time

Calls of the composition service race with each other and with every other
request. While the compositor keeps the contract of a composition and the store
deletes what it is told to, all calls that return answer with the one stored
composition, and whatever else they saved is gone again. An ad that is saved
and then refused by the contract leaves its artifact behind.
-/

import CultureShift.Lifecycle.Artifacts

namespace CultureShift

open Serialization Relational Concurrent

variable {ι κ : Type}

/-! ## Calls -/

/-- A request, or a call of the composition service itself. -/
inductive Invocation
  | endpoint (request : Request)
  | generate (runId : UUID)

def App.invoke (app : App κ) : Invocation → Program (World κ) Exc Response
  | .endpoint request => app.handle request
  | .generate runId => do return .composed (← app.compositions.generate runId)

/-- The calls are about to be made, each with identifiers of its own. -/
def calling (apps : ι → App κ) (rest : κ) (inbox : ι → Invocation) :
    Config ι (World κ) Exc Response where
  state := ⟨.empty, rest⟩
  threads i := (apps i).invoke (inbox i)

section Invoking

variable {onShelf : κ → Set UUID} {supplies : ι → Set UUID} {i : ι} {world : World κ}

def Invocation.Answered (onShelf : κ → Set UUID) (supplies : ι → Set UUID) (i : ι) :
    Invocation → Response → World κ → Prop
  | .endpoint request, response, world => request.Answered onShelf supplies i response world
  | .generate runId, response, world => ∃ composition, response = .composed composition ∧
      Composes onShelf supplies i runId composition world

def Invocation.Refused (onShelf : κ → Set UUID) (supplies : ι → Set UUID) (i : ι) (app : App κ) :
    Invocation → Exc → World κ → Prop
  | .endpoint _, failure, world => CultureShift.Refused onShelf supplies i app failure world
  | .generate _, failure, world =>
      Clears onShelf supplies i app.compositions.studio failure world

theorem App.minds_invoke {app : App κ}
    (hdisjoint : Pairwise fun i j => Disjoint (supplies i) (supplies j))
    (h : app.Shelves onShelf (supplies i)) (invocation : Invocation)
    (howns : Owns onShelf supplies i .clean world) :
    (artifactShares onShelf supplies).Minds i (invocation.Answered onShelf supplies i)
      (invocation.Refused onShelf supplies i app) world (app.invoke invocation) := by
  cases invocation with
  | endpoint request => exact app.minds_handle hdisjoint h request howns
  | generate runId =>
      apply Shares.minds_bind
      apply (minds_generate hdisjoint h.compositionRuns h.compositions howns).mono ?_
        fun _ _ h => h
      exact fun composition _ hcomposes => Shares.minds_ret fun _ hlater =>
        ⟨composition, rfl, hcomposes.spared hlater⟩

end Invoking

/-! ## Every run -/

section Runs

variable {onShelf : κ → Set UUID} {supplies : ι → Set UUID} {apps : ι → App κ} {rest : κ}
  {inbox : ι → Invocation} {config : Config ι (World κ) Exc Response}

theorem Separate.allMind_calling (h : Separate onShelf supplies apps rest)
    (inbox : ι → Invocation) :
    (artifactShares onShelf supplies).AllMind
      (fun i => (inbox i).Answered onShelf supplies i)
      (fun i => (inbox i).Refused onShelf supplies i (apps i)) (calling apps rest inbox) where
  sound := sound_empty rest
  minds i := (apps i).minds_invoke h.disjoint (h.shelves i) (inbox i) (h.owns_clean i)

/-- The calls keep the discipline of the workflow. -/
theorem calling_keeps (apps : ι → App κ) (rest : κ) (inbox : ι → Invocation) :
    Discipline.Keeps (requests fun _ _ => True) (fun _ _ => True) (fun _ _ _ _ => True)
      (fun _ _ _ _ => True) (fun _ => ∅) (calling apps rest inbox) := by
  refine Discipline.keeps_of_safe (fun runId => .inl (empty_absent runId)) (not_held_empty rest)
    fun i => ?_
  have hany (request : Request) :
      Discipline.Safe (requests fun _ _ => True) (fun _ => True)
        (request.Completed (apps i).revisions)
        (request.Declined (apps i).revisions fun _ => True) ∅ ⟨.empty, rest⟩
        ((apps i).handle request) :=
    (apps i).safe_handle (fun _ => Program.returns_true _) (fun _ => Program.returns_true _)
      noReceipt_empty request
  show Discipline.Safe _ _ _ _ _ _ ((apps i).invoke (inbox i))
  cases inbox i with
  | endpoint request => exact (hany request).mono (fun _ _ _ _ => trivial) fun _ _ _ _ => trivial
  | generate runId => exact ((orderly_generate _ runId).bind fun _ => .ret _).safe _ _

variable [DecidableEq ι]

/-- A stored composition is the first one that the run was given. -/
theorem counted_of_calling (hreaches : Reaches (calling apps rest inbox) config) {runId : UUID}
    {composition : CompositionGenerated}
    (hstored : config.state.database.getComposition runId = .ok (some composition)) :
    ∃ context, config.state.database.contexts.find runId = some context ∧
      context.initialGenerationCount = 1 := by
  obtain ⟨log, hruns⟩ := hreaches
  obtain ⟨owns, hkeeps, -⟩ := Discipline.keeps_of_runs hruns (calling_keeps apps rest inbox)
    fun _ _ => trivial
  rcases hkeeps.inv runId with habsent | ⟨stage, hshows, -⟩
  · rw [Database.getComposition_eq_some_iff, habsent.context] at hstored
    cases hstored
  · refine ⟨stage.context, hshows.context, ?_⟩
    have hcomposed : stage.composed?.map (fun evidence => evidence.composition) =
        some composition := Except.ok.inj (hshows.getComposition.symm.trans hstored)
    obtain ⟨evidence, hevidence, -⟩ := Option.map_eq_some_iff.mp hcomposed
    simp [Stage.context, hevidence]

end Runs

/-! ## What a call leaves -/

section Cleared

variable {onShelf : κ → Set UUID} {supplies : ι → Set UUID} {apps : ι → App κ} {rest : κ}
  {inbox : ι → Invocation} {config : Config ι (World κ) Exc Response}
  {log : List (Event ι (World κ))}

/-- Both services can delete. -/
def App.Deletes (app : App κ) : Prop :=
  app.compositions.studio.artifactStore.Deletes ∧ app.revisions.studio.artifactStore.Deletes

variable [DecidableEq ι]

omit [DecidableEq ι]

/-- With collaborators that keep their contracts a call that has raised has nothing on the shelf. -/
theorem Invocation.Refused.empty {app : App κ} {invocation : Invocation} {failure : Exc}
    {i : ι} {world : World κ} (h : invocation.Refused onShelf supplies i app failure world)
    (hdescribable : app.compositions.studio.Describable) (hdeletes : app.Deletes) :
    onShelf world.rest ∩ supplies i = ∅ := by
  cases invocation with
  | endpoint request =>
      obtain ⟨_, rfl, hempty⟩ := h (fun _ => hdescribable) (by
        rintro (⟨-, hfails⟩ | ⟨-, hfails⟩)
        · exact hfails hdeletes.1
        · exact hfails hdeletes.2)
      exact hempty
  | generate runId =>
      rcases h with hclean | ⟨⟨-, hviolates⟩ | ⟨-, hfails⟩, -⟩
      · exact (owns_iff.mp hclean).1
      · exact (hviolates hdescribable).elim
      · exact (hfails hdeletes.1).elim

end Cleared

/-! ## The demo composed by several calls -/

namespace Demo

open CompositionStorage

/-- Three calls compose the run that the first requests draft. -/
def callers : Nat → Invocation
  | 4 | 6 | 7 => .generate runId
  | n => .endpoint (shelfInbox n)

theorem conforms_shelfApp (i : Nat) : (shelfApp i).compositions.studio.Conforms := by
  intro request
  show (if i = 7 then oversizedAd else composedAd).Conforms
  split_ifs <;> exact ⟨rfl, by decide⟩

theorem deletes_shelfApp (i : Nat) : (shelfApp i).Deletes :=
  ⟨deletes_localStore, deletes_localStore⟩

/-- The run is drafted, and nobody has composed it. -/
theorem exists_called (apps : Nat → App Shelf) (hfirst : ∀ m < 4, apps m = shelfApp m) :
    ∃ log config db, Runs (calling apps shelf callers) log config ∧ config.state = ⟨db, shelf⟩ ∧
      db.At now runId (.drafted (evidence [] noWarnings).toDrafted) ∧
      ∀ m, 4 ≤ m → config.threads m = (apps m).invoke (callers m) := by
  have hserves : (app [] noWarnings shelfStore
      (revisionService fixtureEngine shelfStore)).Serves now runId httpRequest
        (evidence [] noWarnings) passed shelf shelf _ :=
    serves review_passed rfl (keeps_shelfStore (free_of_drawn (rfl : drawn 4 = some artifactId)))
  have hthreads : ∀ m < 4, (calling apps shelf callers).threads m =
      (app [] noWarnings shelfStore (revisionService fixtureEngine shelfStore)).handle
        (shelfInbox m) := by
    intro m hm
    show (apps m).invoke (callers m) = _
    rw [hfirst m hm]
    interval_cases m <;> rfl
  obtain ⟨config, db, ⟨log, hruns⟩, hstate, hat, hwaiting⟩ := exists_drafted hserves rfl hthreads
  exact ⟨log, config, db, hruns, hstate, hat, hwaiting⟩

/-- Two of the calls race, and the third renders too much. -/
theorem exists_raced : ∃ log config, Runs (calling shelfApp shelf callers) log config ∧
    config.threads 4 = .ret (.composed (composition artifactId)) ∧
    config.threads 6 = .ret (.composed (composition artifactId)) ∧
    config.threads 7 = .raise (.compositionServiceError .persistenceFailed) ∧
    config.state.database.getComposition runId = .ok (some (composition artifactId)) := by
  obtain ⟨log, ⟨_, threads⟩, db, hruns, rfl, hat, hwaiting⟩ :=
    exists_called shelfApp fun _ _ => rfl
  have hfailed := App.exec_generate_failed (rfl : (shelfApp 7).compositions.repository = .quiet now)
    hat rfl fun run _ hdirection => exec_produce_oversized db shelf hdirection
  have hrival : (abandoning shelf oversizedArtifactId).history.stored rivalArtifactId = none :=
    free_abandoning (by decide) (free_of_drawn (rfl : drawn 6 = some rivalArtifactId))
  have hfree : (abandoning shelf oversizedArtifactId).history.stored artifactId = none :=
    free_abandoning (by decide) (free_of_drawn (rfl : drawn 4 = some artifactId))
  generalize abandoning shelf oversizedArtifactId = abandoned at *
  obtain ⟨composedDb, hgenerating, hgenerated, hat', hpersisted⟩ :=
    exists_race abandoned hat hrival hfree
  have hother {config : Config Nat (World Shelf) Exc Response} {i j : Nat} {world : World Shelf}
      {program thread : Program (World Shelf) Exc Response} (hne : j ≠ i)
      (hthread : config.threads j = thread) : (config.move i world program).threads j = thread :=
    (config.move_threads_ne world program hne).trans hthread
  have hgivenUp := (Reaches.refl _).serve (i := 7) (hwaiting 7 (by decide))
    (Program.exec_bind_error hfailed)
  have hrivals := hgivenUp.lead (i := 6) (hother (by decide) (hwaiting 6 (by decide))) rfl
    hgenerating.bind
  have hwon := hrivals.serve (i := 4) (hother (by decide) (hother (by decide)
    (hwaiting 4 (by decide)))) (Program.exec_bind hgenerated)
  obtain ⟨log', hbeaten⟩ := hwon.serve (i := 6) (hother (by decide)
    (Config.move_threads_self _ _ _ _)) (Program.exec_bind hpersisted)
  refine ⟨_, _, hruns.trans hbeaten, ?_, Config.move_threads_self _ _ _ _, ?_,
    hat'.shows.getComposition⟩
  · exact hother (by decide) (Config.move_threads_self _ _ _ _)
  · exact hother (by decide) (hother (by decide) (hother (by decide)
      (Config.move_threads_self _ _ _ _)))

end Demo

/-! ## Every interleaving -/

section Called

variable {onShelf : κ → Set UUID} {supplies : ι → Set UUID} {apps : ι → App κ} {rest : κ}
  {inbox : ι → Invocation} {config : Config ι (World κ) Exc Response}
  {log : List (Event ι (World κ))} [DecidableEq ι]

/-- Calls that compose one run, with compositors that keep the contract, agree on one composition,
which stays what it is and is the first of its run. Of all their artifacts only its own is left
where they have ended. -/
theorem compositions_converge (h : Separate onShelf supplies apps rest)
    (hconforms : ∀ i, (apps i).compositions.studio.Conforms)
    (hdeletes : ∀ i, (apps i).compositions.studio.artifactStore.Deletes)
    (hreaches : Reaches (calling apps rest inbox) config) (runId : UUID) :
    (∀ i response, inbox i = .generate runId → config.threads i = .ret response →
      ∃ composition, response = .composed composition ∧
        config.state.database.getComposition runId = .ok (some composition)) ∧
    (∀ composition, config.state.database.getComposition runId = .ok (some composition) →
      (∀ later, Reaches config later →
        later.state.database.getComposition runId = .ok (some composition)) ∧
      (∃ context, config.state.database.contexts.find runId = some context ∧
        context.initialGenerationCount = 1) ∧
      composition.artifactId ∈ onShelf config.state.rest) ∧
    ∀ i, inbox i = .generate runId → (config.threads i).result?.isSome = true →
      ∀ artifactId ∈ onShelf config.state.rest ∩ supplies i, ∃ composition,
        config.state.database.getComposition runId = .ok (some composition) ∧
          composition.artifactId = artifactId := by
  obtain ⟨log, hruns⟩ := hreaches
  obtain ⟨hall, -⟩ := (h.allMind_calling inbox).of_runs hruns
  have hanswers {i : ι} {response : Response} (hcall : inbox i = .generate runId)
      (hthread : config.threads i = .ret response) : ∃ composition,
        response = .composed composition ∧
          Composes onShelf supplies i runId composition config.state := by
    have hanswered := hall.returned hthread
    rw [hcall] at hanswered
    exact hanswered
  refine ⟨fun i response hcall hthread => ?_, fun composition hstored => ⟨?_, ?_, ?_⟩,
    fun i hcall hdone artifactId hshelved => ?_⟩
  · obtain ⟨composition, hresponse, hcomposes⟩ := hanswers hcall hthread
    exact ⟨composition, hresponse, hcomposes.stored⟩
  · rintro later ⟨log', hlater⟩
    obtain ⟨-, hle, -⟩ := hall.of_runs hlater
    exact hle.versions.compositions _ _ hstored
  · exact counted_of_calling ⟨log, hruns⟩ hstored
  · obtain ⟨owner, howner⟩ := mem_supplyOf supplies composition.artifactId
    exact (hall.sound owner ⟨⟨runId, composition, hstored, rfl⟩, howner⟩).1
  · cases hthread : config.threads i with
    | ret response =>
        obtain ⟨composition, -, hcomposes⟩ := hanswers hcall hthread
        exact ⟨composition, hcomposes.stored, (hcomposes.onShelf_subset hshelved).symm⟩
    | raise failure =>
        have hrefused := hall.raised hthread
        rw [hcall] at hrefused
        rcases hrefused with hclean | ⟨⟨-, hviolates⟩ | ⟨-, hfails⟩, -⟩
        · rw [(owns_iff.mp hclean).1] at hshelved
          exact hshelved.elim
        · exact (hviolates (hconforms i).describable).elim
        · exact (hfails (hdeletes i)).elim
    | _ =>
        rw [hthread] at hdone
        cases hdone

theorem compositions_converge_shelf : ∃ config,
    Reaches (calling Demo.shelfApp Demo.shelf Demo.callers) config ∧
      (config.threads 6 = .ret (.composed (Demo.composition Demo.artifactId)) ∧
        config.state.database.getComposition Demo.runId =
          .ok (some (Demo.composition Demo.artifactId))) ∧
      (∃ context, config.state.database.contexts.find Demo.runId = some context ∧
        context.initialGenerationCount = 1) ∧
      Demo.artifactId ∈ config.state.rest.onShelf ∧
      ∀ artifactId ∈ config.state.rest.onShelf, artifactId ∉ Demo.shelfSupplies 6 ∧
        artifactId ∉ Demo.shelfSupplies 7 := by
  obtain ⟨log, config, hruns, hwon, hbeaten, hraised, hstored⟩ := Demo.exists_raced
  obtain ⟨hagree, hkept, hleft⟩ := compositions_converge Demo.separate Demo.conforms_shelfApp
    (fun i => (Demo.deletes_shelfApp i).1) ⟨log, hruns⟩ Demo.runId
  obtain ⟨-, hcounted, hshelved⟩ := hkept _ hstored
  obtain ⟨composition, hresponse, hanswer⟩ := hagree 6 _ rfl hbeaten
  cases hresponse
  have hnone {i : Nat} (hcall : Demo.callers i = .generate Demo.runId)
      (hdone : (config.threads i).result?.isSome = true) (hi : i ≠ 4) {artifactId : UUID}
      (hthere : artifactId ∈ config.state.rest.onShelf) : artifactId ∉ Demo.shelfSupplies i := by
    intro hmine
    obtain ⟨other, hother, hartifact⟩ := hleft i hcall hdone artifactId ⟨hthere, hmine⟩
    cases hother.symm.trans hstored
    rw [← hartifact] at hmine
    exact hi (Demo.drawn_inj hmine rfl)
  refine ⟨config, ⟨log, hruns⟩, ⟨hbeaten, hanswer⟩, hcounted, hshelved,
    fun artifactId hthere => ⟨hnone rfl ?_ (by decide) hthere, hnone rfl ?_ (by decide) hthere⟩⟩
  · rw [hbeaten]
    rfl
  · rw [hraised]
    rfl

end Called

end CultureShift
