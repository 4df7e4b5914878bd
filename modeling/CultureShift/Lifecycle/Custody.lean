/-
# The custody of artifacts

Every request draws its artifact identifiers from a supply of its own. What the
requests share is the shelf of the artifact store and the versions that refer to
it; the share of a request is what shelf and versions have of its supply. Only
the composition and the revision service touch any of that, so all other
requests are bystanders.
-/

import CultureShift.Concurrent.Shares
import CultureShift.Lifecycle.Elsewhere
import CultureShift.Lifecycle.Workflow
import CultureShift.Repository.Artifacts
import Mathlib.Order.CompletePartialOrder

namespace CultureShift

open Serialization Relational Concurrent

variable {ι κ α β : Type}

/-! ## The shelf -/

/-- What a store raises that cannot reach its files or objects. -/
def Exc.isStorageFault : Exc → Bool
  | .osError | .objectStorageError => true
  | _ => false

/-- The store keeps the artifacts of this shelf: a save that returns puts its artifact there, one
that raises changes nothing, and a delete that returns removes its artifact. A delete that raises
may or may not have removed it. -/
structure CompositionArtifactStore.Shelves (store : CompositionArtifactStore κ)
    (onShelf : κ → Set UUID) : Prop where
  save : ∀ artifactId pngBytes expiresAt,
    (store.save artifactId pngBytes expiresAt).Calls fun before outcome after =>
      (∃ record, outcome = .ok record ∧ onShelf after = insert artifactId (onShelf before)) ∨
        ∃ failure, outcome = .error failure ∧ onShelf after = onShelf before
  delete : ∀ artifactId, (store.delete artifactId).Calls fun before outcome after =>
    (∃ removed, outcome = .ok removed ∧ onShelf after = onShelf before \ {artifactId}) ∨
      ∃ failure, outcome = .error failure ∧ failure.isStorageFault = true ∧
        (onShelf after = onShelf before ∨ onShelf after = onShelf before \ {artifactId})

/-- Every delete of the store returns. -/
def CompositionArtifactStore.Deletes (store : CompositionArtifactStore κ) : Prop :=
  ∀ artifactId, (store.delete artifactId).Calls fun _ outcome _ => ∃ removed, outcome = .ok removed

/-- What a delete of the store may raise. -/
def CompositionArtifactStore.Fails (store : CompositionArtifactStore κ) (failure : Exc) : Prop :=
  failure.isStorageFault = true ∧ ¬store.Deletes

/-- A delete that returns removes its artifact; one that raises may or may not have removed it. -/
theorem CompositionArtifactStore.Shelves.deletes {store : CompositionArtifactStore κ}
    {onShelf : κ → Set UUID} (h : store.Shelves onShelf) (artifactId : UUID) :
    (store.delete artifactId).Calls fun before outcome after =>
      (∃ removed, outcome = .ok removed ∧ onShelf after = onShelf before \ {artifactId}) ∨
        ∃ failure, outcome = .error failure ∧ store.Fails failure ∧
          (onShelf after = onShelf before ∨ onShelf after = onShelf before \ {artifactId}) := by
  by_cases hdeletes : store.Deletes
  · refine ((h.delete artifactId).and (hdeletes artifactId)).mono ?_
    rintro before outcome after ⟨hremoved | ⟨_, rfl, -⟩, removed, hreturned⟩
    · exact .inl hremoved
    · cases hreturned
  · refine (h.delete artifactId).mono ?_
    rintro before outcome after (hremoved | ⟨failure, hraised, hfault, hleft⟩)
    · exact .inl hremoved
    · exact .inr ⟨failure, hraised, ⟨hfault, hdeletes⟩, hleft⟩

/-- The studio keeps its artifacts on the shelf, under identifiers of this supply. -/
structure Studio.Shelves (studio : Studio κ) (onShelf : κ → Set UUID) (supply : Set UUID) :
    Prop where
  uuid4 : studio.uuid4.Meets (fun _ => True)
    (fun before after => onShelf after = onShelf before) (· ∈ supply) fun _ => True
  generateBackground : ∀ request, Elsewhere onShelf (studio.generateBackground request)
  resolve : ∀ assetId, Elsewhere onShelf (studio.resolve assetId)
  compose : ∀ request, Elsewhere onShelf (studio.compose request)
  artifactStore : studio.artifactStore.Shelves onShelf

/-- Both services keep their artifacts on the shelf, and nobody else touches it. -/
structure App.Shelves (app : App κ) (onShelf : κ → Set UUID) (supply : Set UUID) : Prop where
  runs : app.runs.Elsewhere onShelf
  compositionRuns : app.compositions.repository.Elsewhere onShelf
  revisionRuns : app.revisions.repository.Elsewhere onShelf
  compositions : app.compositions.studio.Shelves onShelf supply
  revisions : app.revisions.studio.Shelves onShelf supply
  issue : ∀ subject capabilities, Elsewhere onShelf (app.tokens.issue subject capabilities)
  verify : ∀ token required, Elsewhere onShelf (app.tokens.verify token required)
  assets : ∀ assetId, Elsewhere onShelf (app.assets.load assetId)
  provider : ∀ request attempt, Elsewhere onShelf (app.provider.analyze request attempt)
  copywriter : ∀ brief ruleIds, Elsewhere onShelf (app.copywriter.write brief ruleIds)
  review : ∀ request, Elsewhere onShelf (app.review request)
  revise : ∀ direction draft changes,
    Elsewhere onShelf (app.revisions.revise direction draft changes)
  revisionReview : ∀ request, Elsewhere onShelf (app.revisions.review request)
  uuid4 : Elsewhere onShelf app.uuid4
  pipelineNow : Elsewhere onShelf app.pipelineNow

/-! ## Shares of the shelf -/

/-- What is on the shelf, and what the first and the second versions refer to. -/
@[ext]
structure Custody where
  shelved : Set UUID
  composed : Set UUID
  revised : Set UUID

namespace Custody

/-- What concerns these identifiers only. -/
def among (custody : Custody) (supply : Set UUID) : Custody where
  shelved := custody.shelved ∩ supply
  composed := custody.composed ∩ supply
  revised := custody.revised ∩ supply

/-- Nothing was saved. -/
def clean : Custody := ⟨∅, ∅, ∅⟩

/-- An artifact was saved that no version refers to. -/
def saved (artifactId : UUID) : Custody := ⟨{artifactId}, ∅, ∅⟩

def composedOf (artifactId : UUID) : Custody := ⟨{artifactId}, {artifactId}, ∅⟩

def revisedOf (artifactId : UUID) : Custody := ⟨{artifactId}, ∅, {artifactId}⟩

/-- The artifact of a second version was deleted. -/
def lost (artifactId : UUID) : Custody := ⟨∅, ∅, {artifactId}⟩

/-- Every first version has its artifact. -/
def Sound (custody : Custody) : Prop := custody.composed ⊆ custody.shelved

/-- What is on the shelf is what the versions refer to. -/
def Settled (custody : Custody) : Prop := custody.shelved = custody.composed ∪ custody.revised

theorem settled_clean : clean.Settled := (Set.union_empty ∅).symm

theorem settled_composedOf (artifactId : UUID) : (composedOf artifactId).Settled :=
  (Set.union_empty _).symm

theorem settled_revisedOf (artifactId : UUID) : (revisedOf artifactId).Settled :=
  (Set.empty_union _).symm

end Custody

def custody (onShelf : κ → Set UUID) (world : World κ) : Custody :=
  ⟨onShelf world.rest, world.database.composedArtifacts, world.database.revisedArtifacts⟩

/-- The identifiers of a request; `none` has those of nobody. -/
def supplyOf (supplies : ι → Set UUID) : Option ι → Set UUID
  | some i => supplies i
  | none => {artifactId | ∀ i, artifactId ∉ supplies i}

/-- Stored versions stay, and an artifact of a second version that is gone does not come back. -/
structure KeepsVersions (onShelf : κ → Set UUID) (world world' : World κ) : Prop where
  versions : world.database.KeepsVersions world'.database
  gone : ∀ artifactId ∈ world.database.revisedArtifacts,
    artifactId ∈ onShelf world'.rest → artifactId ∈ onShelf world.rest

def artifactShares (onShelf : κ → Set UUID) (supplies : ι → Set UUID) :
    Shares ι (World κ) Custody where
  le := KeepsVersions onShelf
  share owner world := (custody onShelf world).among (supplyOf supplies owner)
  sound := Custody.Sound
  le_refl _ := ⟨.refl _, fun _ _ h => h⟩
  le_trans h h' := ⟨h.versions.trans h'.versions, fun artifactId hrevised hshelf =>
    h.gone artifactId hrevised
      (h'.gone artifactId (h.versions.revisedArtifacts_subset hrevised) hshelf)⟩

/-- The request has this share. -/
def Owns (onShelf : κ → Set UUID) (supplies : ι → Set UUID) (i : ι) (share : Custody)
    (world : World κ) : Prop :=
  (artifactShares onShelf supplies).share (some i) world = share

theorem Owns.spared {onShelf : κ → Set UUID} {supplies : ι → Set UUID} {i : ι} {share : Custody}
    {world found : World κ} (h : Owns onShelf supplies i share world)
    (hfound : (artifactShares onShelf supplies).Spared i world found) :
    Owns onShelf supplies i share found := hfound.share.trans h

/-! ## Bystanders -/

/-- Neither the shelf nor the versions change. -/
structure Untouched (onShelf : κ → Set UUID) (world world' : World κ) : Prop where
  versions : world.database.SameVersions world'.database
  shelf : onShelf world'.rest = onShelf world.rest

/-- The program changes neither. -/
structure Bystander (onShelf : κ → Set UUID) (program : Program (World κ) Exc α) : Prop where
  meets : program.Meets (fun _ => True) (Untouched onShelf) (fun _ => True) fun _ => True

variable {onShelf : κ → Set UUID} {supplies : ι → Set UUID}

theorem Untouched.refl (world : World κ) : Untouched onShelf world world := ⟨.refl _, rfl⟩

theorem Untouched.keeps {world world' : World κ} (h : Untouched onShelf world world') :
    KeepsVersions onShelf world world' where
  versions := h.versions.keeps
  gone _ _ hshelf := h.shelf ▸ hshelf

theorem Untouched.share {world world' : World κ} (h : Untouched onShelf world world')
    (owner : Option ι) : (artifactShares onShelf supplies).share owner world' =
      (artifactShares onShelf supplies).share owner world := by
  have hcustody : custody onShelf world' = custody onShelf world := by
    ext1
    · exact h.shelf
    · exact h.versions.composedArtifacts
    · exact h.versions.revisedArtifacts
  exact congrArg (Custody.among · (supplyOf supplies owner)) hcustody

/-- Nothing outside changes the versions. -/
theorem meets_untouched {program : Program κ Exc α} {returns : α → Prop}
    (h : program.Meets (fun _ => True) (fun before after => onShelf after = onShelf before) returns
      fun _ => True) :
    (outside program).Meets (fun _ => True) (Untouched onShelf) returns fun _ => True := by
  induction program with
  | ret value => exact h
  | raise failure => trivial
  | atomic effect next ih =>
      intro world _
      obtain ⟨hstep, hnext⟩ := h world.rest trivial
      exact ⟨⟨.refl _, hstep⟩, ih world.rest hnext⟩
  | choose κ next ih => exact fun answer => ih answer (h answer)

namespace Bystander

theorem ret (value : α) : Bystander onShelf (.ret value : Program (World κ) Exc α) := ⟨trivial⟩

theorem raise (failure : Exc) : Bystander onShelf (.raise failure : Program (World κ) Exc α) :=
  ⟨trivial⟩

theorem bind {program : Program (World κ) Exc α} {rest : α → Program (World κ) Exc β}
    (h : Bystander onShelf program) (hrest : ∀ value, Bystander onShelf (rest value)) :
    Bystander onShelf (program >>= rest) :=
  ⟨Program.meets_bind (Program.meets_mono h.meets (fun value _ => (hrest value).meets)
    fun _ h => h)⟩

theorem tryCatch {program : Program (World κ) Exc α} {handler : Exc → Program (World κ) Exc α}
    (h : Bystander onShelf program) (hhandler : ∀ failure, Bystander onShelf (handler failure)) :
    Bystander onShelf (program.tryCatch handler) :=
  ⟨Program.meets_tryCatch (Program.meets_mono h.meets (fun _ h => h)
    fun failure _ => (hhandler failure).meets)⟩

theorem ofExcept (body : Except Exc α) :
    Bystander onShelf (.ofExcept body : Program (World κ) Exc α) :=
  ⟨Program.meets_ofExcept (fun _ _ => trivial) fun _ _ => trivial⟩

theorem outside {program : Program κ Exc α} (h : Elsewhere onShelf program) :
    Bystander onShelf (outside program) := ⟨meets_untouched h⟩

variable {repository : Repository κ}

theorem query (hrepository : repository.Elsewhere onShelf) (read : Database → Except Exc α) :
    Bystander onShelf (repository.query read) := by
  refine .bind (.outside hrepository.connect) fun _ => ⟨Program.meets_transact ?_ ?_⟩
  · intro world value after _ hcommit
    obtain ⟨answer, -, heq⟩ := map_eq_ok.mp hcommit
    cases heq
    exact ⟨.refl world, trivial⟩
  · exact fun world _ _ _ => ⟨.refl world, trivial⟩

theorem transaction (hrepository : repository.Elsewhere onShelf)
    {body : Database → Except Exc (α × Database)}
    (hcommit : ∀ db value db', body db = .ok (value, db') → db.SameVersions db') :
    Bystander onShelf (repository.transaction body) := by
  refine .bind (.outside hrepository.connect) fun _ => ⟨Program.meets_transact ?_ ?_⟩
  · intro world value after _ hdone
    obtain ⟨⟨answer, database⟩, hbody, heq⟩ := map_eq_ok.mp hdone
    cases heq
    exact ⟨⟨hcommit _ _ _ hbody, rfl⟩, trivial⟩
  · exact fun world _ _ _ => ⟨.refl world, trivial⟩

section Minds

variable {supplies : ι → Set UUID} {i : ι} {world : World κ} {share : Custody}

/-- Whatever a bystander does, a request finds its share as it was. -/
theorem minds {program : Program (World κ) Exc α} (h : Bystander onShelf program)
    {post : α → World κ → Prop} {error : Exc → World κ → Prop} (hsound : share.Sound)
    (howns : Owns onShelf supplies i share world)
    (hpost : ∀ value found, (artifactShares onShelf supplies).Spared i world found →
      post value found)
    (herror : ∀ failure found, (artifactShares onShelf supplies).Spared i world found →
      error failure found) :
    (artifactShares onShelf supplies).Minds i post error world program :=
  Shares.minds_of_meets h.meets (fun _ _ h => h.keeps) (fun _ _ h => h.share)
    (Eq.mpr (congrArg Custody.Sound howns) hsound) (fun value found _ => hpost value found)
    fun failure found _ => herror failure found

/-- A request goes on with the share it had. -/
theorem minds_then {program : Program (World κ) Exc α} (h : Bystander onShelf program)
    {rest : α → Program (World κ) Exc β} {post : β → World κ → Prop}
    {error : Exc → World κ → Prop} (hsound : share.Sound)
    (howns : Owns onShelf supplies i share world)
    (hrest : ∀ value found, Owns onShelf supplies i share found →
      (artifactShares onShelf supplies).Minds i post error found (rest value))
    (herror : ∀ failure found, Owns onShelf supplies i share found → error failure found) :
    (artifactShares onShelf supplies).Minds i post error world (program >>= rest) :=
  Shares.minds_bind (h.minds hsound howns
    (fun value found hfound => hrest value found (howns.spared hfound))
    fun failure found hfound => herror failure found (howns.spared hfound))

/-- A request that ends with the share it had if the bystander fails. -/
theorem minds_first {program : Program (World κ) Exc α} (h : Bystander onShelf program)
    {rest : α → Program (World κ) Exc β} {post : β → World κ → Prop} (hsound : share.Sound)
    (howns : Owns onShelf supplies i share world)
    (hrest : ∀ value found, Owns onShelf supplies i share found →
      (artifactShares onShelf supplies).Minds i post (fun _ => Owns onShelf supplies i share) found
        (rest value)) :
    (artifactShares onShelf supplies).Minds i post (fun _ => Owns onShelf supplies i share) world
      (program >>= rest) :=
  h.minds_then hsound howns hrest fun _ _ h => h

end Minds

end Bystander

/-! ## The handlers of the bystanders -/

section Handlers

variable {app : App κ} {supply : Set UUID} (runId : UUID) (request : HttpRequest)

theorem bystander_nowOr {repository : Repository κ} (h : repository.Elsewhere onShelf)
    (given : Option Datetime) : Bystander onShelf (repository.nowOr given) := by
  cases given with
  | none => exact .outside h.utcNow
  | some given => exact .ret given

theorem bystander_withStatus {repository : Repository κ} (h : repository.Elsewhere onShelf)
    (run : ProjectRun) (status : ProjectRunStatus) :
    Bystander onShelf (run.withStatus repository.now status none) := by
  unfold ProjectRun.withStatus
  split_ifs
  · exact .bind (.outside h.utcNow) fun _ => .ofExcept _
  · exact .raise _

theorem bystander_recordFailure {repository : Repository κ} (h : repository.Elsewhere onShelf)
    (status : ProjectRunStatus) (code : String) :
    Bystander onShelf (repository.recordFailure runId status code) :=
  .bind (.ofExcept _) fun _ => .bind (.query h _) fun current =>
    .bind (bystander_withStatus h current status) fun _ => .bind (.ofExcept _) fun _ =>
      .bind (.transaction h fun _ _ _ => Database.recordFailure_versions) fun _ => .ret _

theorem bystander_claimAnalysis {repository : Repository κ} (h : repository.Elsewhere onShelf) :
    Bystander onShelf (repository.claimAnalysis runId) :=
  .bind (.outside h.utcNow) fun _ =>
    .bind (.transaction h fun _ _ _ => Database.claimAnalysis_versions) fun _ =>
      .bind (.query h _) fun _ => .ret _

theorem bystander_completeAnalysis {repository : Repository κ} (h : repository.Elsewhere onShelf)
    (analysis : AdAnalysis) (repairAttempted : Bool) :
    Bystander onShelf (repository.completeAnalysis runId analysis repairAttempted) :=
  .bind (.query h _) fun current => .bind (.query h _) fun _ => .bind (.ofExcept _) fun _ =>
    .bind (bystander_withStatus h current _) fun _ =>
      .bind (.transaction h fun _ _ _ => Database.completeAnalysis_versions) fun _ => .ret _

namespace App

variable (h : app.Shelves onShelf supply)
include h

theorem bystander_requireCapability (required : Capability) :
    Bystander onShelf (app.requireCapability required runId request) := by
  unfold requireCapability
  split
  · exact .raise _
  · refine .bind (.tryCatch (.outside (h.verify _ _)) fun failure => ?_) fun claims => ?_
    · cases failure <;> exact .raise _
    · split_ifs
      · exact .ret ()
      · exact .raise _

omit h in
theorem bystander_orNotFound {program : Program (World κ) Exc α}
    (hprogram : Bystander onShelf program) : Bystander onShelf (orNotFound program) := by
  refine .tryCatch hprogram fun failure => ?_
  cases failure <;> exact .raise _

theorem bystander_createRun (body : RunCreate) : Bystander onShelf (app.createRun body) := by
  refine .tryCatch ?_ fun _ => .raise _
  refine .bind (.outside h.uuid4) fun id => .bind (.outside h.runs.utcNow) fun now => ?_
  refine .bind (.outside (h.issue _ _)) fun token => .bind (.ofExcept _) fun response => ?_
  refine .bind (.bind (.transaction h.runs fun _ _ _ => Database.create_versions) fun _ => ?_)
    fun _ => .ret response
  exact .ret _

theorem bystander_claimAndLoad : Bystander onShelf (app.claimAndLoad runId) := by
  refine .tryCatch ?_ fun failure => ?_
  · refine .bind (.query h.runs _) fun stored => .bind (bystander_claimAnalysis runId h.runs)
      fun claimed => ?_
    cases claimed with
    | none => exact .raise _
    | some run =>
        exact .bind (.outside (h.assets _)) fun _ => .bind (.ofExcept _) fun _ => .ret _
  · cases failure <;>
      first
      | exact .bind (bystander_recordFailure runId h.runs _ _) fun _ => .raise _
      | exact .raise _

theorem bystander_analyzeClaimed (stored : RunCreate) (loaded : LoadedAsset) :
    Bystander onShelf (app.analyzeClaimed runId stored loaded) := by
  refine .tryCatch (.outside (elsewhere_analyze h.provider h.pipelineNow _)) fun failure => ?_
  cases failure with
  | analysisPipelineError code =>
      exact .bind (bystander_recordFailure runId h.runs _ _) fun _ => .raise _
  | _ => exact .raise _

theorem bystander_analyzeRun : Bystander onShelf (app.analyzeRun runId request) := by
  refine .bind (bystander_requireCapability runId request h _) fun _ => ?_
  refine .bind (bystander_orNotFound (.query h.runs _)) fun run => ?_
  split_ifs
  · refine .bind (.tryCatch (.query h.runs _) fun _ => .ret none) fun existing => ?_
    cases existing with
    | none => exact .raise _
    | some analysis => exact .bind (.query h.runs _) fun _ => .ret _
  · exact .raise _
  · refine .bind (bystander_claimAndLoad runId h) fun ⟨stored, loaded⟩ => ?_
    refine .bind (bystander_analyzeClaimed runId h stored loaded) fun outcome => ?_
    exact .bind (.tryCatch (bystander_completeAnalysis runId h.runs _ _) fun _ => .raise _)
      fun _ => .ret _

theorem bystander_confirmBrandLock (brandLock : BrandLock) :
    Bystander onShelf (app.confirmBrandLock runId brandLock request) := by
  refine .bind (bystander_requireCapability runId request h _) fun _ => ?_
  refine .bind (.tryCatch (.bind (bystander_nowOr h.runs none) fun _ =>
    .transaction h.runs fun _ _ _ => Database.confirmBrandLock_versions) fun failure => ?_)
    fun record => .ret _
  cases failure <;> exact .raise _

theorem bystander_generateDraft : Bystander onShelf (app.generateDraft runId request) := by
  refine .bind (bystander_requireCapability runId request h _) fun _ => ?_
  refine .bind (bystander_orNotFound (.bind (.query h.runs _) fun existing =>
    .bind (.query h.runs _) fun run => .ret (existing, run))) fun ⟨existing, run⟩ => ?_
  cases existing with
  | some existing => exact .ofExcept _
  | none =>
      refine .bind (bystander_orNotFound (.bind (.query h.runs _) fun analysis =>
        .bind (.query h.runs _) fun confirmation => .ret (analysis, confirmation)))
        fun ⟨analysis, confirmation⟩ => ?_
      cases analysis <;> cases confirmation <;> try exact .raise _
      dsimp only
      split_ifs
      · exact .raise _
      · refine .bind ?_ fun record => .ofExcept _
        refine .bind (.tryCatch
          (.outside (elsewhere_generateDraftArtifacts h.copywriter _ _ _)) fun failure => ?_)
          fun generated => .tryCatch (.bind (bystander_nowOr h.runs none) fun _ =>
            .transaction h.runs fun _ _ _ => Database.saveDraft_versions) fun failure => ?_
        · cases failure <;> exact .raise _
        · cases failure <;> exact .raise _

theorem bystander_runCritic : Bystander onShelf (app.runCritic runId request) := by
  refine .bind (bystander_requireCapability runId request h _) fun _ => ?_
  unfold App.answerCritic
  split_ifs
  · exact .raise _
  · refine .bind (.tryCatch (.bind (.query h.runs _) fun run =>
      .bind (.query h.runs _) fun existing => ?_) fun failure => ?_)
      fun ⟨run, report⟩ => .ofExcept _
    · cases existing with
      | some existing => exact .ret _
      | none =>
          refine .bind (.query h.runs _) fun analysis => .bind (.query h.runs _)
            fun confirmation => .bind (.query h.runs _) fun draft => .bind (.query h.runs _)
              fun composition => ?_
          cases analysis <;> cases confirmation <;> cases draft <;> cases composition <;>
            try exact .raise _
          exact .bind (.outside (h.review _)) fun report =>
            .bind (.transaction h.runs fun _ _ _ => Database.saveCritique_versions) fun _ =>
              .bind (.query h.runs _) fun _ => .ret _
    · cases failure <;> exact .raise _

end App

end Handlers

end CultureShift
