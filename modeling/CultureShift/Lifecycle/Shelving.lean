/-
# Saving and deleting artifacts

What the composition and the revision service do with the share of a request. A
saved artifact is either given to a version or deleted again, with two
exceptions: a composition that violates its contract leaves its artifact on the
shelf, and a revision that is stored but cannot be read back loses its artifact.
-/

import CultureShift.Lifecycle.Custody

namespace CultureShift

open Serialization Relational Concurrent

variable {ι κ α β : Type}

/-! ## Steps of a request on its share -/

/-- The two differ at this artifact only. -/
structure Custody.OnlyAt (artifactId : UUID) (before after : Custody) : Prop where
  shelved : ∀ other, other ≠ artifactId → (other ∈ after.shelved ↔ other ∈ before.shelved)
  composed : ∀ other, other ≠ artifactId → (other ∈ after.composed ↔ other ∈ before.composed)
  revised : ∀ other, other ≠ artifactId → (other ∈ after.revised ↔ other ∈ before.revised)

theorem Custody.OnlyAt.among {artifactId : UUID} {before after : Custody}
    (h : OnlyAt artifactId before after) {supply : Set UUID} (hnot : artifactId ∉ supply) :
    after.among supply = before.among supply := by
  have hne {other : UUID} (hother : other ∈ supply) : other ≠ artifactId := by
    rintro rfl
    exact hnot hother
  ext other
  · exact and_congr_left fun hother => h.shelved other (hne hother)
  · exact and_congr_left fun hother => h.composed other (hne hother)
  · exact and_congr_left fun hother => h.revised other (hne hother)

section Steps

variable {onShelf : κ → Set UUID} {supplies : ι → Set UUID} {i : ι} {artifactId : UUID}
  {world world' : World κ} {share : Custody}

/-- An identifier of a request is nobody else's. -/
theorem notMem_supplyOf (hdisjoint : Pairwise fun i j => Disjoint (supplies i) (supplies j))
    (hmine : artifactId ∈ supplies i) {owner : Option ι} (hne : owner ≠ some i) :
    artifactId ∉ supplyOf supplies owner := by
  cases owner with
  | none => exact fun hnobody => hnobody i hmine
  | some j =>
      have hji : j ≠ i := fun heq => hne (congrArg some heq)
      exact Set.disjoint_right.mp (hdisjoint hji) hmine

theorem step_of_onlyAt (hdisjoint : Pairwise fun i j => Disjoint (supplies i) (supplies j))
    (hmine : artifactId ∈ supplies i) (hle : KeepsVersions onShelf world world')
    (honly : Custody.OnlyAt artifactId (custody onShelf world) (custody onShelf world'))
    (howns : Owns onShelf supplies i share world') (hsound : share.Sound) :
    (artifactShares onShelf supplies).Step i world world' where
  le := hle
  others _ hne := honly.among (notMem_supplyOf hdisjoint hmine hne)
  sound := Eq.mpr (congrArg Custody.Sound howns) hsound

/-- What a request owns, one set at a time. -/
theorem owns_iff : Owns onShelf supplies i share world ↔
    onShelf world.rest ∩ supplies i = share.shelved ∧
      world.database.composedArtifacts ∩ supplies i = share.composed ∧
      world.database.revisedArtifacts ∩ supplies i = share.revised :=
  ⟨fun h => ⟨congrArg Custody.shelved h, congrArg Custody.composed h, congrArg Custody.revised h⟩,
    fun ⟨hshelved, hcomposed, hrevised⟩ => Custody.ext hshelved hcomposed hrevised⟩

/-- A new artifact is put on the shelf. -/
theorem step_save (hdisjoint : Pairwise fun i j => Disjoint (supplies i) (supplies j))
    (hmine : artifactId ∈ supplies i) (howns : Owns onShelf supplies i .clean world) {rest : κ}
    (hshelf : onShelf rest = insert artifactId (onShelf world.rest)) :
    (artifactShares onShelf supplies).Step i world { world with rest } ∧
      Owns onShelf supplies i (.saved artifactId) { world with rest } := by
  obtain ⟨hshelved, hcomposed, hrevised⟩ := owns_iff.mp howns
  have hsaved : Owns onShelf supplies i (.saved artifactId) { world with rest } := by
    refine owns_iff.mpr ⟨?_, hcomposed, hrevised⟩
    show onShelf rest ∩ supplies i = {artifactId}
    rw [hshelf, Set.insert_inter_of_mem hmine, hshelved]
    exact insert_empty_eq artifactId
  refine ⟨step_of_onlyAt hdisjoint hmine ⟨.refl _, fun other hother hshelved' => ?_⟩
    ⟨fun other hne => ?_, fun _ _ => Iff.rfl, fun _ _ => Iff.rfl⟩ hsaved (Set.empty_subset _),
    hsaved⟩
  · rw [hshelf] at hshelved'
    rcases hshelved' with rfl | hbefore
    · have hnone : world.database.revisedArtifacts ∩ supplies i = ∅ := hrevised
      exact (Set.eq_empty_iff_forall_notMem.mp hnone other ⟨hother, hmine⟩).elim
    · exact hbefore
  · show other ∈ onShelf rest ↔ other ∈ onShelf world.rest
    rw [hshelf]
    exact Set.mem_insert_iff.trans (or_iff_right hne)

/-- An artifact that no first version refers to is taken from the shelf. -/
theorem step_delete (hdisjoint : Pairwise fun i j => Disjoint (supplies i) (supplies j))
    (hmine : artifactId ∈ supplies i) (howns : Owns onShelf supplies i share world)
    (hsound : share.Sound) (hfree : artifactId ∉ share.composed) {rest : κ}
    (hshelf : onShelf rest = onShelf world.rest \ {artifactId}) :
    (artifactShares onShelf supplies).Step i world { world with rest } ∧
      Owns onShelf supplies i { share with shelved := share.shelved \ {artifactId} }
        { world with rest } := by
  obtain ⟨hshelved, hcomposed, hrevised⟩ := owns_iff.mp howns
  have hdeleted : Owns onShelf supplies i { share with shelved := share.shelved \ {artifactId} }
      { world with rest } := by
    refine owns_iff.mpr ⟨?_, hcomposed, hrevised⟩
    show onShelf rest ∩ supplies i = share.shelved \ {artifactId}
    rw [hshelf, ← Set.inter_sdiff_right_comm, hshelved]
  refine ⟨step_of_onlyAt hdisjoint hmine ⟨.refl _, fun other _ hshelved' => ?_⟩
    ⟨fun other hne => ?_, fun _ _ => Iff.rfl, fun _ _ => Iff.rfl⟩ hdeleted ?_, hdeleted⟩
  · rw [hshelf] at hshelved'
    exact hshelved'.1
  · show other ∈ onShelf rest ↔ other ∈ onShelf world.rest
    rw [hshelf]
    exact and_iff_left hne
  · exact fun other hother => ⟨hsound hother, fun heq => hfree (heq ▸ hother)⟩

/-- A version refers to the artifact. -/
theorem step_compose (hdisjoint : Pairwise fun i j => Disjoint (supplies i) (supplies j))
    (hmine : artifactId ∈ supplies i) (howns : Owns onShelf supplies i (.saved artifactId) world)
    {database : Database} (hkeeps : world.database.KeepsVersions database)
    (hcomposed : database.composedArtifacts =
      insert artifactId world.database.composedArtifacts)
    (hrevised : database.revisedArtifacts = world.database.revisedArtifacts) :
    (artifactShares onShelf supplies).Step i world { world with database } ∧
      Owns onShelf supplies i (.composedOf artifactId) { world with database } := by
  obtain ⟨hshelved, hbefore, hrevised'⟩ := owns_iff.mp howns
  have hafter : Owns onShelf supplies i (.composedOf artifactId) { world with database } := by
    refine owns_iff.mpr ⟨hshelved, ?_, ?_⟩
    · show database.composedArtifacts ∩ supplies i = {artifactId}
      rw [hcomposed, Set.insert_inter_of_mem hmine, hbefore]
      exact insert_empty_eq artifactId
    · show database.revisedArtifacts ∩ supplies i = ∅
      rw [hrevised]
      exact hrevised'
  refine ⟨step_of_onlyAt hdisjoint hmine ⟨hkeeps, fun _ _ h => h⟩
    ⟨fun _ _ => Iff.rfl, fun other hne => ?_, fun other _ => ?_⟩ hafter subset_rfl, hafter⟩
  · show other ∈ database.composedArtifacts ↔ other ∈ world.database.composedArtifacts
    rw [hcomposed]
    exact Set.mem_insert_iff.trans (or_iff_right hne)
  · show other ∈ database.revisedArtifacts ↔ other ∈ world.database.revisedArtifacts
    rw [hrevised]

theorem step_revise (hdisjoint : Pairwise fun i j => Disjoint (supplies i) (supplies j))
    (hmine : artifactId ∈ supplies i) (howns : Owns onShelf supplies i (.saved artifactId) world)
    {database : Database} (hkeeps : world.database.KeepsVersions database)
    (hcomposed : database.composedArtifacts = world.database.composedArtifacts)
    (hrevised : database.revisedArtifacts =
      insert artifactId world.database.revisedArtifacts) :
    (artifactShares onShelf supplies).Step i world { world with database } ∧
      Owns onShelf supplies i (.revisedOf artifactId) { world with database } := by
  obtain ⟨hshelved, hcomposed', hbefore⟩ := owns_iff.mp howns
  have hafter : Owns onShelf supplies i (.revisedOf artifactId) { world with database } := by
    refine owns_iff.mpr ⟨hshelved, ?_, ?_⟩
    · show database.composedArtifacts ∩ supplies i = ∅
      rw [hcomposed]
      exact hcomposed'
    · show database.revisedArtifacts ∩ supplies i = {artifactId}
      rw [hrevised, Set.insert_inter_of_mem hmine, hbefore]
      exact insert_empty_eq artifactId
  refine ⟨step_of_onlyAt hdisjoint hmine ⟨hkeeps, fun _ _ h => h⟩
    ⟨fun _ _ => Iff.rfl, fun other _ => ?_, fun other hne => ?_⟩ hafter (Set.empty_subset _),
    hafter⟩
  · show other ∈ database.composedArtifacts ↔ other ∈ world.database.composedArtifacts
    rw [hcomposed]
  · show other ∈ database.revisedArtifacts ↔ other ∈ world.database.revisedArtifacts
    rw [hrevised]
    exact Set.mem_insert_iff.trans (or_iff_right hne)

end Steps

/-! ## Rules -/

section Rules

variable {onShelf : κ → Set UUID} {supplies : ι → Set UUID} {i : ι} {artifactId runId : UUID}
  {world : World κ} {share : Custody} {repository : Repository κ}
  {error : Exc → World κ → Prop}

/-- A transaction of a request that has this share. -/
theorem minds_transaction {body : Database → Except Exc (α × Database)}
    {post : α → World κ → Prop} (hrepository : repository.Elsewhere onShelf)
    (hsound : share.Sound) (howns : Owns onShelf supplies i share world)
    (hcommit : ∀ found value database, Owns onShelf supplies i share found →
      body found.database = .ok (value, database) →
      (artifactShares onShelf supplies).Step i found { found with database } ∧
        ∀ later, (artifactShares onShelf supplies).Spared i { found with database } later →
          post value later)
    (herror : ∀ failure found, Owns onShelf supplies i share found → error failure found) :
    (artifactShares onShelf supplies).Minds i post error world (repository.transaction body) := by
  apply (Bystander.outside hrepository.connect).minds_then hsound howns ?_ herror
  intro _ opened hopened
  apply Shares.minds_transact (Eq.mpr (congrArg Custody.Sound hopened) hsound)
  · intro found value after hspared hdone
    obtain ⟨⟨answer, database⟩, hbody, heq⟩ := map_eq_ok.mp hdone
    cases heq
    exact hcommit found value database (hopened.spared hspared) hbody
  · intro found failure later hspared _ hlater
    exact herror failure later (hopened.spared (hspared.trans hlater))

/-- A composition that has been read stays. -/
theorem minds_getComposition {post : Option CompositionGenerated → World κ → Prop}
    (hrepository : repository.Elsewhere onShelf) (hsound : share.Sound)
    (howns : Owns onShelf supplies i share world)
    (hpost : ∀ answer found, Owns onShelf supplies i share found →
      (∀ composition, answer = some composition →
        found.database.getComposition runId = .ok (some composition)) → post answer found)
    (herror : ∀ failure found, Owns onShelf supplies i share found → error failure found) :
    (artifactShares onShelf supplies).Minds i post error world
      (repository.getComposition runId) := by
  apply (Bystander.outside hrepository.connect).minds_then hsound howns ?_ herror
  intro _ opened hopened
  have hstill {found : World κ} (hfound : Owns onShelf supplies i share found) :
      (artifactShares onShelf supplies).sound
        ((artifactShares onShelf supplies).share (some i) found) :=
    Eq.mpr (congrArg Custody.Sound hfound) hsound
  apply Shares.minds_transact (hstill hopened)
  · intro found value after hspared hdone
    obtain ⟨answer, hread, heq⟩ := map_eq_ok.mp hdone
    cases heq
    have hfound := hopened.spared hspared
    refine ⟨Shares.step_of_shares (Shares.le_refl _ found) (fun _ => rfl) (hstill hfound),
      fun later hlater => hpost value later (hfound.spared hlater) ?_⟩
    rintro composition rfl
    exact hlater.le.versions.compositions _ _ hread
  · intro found failure later hspared _ hlater
    exact herror failure later (hopened.spared (hspared.trans hlater))

/-- An ad that the store saves under another digest, if at all. -/
def CompositionArtifactStore.Declines (store : CompositionArtifactStore κ)
    (composed : ComposedAd) : Prop :=
  ∀ artifactId expiresAt, (store.save artifactId composed.pngBytes expiresAt).Returns
    fun stored => stored.sha256 ≠ composed.sha256

theorem minds_saveArtifact {studio : Studio κ} {composed : ComposedAd} {now : Datetime}
    {post : StoredCompositionArtifact → World κ → Prop}
    (hdisjoint : Pairwise fun i j => Disjoint (supplies i) (supplies j))
    (hmine : artifactId ∈ supplies i) (hstore : studio.artifactStore.Shelves onShelf)
    (howns : Owns onShelf supplies i .clean world)
    (hpost : ∀ stored found,
      (studio.artifactStore.Declines composed → stored.sha256 ≠ composed.sha256) →
      Owns onShelf supplies i (.saved artifactId) found → post stored found)
    (herror : ∀ failure found, Owns onShelf supplies i .clean found → error failure found) :
    (artifactShares onShelf supplies).Minds i post error world
      (studio.saveArtifact artifactId composed now) := by
  apply (Bystander.ofExcept _).minds_then subset_rfl howns ?_ herror
  intro expiresAt dated hdated
  apply Shares.minds_call ((hstore.save artifactId composed.pngBytes expiresAt).returning
    (returns_of_imp fun hdeclines : studio.artifactStore.Declines composed =>
      hdeclines artifactId expiresAt)) fun _ => rfl
  rintro found outcome rest hspared ⟨⟨record, rfl, hshelf⟩ | ⟨failure, rfl, hshelf⟩, hreturned⟩
  · obtain ⟨hstep, hsaved⟩ := step_save hdisjoint hmine (hdated.spared hspared) hshelf
    exact ⟨hstep, fun later hlater => hpost record later (hreturned record rfl)
      (hsaved.spared hlater)⟩
  · have huntouched : Untouched onShelf found { found with rest } := ⟨.refl _, hshelf⟩
    have hfound := hdated.spared hspared
    have hkept : Owns onShelf supplies i .clean { found with rest } :=
      (huntouched.share (some i)).trans hfound
    exact ⟨Shares.step_of_shares huntouched.keeps huntouched.share
      (Eq.mpr (congrArg Custody.Sound hfound) subset_rfl),
      fun later hlater => herror failure later (hkept.spared hlater)⟩

/-- What a delete may leave of a share when it raises. -/
def Spoiled (onShelf : κ → Set UUID) (supplies : ι → Set UUID) (i : ι) (artifactId : UUID)
    (share : Custody) (world : World κ) : Prop :=
  Owns onShelf supplies i share world ∨
    Owns onShelf supplies i { share with shelved := share.shelved \ {artifactId} } world

/-- An artifact that no first version refers to is deleted, unless the store fails. -/
theorem minds_delete {store : CompositionArtifactStore κ} {post : Bool → World κ → Prop}
    (hdisjoint : Pairwise fun i j => Disjoint (supplies i) (supplies j))
    (hmine : artifactId ∈ supplies i) (hstore : store.Shelves onShelf) (hsound : share.Sound)
    (hfree : artifactId ∉ share.composed) (howns : Owns onShelf supplies i share world)
    (hpost : ∀ removed found,
      Owns onShelf supplies i { share with shelved := share.shelved \ {artifactId} } found →
      post removed found)
    (herror : ∀ failure found, store.Fails failure →
      Spoiled onShelf supplies i artifactId share found → error failure found) :
    (artifactShares onShelf supplies).Minds i post error world
      (outside (store.delete artifactId)) := by
  apply Shares.minds_call (hstore.deletes artifactId) fun _ => rfl
  rintro found outcome rest hspared
    (⟨removed, rfl, hshelf⟩ | ⟨failure, rfl, hfault, hkept | hshelf⟩)
  · obtain ⟨hstep, hdeleted⟩ :=
      step_delete hdisjoint hmine (howns.spared hspared) hsound hfree hshelf
    exact ⟨hstep, fun later hlater => hpost removed later (hdeleted.spared hlater)⟩
  · have huntouched : Untouched onShelf found { found with rest } := ⟨.refl _, hkept⟩
    have hfound := howns.spared hspared
    have hstill : Owns onShelf supplies i share { found with rest } :=
      (huntouched.share (some i)).trans hfound
    exact ⟨Shares.step_of_shares huntouched.keeps huntouched.share
      (Eq.mpr (congrArg Custody.Sound hfound) hsound),
      fun later hlater => herror failure later hfault (.inl (hstill.spared hlater))⟩
  · obtain ⟨hstep, hdeleted⟩ :=
      step_delete hdisjoint hmine (howns.spared hspared) hsound hfree hshelf
    exact ⟨hstep, fun later hlater => herror failure later hfault (.inr (hdeleted.spared hlater))⟩

/-- What was saved is deleted again, unless the store fails. -/
theorem minds_delete_saved {store : CompositionArtifactStore κ} {post : Bool → World κ → Prop}
    (hdisjoint : Pairwise fun i j => Disjoint (supplies i) (supplies j))
    (hmine : artifactId ∈ supplies i) (hstore : store.Shelves onShelf)
    (howns : Owns onShelf supplies i share world)
    (hshare : share = .clean ∨ share = .saved artifactId)
    (hpost : ∀ removed found, Owns onShelf supplies i .clean found → post removed found)
    (herror : ∀ failure found, store.Fails failure →
      Owns onShelf supplies i .clean found ∨ Owns onShelf supplies i (.saved artifactId) found →
      error failure found) :
    (artifactShares onShelf supplies).Minds i post error world
      (outside (store.delete artifactId)) := by
  have hnone : share.composed = ∅ := by
    rcases hshare with rfl | rfl <;> rfl
  have hclean : { share with shelved := share.shelved \ {artifactId} } = Custody.clean := by
    rcases hshare with rfl | rfl
    · exact congrArg (Custody.mk · ∅ ∅) (Set.empty_sdiff _)
    · exact congrArg (Custody.mk · ∅ ∅) (Set.sdiff_self)
  apply minds_delete hdisjoint hmine hstore ?_ ?_ howns
  · intro removed found hfound
    rw [hclean] at hfound
    exact hpost removed found hfound
  · intro failure found hfault hspoiled
    rw [Spoiled, hclean] at hspoiled
    rcases hspoiled with hkept | hdeleted
    · rcases hshare with rfl | rfl
      · exact herror failure found hfault (.inl hkept)
      · exact herror failure found hfault (.inr hkept)
    · exact herror failure found hfault (.inl hdeleted)
  · rw [Custody.Sound, hnone]
    exact Set.empty_subset _
  · rw [hnone]
    exact Set.notMem_empty _

end Rules

/-! ## Describing an artifact -/

section Describing

variable {onShelf : κ → Set UUID} {supplies : ι → Set UUID} {i : ι} {artifactId runId : UUID}
  {composed : ComposedAd} {stored : StoredCompositionArtifact} {now : Datetime}

theorem describeArtifact_artifactId {composition : CompositionGenerated}
    (h : describeArtifact runId artifactId composed stored now = .ok composition) :
    composition.artifactId = artifactId := by
  obtain ⟨_, -, h⟩ := bind_eq_ok.mp h
  obtain ⟨sha256, -, h⟩ := bind_eq_ok.mp h
  by_cases hlayers : ValidLayerOrder composed.layers
  · rw [CompositionGenerated.validate, dif_pos hlayers] at h
    cases h
    rfl
  · rw [CompositionGenerated.validate, dif_neg hlayers] at h
    cases h

/-- The composed ad is what a composition is checked for. -/
structure ComposedAd.Conforms (composed : ComposedAd) : Prop where
  sha256 : (PatternText.validate composed.sha256 : Option Sha256).isSome = true
  layers : ValidLayerOrder composed.layers

/-- The compositor returns nothing that a composition is refused for. -/
def Studio.Conforms (studio : Studio κ) : Prop :=
  ∀ request, (studio.compose request).Returns ComposedAd.Conforms

/-- Of what the compositor returns the store saves only what a composition is not refused for. -/
def Studio.Describable (studio : Studio κ) : Prop :=
  ∀ request, (studio.compose request).Returns fun composed =>
    composed.Conforms ∨ studio.artifactStore.Declines composed

theorem Studio.Conforms.describable {studio : Studio κ} (h : studio.Conforms) :
    studio.Describable :=
  fun request => Program.meets_mono (h request) (fun _ => .inl) fun _ h => h

theorem describeArtifact_error {failure : Exc}
    (h : describeArtifact runId artifactId composed stored now = .error failure) :
    (failure = .validationError ∧ stored.sha256 = composed.sha256 ∧ ¬composed.Conforms) ∨
      failure = .compositionArtifactError "composition artifact unavailable" ∧
        stored.sha256 ≠ composed.sha256 := by
  unfold describeArtifact at h
  by_cases hdigest : stored.sha256 = composed.sha256
  · rw [require_of _ hdigest, ok_bind] at h
    cases htext : (PatternText.validate composed.sha256 : Option Sha256) with
    | none =>
        rw [htext] at h
        cases h
        refine .inl ⟨rfl, hdigest, fun hconforms => ?_⟩
        have hsha256 := hconforms.sha256
        rw [htext] at hsha256
        cases hsha256
    | some sha256 =>
        rw [htext, validated_some, ok_bind, CompositionGenerated.validate] at h
        by_cases hlayers : ValidLayerOrder composed.layers
        · rw [dif_pos hlayers] at h
          cases h
        · rw [dif_neg hlayers] at h
          cases h
          exact .inl ⟨rfl, hdigest, fun hconforms => hlayers hconforms.layers⟩
  · rw [require, if_neg hdigest] at h
    cases h
    exact .inr ⟨rfl, hdigest⟩

theorem composition_of_validate {runId : UUID} {status : RunStatus}
    {previous composition : CompositionGenerated} {brief : CreativeBrief} {adCopy : AdCopy}
    {report : CritiqueReport} {attempts : Nat} {revisedAt : Datetime}
    {response : RevisionCompleted}
    (h : validated (RevisionCompleted.validate runId status previous brief adCopy composition
      report attempts revisedAt) = .ok response) : response.composition = composition := by
  by_cases hvalid : (status = .ready ∨ status = .failedFinal) ∧
      RevisionIdentity runId status previous brief adCopy composition report
  · rw [RevisionCompleted.validate, dif_pos hvalid] at h
    cases h
    rfl
  · rw [RevisionCompleted.validate, dif_neg hvalid] at h
    cases h

theorem bystander_render {studio : Studio κ} {supply : Set UUID}
    (h : studio.Shelves onShelf supply) (run : ProjectRun) (lock : BrandLock)
    (brief : CreativeBrief) (adCopy : AdCopy) :
    Bystander onShelf (studio.render run lock brief adCopy) :=
  .bind (.ofExcept _) fun _ => .bind (.outside (h.generateBackground _)) fun _ =>
    .bind (.outside (h.resolve _)) fun _ => .bind (.ofExcept _) fun _ =>
      .bind (.outside (h.resolve _)) fun _ => .outside (h.compose _)

/-- What is rendered is what the compositor returns. -/
theorem returns_render {studio : Studio κ} {post : ComposedAd → Prop}
    (h : ∀ request, (studio.compose request).Returns post) (run : ProjectRun) (lock : BrandLock)
    (brief : CreativeBrief) (adCopy : AdCopy) :
    (studio.render run lock brief adCopy).Returns post := by
  have hbind {γ : Type} {program : Program (World κ) Exc γ}
      {rest : γ → Program (World κ) Exc ComposedAd} (h : ∀ value, (rest value).Returns post) :
      (program >>= rest).Returns post :=
    Program.meets_bind (Program.meets_mono (Program.returns_true _) (fun value _ => h value)
      fun _ h => h)
  exact hbind fun _ => hbind fun _ => hbind fun _ => hbind fun _ => hbind fun _ =>
    Program.meets_within (h _) (Program.raises_true _) fun _ _ => trivial

/-- It is described, or saved under another digest, if the studio sees to that. -/
theorem returns_describable {studio : Studio κ} (run : ProjectRun) (lock : BrandLock)
    (brief : CreativeBrief) (adCopy : AdCopy) :
    (studio.render run lock brief adCopy).Returns fun composed =>
      studio.Describable → composed.Conforms ∨ studio.artifactStore.Declines composed :=
  returns_of_imp fun h => returns_render h run lock brief adCopy

/-- The request draws an identifier of its own. -/
theorem minds_uuid4 {studio : Studio κ} {share : Custody} {world : World κ}
    {rest : UUID → Program (World κ) Exc α} {post : α → World κ → Prop}
    {error : Exc → World κ → Prop} (h : studio.Shelves onShelf (supplies i))
    (hsound : share.Sound) (howns : Owns onShelf supplies i share world)
    (hrest : ∀ artifactId ∈ supplies i, ∀ found, Owns onShelf supplies i share found →
      (artifactShares onShelf supplies).Minds i post error found (rest artifactId))
    (herror : ∀ failure found, Owns onShelf supplies i share found → error failure found) :
    (artifactShares onShelf supplies).Minds i post error world
      (outside studio.uuid4 >>= rest) := by
  apply Shares.minds_bind
  apply Shares.minds_of_meets (meets_untouched h.uuid4) (fun _ _ h => h.keeps)
    (fun _ _ h => h.share) (Eq.mpr (congrArg Custody.Sound howns) hsound)
  · exact fun artifactId found hmine hfound => hrest artifactId hmine found (howns.spared hfound)
  · exact fun failure found _ hfound => herror failure found (howns.spared hfound)

end Describing

/-! ## The composition service -/

section Composing

variable {onShelf : κ → Set UUID} {supplies : ι → Set UUID} {i : ι} {artifactId runId : UUID}
  {world : World κ} {service : CompositionService κ}

/-- A composition that fails leaves nothing, unless its contract was violated or the store could
not delete. -/
def Clears (onShelf : κ → Set UUID) (supplies : ι → Set UUID) (i : ι) (studio : Studio κ)
    (failure : Exc) (world : World κ) : Prop :=
  Owns onShelf supplies i .clean world ∨
    (failure = .compositionServiceError .outputInvalid ∧ ¬studio.Describable ∨
      studio.artifactStore.Fails failure) ∧
      ∃ artifactId, Owns onShelf supplies i (.saved artifactId) world

variable {studio : Studio κ}

theorem clears_of_fault {failure : Exc} (hfault : studio.artifactStore.Fails failure)
    (h : Owns onShelf supplies i .clean world ∨ Owns onShelf supplies i (.saved artifactId) world) :
    Clears onShelf supplies i studio failure world :=
  h.imp_right fun hsaved => ⟨.inr hfault, artifactId, hsaved⟩

theorem Clears.spared {failure : Exc} {found : World κ}
    (h : Clears onShelf supplies i studio failure world)
    (hfound : (artifactShares onShelf supplies).Spared i world found) :
    Clears onShelf supplies i studio failure found :=
  h.imp (·.spared hfound) fun ⟨hfailure, artifactId, howns⟩ =>
    ⟨hfailure, artifactId, howns.spared hfound⟩

theorem minds_fail {code : CompositionServiceErrorCode} {post : α → World κ → Prop}
    (h : Clears onShelf supplies i studio (.compositionServiceError code) world) :
    (artifactShares onShelf supplies).Minds i post (Clears onShelf supplies i studio) world
      (CompositionService.fail code) :=
  Shares.minds_raise fun _ hlater => h.spared hlater

/-- A composition that is stored, with no artifact of the request but its own. -/
structure Composes (onShelf : κ → Set UUID) (supplies : ι → Set UUID) (i : ι) (runId : UUID)
    (composition : CompositionGenerated) (world : World κ) : Prop where
  stored : world.database.getComposition runId = .ok (some composition)
  owns : Owns onShelf supplies i .clean world ∨
    Owns onShelf supplies i (.composedOf composition.artifactId) world

theorem Composes.spared {composition : CompositionGenerated} {found : World κ}
    (h : Composes onShelf supplies i runId composition world)
    (hfound : (artifactShares onShelf supplies).Spared i world found) :
    Composes onShelf supplies i runId composition found where
  stored := hfound.le.versions.compositions _ _ h.stored
  owns := h.owns.imp (·.spared hfound) (·.spared hfound)

theorem Composes.onShelf_subset {composition : CompositionGenerated}
    (h : Composes onShelf supplies i runId composition world) :
    onShelf world.rest ∩ supplies i ⊆ {composition.artifactId} := by
  rcases h.owns with hclean | hcomposed
  · rw [(owns_iff.mp hclean).1]
    exact Set.empty_subset _
  · exact (owns_iff.mp hcomposed).1.subset

variable (hdisjoint : Pairwise fun i j => Disjoint (supplies i) (supplies j))
  (hrepository : service.repository.Elsewhere onShelf)
  (hstudio : service.studio.Shelves onShelf (supplies i))
include hdisjoint hstudio

/-- What a composition leaves that fails before its failure is handled. -/
def Interrupted (onShelf : κ → Set UUID) (supplies : ι → Set UUID) (i : ι) (studio : Studio κ)
    (artifactId : UUID) (failure : Exc) (world : World κ) : Prop :=
  Owns onShelf supplies i .clean world ∨
    (failure = .validationError ∧ ¬studio.Describable ∨
      failure = .compositionArtifactError "composition artifact unavailable") ∧
      Owns onShelf supplies i (.saved artifactId) world

theorem minds_produce (hmine : artifactId ∈ supplies i) (run : ProjectRun) (lock : BrandLock)
    (draft : DraftRecord) (now : Datetime) (howns : Owns onShelf supplies i .clean world) :
    (artifactShares onShelf supplies).Minds i
      (fun summary found =>
        Owns onShelf supplies i (.saved artifactId) found ∧ summary.artifactId = artifactId)
      (Clears onShelf supplies i service.studio) world
      (service.produce run lock draft artifactId now) := by
  refine Shares.minds_tryCatch (Shares.Minds.mono (?_ : (artifactShares onShelf supplies).Minds i
    (fun summary found =>
      Owns onShelf supplies i (.saved artifactId) found ∧ summary.artifactId = artifactId)
    (Interrupted onShelf supplies i service.studio artifactId) world _) (fun _ _ h => h) ?_)
  · apply Shares.minds_bind
    apply Shares.minds_of_meets ((bystander_render hstudio _ _ _ _).meets.and
      (returns_describable ..))
      (fun _ _ h => h.keeps) (fun _ _ h => h.share) (Eq.mpr (congrArg Custody.Sound howns)
        subset_rfl) ?_ fun _ _ _ hfound => .inl (howns.spared hfound)
    rintro composed rendered ⟨-, hdescribable⟩ hspared
    have hrendered := howns.spared hspared
    apply Shares.minds_bind
    apply minds_saveArtifact hdisjoint hmine hstudio.artifactStore hrendered ?_
      fun _ _ hfound => .inl hfound
    intro stored found hdeclines hsaved
    apply Shares.minds_ofExcept
    intro later hlater
    cases hsummary : describeArtifact run.id artifactId composed stored now with
    | ok summary => exact ⟨hsaved.spared hlater, describeArtifact_artifactId hsummary⟩
    | error failure =>
        refine .inr ⟨(describeArtifact_error hsummary).imp ?_ And.left, hsaved.spared hlater⟩
        rintro ⟨rfl, hdigest, hrefused⟩
        refine ⟨rfl, fun h => ?_⟩
        rcases hdescribable h with hconforms | hdeclined
        · exact hrefused hconforms
        · exact hdeclines hdeclined hdigest
  · intro failure found hinterrupted
    cases failure with
    | compositionError | fixtureAssetError | imageProviderError | indexError | validationError =>
        -- A contract violation is not told from a failure before the artifact was saved.
        refine minds_fail (hinterrupted.imp_right ?_)
        rintro ⟨⟨-, hviolates⟩ | hfailure, hsaved⟩
        · exact ⟨.inl ⟨rfl, hviolates⟩, artifactId, hsaved⟩
        · cases hfailure
    | compositionArtifactError message =>
        apply Shares.minds_bind
        have hcleared (removed : Bool) (found : World κ)
            (hfound : Owns onShelf supplies i .clean found) :
            (artifactShares onShelf supplies).Minds i
              (fun (summary : CompositionGenerated) found =>
                Owns onShelf supplies i (.saved artifactId) found ∧
                  summary.artifactId = artifactId)
              (Clears onShelf supplies i service.studio) found
              (CompositionService.fail .persistenceFailed) :=
          minds_fail (.inl hfound)
        rcases hinterrupted with hclean | ⟨-, hsaved⟩
        · exact minds_delete_saved hdisjoint hmine hstudio.artifactStore hclean (.inl rfl) hcleared
            fun _ _ hfault => clears_of_fault hfault
        · exact minds_delete_saved hdisjoint hmine hstudio.artifactStore hsaved (.inr rfl) hcleared
            fun _ _ hfault => clears_of_fault hfault
    | _ =>
        rcases hinterrupted with hclean | ⟨⟨hfailure, -⟩ | hfailure, -⟩
        · exact Shares.minds_raise fun _ hlater => .inl (hclean.spared hlater)
        · cases hfailure
        · cases hfailure

include hrepository

omit hstudio in
/-- A composition is stored with its artifact. -/
theorem minds_saveComposition {summary : CompositionGenerated} (hmine : artifactId ∈ supplies i)
    (hartifact : summary.artifactId = artifactId)
    (howns : Owns onShelf supplies i (.saved artifactId) world) :
    (artifactShares onShelf supplies).Minds i (Composes onShelf supplies i runId)
      (fun _ => Owns onShelf supplies i (.saved artifactId)) world
      (service.repository.saveComposition runId summary) := by
  apply (Bystander.ofExcept _).minds_then (Set.empty_subset _) howns ?_ fun _ _ hfound => hfound
  intro _ checked hchecked
  apply minds_transaction hrepository (Set.empty_subset _) hchecked ?_ fun _ _ hfound => hfound
  intro found stored database hfound hcommit
  obtain ⟨rfl, hstored, hsame | ⟨hkeeps, hcomposed, hrevised⟩⟩ :=
    Database.saveComposition_versions hcommit
  · -- Nobody else has stored a composition with this artifact.
    subst hsame
    have hnone := (owns_iff.mp hfound).2.1
    exact (Set.eq_empty_iff_forall_notMem.mp hnone artifactId
      ⟨⟨runId, stored, hstored, hartifact⟩, hmine⟩).elim
  · rw [hartifact] at hcomposed
    obtain ⟨hstep, hafter⟩ := step_compose hdisjoint hmine hfound hkeeps hcomposed hrevised
    rw [← hartifact] at hafter
    exact ⟨hstep, fun later hlater => Composes.spared ⟨hstored, .inr hafter⟩ hlater⟩

theorem minds_persist {summary : CompositionGenerated} (hmine : artifactId ∈ supplies i)
    (hartifact : summary.artifactId = artifactId)
    (howns : Owns onShelf supplies i (.saved artifactId) world) :
    (artifactShares onShelf supplies).Minds i (Composes onShelf supplies i runId)
      (Clears onShelf supplies i service.studio) world
      (service.persist runId artifactId summary) := by
  refine Shares.minds_tryCatch (Shares.Minds.mono
    (minds_saveComposition hdisjoint hrepository hmine hartifact howns) (fun _ _ h => h) ?_)
  intro failure found hfound
  apply Shares.minds_bind
  apply minds_delete_saved hdisjoint hmine hstudio.artifactStore hfound (.inr rfl) ?_
    fun _ _ hfault => clears_of_fault hfault
  intro _ deleted hclean
  cases failure with
  | compositionImmutableError message =>
      apply Shares.minds_bind
      apply Shares.minds_tryCatch
      refine minds_getComposition hrepository subset_rfl hclean ?_ ?_
      · intro replay read hread hstored
        cases replay with
        | some replay =>
            exact Shares.minds_ret fun later hlater =>
              Composes.spared ⟨hstored replay rfl, .inl hread⟩ hlater
        | none => exact minds_fail (.inl hread)
      · intro failure read hread
        cases failure with
        | projectRunNotFoundError other =>
            exact Shares.minds_ret fun _ hlater => minds_fail (.inl (hread.spared hlater))
        | _ => exact Shares.minds_raise fun _ hlater => .inl (hread.spared hlater)
  | _ => exact minds_fail (.inl hclean)

/-- Nothing is saved, and a composition that was read is stored. -/
def Prepared (onShelf : κ → Set UUID) (supplies : ι → Set UUID) (i : ι) (runId : UUID)
    (answer : CompositionGenerated ⊕ CompositionService.Prerequisites) (world : World κ) : Prop :=
  Owns onShelf supplies i .clean world ∧ ∀ existing, answer = .inl existing →
    world.database.getComposition runId = .ok (some existing)

omit hdisjoint hstudio in
theorem minds_prepare (howns : Owns onShelf supplies i .clean world) :
    (artifactShares onShelf supplies).Minds i (Prepared onShelf supplies i runId)
      (Clears onShelf supplies i service.studio) world (service.prepare runId) := by
  refine Shares.minds_tryCatch (Shares.Minds.mono (?_ : (artifactShares onShelf supplies).Minds i
    (Prepared onShelf supplies i runId) (fun _ => Owns onShelf supplies i .clean) world _)
    (fun _ _ h => h) ?_)
  swap
  · intro failure found hfound
    cases failure with
    | projectRunNotFoundError other => exact minds_fail (.inl hfound)
    | _ => exact Shares.minds_raise fun _ hlater => .inl (hfound.spared hlater)
  apply Shares.minds_bind
  refine minds_getComposition hrepository subset_rfl howns ?_ fun _ _ h => h
  intro answer found hfound hstored
  cases answer with
  | some existing =>
      refine Shares.minds_ret fun later hlater => ⟨hfound.spared hlater, ?_⟩
      rintro _ ⟨⟩
      exact hlater.le.versions.compositions _ _ (hstored existing rfl)
  | none =>
      apply (Bystander.query hrepository _).minds_then subset_rfl hfound ?_ fun _ _ h => h
      intro run _ hfound
      apply (Bystander.query hrepository _).minds_then subset_rfl hfound ?_ fun _ _ h => h
      intro request _ hfound
      apply (Bystander.query hrepository _).minds_then subset_rfl hfound ?_ fun _ _ h => h
      intro analysis _ hfound
      apply (Bystander.query hrepository _).minds_then subset_rfl hfound ?_ fun _ _ h => h
      intro confirmation _ hfound
      apply (Bystander.query hrepository _).minds_then subset_rfl hfound ?_ fun _ _ h => h
      intro draft _ hfound
      exact Shares.minds_ret fun later hlater => ⟨hfound.spared hlater, nofun⟩

/-- The service answers with the stored composition, and a composition that fails is cleared. -/
theorem minds_generate (howns : Owns onShelf supplies i .clean world) :
    (artifactShares onShelf supplies).Minds i (Composes onShelf supplies i runId)
      (Clears onShelf supplies i service.studio) world (service.generate runId) := by
  apply Shares.minds_bind
  apply (minds_prepare hrepository howns).mono ?_ fun _ _ h => h
  rintro answer found ⟨hfound, hstored⟩
  cases answer with
  | inl existing =>
      exact Shares.minds_ret fun later hlater =>
        Composes.spared ⟨hstored existing rfl, .inl hfound⟩ hlater
  | inr read =>
      obtain ⟨run, request, analysis, confirmation, draft⟩ := read
      dsimp only
      split_ifs
      · exact minds_fail (.inl hfound)
      · exact minds_fail (.inl hfound)
      · cases confirmation with
        | none => exact minds_fail (.inl hfound)
        | some confirmation =>
            cases draft with
            | none => exact minds_fail (.inl hfound)
            | some draft =>
                apply minds_uuid4 hstudio subset_rfl hfound ?_ fun _ _ hfound => .inl hfound
                intro artifactId hmine drawn hdrawn
                apply (Bystander.outside hrepository.utcNow).minds_then subset_rfl hdrawn ?_
                  fun _ _ hfound => .inl hfound
                intro now timed htimed
                apply Shares.minds_bind
                apply (minds_produce hdisjoint hstudio hmine run confirmation.brandLock draft now
                  htimed).mono ?_ fun _ _ h => h
                rintro summary produced ⟨hproduced, hartifact⟩
                exact minds_persist hdisjoint hrepository hstudio hmine hartifact hproduced

end Composing

/-! ## The revision service -/

section Revising

variable {onShelf : κ → Set UUID} {supplies : ι → Set UUID} {i : ι} {artifactId : UUID}
  {world : World κ} {service : RevisionService κ}

/-- What is on the shelf is what the versions refer to. -/
def Settles (onShelf : κ → Set UUID) (supplies : ι → Set UUID) (i : ι) (world : World κ) : Prop :=
  ∃ share, Owns onShelf supplies i share world ∧ share.Settled

/-- Nothing is on the shelf. -/
def Empties (onShelf : κ → Set UUID) (supplies : ι → Set UUID) (i : ι) (world : World κ) : Prop :=
  ∃ share, Owns onShelf supplies i share world ∧ share.shelved = ∅

theorem Settles.spared {found : World κ} (h : Settles onShelf supplies i world)
    (hfound : (artifactShares onShelf supplies).Spared i world found) :
    Settles onShelf supplies i found :=
  h.imp fun _ ⟨howns, hsettled⟩ => ⟨howns.spared hfound, hsettled⟩

theorem Empties.spared {found : World κ} (h : Empties onShelf supplies i world)
    (hfound : (artifactShares onShelf supplies).Spared i world found) :
    Empties onShelf supplies i found :=
  h.imp fun _ ⟨howns, hempty⟩ => ⟨howns.spared hfound, hempty⟩

/-- A revision that returns has nothing on the shelf but the artifact it answers with. -/
def Revises (onShelf : κ → Set UUID) (supplies : ι → Set UUID) (i : ι)
    (response : RevisionCompleted) (world : World κ) : Prop :=
  Owns onShelf supplies i .clean world ∨
    Owns onShelf supplies i (.revisedOf response.composition.artifactId) world

theorem Revises.spared {response : RevisionCompleted} {found : World κ}
    (h : Revises onShelf supplies i response world)
    (hfound : (artifactShares onShelf supplies).Spared i world found) :
    Revises onShelf supplies i response found :=
  h.imp (·.spared hfound) (·.spared hfound)

theorem Revises.onShelf_subset {response : RevisionCompleted}
    (h : Revises onShelf supplies i response world) :
    onShelf world.rest ∩ supplies i ⊆ {response.composition.artifactId} := by
  rcases h with hclean | hrevised
  · rw [(owns_iff.mp hclean).1]
    exact Set.empty_subset _
  · exact (owns_iff.mp hrevised).1.subset

theorem Revises.settles {response : RevisionCompleted}
    (h : Revises onShelf supplies i response world) : Settles onShelf supplies i world :=
  h.elim (⟨_, ·, Custody.settled_clean⟩) (⟨_, ·, Custody.settled_revisedOf _⟩)

/-- A revision that fails leaves nothing on the shelf, unless the store could not delete. -/
def Releases (onShelf : κ → Set UUID) (supplies : ι → Set UUID) (i : ι)
    (store : CompositionArtifactStore κ) (failure : Exc) (world : World κ) : Prop :=
  ¬store.Fails failure → Empties onShelf supplies i world

variable {store : CompositionArtifactStore κ}

theorem Empties.releases (h : Empties onShelf supplies i world) (failure : Exc) :
    Releases onShelf supplies i store failure world := fun _ => h

theorem Owns.empties (howns : Owns onShelf supplies i .clean world) :
    Empties onShelf supplies i world := ⟨_, howns, rfl⟩

theorem Owns.releases (howns : Owns onShelf supplies i .clean world) (failure : Exc) :
    Releases onShelf supplies i store failure world := howns.empties.releases failure

variable (hdisjoint : Pairwise fun i j => Disjoint (supplies i) (supplies j))
  (hrepository : service.repository.Elsewhere onShelf)
  (hstudio : service.studio.Shelves onShelf (supplies i))
  (hrevise : ∀ direction draft changes, Elsewhere onShelf (service.revise direction draft changes))
  (hreview : ∀ request, Elsewhere onShelf (service.review request))

section Rendering

include hdisjoint hrepository hstudio hrevise

theorem minds_renderRevision (hmine : artifactId ∈ supplies i) (operation : OperationRecord)
    (howns : Owns onShelf supplies i .clean world) :
    (artifactShares onShelf supplies).Minds i
      (fun _ => Owns onShelf supplies i (.saved artifactId))
      (fun _ => Owns onShelf supplies i .clean) world
      (service.renderRevision operation artifactId) := by
  have hread {γ : Type} (read : Database → Except Exc γ) := Bystander.query hrepository read
  refine (hread _).minds_first subset_rfl howns fun run _ h => ?_
  refine (hread _).minds_first subset_rfl h fun request _ h => ?_
  refine (hread _).minds_first subset_rfl h fun analysis _ h => ?_
  refine (hread _).minds_first subset_rfl h fun confirmation _ h => ?_
  refine (hread _).minds_first subset_rfl h fun originalDraft _ h => ?_
  refine (hread _).minds_first subset_rfl h fun previous _ h => ?_
  refine (hread _).minds_first subset_rfl h fun previousCritique _ h => ?_
  refine (Bystander.ofExcept _).minds_first subset_rfl h fun _ _ h => ?_
  refine (Bystander.ofExcept _).minds_first subset_rfl h fun analysis _ h => ?_
  refine (Bystander.ofExcept _).minds_first subset_rfl h fun confirmation _ h => ?_
  refine (Bystander.ofExcept _).minds_first subset_rfl h fun originalDraft _ h => ?_
  refine (Bystander.ofExcept _).minds_first subset_rfl h fun previous _ h => ?_
  refine (Bystander.ofExcept _).minds_first subset_rfl h fun previousCritique _ h => ?_
  refine (Bystander.ofExcept _).minds_first subset_rfl h fun _ _ h => ?_
  refine (Bystander.outside (hrevise _ _ _)).minds_first subset_rfl h fun revised _ h => ?_
  refine (Bystander.outside hrepository.utcNow).minds_first subset_rfl h fun now _ h => ?_
  refine (bystander_render hstudio _ _ _ _).minds_first subset_rfl h fun composed _ h => ?_
  apply Shares.minds_bind
  apply minds_saveArtifact hdisjoint hmine hstudio.artifactStore h ?_ fun _ _ h => h
  intro stored saved _ hsaved
  exact Shares.minds_ret fun later hlater => hsaved.spared hlater

omit hstudio hrevise in
/-- A version that is stored with its artifact may still fail to be read back. -/
theorem minds_completeRevision {runId : UUID} {operationId : Nat} {revision : RevisionRecord}
    {publicResponse : RevisionCompleted} (hmine : artifactId ∈ supplies i)
    (hartifact : revision.composition.artifactId = artifactId)
    (howns : Owns onShelf supplies i (.saved artifactId) world) :
    (artifactShares onShelf supplies).Minds i
      (fun _ => Owns onShelf supplies i (.revisedOf artifactId))
      (fun _ found => Owns onShelf supplies i (.saved artifactId) found ∨
        Owns onShelf supplies i (.revisedOf artifactId) found) world
      (service.repository.completeRevision runId operationId revision publicResponse) := by
  have hsound : (Custody.revisedOf artifactId).Sound := Set.empty_subset _
  apply Shares.minds_bind
  apply minds_transaction hrepository (Set.empty_subset _) howns ?_ fun _ _ h => .inl h
  intro found _ database hfound hcommit
  obtain ⟨hkeeps, hcomposed, hrevised⟩ := Database.completeRevision_versions hcommit
  rw [hartifact] at hrevised
  obtain ⟨hstep, hafter⟩ := step_revise hdisjoint hmine hfound hkeeps hcomposed hrevised
  refine ⟨hstep, fun later hlater => ?_⟩
  apply (Bystander.query hrepository _).minds_then hsound (hafter.spared hlater) ?_
    fun _ _ h => .inr h
  intro stored read hread
  exact (Bystander.ofExcept _).minds hsound hread (fun _ _ hfound => hread.spared hfound)
    fun _ _ hfound => .inr (hread.spared hfound)

omit hstudio hrevise in
/-- The artifact stays on the shelf, also when the version is stored but cannot be read back. -/
theorem minds_finishRevision (hreview : ∀ request, Elsewhere onShelf (service.review request))
    (hmine : artifactId ∈ supplies i) (operation : OperationRecord)
    (rendered : RevisionService.Rendered)
    (howns : Owns onShelf supplies i (.saved artifactId) world) :
    (artifactShares onShelf supplies).Minds i (Revises onShelf supplies i)
      (fun _ found => Owns onShelf supplies i (.saved artifactId) found ∨
        Owns onShelf supplies i (.revisedOf artifactId) found) world
      (service.finishRevision operation artifactId rendered) := by
  have hsound : (Custody.saved artifactId).Sound := Set.empty_subset _
  apply Shares.minds_bind
  apply Shares.minds_ofExcept
  intro found hfound
  replace hfound := howns.spared hfound
  cases hdescribed : describeArtifact rendered.run.id artifactId rendered.composed rendered.stored
      rendered.now with
  | error failure => exact .inl hfound
  | ok composition =>
      have hartifact := describeArtifact_artifactId hdescribed
      apply (Bystander.outside (hreview _)).minds_then hsound hfound ?_ fun _ _ h => .inl h
      intro report _ h
      apply (Bystander.query hrepository _).minds_then hsound h ?_ fun _ _ h => .inl h
      intro current _ h
      apply Shares.minds_bind
      apply Shares.minds_ofExcept
      intro later hlater
      cases hresponse : validated (RevisionCompleted.validate rendered.run.id
          (Database.reviewedStatus report) rendered.previous rendered.revised.brief
          rendered.revised.adCopy composition report current.technicalAttemptCount
          report.reviewedAt) with
      | error failure => exact .inl (h.spared hlater)
      | ok response =>
          apply Shares.minds_bind
          apply (minds_completeRevision hdisjoint hrepository hmine hartifact
            (h.spared hlater)).mono ?_ fun _ _ h => h
          intro _ _ hrevised
          rw [← hartifact, ← composition_of_validate hresponse] at hrevised
          exact Shares.minds_ret fun _ hlater => .inr (hrevised.spared hlater)

end Rendering

include hrepository

theorem bystander_release (operation : OperationRecord) (retrying : Bool) :
    Bystander onShelf (service.release operation retrying) := by
  refine .tryCatch ?_ fun _ => .ret ()
  refine .bind (.outside hrepository.utcNow) fun _ => ?_
  exact .bind (.transaction hrepository fun _ _ _ => Database.failRevisionOperation_versions)
    fun _ => .ret ()

/-- Reporting a failure touches nothing any more, and raises. -/
theorem meets_report (operation : OperationRecord) (retrying : Bool) (artifactId : UUID)
    (failure : Exc) :
    (service.recover operation retrying artifactId false failure).Meets (fun _ => True)
      (Untouched onShelf) (fun _ => False) fun _ => True := by
  have hreleased : (do
      service.release operation retrying
      RevisionService.fail (RevisionService.failureCode retrying) :
        Program (World κ) Exc RevisionCompleted).Meets (fun _ => True) (Untouched onShelf)
          (fun _ => False) fun _ => True :=
    Program.meets_bind (Program.meets_mono (bystander_release hrepository operation retrying).meets
      (fun _ _ => trivial) fun _ h => h)
  cases failure with
  | compositionError | fixtureAssetError | imageProviderError | indexError | validationError =>
      exact hreleased
  | compositionArtifactError message => exact hreleased
  | _ => trivial

theorem minds_report {post : RevisionCompleted → World κ → Prop} {share : Custody}
    (hsound : share.Sound) (hempty : share.shelved = ∅)
    (howns : Owns onShelf supplies i share world) (operation : OperationRecord) (retrying : Bool)
    (artifactId : UUID) (failure : Exc) :
    (artifactShares onShelf supplies).Minds i post
      (Releases onShelf supplies i service.studio.artifactStore) world
      (service.recover operation retrying artifactId false failure) :=
  Shares.minds_of_meets (meets_report hrepository operation retrying artifactId failure)
    (fun _ _ h => h.keeps) (fun _ _ h => h.share) (Eq.mpr (congrArg Custody.Sound howns) hsound)
    (fun _ _ hreturned => hreturned.elim) fun failure _ _ hfound =>
      Empties.releases ⟨share, howns.spared hfound, hempty⟩ failure

include hdisjoint hstudio in
/-- A saved artifact is deleted before the failure is reported, with or without a version. -/
theorem minds_recover {post : RevisionCompleted → World κ → Prop} (hmine : artifactId ∈ supplies i)
    (operation : OperationRecord) (retrying : Bool) (failure : Exc)
    (howns : Owns onShelf supplies i (.saved artifactId) world ∨
      Owns onShelf supplies i (.revisedOf artifactId) world) :
    (artifactShares onShelf supplies).Minds i post
      (Releases onShelf supplies i service.studio.artifactStore) world
      (service.recover operation retrying artifactId true failure) := by
  have hfault {share : World κ → Prop} (failure : Exc) (found : World κ)
      (hfault : service.studio.artifactStore.Fails failure) (_ : share found) :
      Releases onShelf supplies i service.studio.artifactStore failure found :=
    fun hnone => (hnone hfault).elim
  apply Shares.minds_bind
  rcases howns with hsaved | hrevised
  · apply minds_delete_saved hdisjoint hmine hstudio.artifactStore hsaved (.inr rfl) ?_ hfault
    exact fun _ found hfound => minds_report hrepository subset_rfl rfl hfound _ _ artifactId _
  · apply minds_delete hdisjoint hmine hstudio.artifactStore (Set.empty_subset _)
      (Set.notMem_empty _) hrevised ?_ hfault
    intro _ found hfound
    exact minds_report hrepository (Set.empty_subset _) Set.sdiff_self hfound _ _ artifactId _

include hdisjoint hstudio hrevise hreview

theorem minds_execute (operation : OperationRecord) (retrying : Bool)
    (howns : Owns onShelf supplies i .clean world) :
    (artifactShares onShelf supplies).Minds i (Revises onShelf supplies i)
      (Releases onShelf supplies i service.studio.artifactStore) world
      (service.execute operation retrying) := by
  apply minds_uuid4 hstudio subset_rfl howns ?_ fun failure _ h => h.releases failure
  intro artifactId hmine drawn hdrawn
  apply Shares.minds_bind
  apply Shares.minds_attempt
  refine Shares.Minds.mono (minds_renderRevision hdisjoint hrepository hstudio hrevise hmine
    operation hdrawn) ?_ ?_
  · intro rendered saved hsaved
    exact Shares.minds_tryCatch (Shares.Minds.mono (minds_finishRevision hdisjoint hrepository
      hreview hmine operation rendered hsaved) (fun _ _ h => h) fun failure _ howns =>
        minds_recover hdisjoint hrepository hstudio hmine operation retrying failure howns)
  · exact fun failure _ hclean => minds_report hrepository subset_rfl rfl hclean _ _ artifactId
      failure

omit hrepository hdisjoint hstudio hrevise hreview in
theorem bystander_translating {claim : Program (World κ) Exc OperationRecord}
    (h : Bystander onShelf claim) : Bystander onShelf (RevisionService.translating claim) := by
  refine .tryCatch h fun failure => ?_
  split_ifs
  · exact .raise _
  · exact .raise _

theorem minds_submitFeedback (request : FeedbackRequest) (key : String)
    (howns : Owns onShelf supplies i .clean world) :
    (artifactShares onShelf supplies).Minds i (Revises onShelf supplies i)
      (Releases onShelf supplies i service.studio.artifactStore) world
      (service.submitFeedback request key) := by
  apply (Bystander.ofExcept _).minds_then subset_rfl howns ?_ fun failure _ h => h.releases failure
  intro keyDigest _ h
  apply (Bystander.outside hrepository.utcNow).minds_then subset_rfl h ?_
    fun failure _ h => h.releases failure
  intro now _ h
  apply (bystander_translating (.transaction hrepository
    fun _ _ _ => Database.claimFeedbackOperation_versions)).minds_then subset_rfl h ?_
    fun failure _ h => h.releases failure
  intro operation claimed hclaimed
  cases hreplayed : RevisionService.replayed operation with
  | some response =>
      exact Shares.minds_ret fun _ hlater => .inl (hclaimed.spared hlater)
  | none =>
      exact minds_execute hdisjoint hrepository hstudio hrevise hreview operation false hclaimed

theorem minds_retry (request : RetryRequest) (key : String)
    (howns : Owns onShelf supplies i .clean world) :
    (artifactShares onShelf supplies).Minds i (Revises onShelf supplies i)
      (Releases onShelf supplies i service.studio.artifactStore) world
      (service.retry request key) := by
  apply (Bystander.ofExcept _).minds_then subset_rfl howns ?_ fun failure _ h => h.releases failure
  intro keyDigest _ h
  apply (bystander_translating (.bind (.outside hrepository.utcNow) fun _ =>
    .transaction hrepository fun _ _ _ => Database.claimRetryOperation_versions)).minds_then
    subset_rfl h ?_ fun failure _ h => h.releases failure
  intro operation claimed hclaimed
  have hrefused {code : RevisionServiceErrorCode} {found : World κ}
      (hfound : Owns onShelf supplies i .clean found) :
      (artifactShares onShelf supplies).Minds i
        (Revises onShelf supplies i)
        (Releases onShelf supplies i service.studio.artifactStore) found
        (RevisionService.fail code) :=
    Shares.minds_raise fun _ hlater => (hfound.spared hlater).releases _
  cases hreplayed : RevisionService.replayed operation with
  | some response =>
      exact Shares.minds_ret fun _ hlater => .inl (hclaimed.spared hlater)
  | none =>
      cases operation.retryCondition with
      | none => exact hrefused hclaimed
      | some condition =>
          cases operation.retryAction with
          | none => exact hrefused hclaimed
          | some action =>
              apply (Bystander.query hrepository _).minds_then subset_rfl hclaimed ?_
                fun failure _ h => h.releases failure
              intro run _ h
              apply (Bystander.ofExcept _).minds_then subset_rfl h ?_
                fun failure _ h => h.releases failure
              intro decision decided hdecided
              split_ifs
              · exact minds_execute hdisjoint hrepository hstudio hrevise hreview operation true
                  hdecided
              · exact hrefused hdecided

end Revising

end CultureShift
