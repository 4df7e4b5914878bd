/-
# Accepted drafts

What the draft generator accepts is checked again by whoever uses it: the
repository that stores it, the response that shows it, the request for a
background and the Critic. Each of them has a table or a condition of its own,
and an accepted draft meets them all, whatever the copywriter has written.
-/

import CultureShift.ConfirmedDraft
import CultureShift.CriticVerdict
import CultureShift.Lifecycle.Progress
import CultureShift.Repository.RoundTrips

namespace CultureShift

open Serialization Relational Concurrent

variable {κ : Type} {analysis : AdAnalysis} {confirmed : BrandLock}
  {direction : LocalizationDirection} {artifacts : DraftArtifacts}

/-! ## What the generator promises -/

/-- What the generator has checked of the artifacts that it returns. -/
structure AcceptedDraft (analysis : AdAnalysis) (confirmed : BrandLock)
    (direction : LocalizationDirection) (artifacts : DraftArtifacts) : Prop where
  lock : analysis.brandLock = confirmed
  brief : artifacts.brief = draftBrief analysis confirmed direction
  locale : artifacts.adCopy.locale = (draftFixture direction).targetLocale
  cta : artifacts.adCopy.ctaActionMeaning = confirmed.ctaActionMeaning
  rules : artifacts.ruleIds = (draftFixture direction).ruleIds
  facts : artifacts.factReferences = confirmed.facts

theorem generateDraftArtifacts_returns (copywriter : Copywriter κ) (analysis : AdAnalysis)
    (confirmed : BrandLock) (direction : LocalizationDirection) :
    (generateDraftArtifacts copywriter analysis confirmed direction).Returns
      (AcceptedDraft analysis confirmed direction) := by
  refine Program.meets_bind (Program.meets_ofExcept (fun _ hlock => ?_) fun _ _ => trivial)
  refine Program.meets_bind (Program.meets_ofExcept (fun _ _ => ?_) fun _ _ => trivial)
  refine Program.meets_bind (Program.meets_ofExcept (fun _ _ => ?_) fun _ _ => trivial)
  refine Program.meets_bind (Program.meets_ofExcept (fun brief hbrief => ?_) fun _ _ => trivial)
  refine Program.meets_bind (Program.meets_mono (Program.returns_true _) (fun result _ => ?_)
    fun _ h => h)
  refine Program.meets_bind (Program.meets_ofExcept (fun _ hresult => ?_) fun _ _ => trivial)
  obtain ⟨hlocale, hcta, hrules, hfacts⟩ := require_eq_ok.mp hresult
  have hvalid : CreativeBrief.validate direction (draftFixture direction).targetLocale confirmed
      analysis.hypotheses (draftFixture direction).narrative (draftFixture direction).useScenario
      trustInformation = some (draftBrief analysis confirmed direction) :=
    dif_pos analysis.valid.1
  rw [hvalid, validated_some] at hbrief
  obtain rfl := Except.ok.inj hbrief
  exact ⟨require_eq_ok.mp hlock, rfl, hlocale, hcta, hrules, hfacts⟩

/-! ## The response and the background -/

/-- The fixture of a direction agrees with the table of the response. -/
theorem draftFixture_expected (direction : LocalizationDirection) :
    (draftFixture direction).targetLocale = (expectedDraft direction).1 ∧
      (draftFixture direction).ruleIds.map strip = (expectedDraft direction).2 ∧
      (draftFixture direction).ruleIds = (expectedDraft direction).2 := by
  have hstrip (direction : LocalizationDirection) :
      (expectedDraft direction).2.map strip = (expectedDraft direction).2 := by
    cases direction with
    | chinaToUk =>
        exact congrArg₂ (fun first second => [first, second]) (strip_ofList (by decide))
          (strip_ofList (by decide))
    | ukToChina =>
        exact congrArg₂ (fun first second => [first, second]) (strip_ofList (by decide))
          (strip_ofList (by decide))
  have hrules : (draftFixture direction).ruleIds = (expectedDraft direction).2 := by
    cases direction <;> rfl
  refine ⟨by cases direction <;> rfl, ?_, hrules⟩
  rw [hrules, hstrip]

namespace AcceptedDraft

theorem directional (h : AcceptedDraft analysis confirmed direction artifacts) :
    DirectionalDraft artifacts.brief artifacts.adCopy (artifacts.ruleIds.map strip) := by
  obtain ⟨hlocale, hstrip, -⟩ := draftFixture_expected direction
  unfold DirectionalDraft
  rw [h.locale, h.cta, h.rules, hstrip, h.brief]
  exact ⟨⟨hlocale, hlocale⟩, rfl, rfl⟩

/-- Of the draft, saved at any time, the response can be made. -/
theorem exists_response (h : AcceptedDraft analysis confirmed direction artifacts) (runId : UUID)
    (generatedAt : Datetime) :
    ∃ response, DraftGenerated.validate runId artifacts.brief artifacts.adCopy artifacts.ruleIds
      generatedAt = some response :=
  ⟨_, dif_pos h.directional⟩

theorem exists_background (h : AcceptedDraft analysis confirmed direction artifacts) :
    ∃ request, BackgroundRequest.validate direction artifacts.brief.targetLocale
      artifacts.brief.narrative artifacts.brief.useScenario = some request := by
  have hlocale : artifacts.brief.targetLocale = (expectedDraft direction).1 := by
    rw [h.brief]
    exact (draftFixture_expected direction).1
  exact ⟨_, dif_pos hlocale⟩

end AcceptedDraft

/-! ## The repository -/

/-- A run of the direction that is in progress, with this confirmed Brand Lock and no draft. -/
structure AwaitsDraft (db : Database) (runId : UUID) (direction : LocalizationDirection)
    (confirmed : BrandLock) : Prop where
  run : ∃ run, db.get runId = .ok run ∧ run.direction = direction ∧ run.status = .inProgress
  lock : ∃ record, db.getConfirmedBrandLock runId = .ok (some record) ∧
    record.brandLock = confirmed
  draft : db.getDraft runId = .ok none

/-- The record of the artifacts. -/
def DraftArtifacts.record (artifacts : DraftArtifacts) (generatedAt : Datetime) : DraftRecord :=
  ⟨artifacts.brief, artifacts.adCopy, artifacts.factReferences, artifacts.ruleIds, generatedAt⟩

variable {db : Database} {runId : UUID}

theorem draftRecord_eq_none {brief : Option (Column CreativeBrief)}
    {adCopy : Option (Column AdCopy)} {facts rules : Option (Column (List String))}
    {generatedAt : Option Datetime}
    (h : draftRecord brief adCopy facts rules generatedAt = .ok none) :
    brief = none ∧ adCopy = none ∧ facts = none ∧ rules = none ∧ generatedAt = none := by
  unfold draftRecord at h
  split at h
  · exact ⟨rfl, rfl, rfl, rfl, rfl⟩
  · simp only [bind_eq_ok] at h
    obtain ⟨_, -, _, -, _, -, _, -, hvalue⟩ := h
    cases hvalue
  · cases h

/-- What the transaction finds there. -/
structure Vacant (row : RunRow) (context : ContextRow) (encoded : Column BrandLock)
    (confirmed : BrandLock) : Prop where
  status : row.status = .inProgress
  lock : context.confirmedBrandLock = some encoded
  decoded : load encoded = .ok confirmed
  draft : context.creativeBrief = none ∧ context.adCopy = none ∧
    context.draftFactReferences = none ∧ context.draftRuleIds = none ∧
    context.draftGeneratedAt = none

theorem AwaitsDraft.exists_vacant (h : AwaitsDraft db runId direction confirmed) :
    ∃ row context encoded, db.runs.find runId = some row ∧
      db.contexts.find runId = some context ∧ Vacant row context encoded confirmed := by
  obtain ⟨run, hget, -, hstatus⟩ := h.run
  obtain ⟨row, hrow, hget⟩ := bind_eq_ok.mp hget
  obtain ⟨codes, -, hrun⟩ := bind_eq_ok.mp hget
  obtain ⟨context, hcontext, hdraft⟩ := bind_eq_ok.mp h.draft
  obtain ⟨record, hrecord, rfl⟩ := h.lock
  obtain ⟨context', hcontext', hlock⟩ := bind_eq_ok.mp hrecord
  obtain rfl := Except.ok.inj (hcontext.symm.trans hcontext')
  have hread : row.status = run.status := (ProjectRun.of_validate hrun).2.2.1.symm
  cases hencoded : context.confirmedBrandLock with
  | none =>
      rw [hencoded] at hlock
      cases hconfirmed : context.brandLockConfirmedAt with
      | none => rw [hconfirmed] at hlock; cases hlock
      | some confirmedAt => rw [hconfirmed] at hlock; cases hlock
  | some encoded =>
      rw [hencoded] at hlock
      cases hconfirmed : context.brandLockConfirmedAt with
      | none => rw [hconfirmed] at hlock; cases hlock
      | some confirmedAt =>
          rw [hconfirmed] at hlock
          obtain ⟨lock, hload, hvalue⟩ := bind_eq_ok.mp hlock
          cases hvalue
          exact ⟨row, context, encoded, orRaise_eq_ok.mp hrow, orRaise_eq_ok.mp hcontext,
            hread.trans hstatus, hencoded, hload, draftRecord_eq_none hdraft⟩

/-- The row with the columns of the draft. -/
def ContextRow.withDraft (context : ContextRow) (draft : DraftRecord) : ContextRow :=
  { context with
    creativeBrief := some (.dump draft.brief)
    adCopy := some (.dump draft.adCopy)
    draftFactReferences := some (.dump draft.factReferences)
    draftRuleIds := some (.dump draft.ruleIds)
    draftGeneratedAt := some draft.generatedAt }

theorem AcceptedDraft.facts_verified (h : AcceptedDraft analysis confirmed direction artifacts) :
    artifacts.factReferences ≠ [] ∧
      ∀ fact ∈ artifacts.factReferences, fact ∈ confirmed.facts := by
  rw [h.facts]
  refine ⟨?_, fun _ hfact => hfact⟩
  have hlength : confirmed.facts.length = confirmed.verifiedProductFacts.length :=
    List.length_map _
  exact List.ne_nil_of_length_pos (hlength ▸ confirmed.lengths_valid.1.1)

/-- The draft is stored where none is. -/
theorem AcceptedDraft.saveDraft (h : AcceptedDraft analysis confirmed direction artifacts)
    (hawaits : AwaitsDraft db runId direction confirmed) (generatedAt : Datetime) :
    ∃ db', db.saveDraft runId (artifacts.record generatedAt) =
      .ok (artifacts.record generatedAt, db') := by
  obtain ⟨row, context, encoded, hrow, hcontext, hvacant⟩ := hawaits.exists_vacant
  obtain ⟨hbrief, hcopy, hfacts, hrules, htime⟩ := hvacant.draft
  have hjoined : db.joined runId = .ok (row, some context) := by
    rw [Database.joined, hrow, hcontext]
    rfl
  have hlock : (artifacts.record generatedAt).brief.brandLock = confirmed := by
    rw [DraftArtifacts.record, h.brief]
    rfl
  have hverified : (artifacts.record generatedAt).factReferences ≠ [] ∧
      ∀ fact ∈ (artifacts.record generatedAt).factReferences, fact ∈ confirmed.facts :=
    h.facts_verified
  refine ⟨{ db with
    contexts := db.contexts.set runId (context.withDraft (artifacts.record generatedAt)) }, ?_⟩
  rw [Database.saveDraft, hjoined, ok_bind]
  simp only [Option.bind_some, hbrief, hcopy, hfacts, hrules, htime, draftRecord, ok_bind]
  rw [require_of _ hvacant.status, ok_bind, hvacant.lock, orRaise_some, ok_bind, hvacant.decoded,
    ok_bind, require_of _ hlock, ok_bind, require_of _ hverified, ok_bind,
    Table.updateWhere_of_some hcontext (by simp [hbrief, hcopy, hfacts, hrules, htime]),
    orRaise_some, ok_bind]
  rfl

/-! ## Every later check -/

/-- The composition shows the logo and a product UI of the Brand Lock. -/
def ShowsLock (composition : CompositionGenerated) (lock : BrandLock) : Prop :=
  layerSource composition.layers .logo = some lock.logoAssetId ∧
    ∃ assetId ∈ lock.productUiAssetIds, layerSource composition.layers .productUi = some assetId

/-- The artifacts pass the checks of everything that uses them later. -/
structure PassesLaterChecks (κ : Type) (analysis : AdAnalysis) (confirmed : BrandLock)
    (direction : LocalizationDirection) (artifacts : DraftArtifacts) : Prop where
  /-- They are saved and read again as they were, and make a response. -/
  saved : ∀ (db : Database) (runId : UUID) (now : Datetime) (generatedAt : Option Datetime)
    (rest : κ), AwaitsDraft db runId direction confirmed →
      ∃ db' record,
        ((Repository.quiet now).saveDraft runId artifacts.brief artifacts.adCopy
          artifacts.factReferences artifacts.ruleIds generatedAt).exec ⟨db, rest⟩ =
            some (.ok record, ⟨db', rest⟩) ∧
        record = artifacts.record (generatedAt.getD now) ∧
        ((Repository.quiet now).getDraft runId).exec ⟨db', rest⟩ =
          some (.ok (some record), ⟨db', rest⟩) ∧
        ∃ response, DraftGenerated.validate runId record.brief record.adCopy record.ruleIds
          record.generatedAt = some response
  background : ∃ request, BackgroundRequest.validate direction artifacts.brief.targetLocale
    artifacts.brief.narrative artifacts.brief.useScenario = some request
  /-- No report on a version with them has an issue about the Brand Lock or the facts. -/
  reviewed : ∀ (casefold : String → String) (now generatedAt : Datetime)
    (composition : CompositionGenerated) (warningCodes : List String) (report : CritiqueReport),
      ShowsLock composition confirmed →
      Critic.Reviewed casefold now
        ⟨analysis, confirmed, artifacts.record generatedAt, composition, warningCodes⟩ report →
      ∀ issue ∈ report.issues, issue.code.text ≠ "brand_lock_mismatch" ∧
        issue.code.text ≠ "unsupported_fact"

/-- Alone, at an instant, saving the artifacts is the transaction. -/
theorem DraftArtifacts.exec_saveDraft {record : DraftRecord} {db' : Database} {now : Datetime}
    (rest : κ) {generatedAt : Option Datetime}
    (h : db.saveDraft runId (artifacts.record (generatedAt.getD now)) = .ok (record, db')) :
    ((Repository.quiet now).saveDraft runId artifacts.brief artifacts.adCopy
      artifacts.factReferences artifacts.ruleIds generatedAt).exec ⟨db, rest⟩ =
        some (.ok record, ⟨db', rest⟩) := by
  have hsaved : ((Repository.quiet now).transaction
      (Database.saveDraft runId (artifacts.record (generatedAt.getD now)))).exec ⟨db, rest⟩ =
        some (.ok record, ⟨db', rest⟩) := exec_transaction h
  unfold Repository.saveDraft
  cases generatedAt with
  | none => exact (Program.exec_bind (exec_outside_pure rfl _)).trans hsaved
  | some given => exact hsaved

/-- An issue of a report is that of one of the checks. -/
theorem Critic.code_ne_of_mem {casefold : String → String} {request : CriticRequest}
    {issue : CritiqueIssue} (hlock : BrandLockPreserved request)
    (hfacts : FactsSupported request) (hissue : issue ∈ issues casefold request) :
    issue.code.text ≠ "brand_lock_mismatch" ∧ issue.code.text ≠ "unsupported_fact" := by
  rcases mem_issues.mp hissue with hgeneral | ⟨hypothesis, -, found, -, rfl⟩
  · rcases mem_generalIssues.mp hgeneral with ⟨-, rfl⟩ | ⟨hnot, -⟩ | ⟨hnot, -⟩ | ⟨-, rfl⟩
    · decide
    · exact absurd hlock hnot
    · exact absurd hfacts hnot
    · decide
  · cases found <;> decide

theorem AcceptedDraft.passes (h : AcceptedDraft analysis confirmed direction artifacts) :
    PassesLaterChecks κ analysis confirmed direction artifacts where
  saved := by
    intro db runId now generatedAt rest hawaits
    obtain ⟨db', hsaved⟩ := h.saveDraft hawaits (generatedAt.getD now)
    refine ⟨db', artifacts.record (generatedAt.getD now),
      DraftArtifacts.exec_saveDraft rest hsaved, rfl, ?_, h.exists_response runId _⟩
    exact exec_query (Database.reads_saveDraft hsaved)
  background := h.exists_background
  reviewed := by
    intro casefold now generatedAt composition warningCodes report hshows hreviewed issue hissue
    rw [(Critic.fields_of_reviewed hreviewed).2.1] at hissue
    have hbrief : artifacts.brief.brandLock = confirmed :=
      congrArg CreativeBrief.brandLock h.brief
    have hlock : Critic.BrandLockPreserved
        ⟨analysis, confirmed, artifacts.record generatedAt, composition, warningCodes⟩ :=
      ⟨h.lock, hbrief, h.cta, hshows.1, hshows.2⟩
    exact Critic.code_ne_of_mem hlock h.facts_verified hissue

/-- Whatever the copywriter writes, what the generator returns passes every later check. -/
theorem accepted_draft_passes (copywriter : Copywriter κ) (analysis : AdAnalysis)
    (confirmed : BrandLock) (direction : LocalizationDirection) :
    (generateDraftArtifacts copywriter analysis confirmed direction).Returns
      (PassesLaterChecks κ analysis confirmed direction) :=
  Program.meets_mono (generateDraftArtifacts_returns copywriter analysis confirmed direction)
    (fun _ haccepted => haccepted.passes) fun _ h => h

theorem accepted_draft_passes_fixture :
    PassesLaterChecks Unit (Demo.analysis [] Demo.noWarnings) Demo.lock .chinaToUk
      (fixtureDraft (Demo.analysis [] Demo.noWarnings) Demo.lock .chinaToUk) := by
  have hgenerated : generateDraftArtifacts (fixtureCopywriter : Copywriter Unit)
      (Demo.analysis [] Demo.noWarnings) Demo.lock .chinaToUk =
        pure (fixtureDraft (Demo.analysis [] Demo.noWarnings) Demo.lock .chinaToUk) :=
    generateDraftArtifacts_eq_fixtureDraft rfl rfl (List.forall_mem_nil _)
  have hpasses := accepted_draft_passes (fixtureCopywriter : Copywriter Unit)
    (Demo.analysis [] Demo.noWarnings) Demo.lock .chinaToUk
  rw [hgenerated] at hpasses
  exact hpasses

end CultureShift
