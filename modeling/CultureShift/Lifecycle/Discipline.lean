/-
# How requests share the runs

The discipline of the workflow: every run is absent or at a stage, and every
step moves runs along their life cycle. The claim of an analysis or of an
operation is a hold, which one request owns until it decides how the stage
ends; a receipt stays with the request that made the claim for good.

What the reports of the Critic certify is a parameter, and so is whatever else
the collaborators of a request do outside the database.
-/

import CultureShift.Concurrent.Discipline
import CultureShift.Critic
import CultureShift.Lifecycle.Writes
import CultureShift.Repository.Methods

namespace CultureShift

open Serialization Relational Concurrent

/-! ## The discipline -/

inductive Token
  | hold (runId : UUID) (hold : Hold)
  | receipt (runId : UUID) (hold : Hold)

variable {certifies : CriticRequest → CritiqueReport → Prop}

/-- Every stored report was made about the evidence it is stored with. The
second version has lost the time at which its draft was generated. -/
structure Stage.Certified (certifies : CriticRequest → CritiqueReport → Prop) (stage : Stage) :
    Prop where
  reviewed : ∀ evidence, stage.reviewed? = some evidence → ∃ codes,
    certifies ⟨evidence.analysis, evidence.confirmation.brandLock, evidence.draft,
      evidence.composition, codes⟩ evidence.critique
  revised : ∀ evidence revision, stage.reviewed? = some evidence →
    stage.revised? = some revision → ∃ codes generatedAt,
      certifies ⟨evidence.analysis, evidence.confirmation.brandLock,
        { revision.draft with generatedAt }, revision.composition, codes⟩ revision.critique

/-- Nothing has to be certified anew where there is no new report. -/
theorem Stage.Certified.of_eq {stage stage' : Stage} (h : stage.Certified certifies)
    (hreviewed : stage'.reviewed? = stage.reviewed?)
    (hrevised : stage'.revised? = stage.revised?) : stage'.Certified certifies where
  reviewed := by simpa only [hreviewed] using h.reviewed
  revised := by simpa only [hreviewed, hrevised] using h.revised

def lifecycle (certifies : CriticRequest → CritiqueReport → Prop) : Discipline Database Token where
  inv db := ∀ runId, db.Absent runId ∨ ∃ stage, db.Shows runId stage ∧ stage.Certified certifies
  le db db' := ∀ runId stage, db.Shows runId stage →
    ∃ stage', db'.Shows runId stage' ∧ stage.Steps stage'
  held
    | .hold runId hold, db => ∃ stage, db.Shows runId stage ∧ stage.hold? = some hold
    | .receipt runId hold, db => ∃ stage, db.Shows runId stage ∧ hold ∈ stage.taken
  spent
    | .hold runId hold, db => ∃ stage, db.Shows runId stage ∧ stage.Released hold
    | .receipt _ _, _ => False
  le_refl := fun _ _ stage hshows => ⟨stage, hshows, .refl stage⟩
  le_trans := by
    intro first second third hfirst hsecond runId stage hshows
    obtain ⟨stage', hshows', hsteps⟩ := hfirst runId stage hshows
    obtain ⟨stage'', hshows'', hsteps'⟩ := hsecond runId stage' hshows'
    exact ⟨stage'', hshows'', hsteps.trans hsteps'⟩
  spent_of_le := by
    rintro (⟨runId, hold⟩ | ⟨runId, hold⟩) first second hspent hle
    · obtain ⟨stage, hshows, hreleased⟩ := hspent
      obtain ⟨stage', hshows', hsteps⟩ := hle runId stage hshows
      exact ⟨stage', hshows', hreleased.steps hsteps⟩
    · exact hspent
  not_held_of_spent := by
    rintro (⟨runId, hold⟩ | ⟨runId, hold⟩) db hspent hheld
    · obtain ⟨stage, hshows, hreleased⟩ := hspent
      obtain ⟨stage', hshows', hhold⟩ := hheld
      obtain rfl := hshows.unique hshows'
      exact hreleased.2 hhold
    · exact hspent
  held_or_spent := by
    rintro (⟨runId, hold⟩ | ⟨runId, hold⟩) first second hheld hle
    · obtain ⟨stage, hshows, hhold⟩ := hheld
      obtain ⟨stage', hshows', hsteps⟩ := hle runId stage hshows
      rcases Stage.held_or_released hhold hsteps with hhold | hreleased
      · exact .inl ⟨stage', hshows', hhold⟩
      · exact .inr ⟨stage', hshows', hreleased⟩
    · obtain ⟨stage, hshows, htaken⟩ := hheld
      obtain ⟨stage', hshows', hsteps⟩ := hle runId stage hshows
      exact .inl ⟨stage', hshows', Stage.taken_of_steps hsteps htaken⟩

section Steps

variable {tokens : Set Token} {db db' : Database} {runId : UUID} {stage stage' : Stage}

/-- A step of one run keeps the discipline when the mover holds what it ends. -/
theorem guarantee_of_advances (hinv : (lifecycle certifies).inv db)
    (hshows : db.Shows runId stage) (hadvances : Database.Advances runId db db' stage')
    (hsteps : stage.Steps stage') (hcertified : stage'.Certified certifies)
    (hholds : ∀ hold, stage.hold? = some hold →
      stage'.hold? = some hold ∨ Token.hold runId hold ∈ tokens) :
    (lifecycle certifies).Guarantee tokens db db' := by
  have hle : (lifecycle certifies).le db db' := by
    intro other before hbefore
    by_cases hne : other = runId
    · subst hne
      obtain rfl := hshows.unique hbefore
      exact ⟨stage', hadvances.shows, hsteps⟩
    · exact ⟨before, (hadvances.frame.shows_iff hne).mpr hbefore, .refl before⟩
  refine ⟨fun other => ?_, hle, ?_⟩
  · by_cases hne : other = runId
    · subst hne
      exact .inr ⟨stage', hadvances.shows, hcertified⟩
    · rcases hinv other with habsent | ⟨before, hbefore, hcertified⟩
      · exact .inl (hadvances.frame.absent hne habsent)
      · exact .inr ⟨before, (hadvances.frame.shows_iff hne).mpr hbefore, hcertified⟩
  · rintro (⟨other, hold⟩ | ⟨other, hold⟩) htheirs ⟨before, hbefore, hheld⟩
    · by_cases hne : other = runId
      · subst hne
        obtain rfl := hshows.unique hbefore
        rcases hholds hold hheld with hkept | hmine
        · exact ⟨stage', hadvances.shows, hkept⟩
        · exact absurd hmine htheirs
      · exact ⟨before, (hadvances.frame.shows_iff hne).mpr hbefore, hheld⟩
    · obtain ⟨after, hafter, hsteps⟩ := hle other before hbefore
      exact ⟨after, hafter, Stage.taken_of_steps hsteps hheld⟩

/-- So does the creation of a run. -/
theorem guarantee_of_creation {request : RunCreate} (hinv : (lifecycle certifies).inv db)
    (habsent : db.Absent runId)
    (hadvances : Database.Advances runId db db' (.pending request)) :
    (lifecycle certifies).Guarantee tokens db db' := by
  have hother {other : UUID} {before : Stage} (hbefore : db.Shows other before) :
      db'.Shows other before := by
    have hne : other ≠ runId := by
      rintro rfl
      exact hbefore.not_absent habsent
    exact (hadvances.frame.shows_iff hne).mpr hbefore
  refine ⟨fun other => ?_, fun other before hbefore => ⟨before, hother hbefore, .refl before⟩, ?_⟩
  · by_cases hne : other = runId
    · subst hne
      exact .inr ⟨_, hadvances.shows, by simp [Stage.reviewed?], by simp [Stage.reviewed?]⟩
    · rcases hinv other with habsent | ⟨before, hbefore, hcertified⟩
      · exact .inl (hadvances.frame.absent hne habsent)
      · exact .inr ⟨before, hother hbefore, hcertified⟩
  · rintro (⟨other, hold⟩ | ⟨other, hold⟩) - ⟨before, hbefore, hheld⟩ <;>
      exact ⟨before, hother hbefore, hheld⟩

end Steps

end CultureShift
