/-
# What can be exported

The export service looks a version up in the table that keeps its composition
and never in the one that keeps its review. So a version is exported as soon as
it is stored, whatever the Critic said of it.
-/

import CultureShift.Lifecycle.Demo

namespace CultureShift

open Serialization Relational Concurrent

variable {ι κ α : Type}

/-! ## The reviewed versions of a run -/

namespace Database

/-- The composition that the export service finds for a version. -/
def exported? (db : Database) (runId : UUID) :
    ResultVersion → Except Exc (Option CompositionGenerated)
  | .first => db.getComposition runId
  | .second => (db.getRevision runId).map (·.map RevisionRecord.composition)

/-- The report about a version. -/
def report? (db : Database) (runId : UUID) : ResultVersion → Except Exc (Option CritiqueReport)
  | .first => (db.getCritique runId).map (·.map CritiqueRecord.report)
  | .second => (db.getRevision runId).map (·.map RevisionRecord.critique)

/-- The Critic has rejected this version. -/
def RejectedVersion (db : Database) (runId : UUID) (version : ResultVersion) : Prop :=
  ∃ report, db.report? runId version = .ok (some report) ∧ report.status = .reject

variable {db : Database} {runId : UUID} {stage : Stage}

/-- What was reviewed has been composed. -/
theorem Shows.exported_of_report (h : db.Shows runId stage) {version : ResultVersion}
    {report : CritiqueReport} (hreport : db.report? runId version = .ok (some report)) :
    ∃ composition, db.exported? runId version = .ok (some composition) := by
  cases version with
  | first =>
      cases hreviewed : stage.reviewed? with
      | none => simp [report?, h.getCritique, hreviewed, Except.map] at hreport
      | some evidence =>
          obtain ⟨-, -, -, -, hcomposed⟩ := Stage.evidence_of_reviewed? hreviewed
          exact ⟨evidence.composition, by simp [exported?, h.getComposition, hcomposed]⟩
  | second =>
      cases hrevised : stage.revised? with
      | none => simp [report?, h.getRevision, hrevised, Except.map] at hreport
      | some revision =>
          exact ⟨revision.composition, by
            simp [exported?, h.getRevision, hrevised, Except.map, Revised.record]⟩

/-- A run that is absent has no reports. -/
theorem Absent.not_rejected (h : db.Absent runId) (version : ResultVersion) :
    ¬db.RejectedVersion runId version := by
  rintro ⟨report, hreport, -⟩
  cases version with
  | first =>
      simp [report?, getCritique, contextOf, h.context, Except.map] at hreport
  | second =>
      simp [report?, getRevision, h.revision, Except.map] at hreport

end Database

/-! ## Exports -/

/-- A query answers when the database can be opened. -/
theorem solo_query {repository : Repository κ} {db : Database} {rest rest' : κ} {value : α}
    {read : Database → Except Exc α} (hopen : repository.connect.Solo rest (.ok ()) rest')
    (hread : read db = .ok value) :
    (repository.query read).Solo ⟨db, rest⟩ (.ok value) ⟨db, rest'⟩ := by
  apply Program.solo_bind_iff.mpr
  apply Or.inl
  refine ⟨(), ⟨db, rest'⟩, solo_outside_iff.mpr ⟨rest', hopen, rfl⟩, ?_⟩
  apply Program.solo_of_exec
  apply Program.exec_transact
  simp [hread, Except.map]

namespace CompositionExportService

variable {service : CompositionExportService κ} {db : Database} {rest rest' : κ} {runId : UUID}
  {version : ResultVersion} {composition : CompositionGenerated}

theorem solo_summary (hopen : service.repository.connect.Solo rest (.ok ()) rest')
    (hexported : db.exported? runId version = .ok (some composition)) :
    (service.summary runId version).Solo ⟨db, rest⟩ (.ok composition) ⟨db, rest'⟩ := by
  have hlookup : (match version with
      | .first => service.repository.getComposition runId
      | .second => do
          let revision ← service.repository.getRevision runId
          return revision.map RevisionRecord.composition).Solo ⟨db, rest⟩ (.ok (some composition))
      ⟨db, rest'⟩ := by
    cases version with
    | first => exact solo_query hopen hexported
    | second =>
        obtain ⟨revision, hrevision, hmap⟩ := map_eq_ok.mp hexported
        apply Program.solo_bind_iff.mpr
        apply Or.inl
        refine ⟨revision, _, solo_query hopen hrevision, ?_⟩
        rw [hmap]
        exact .ret _ _
  apply Program.solo_bind_iff.mpr
  apply Or.inl
  refine ⟨some composition, _, ?_, .ret _ _⟩
  exact Program.solo_tryCatch_iff.mpr (.inl ⟨_, hlookup, rfl⟩)

/-- The JSON of a stored version can always be exported. -/
theorem solo_exportJson (hopen : service.repository.connect.Solo rest (.ok ()) rest')
    (hexported : db.exported? runId version = .ok (some composition)) :
    (service.exportJson runId version).Solo ⟨db, rest⟩
      (.ok ((encode composition).canonical ++ "\n")) ⟨db, rest'⟩ := by
  apply Program.solo_bind_iff.mpr
  apply Or.inl
  exact ⟨composition, _, solo_summary hopen hexported, .ret _ _⟩

end CompositionExportService

/-- However the program runs from this state, it ends in an export error. -/
def FailsToExport (program : Program (World κ) Exc α) (world : World κ) : Prop :=
  ∀ outcome last, program.Solo world outcome last →
    ∃ code, outcome = .error (.compositionExportError code)

/-- A rejected version is exported in neither format. -/
def CompositionExportService.Blocks (service : CompositionExportService κ) (runId : UUID)
    (version : ResultVersion) (world : World κ) : Prop :=
  world.database.RejectedVersion runId version →
    FailsToExport (service.exportPng runId version) world ∧
      FailsToExport (service.exportJson runId version) world

section Reached

variable [DecidableEq ι] {app : App κ} {rest : κ} {inbox : ι → Request}
  {config : Config ι (World κ) Exc Response}

/-- Exports are blocked exactly where there is nothing to block. -/
theorem blocks_iff_of_reaches (hreaches : Reaches (workflow app rest inbox) config)
    (hopen : ∃ rest', app.exports.repository.connect.Solo config.state.rest (.ok ()) rest')
    (runId : UUID) (version : ResultVersion) :
    app.exports.Blocks runId version config.state ↔
      ¬config.state.database.RejectedVersion runId version := by
  constructor
  · intro hblocks hrejected
    obtain ⟨rest', hopen⟩ := hopen
    obtain ⟨-, hjson⟩ := hblocks hrejected
    rcases lifecycle_of_reaches (fun _ _ => True) (fun _ => Program.returns_true _)
      (fun _ => Program.returns_true _) hreaches runId with habsent | ⟨stage, hshows, -⟩
    · exact habsent.not_rejected version hrejected
    · obtain ⟨report, hreport, -⟩ := hrejected
      obtain ⟨composition, hexported⟩ := hshows.exported_of_report hreport
      obtain ⟨code, herror⟩ :=
        hjson _ _ (CompositionExportService.solo_exportJson hopen hexported)
      cases herror
  · intro hnone hrejected
    exact absurd hrejected hnone

theorem blocks_ready : ∃ config,
    Reaches (workflow Demo.fixtureApp () (Demo.requests fun _ => .createRun Demo.runCreate))
      config ∧
      Demo.fixtureApp.exports.Blocks Demo.runId .first config.state := by
  obtain ⟨config, hreaches, -, hat, -⟩ := Demo.exists_ready
    (Demo.revisionService Demo.fixtureEngine Demo.answeringStore) (Demo.keeps_answeringStore _ ())
    fun _ => Request.createRun Demo.runCreate
  have haccepted : ¬config.state.database.RejectedVersion Demo.runId .first := by
    rintro ⟨report, hreport, hreject⟩
    obtain rfl : Demo.passed = report := by
      simpa [Database.report?, hat.shows.getCritique, Except.map] using hreport
    cases hreject
  exact ⟨config, hreaches,
    (blocks_iff_of_reaches hreaches ⟨_, .ret _ _⟩ Demo.runId .first).mpr haccepted⟩

/-- The provider has warned of prohibited content, the Critic has rejected
version 1, and its JSON is exported. -/
theorem not_blocks_rejected : ∃ config,
    Reaches (workflow (Demo.app [Demo.prohibitedContent] (by simp) Demo.answeringStore
      (Demo.revisionService Demo.fixtureEngine Demo.answeringStore)) ()
      (Demo.requests fun _ => .createRun Demo.runCreate)) config ∧
      config.state.database.RejectedVersion Demo.runId .first ∧
      ¬Demo.fixtureApp.exports.Blocks Demo.runId .first config.state := by
  obtain ⟨config, hreaches, -, hat, -⟩ := Demo.exists_rejected
    (Demo.revisionService Demo.fixtureEngine Demo.answeringStore) (Demo.keeps_answeringStore _ ())
    fun _ => Request.createRun Demo.runCreate
  have hrejected : config.state.database.RejectedVersion Demo.runId .first :=
    ⟨Demo.rejected, by simp [Database.report?, hat.shows.getCritique, Except.map], rfl⟩
  refine ⟨config, hreaches, hrejected, fun hblocks => ?_⟩
  obtain ⟨composition, hexported⟩ : ∃ composition,
      config.state.database.exported? Demo.runId .first = .ok (some composition) :=
    ⟨_, hat.shows.getComposition⟩
  obtain ⟨-, hjson⟩ := hblocks hrejected
  obtain ⟨code, herror⟩ := hjson _ _
    (CompositionExportService.solo_exportJson (.ret _ _) hexported)
  cases herror

end Reached

end CultureShift
