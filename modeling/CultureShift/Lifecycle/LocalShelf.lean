/-
# The local store as a shelf

The store that writes artifacts to a directory keeps them on a shelf, although
any single file operation of a save may fail.
-/

import CultureShift.CompositionStorage
import CultureShift.Lifecycle.Custody

namespace CultureShift

open Serialization Storage Concurrent

namespace CompositionStorage

open FileProgram

/-- The directory of the store, which holds artifacts as a whole and nothing else. -/
structure Directory (config : Config) where
  history : History
  holds : Holds config history.files history.stored

variable {config : Config}

namespace Directory

def step (directory : Directory config) (call : StoreCall) : Directory config :=
  ⟨directory.history.step config call, directory.holds.step call⟩

def onShelf (directory : Directory config) : Set UUID :=
  {artifactId | directory.history.stored artifactId ≠ none}

theorem stored_step_ne (directory : Directory config) (call : StoreCall) {other : UUID}
    (hne : other ≠ call.target) :
    (directory.step call).history.stored other = directory.history.stored other :=
  directory.history.stored_step_ne hne

end Directory

/-- The store as a collaborator of the services: one file operation of each save may fail. -/
def localStore (config : Config) (faults : UUID → Option (Fault FileContent)) (now : Datetime) :
    CompositionArtifactStore (Directory config) where
  save artifactId pngBytes expiresAt :=
    .atomic (·.step (.save artifactId pngBytes expiresAt (faults artifactId))) fun directory =>
      .ofExcept (directory.history.run (config.save artifactId pngBytes expiresAt)
        (faults artifactId)).1
  load artifactId := .atomic (·.step (.load artifactId now)) fun directory =>
    .ofExcept (directory.history.run (config.load artifactId now) none).1
  delete artifactId := .atomic (·.step (.delete artifactId)) fun directory =>
    .ofExcept (directory.history.run (Config.delete artifactId) none).1

theorem onShelf_insert (stored : UUID → Option Artifact) (artifactId : UUID)
    (artifact : Artifact) :
    {other | Function.update stored artifactId (some artifact) other ≠ none} =
      insert artifactId {other | stored other ≠ none} := by
  ext other
  by_cases heq : other = artifactId
  · subst heq
    simp
  · simp [heq]

theorem onShelf_delete (stored : UUID → Option Artifact) (artifactId : UUID) :
    {other | Function.update stored artifactId none other ≠ none} =
      {other | stored other ≠ none} \ {artifactId} := by
  ext other
  by_cases heq : other = artifactId
  · subst heq
    simp
  · simp [heq]

theorem shelves_localStore (faults : UUID → Option (Fault FileContent)) (now : Datetime) :
    (localStore config faults now).Shelves Directory.onShelf where
  save artifactId pngBytes expiresAt := by
    intro directory
    have hsave : Ensures (config.save artifactId pngBytes expiresAt)
        ⟨directory.history.files, faults artifactId⟩ _ _ := ensures_save directory.holds
    refine ⟨_, rfl, ?_⟩
    simp only [Directory.onShelf, Directory.step, History.step, History.run]
    rcases hsave.run with ⟨record, disk, hrun, -⟩ | ⟨failure, disk, hrun, -⟩
    · rw [hrun]
      exact .inl ⟨record, rfl, onShelf_insert _ _ _⟩
    · rw [hrun]
      exact .inr ⟨failure, rfl, rfl⟩
  delete artifactId := by
    intro directory
    have hdelete : Ensures (Config.delete artifactId) ⟨directory.history.files, none⟩ _ _ :=
      ensures_delete directory.holds
    refine ⟨_, rfl, ?_⟩
    simp only [Directory.onShelf, Directory.step, History.step, History.run]
    rcases hdelete.run with ⟨removed, disk, hrun, -⟩ | ⟨_, _, -, hfalse⟩
    · rw [hrun]
      exact .inl ⟨removed, rfl, onShelf_delete _ _⟩
    · exact hfalse.elim

/-! ## Calls without a fault -/

section Calls

variable {faults : UUID → Option (Fault FileContent)} {now : Datetime} {artifactId : UUID}
  {pngBytes : List UInt8} {expiresAt : Datetime}

/-- An artifact that the store takes is saved where there is none. -/
theorem run_save {directory : Directory config} (haccepts : config.Accepts pngBytes)
    (hfree : directory.history.stored artifactId = none) :
    (directory.history.run (config.save artifactId pngBytes expiresAt) none).1 =
      .ok (config.record artifactId pngBytes expiresAt) := by
  have hsave : Ensures (config.save artifactId pngBytes expiresAt)
      ⟨directory.history.files, none⟩ _ _ := ensures_save directory.holds
  rcases hsave.run with ⟨record, disk, hrun, rfl, -⟩ | ⟨failure, disk, hrun, -, -, htaken⟩
  · rw [History.run, hrun]
  · obtain ⟨artifact, hstored, -⟩ := (htaken rfl).2 haccepts
    rw [hfree] at hstored
    cases hstored

theorem exec_save {directory : Directory config} (hfault : faults artifactId = none)
    (haccepts : config.Accepts pngBytes)
    (hfree : directory.history.stored artifactId = none) :
    ((localStore config faults now).save artifactId pngBytes expiresAt).exec directory =
      some (.ok (config.record artifactId pngBytes expiresAt),
        directory.step (.save artifactId pngBytes expiresAt none)) := by
  unfold localStore
  rw [Program.exec, hfault, run_save haccepts hfree]
  rfl

theorem mem_onShelf_save {directory : Directory config} (haccepts : config.Accepts pngBytes)
    (hfree : directory.history.stored artifactId = none) :
    artifactId ∈ (directory.step (.save artifactId pngBytes expiresAt none)).onShelf := by
  have hresult : (directory.history.run (config.save artifactId pngBytes expiresAt) none).1 =
      .ok _ := run_save haccepts hfree
  intro hnone
  simp only [Directory.step, History.step] at hnone
  split at hnone
  next hrun =>
    exact absurd ((Function.update_self ..).symm.trans hnone) (Option.some_ne_none _)
  next hrun =>
    rw [hrun] at hresult
    cases hresult

/-- What the store does not take is refused. -/
theorem exec_save_refused {directory : Directory config} (hfault : faults artifactId = none)
    (hrefused : ¬config.Accepts pngBytes) :
    ((localStore config faults now).save artifactId pngBytes expiresAt).exec directory =
      some (.error unavailable, directory.step (.save artifactId pngBytes expiresAt none)) := by
  have hresult : (directory.history.run (config.save artifactId pngBytes expiresAt) none).1 =
      .error unavailable := by
    rw [Config.save, if_pos hrefused]
    rfl
  unfold localStore
  rw [Program.exec, hfault, hresult]
  rfl

theorem run_delete (directory : Directory config) (artifactId : UUID) :
    ∃ removed, (directory.history.run (Config.delete artifactId) none).1 = .ok removed := by
  have hdelete : Ensures (Config.delete artifactId) ⟨directory.history.files, none⟩ _ _ :=
    ensures_delete directory.holds
  rcases hdelete.run with ⟨removed, disk, hrun, -⟩ | ⟨_, _, -, hfalse⟩
  · exact ⟨removed, by rw [History.run, hrun]⟩
  · exact hfalse.elim

theorem exec_delete (directory : Directory config) (artifactId : UUID) :
    ∃ removed, ((localStore config faults now).delete artifactId).exec directory =
      some (.ok removed, directory.step (.delete artifactId)) := by
  obtain ⟨removed, hresult⟩ := run_delete directory artifactId
  refine ⟨removed, ?_⟩
  unfold localStore
  rw [Program.exec, hresult]
  rfl

/-- No delete of the directory fails. -/
theorem deletes_localStore : (localStore config faults now).Deletes := by
  intro artifactId directory
  exact ⟨_, rfl, run_delete directory artifactId⟩

end Calls

end CompositionStorage

end CultureShift
