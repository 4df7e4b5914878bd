/-
# Listings, and runs without a fault

A program may list the directory. A calm program leaves no fault behind where it
found none, so that the runs of its parts make up its run.
-/

import CultureShift.Storage.Frames

namespace Storage

variable {P C ε α β : Type} [DecidableEq P]

namespace FileProgram

/-- What the paths in the directory stand for, where they stand for anything. -/
def list (named : P → Option β) : FileProgram P C ε (List β) := fun disk =>
  .ok (disk.files.keys.filterMap named) disk

theorem yields_list (named : P → Option β) (files : Files P C) :
    Yields (list named : FileProgram P C ε (List β)) files
      (.ok (files.keys.filterMap named)) := rfl

theorem mem_listed {named : P → Option β} {files : Files P C} {name : β} :
    name ∈ files.keys.filterMap named ↔
      ∃ path, files.get? path ≠ none ∧ named path = some name := by
  simp only [List.mem_filterMap, Files.get?, ne_eq, AList.lookup_eq_none, not_not, AList.mem_keys]

theorem nodup_listed {named : P → Option β} (files : Files P C)
    (hnamed : ∀ path path' name, named path = some name → named path' = some name →
      path = path') : (files.keys.filterMap named).Nodup :=
  files.keys_nodup.filterMap fun path path' name h h' => hnamed path path' name h h'

/-! ## Calm programs -/

/-- Without a fault before, there is none afterwards. -/
def Calm (program : FileProgram P C ε α) : Prop :=
  ∀ files, Ensures program ⟨files, none⟩ (fun _ disk => disk.fault = none) fun _ disk =>
    disk.fault = none

variable {program : FileProgram P C ε α}

theorem calm_pure (value : α) : Calm (pure value : FileProgram P C ε α) := fun _ => rfl

theorem calm_throw (error : ε) : Calm (throw error : FileProgram P C ε α) := fun _ => rfl

theorem calm_ofExcept (result : Except ε α) :
    Calm (ofExcept result : FileProgram P C ε α) := by
  cases result with
  | ok value => exact calm_pure value
  | error error => exact calm_throw error

theorem Calm.bind {next : α → FileProgram P C ε β} (h : Calm program)
    (hnext : ∀ value, Calm (next value)) : Calm (program >>= next) := by
  intro files
  apply ensures_bind
  apply Ensures.mono (h files)
  · rintro value ⟨after, fault⟩ rfl
    exact hnext value after
  · exact fun _ _ => id

theorem Calm.tryCatch {handler : ε → FileProgram P C ε α} (h : Calm program)
    (hhandler : ∀ error, Calm (handler error)) : Calm (tryCatch program handler) := by
  intro files
  apply ensures_tryCatch
  apply Ensures.mono (h files)
  · exact fun _ _ => id
  · rintro error ⟨after, fault⟩ rfl
    exact hhandler error after

theorem calm_operation {failure : ε} {broken : Damage C → Files P C → Files P C}
    {effect : Files P C → Option (α × Files P C)} : Calm (operation failure broken effect) := by
  intro files
  unfold Ensures operation
  cases effect files with
  | none => exact rfl
  | some result => exact rfl

theorem calm_isFile (path : P) : Calm (isFile path : FileProgram P C ε Bool) := fun _ => rfl

theorem calm_glob (paths : List P) : Calm (glob paths : FileProgram P C ε (List P)) := fun _ => rfl

theorem calm_unlinkAll {failure : ε} (paths : List P) :
    Calm (unlinkAll failure paths : FileProgram P C ε Unit) := by
  induction paths with
  | nil => exact calm_pure ()
  | cons path paths ih => exact Calm.bind calm_operation fun _ => ih

theorem bind_of_ok {next : α → FileProgram P C ε β} {disk disk' : Disk P C} {value : α}
    (h : program disk = .ok value disk') : (program >>= next) disk = next value disk' := by
  show EStateM.bind program next disk = _
  unfold EStateM.bind
  rw [h]

/-- The run of a calm part goes on with what comes next. -/
theorem Calm.run_bind (h : Calm program) {next : α → FileProgram P C ε β} {files files' : Files P C}
    {value : α} (hrun : FileProgram.run program files none = (.ok value, files')) :
    FileProgram.run (program >>= next) files none = FileProgram.run (next value) files' none := by
  have hcalm := h files
  unfold Ensures at hcalm
  unfold FileProgram.run at hrun
  cases hdone : program ⟨files, none⟩ with
  | ok value' disk =>
      obtain ⟨after, fault⟩ := disk
      rw [hdone] at hcalm hrun
      obtain ⟨hvalue, rfl⟩ := Prod.mk.inj hrun
      obtain rfl := Except.ok.inj hvalue
      obtain rfl : fault = none := hcalm
      unfold FileProgram.run
      rw [bind_of_ok hdone]
  | error error disk =>
      rw [hdone] at hrun
      cases hrun

/-- A reading part hands on its value. -/
theorem Yields.run_bind {next : α → FileProgram P C ε β} {files : Files P C} {value : α}
    (h : Yields program files (.ok value)) :
    FileProgram.run (program >>= next) files none = FileProgram.run (next value) files none := by
  unfold FileProgram.run
  rw [bind_of_ok h]

/-- What is made of the value at the end changes no file. -/
theorem run_bind_pure (f : α → β) (files : Files P C) (fault : Option (Fault C)) :
    FileProgram.run (program >>= fun value => pure (f value)) files fault =
      ((FileProgram.run program files fault).1.map f,
        (FileProgram.run program files fault).2) := by
  unfold FileProgram.run
  cases hdone : program ⟨files, fault⟩ with
  | ok value disk =>
      rw [bind_of_ok hdone]
      rfl
  | error error disk =>
      have hbind :
          (program >>= fun value => pure (f value)) ⟨files, fault⟩ = .error error disk := by
        show EStateM.bind program _ _ = _
        unfold EStateM.bind
        rw [hdone]
      rw [hbind]
      rfl

end FileProgram

end Storage
