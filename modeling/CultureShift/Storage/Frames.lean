/-
# What a program touches and reads

Whatever a program does, and whichever of its operations fails, it changes only
the files that it touches; and a program that only reads has the same result
wherever the files that it reads are the same.
-/

import CultureShift.Storage.Objects

namespace Storage

namespace FileProgram

variable {P C ε α β : Type} [DecidableEq P] {paths : P → Prop}

/-! ## Touching -/

/-- Both have the same files away from these paths. -/
def SameOff (paths : P → Prop) (files files' : Files P C) : Prop :=
  ∀ path, ¬paths path → files'.get? path = files.get? path

theorem SameOff.refl (files : Files P C) : SameOff paths files files := fun _ _ => rfl

theorem SameOff.trans {first second third : Files P C} (h : SameOff paths first second)
    (h' : SameOff paths second third) : SameOff paths first third :=
  fun path hpath => (h' path hpath).trans (h path hpath)

theorem SameOff.write {path : P} (hpath : paths path) (files : Files P C) (content : C) :
    SameOff paths files (files.write path content) := by
  intro other hother
  rw [Files.get?_write, if_neg]
  rintro rfl
  exact hother hpath

theorem SameOff.remove {path : P} (hpath : paths path) (files : Files P C) :
    SameOff paths files (files.remove path) := by
  intro other hother
  rw [Files.get?_remove, if_neg]
  rintro rfl
  exact hother hpath

theorem SameOff.removeAll {removed : List P} (hpaths : ∀ path ∈ removed, paths path)
    (files : Files P C) : SameOff paths files (files.removeAll removed) := by
  intro other hother
  rw [Files.get?_removeAll, if_neg]
  exact fun hmem => hother (hpaths other hmem)

/-- Whatever fails, the program changes only these files. -/
def Touches (paths : P → Prop) (program : FileProgram P C ε α) : Prop :=
  ∀ disk, Ensures program disk (fun _ after => SameOff paths disk.files after.files)
    fun _ after => SameOff paths disk.files after.files

variable {program : FileProgram P C ε α}

theorem Touches.mono {paths' : P → Prop} (h : Touches paths program)
    (hpaths : ∀ path, paths path → paths' path) : Touches paths' program :=
  fun disk => (h disk).mono
    (fun _ _ hsame path hpath => hsame path fun hmem => hpath (hpaths _ hmem))
    fun _ _ hsame path hpath => hsame path fun hmem => hpath (hpaths _ hmem)

theorem touches_pure (value : α) : Touches paths (pure value : FileProgram P C ε α) :=
  fun disk => SameOff.refl disk.files

theorem touches_throw (error : ε) : Touches paths (throw error : FileProgram P C ε α) :=
  fun disk => SameOff.refl disk.files

theorem Touches.bind {next : α → FileProgram P C ε β} (h : Touches paths program)
    (hnext : ∀ value, Touches paths (next value)) : Touches paths (program >>= next) := by
  intro disk
  apply ensures_bind
  apply Ensures.mono (h disk)
  · intro value after hafter
    exact (hnext value after).mono (fun _ _ => hafter.trans) fun _ _ => hafter.trans
  · exact fun _ _ => id

theorem Touches.tryCatch {handler : ε → FileProgram P C ε α} (h : Touches paths program)
    (hhandler : ∀ error, Touches paths (handler error)) :
    Touches paths (tryCatch program handler) := by
  intro disk
  apply ensures_tryCatch
  apply Ensures.mono (h disk)
  · exact fun _ _ => id
  · intro error after hafter
    exact (hhandler error after).mono (fun _ _ => hafter.trans) fun _ _ => hafter.trans

variable {failure : ε}

theorem touches_operation {broken : Damage C → Files P C → Files P C}
    {effect : Files P C → Option (α × Files P C)}
    (hbroken : ∀ damage files, SameOff paths files (broken damage files))
    (heffect : ∀ files value after, effect files = some (value, after) →
      SameOff paths files after) :
    Touches paths (operation failure broken effect) := by
  rintro ⟨files, fault⟩
  cases hresult : effect files with
  | none =>
      unfold Ensures operation
      rcases fault with _ | ⟨_ | count, damage⟩
      · simp only [hresult]
        exact SameOff.refl files
      · exact hbroken damage files
      · simp only [hresult]
        exact SameOff.refl files
  | some result =>
      exact ensures_operation hresult (fun _ damage => hbroken damage files) fun _ _ =>
        heffect files _ _ hresult

theorem touches_exclusiveWrite {path : P} (hpath : paths path) (content : C) :
    Touches paths (exclusiveWrite failure path content) := by
  apply touches_operation
  · rintro ⟨left, removes⟩ files
    split_ifs
    · exact SameOff.refl files
    · cases left with
      | none => exact SameOff.refl files
      | some torn => exact SameOff.write hpath files torn
  · intro files value after heffect
    split_ifs at heffect
    cases heffect
    exact SameOff.write hpath files content

theorem touches_replace {source target : P} (hsource : paths source) (htarget : paths target) :
    Touches paths (replace failure source target : FileProgram P C ε Unit) := by
  apply touches_operation
  · exact fun _ files => SameOff.refl files
  · intro files value after heffect
    obtain ⟨content, -, heq⟩ := Option.map_eq_some_iff.mp heffect
    cases heq
    exact (SameOff.remove hsource files).trans (SameOff.write htarget _ content)

theorem touches_mkdir : Touches paths (mkdir failure : FileProgram P C ε Unit) := by
  apply touches_operation
  · exact fun _ files => SameOff.refl files
  · rintro files value after ⟨⟩
    exact SameOff.refl files

theorem touches_isFile (path : P) : Touches paths (isFile path : FileProgram P C ε Bool) :=
  fun disk => SameOff.refl disk.files

theorem touches_unlink {path : P} (hpath : paths path) :
    Touches paths (unlink failure path : FileProgram P C ε Unit) := by
  apply touches_operation
  · exact fun _ files => SameOff.refl files
  · rintro files value after ⟨⟩
    exact SameOff.remove hpath files

theorem touches_unlinkAll {removed : List P} (hpaths : ∀ path ∈ removed, paths path) :
    Touches paths (unlinkAll failure removed : FileProgram P C ε Unit) := by
  induction removed with
  | nil => exact touches_pure ()
  | cons path removed ih =>
      obtain ⟨hpath, hrest⟩ := List.forall_mem_cons.mp hpaths
      exact Touches.bind (touches_unlink hpath) fun _ => ih hrest

theorem touches_request {broken : Damage C → Files P C → Files P C}
    {effect : Files P C → Except ε α × Files P C}
    (hbroken : ∀ damage files, SameOff paths files (broken damage files))
    (heffect : ∀ files, SameOff paths files (effect files).2) :
    Touches paths (request failure broken effect) := by
  rintro ⟨files, fault⟩
  have hafter := heffect files
  cases hresult : effect files with
  | mk result after =>
      rw [hresult] at hafter
      cases result with
      | ok value =>
          exact ensures_request_ok hresult (fun damage _ => hbroken damage files) fun _ => hafter
      | error error =>
          exact ensures_request_error hresult (fun damage _ => hbroken damage files) fun _ => hafter

theorem touches_put {taken : ε} {key : P} (hkey : paths key) (content : C) (createOnly : Bool) :
    Touches paths (put failure taken key content createOnly) := by
  apply touches_request
  · intro left files
    split_ifs
    · exact SameOff.refl files
    · exact SameOff.write hkey files content
    · exact SameOff.refl files
  · intro files
    split_ifs
    · exact SameOff.refl files
    · exact SameOff.write hkey files content

theorem touches_get {missing : ε} (size : C → Nat) (key : P) (maxBytes : Nat) :
    Touches paths (get failure missing size key maxBytes) := by
  apply touches_request
  · exact fun _ files => SameOff.refl files
  · intro files
    split
    · split_ifs
      · exact SameOff.refl files
      · exact SameOff.refl files
    · exact SameOff.refl files

theorem touches_deleteObjects {keys : List P} (hkeys : ∀ key ∈ keys, paths key) :
    Touches paths (deleteObjects failure keys : FileProgram P C ε Nat) := by
  apply touches_request
  · intro damage files
    apply SameOff.removeAll
    exact fun key hkey => hkeys key (damage.mem_of_mem_among hkey)
  · exact fun files => SameOff.removeAll hkeys files

/-- The files elsewhere are the same after a run. -/
theorem Touches.run (h : Touches paths program) (files : Files P C) (fault : Option (Fault C)) :
    SameOff paths files (run program files fault).2 := by
  rcases (h ⟨files, fault⟩).run with ⟨_, disk, hrun, hsame⟩ | ⟨_, disk, hrun, hsame⟩
  · rw [hrun]
    exact hsame
  · rw [hrun]
    exact hsame

/-! ## Reading -/

/-- Without a fault, the program has this result, and leaves the files as they are. -/
def Yields (program : FileProgram P C ε α) (files : Files P C) : Except ε α → Prop
  | .ok value => program ⟨files, none⟩ = .ok value ⟨files, none⟩
  | .error error => program ⟨files, none⟩ = .error error ⟨files, none⟩

theorem Yields.run {files : Files P C} {result : Except ε α} (h : Yields program files result) :
    run program files none = (result, files) := by
  unfold FileProgram.run
  cases result with
  | ok value =>
      rw [show program ⟨files, none⟩ = .ok value ⟨files, none⟩ from h]
  | error error =>
      rw [show program ⟨files, none⟩ = .error error ⟨files, none⟩ from h]

/-- A program has one result. -/
theorem Yields.unique {files : Files P C} {result result' : Except ε α}
    (h : Yields program files result) (h' : Yields program files result') : result = result' :=
  (Prod.mk.inj (h.run.symm.trans h'.run)).1

theorem Yields.ensures {files : Files P C} {value : α} {post : α → Disk P C → Prop}
    {failed : ε → Disk P C → Prop} (h : Yields program files (.ok value))
    (hpost : post value ⟨files, none⟩) : Ensures program ⟨files, none⟩ post failed := by
  unfold Ensures
  rw [show program ⟨files, none⟩ = .ok value ⟨files, none⟩ from h]
  exact hpost

theorem Yields.ensures_error {files : Files P C} {error : ε} {post : α → Disk P C → Prop}
    {failed : ε → Disk P C → Prop} (h : Yields program files (.error error))
    (hfailed : failed error ⟨files, none⟩) : Ensures program ⟨files, none⟩ post failed := by
  unfold Ensures
  rw [show program ⟨files, none⟩ = .error error ⟨files, none⟩ from h]
  exact hfailed

/-- Without a fault, the program changes nothing, and its result depends on these files only. -/
def Reads (paths : P → Prop) (program : FileProgram P C ε α) : Prop :=
  ∀ files files' : Files P C, (∀ path, paths path → files'.get? path = files.get? path) →
    ∃ result, Yields program files result ∧ Yields program files' result

theorem reads_pure (value : α) : Reads paths (pure value : FileProgram P C ε α) :=
  fun _ _ _ => ⟨.ok value, rfl, rfl⟩

theorem reads_throw (error : ε) : Reads paths (throw error : FileProgram P C ε α) :=
  fun _ _ _ => ⟨.error error, rfl, rfl⟩

theorem reads_ofExcept (result : Except ε α) :
    Reads paths (ofExcept result : FileProgram P C ε α) := by
  cases result with
  | ok value => exact reads_pure value
  | error error => exact reads_throw error

theorem yields_bind_ok {next : α → FileProgram P C ε β} {files : Files P C} {value : α}
    {result : Except ε β} (h : Yields program files (.ok value))
    (hnext : Yields (next value) files result) : Yields (program >>= next) files result := by
  have hbind : (program >>= next) ⟨files, none⟩ = next value ⟨files, none⟩ := by
    show EStateM.bind program next ⟨files, none⟩ = _
    rw [EStateM.bind, show program ⟨files, none⟩ = .ok value ⟨files, none⟩ from h]
  cases result with
  | ok value => exact hbind.trans hnext
  | error error => exact hbind.trans hnext

theorem yields_bind_error {next : α → FileProgram P C ε β} {files : Files P C} {error : ε}
    (h : Yields program files (.error error)) :
    Yields (program >>= next) files (.error error) := by
  show EStateM.bind program next ⟨files, none⟩ = _
  rw [EStateM.bind, show program ⟨files, none⟩ = .error error ⟨files, none⟩ from h]

theorem Reads.bind {next : α → FileProgram P C ε β} (h : Reads paths program)
    (hnext : ∀ value, Reads paths (next value)) : Reads paths (program >>= next) := by
  intro files files' hsame
  obtain ⟨result, hfiles, hfiles'⟩ := h files files' hsame
  cases result with
  | error error => exact ⟨.error error, yields_bind_error hfiles, yields_bind_error hfiles'⟩
  | ok value =>
      obtain ⟨last, hlast, hlast'⟩ := hnext value files files' hsame
      exact ⟨last, yields_bind_ok hfiles hlast, yields_bind_ok hfiles' hlast'⟩

theorem yields_tryCatch_ok {handler : ε → FileProgram P C ε α} {files : Files P C} {value : α}
    (h : Yields program files (.ok value)) :
    Yields (tryCatch program handler) files (.ok value) := by
  show EStateM.tryCatch program handler ⟨files, none⟩ = _
  rw [EStateM.tryCatch, show program ⟨files, none⟩ = .ok value ⟨files, none⟩ from h]

theorem yields_tryCatch_error {handler : ε → FileProgram P C ε α} {files : Files P C} {error : ε}
    {result : Except ε α} (h : Yields program files (.error error))
    (hhandler : Yields (handler error) files result) :
    Yields (tryCatch program handler) files result := by
  have hcatch : EStateM.tryCatch program handler ⟨files, none⟩ = handler error ⟨files, none⟩ := by
    rw [EStateM.tryCatch, show program ⟨files, none⟩ = .error error ⟨files, none⟩ from h]
    rfl
  cases result with
  | ok value => exact hcatch.trans hhandler
  | error error => exact hcatch.trans hhandler

theorem Reads.tryCatch {handler : ε → FileProgram P C ε α} (h : Reads paths program)
    (hhandler : ∀ error, Reads paths (handler error)) :
    Reads paths (tryCatch program handler) := by
  intro files files' hsame
  obtain ⟨result, hfiles, hfiles'⟩ := h files files' hsame
  cases result with
  | ok value => exact ⟨.ok value, yields_tryCatch_ok hfiles, yields_tryCatch_ok hfiles'⟩
  | error error =>
      obtain ⟨last, hlast, hlast'⟩ := hhandler error files files' hsame
      exact ⟨last, yields_tryCatch_error hfiles hlast, yields_tryCatch_error hfiles' hlast'⟩

theorem yields_ofExcept (result : Except ε α) (files : Files P C) :
    Yields (ofExcept result : FileProgram P C ε α) files result := by
  cases result with
  | ok value => exact rfl
  | error error => exact rfl

theorem yields_read {files : Files P C} {path : P} {content : C}
    (h : files.get? path = some content) :
    Yields (read failure path : FileProgram P C ε C) files (.ok content) := by
  simp [Yields, read, operation, h]

theorem yields_read_none {files : Files P C} {path : P} (h : files.get? path = none) :
    Yields (read failure path : FileProgram P C ε C) files (.error failure) := by
  simp [Yields, read, operation, h]

theorem yields_get {missing : ε} {files : Files P C} {key : P} {content : C} {size : C → Nat}
    {maxBytes : Nat} (h : files.get? key = some content) (hsize : size content ≤ maxBytes) :
    Yields (get failure missing size key maxBytes) files (.ok content) := by
  simp [Yields, get, request, h, hsize]

theorem yields_get_none {missing : ε} {files : Files P C} {key : P} {size : C → Nat}
    {maxBytes : Nat} (h : files.get? key = none) :
    Yields (get failure missing size key maxBytes) files (.error missing) := by
  simp [Yields, get, request, h]

theorem yields_get_large {missing : ε} {files : Files P C} {key : P} {content : C}
    {size : C → Nat} {maxBytes : Nat} (h : files.get? key = some content)
    (hsize : ¬size content ≤ maxBytes) :
    Yields (get failure missing size key maxBytes) files (.error failure) := by
  simp [Yields, get, request, h, hsize]

theorem reads_isFile {path : P} (hpath : paths path) :
    Reads paths (isFile path : FileProgram P C ε Bool) := by
  intro files files' hsame
  refine ⟨.ok (files.get? path).isSome, rfl, ?_⟩
  rw [← hsame path hpath]
  rfl

theorem reads_read {path : P} (hpath : paths path) :
    Reads paths (read failure path : FileProgram P C ε C) := by
  intro files files' hsame
  cases hcontent : files.get? path with
  | none =>
      exact ⟨_, yields_read_none hcontent, yields_read_none ((hsame path hpath).trans hcontent)⟩
  | some content =>
      exact ⟨_, yields_read hcontent, yields_read ((hsame path hpath).trans hcontent)⟩

theorem reads_get {missing : ε} {key : P} (hkey : paths key) (size : C → Nat) (maxBytes : Nat) :
    Reads paths (get failure missing size key maxBytes) := by
  intro files files' hsame
  have hfile := hsame key hkey
  cases hcontent : files.get? key with
  | none => exact ⟨_, yields_get_none hcontent, yields_get_none (hfile.trans hcontent)⟩
  | some content =>
      by_cases hsize : size content ≤ maxBytes
      · exact ⟨_, yields_get hcontent hsize, yields_get (hfile.trans hcontent) hsize⟩
      · exact ⟨_, yields_get_large hcontent hsize, yields_get_large (hfile.trans hcontent) hsize⟩

/-- What is read does not change, so neither does the result. -/
theorem Reads.run_eq (h : Reads paths program) {files files' : Files P C}
    (hsame : ∀ path, paths path → files'.get? path = files.get? path) :
    (run program files' none).1 = (run program files none).1 := by
  obtain ⟨result, hfiles, hfiles'⟩ := h files files' hsame
  rw [hfiles.run, hfiles'.run]

end FileProgram

end Storage
