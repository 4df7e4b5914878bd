/-
# A directory of files

Files by path, and the operations on them as a program may see them: one
operation, at a place that nobody knows, can fail, and a write that fails may
leave anything. What a program ensures is shown step by step.

Some programs clean up after themselves. For these it matters which operation is
the one that fails, and `Strikes` counts up to it.
-/

import Mathlib.Data.List.AList

namespace Storage

universe u

variable {P C : Type} [DecidableEq P]

/-! ## Files -/

abbrev Files (P C : Type) [DecidableEq P] := AList fun _ : P => C

namespace Files

def get? (files : Files P C) (path : P) : Option C := files.lookup path

def write (files : Files P C) (path : P) (content : C) : Files P C := files.insert path content

def remove (files : Files P C) (path : P) : Files P C := files.erase path

def removeAll (files : Files P C) (paths : List P) : Files P C := paths.foldl remove files

variable {files : Files P C} {path other : P} {content : C}

@[simp]
theorem get?_empty : get? (∅ : Files P C) path = none := AList.lookup_empty path

@[simp]
theorem get?_write :
    (files.write path content).get? other =
      if other = path then some content else files.get? other := by
  by_cases h : other = path
  · subst h
    rw [if_pos rfl]
    exact AList.lookup_insert files
  · rw [if_neg h]
    exact AList.lookup_insert_ne h

@[simp]
theorem get?_remove :
    (files.remove path).get? other = if other = path then none else files.get? other := by
  by_cases h : other = path
  · subst h
    rw [if_pos rfl]
    exact AList.lookup_erase other files
  · rw [if_neg h]
    exact AList.lookup_erase_ne h

@[simp]
theorem get?_removeAll {paths : List P} :
    (files.removeAll paths).get? other = if other ∈ paths then none else files.get? other := by
  induction paths generalizing files with
  | nil => rfl
  | cons path paths ih =>
      rw [removeAll, List.foldl_cons, ← removeAll, ih, get?_remove]
      by_cases h : other ∈ paths
      · rw [if_pos h, if_pos (List.mem_cons_of_mem _ h)]
      · rw [if_neg h]
        by_cases heq : other = path
        · rw [if_pos heq, if_pos (heq ▸ List.mem_cons_self)]
        · rw [if_neg heq, if_neg (List.not_mem_cons_of_ne_of_not_mem heq h)]

end Files

/-! ## Programs over the directory -/

/-- What a failing operation leaves of a file that it was to write, and which of the files
that it was to remove are gone. -/
structure Damage (C : Type) where
  left : Option C
  removes : Nat → Bool

def Damage.none : Damage C := ⟨Option.none, fun _ => false⟩

/-- Those of these files that are gone. -/
def Damage.among (damage : Damage C) (paths : List P) : List P :=
  (paths.zipIdx.filter fun path => damage.removes path.2).map Prod.fst

omit [DecidableEq P] in
theorem Damage.mem_of_mem_among (damage : Damage C) {paths : List P} {path : P}
    (h : path ∈ damage.among paths) : path ∈ paths := by
  obtain ⟨⟨found, position⟩, hmem, rfl⟩ := List.mem_map.mp h
  exact List.fst_mem_of_mem_zipIdx (List.mem_filter.mp hmem).1

/-- The one operation that fails, and how many succeed before it. -/
structure Fault (C : Type) where
  after : Nat
  damage : Damage C

structure Disk (P C : Type) [DecidableEq P] where
  files : Files P C
  fault : Option (Fault C)

abbrev FileProgram (P C : Type) [DecidableEq P] (ε : Type) := EStateM ε (Disk P C)

namespace FileProgram

variable {ε α : Type}

/-- One operation. Without a value it fails and changes nothing. -/
def operation (failure : ε) (broken : Damage C → Files P C → Files P C)
    (effect : Files P C → Option (α × Files P C)) : FileProgram P C ε α := fun disk =>
  match disk.fault with
  | some ⟨0, damage⟩ => .error failure ⟨broken damage disk.files, none⟩
  | fault =>
      let fault := fault.map fun fault => { fault with after := fault.after - 1 }
      match effect disk.files with
      | some (value, files) => .ok value ⟨files, fault⟩
      | none => .error failure ⟨disk.files, fault⟩

variable (failure : ε)

/-- `os.open(path, os.O_CREAT | os.O_EXCL)` and write everything. -/
def exclusiveWrite (path : P) (content : C) : FileProgram P C ε Unit :=
  operation failure
    (fun damage files =>
      if (files.get? path).isSome then files
      else
        match damage.left with
        | some content => files.write path content
        | none => files)
    fun files => if (files.get? path).isSome then none else some ((), files.write path content)

/-- `os.replace` -/
def replace (source target : P) : FileProgram P C ε Unit :=
  operation failure (fun _ files => files) fun files =>
    (files.get? source).map fun content => ((), (files.remove source).write target content)

def read (path : P) : FileProgram P C ε C :=
  operation failure (fun _ files => files) fun files =>
    (files.get? path).map fun content => (content, files)

/-- `path.exists()` -/
def fileExists (path : P) : FileProgram P C ε Bool :=
  operation failure (fun _ files => files) fun files => some ((files.get? path).isSome, files)

/-- An operation on directories only. -/
def mkdir : FileProgram P C ε Unit :=
  operation failure (fun _ files => files) fun files => some ((), files)

/-- `path.unlink(missing_ok=True)` -/
def unlink (path : P) : FileProgram P C ε Unit :=
  operation failure (fun _ files => files) fun files => some ((), files.remove path)

/-- One after the other, until one fails. -/
def unlinkAll : List P → FileProgram P C ε Unit
  | [] => pure ()
  | path :: paths => do
      unlink failure path
      unlinkAll paths

/-- `path.is_file()`, which never fails. -/
def isFile (path : P) : FileProgram P C ε Bool := fun disk =>
  .ok (disk.files.get? path).isSome disk

/-- Those of the files that are there. -/
def glob (paths : List P) : FileProgram P C ε (List P) := fun disk =>
  .ok (paths.filter fun path => (disk.files.get? path).isSome) disk

/-- A computation without a file. -/
def ofExcept : Except ε α → FileProgram P C ε α
  | .ok value => pure value
  | .error error => throw error

/-! ## What a program ensures -/

/-- From this disk, the program ends in `post` or fails in `failed`. -/
def Ensures (program : FileProgram P C ε α) (disk : Disk P C) (post : α → Disk P C → Prop)
    (failed : ε → Disk P C → Prop) : Prop :=
  match program disk with
  | .ok value disk => post value disk
  | .error error disk => failed error disk

variable {failure} {β : Type} {program : FileProgram P C ε α} {disk : Disk P C}
  {post : α → Disk P C → Prop} {failed : ε → Disk P C → Prop} {path : P} {content : C}

/-- The outcome of a program, and the files afterwards. -/
def run (program : FileProgram P C ε α) (files : Files P C) (fault : Option (Fault C)) :
    Except ε α × Files P C :=
  match program ⟨files, fault⟩ with
  | .ok value disk => (.ok value, disk.files)
  | .error error disk => (.error error, disk.files)

theorem Ensures.run {files : Files P C} {fault : Option (Fault C)}
    (h : Ensures program ⟨files, fault⟩ post failed) :
    (∃ value disk, run program files fault = (.ok value, disk.files) ∧ post value disk) ∨
      ∃ error disk, run program files fault = (.error error, disk.files) ∧ failed error disk := by
  unfold Ensures at h
  unfold FileProgram.run
  cases hrun : program ⟨files, fault⟩ with
  | ok value disk =>
      rw [hrun] at h
      exact Or.inl ⟨value, disk, rfl, h⟩
  | error error disk =>
      rw [hrun] at h
      exact Or.inr ⟨error, disk, rfl, h⟩

theorem ensures_pure {value : α} (h : post value disk) : Ensures (pure value) disk post failed := h

theorem ensures_throw {error : ε} (h : failed error disk) :
    Ensures (throw error : FileProgram P C ε α) disk post failed := h

theorem ensures_isFile {post : Bool → Disk P C → Prop}
    (h : post (disk.files.get? path).isSome disk) :
    Ensures (isFile path : FileProgram P C ε Bool) disk post failed := h

theorem ensures_glob {post : List P → Disk P C → Prop} {paths : List P}
    (h : post (paths.filter fun path => (disk.files.get? path).isSome) disk) :
    Ensures (glob paths : FileProgram P C ε (List P)) disk post failed := h

theorem ensures_ofExcept {result : Except ε α}
    (hpost : ∀ value, result = .ok value → post value disk)
    (hfailed : ∀ error, result = .error error → failed error disk) :
    Ensures (ofExcept result) disk post failed := by
  cases result with
  | ok value => exact hpost value rfl
  | error error => exact hfailed error rfl

theorem ensures_bind {next : α → FileProgram P C ε β} {post : β → Disk P C → Prop}
    (h : Ensures program disk (fun value disk => Ensures (next value) disk post failed) failed) :
    Ensures (program >>= next) disk post failed := by
  unfold Ensures at *
  show match EStateM.bind program next disk with
    | .ok value disk => post value disk
    | .error error disk => failed error disk
  unfold EStateM.bind
  cases hrun : program disk with
  | ok value disk' =>
      rw [hrun] at h
      exact h
  | error error disk' =>
      rw [hrun] at h
      exact h

/-- `try … except …` -/
theorem ensures_tryCatch {handler : ε → FileProgram P C ε α}
    (h : Ensures program disk post fun error disk => Ensures (handler error) disk post failed) :
    Ensures (tryCatch program handler) disk post failed := by
  unfold Ensures at *
  show match EStateM.tryCatch program handler disk with
    | .ok value disk => post value disk
    | .error error disk => failed error disk
  unfold EStateM.tryCatch
  cases hrun : program disk with
  | ok value disk' =>
      rw [hrun] at h
      exact h
  | error error disk' =>
      rw [hrun] at h
      exact h

theorem Ensures.mono {post' : α → Disk P C → Prop} {failed' : ε → Disk P C → Prop}
    (h : Ensures program disk post failed)
    (hpost : ∀ value disk, post value disk → post' value disk)
    (hfailed : ∀ error disk, failed error disk → failed' error disk) :
    Ensures program disk post' failed' := by
  unfold Ensures at *
  cases hrun : program disk with
  | ok value disk' =>
      rw [hrun] at h
      exact hpost value disk' h
  | error error disk' =>
      rw [hrun] at h
      exact hfailed error disk' h

variable {files : Files P C} {fault : Option (Fault C)}

/-! ## The operation that fails -/

/-- The operation after this many others is the one that fails. -/
def Strikes (fault : Option (Fault C)) (count : Nat) : Prop :=
  ∃ damage, fault = some ⟨count, damage⟩

/-- What is left of a fault after an operation that it did not strike. -/
def next (fault : Option (Fault C)) : Option (Fault C) :=
  fault.map fun fault => { fault with after := fault.after - 1 }

theorem next_eq_some_iff (h : ¬Strikes fault 0) {count : Nat} {damage : Damage C} :
    next fault = some ⟨count, damage⟩ ↔ fault = some ⟨count + 1, damage⟩ := by
  rcases fault with _ | ⟨_ | after, damage⟩
  · simp [next]
  · exact absurd ⟨damage, rfl⟩ h
  · simp [next]

theorem strikes_next_iff (h : ¬Strikes fault 0) {count : Nat} :
    Strikes (next fault) count ↔ Strikes fault (count + 1) :=
  exists_congr fun _ => next_eq_some_iff h

theorem not_strikes_none {count : Nat} : ¬Strikes (none : Option (Fault C)) count := by
  rintro ⟨_, ⟨⟩⟩

theorem Strikes.ne_none {count : Nat} (h : Strikes fault count) : fault ≠ none := by
  rintro rfl
  exact not_strikes_none h

theorem Strikes.unique {count other : Nat} (h : Strikes fault count) (h' : Strikes fault other) :
    count = other := by
  obtain ⟨damage, rfl⟩ := h
  obtain ⟨damage', heq⟩ := h'
  cases heq
  rfl

theorem next_eq_none (h : fault = none) : next fault = none := by
  rw [h]
  rfl

section Struck

variable {broken : Damage C → Files P C → Files P C} {effect : Files P C → Option (α × Files P C)}

/-- An operation that is possible fails only when it is struck. -/
theorem ensures_operation_struck {value : α} {files' : Files P C}
    (heffect : effect files = some (value, files'))
    (hstruck : ∀ damage, fault = some ⟨0, damage⟩ → failed failure ⟨broken damage files, none⟩)
    (hpost : ¬Strikes fault 0 → post value ⟨files', next fault⟩) :
    Ensures (operation failure broken effect) ⟨files, fault⟩ post failed := by
  unfold Ensures operation
  rcases fault with _ | ⟨_ | count, damage⟩
  · simp only [heffect]
    exact hpost (by simp [Strikes])
  · exact hstruck damage rfl
  · simp only [heffect]
    exact hpost (by simp [Strikes])

/-- An operation that is not possible fails either way. -/
theorem ensures_operation_none_struck (heffect : effect files = none)
    (hbroken : ∀ damage, broken damage files = files)
    (hstruck : Strikes fault 0 → failed failure ⟨files, none⟩)
    (hfailed : ¬Strikes fault 0 → failed failure ⟨files, next fault⟩) :
    Ensures (operation failure broken effect) ⟨files, fault⟩ post failed := by
  unfold Ensures operation
  rcases fault with _ | ⟨_ | count, damage⟩
  · simp only [heffect]
    exact hfailed (by simp [Strikes])
  · simp only [hbroken]
    exact hstruck ⟨damage, rfl⟩
  · simp only [heffect]
    exact hfailed (by simp [Strikes])

/-- A file that is there is not created. -/
theorem ensures_exclusiveWrite_taken {post : Unit → Disk P C → Prop}
    (htaken : files.get? path ≠ none)
    (hstruck : Strikes fault 0 → failed failure ⟨files, none⟩)
    (hfailed : ¬Strikes fault 0 → failed failure ⟨files, next fault⟩) :
    Ensures (exclusiveWrite failure path content) ⟨files, fault⟩ post failed := by
  have hpresent : (files.get? path).isSome = true := Option.isSome_iff_ne_none.mpr htaken
  apply ensures_operation_none_struck
  · exact if_pos hpresent
  · exact fun damage => if_pos hpresent
  · exact hstruck
  · exact hfailed

theorem ensures_exclusiveWrite_struck {post : Unit → Disk P C → Prop}
    (hfresh : files.get? path = none)
    (hstruck : Strikes fault 0 → ∀ left : Option C, failed failure
      ⟨left.elim files fun content => files.write path content, none⟩)
    (hpost : ¬Strikes fault 0 → post () ⟨files.write path content, next fault⟩) :
    Ensures (exclusiveWrite failure path content) ⟨files, fault⟩ post failed := by
  apply ensures_operation_struck
  · rw [hfresh]
    rfl
  · rintro ⟨left, removes⟩ hdamage
    have h := hstruck ⟨_, hdamage⟩ left
    rw [hfresh]
    cases left <;> exact h
  · exact hpost

theorem ensures_mkdir_struck {post : Unit → Disk P C → Prop}
    (hstruck : Strikes fault 0 → failed failure ⟨files, none⟩)
    (hpost : ¬Strikes fault 0 → post () ⟨files, next fault⟩) :
    Ensures (mkdir failure) ⟨files, fault⟩ post failed :=
  ensures_operation_struck rfl (fun damage hdamage => hstruck ⟨damage, hdamage⟩) hpost

/-- Some of the files are unlinked before the one whose unlink is struck. -/
theorem ensures_unlinkAll_struck {post : Unit → Disk P C → Prop} {paths : List P}
    (hstruck : ∀ count < paths.length, Strikes fault count →
      failed failure ⟨files.removeAll (paths.take count), none⟩)
    (hpost : (∀ count < paths.length, ¬Strikes fault count) →
      ∀ fault', post () ⟨files.removeAll paths, fault'⟩) :
    Ensures (unlinkAll failure paths) ⟨files, fault⟩ post failed := by
  induction paths generalizing files fault with
  | nil => exact ensures_pure (hpost nofun fault)
  | cons path paths ih =>
      apply ensures_bind
      apply ensures_operation_struck rfl
      · exact fun damage hdamage => hstruck 0 (Nat.succ_pos _) ⟨damage, hdamage⟩
      · intro hnot
        apply ih
        · intro count hcount hstrikes
          exact hstruck (count + 1) (Nat.succ_lt_succ hcount) ((strikes_next_iff hnot).mp hstrikes)
        · intro hnone
          apply hpost
          rintro (_ | count) hcount hstrikes
          · exact hnot hstrikes
          · exact hnone count (Nat.lt_of_succ_lt_succ hcount)
              ((strikes_next_iff hnot).mpr hstrikes)

end Struck

/-! ## What an operation ensures -/

/-- An operation that is possible succeeds unless it is the one that fails. -/
theorem ensures_operation {broken : Damage C → Files P C → Files P C}
    {effect : Files P C → Option (α × Files P C)} {value : α} {files' : Files P C}
    (heffect : effect files = some (value, files'))
    (hfailed : fault ≠ none → ∀ damage, failed failure ⟨broken damage files, none⟩)
    (hpost : ∀ fault', (fault = none → fault' = none) → post value ⟨files', fault'⟩) :
    Ensures (operation failure broken effect) ⟨files, fault⟩ post failed :=
  ensures_operation_struck heffect
    (fun damage hdamage => hfailed (Strikes.ne_none ⟨damage, hdamage⟩) damage)
    fun _ => hpost _ next_eq_none

/-- An operation that is not possible fails. -/
theorem ensures_operation_none {broken : Damage C → Files P C → Files P C}
    {effect : Files P C → Option (α × Files P C)} (heffect : effect files = none)
    (hbroken : ∀ damage, broken damage files = files)
    (hfailed : ∀ fault', (fault = none → fault' = none) → failed failure ⟨files, fault'⟩) :
    Ensures (operation failure broken effect) ⟨files, fault⟩ post failed :=
  ensures_operation_none_struck heffect hbroken
    (fun _ => hfailed none fun _ => rfl) fun _ => hfailed _ next_eq_none

theorem ensures_exclusiveWrite {post : Unit → Disk P C → Prop}
    (hfresh : files.get? path = none)
    (hfailed : fault ≠ none → ∀ left : Option C, failed failure
      ⟨left.elim files fun content => files.write path content, none⟩)
    (hpost : ∀ fault', (fault = none → fault' = none) →
      post () ⟨files.write path content, fault'⟩) :
    Ensures (exclusiveWrite failure path content) ⟨files, fault⟩ post failed :=
  ensures_exclusiveWrite_struck hfresh (fun hstrikes => hfailed hstrikes.ne_none) fun _ =>
    hpost _ next_eq_none

theorem ensures_replace {post : Unit → Disk P C → Prop} {source target : P}
    (hsource : files.get? source = some content)
    (hfailed : fault ≠ none → failed failure ⟨files, none⟩)
    (hpost : ∀ fault', (fault = none → fault' = none) →
      post () ⟨(files.remove source).write target content, fault'⟩) :
    Ensures (replace failure source target) ⟨files, fault⟩ post failed := by
  apply ensures_operation
  · rw [hsource]
    rfl
  · exact fun hfault _ => hfailed hfault
  · exact hpost

theorem ensures_read {post : C → Disk P C → Prop} (hfile : files.get? path = some content)
    (hfailed : fault ≠ none → failed failure ⟨files, none⟩)
    (hpost : ∀ fault', (fault = none → fault' = none) → post content ⟨files, fault'⟩) :
    Ensures (read failure path) ⟨files, fault⟩ post failed := by
  apply ensures_operation
  · rw [hfile]
    rfl
  · exact fun hfault _ => hfailed hfault
  · exact hpost

theorem ensures_read_none {post : C → Disk P C → Prop} (hfile : files.get? path = none)
    (hfailed : ∀ fault', (fault = none → fault' = none) → failed failure ⟨files, fault'⟩) :
    Ensures (read failure path) ⟨files, fault⟩ post failed := by
  apply ensures_operation_none
  · rw [hfile]
    rfl
  · exact fun _ => rfl
  · exact hfailed

theorem ensures_fileExists {post : Bool → Disk P C → Prop}
    (hfailed : fault ≠ none → failed failure ⟨files, none⟩)
    (hpost : ∀ fault', (fault = none → fault' = none) →
      post (files.get? path).isSome ⟨files, fault'⟩) :
    Ensures (fileExists failure path) ⟨files, fault⟩ post failed := by
  apply ensures_operation rfl
  · exact fun hfault _ => hfailed hfault
  · exact hpost

theorem ensures_mkdir {post : Unit → Disk P C → Prop}
    (hfailed : fault ≠ none → failed failure ⟨files, none⟩)
    (hpost : ∀ fault', (fault = none → fault' = none) → post () ⟨files, fault'⟩) :
    Ensures (mkdir failure) ⟨files, fault⟩ post failed := by
  apply ensures_operation rfl
  · exact fun hfault _ => hfailed hfault
  · exact hpost

theorem ensures_unlink {post : Unit → Disk P C → Prop}
    (hpost : post () ⟨files.remove path, none⟩) :
    Ensures (unlink failure path) ⟨files, none⟩ post failed := by
  apply ensures_operation rfl
  · exact fun hfault => absurd rfl hfault
  · intro fault' hfault
    rw [hfault rfl]
    exact hpost

/-- Without a fault, all files are unlinked. -/
theorem ensures_unlinkAll {post : Unit → Disk P C → Prop} {paths : List P}
    (hpost : post () ⟨files.removeAll paths, none⟩) :
    Ensures (unlinkAll failure paths) ⟨files, none⟩ post failed := by
  induction paths generalizing files with
  | nil => exact ensures_pure hpost
  | cons path paths ih => exact ensures_bind (ensures_unlink (ih hpost))

end FileProgram

end Storage
