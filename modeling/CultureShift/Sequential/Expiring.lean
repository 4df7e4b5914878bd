/-
# Maps with expiry and closing

Under every key there is nothing, a value until it expires, or a mark that the
key is closed since some time. A purge closes what has expired and takes away
the marks that are old enough; until then nothing can be put under a closed key.
-/

import CultureShift.Sequential.Reducer
import Mathlib.Data.Set.Card
import Mathlib.Logic.Function.Basic
import Mathlib.Order.Basic

namespace Sequential

variable {κ ν τ : Type}

/-- What is kept under a key. -/
inductive Cell (ν τ : Type)
  | absent
  | live (value : ν) (expiresAt : τ)
  | closed (since : τ)

/-- What a reader of a cell is told. -/
inductive Reading (ν : Type)
  | missing
  | closed
  | value (value : ν)

namespace Cell

/-- Put a value; whatever was there is overwritten, unless the cell is closed. -/
def put (value : ν) (expiresAt : τ) : Cell ν τ → Cell ν τ
  | closed since => closed since
  | _ => live value expiresAt

/-- Close the cell, unless it is closed already. -/
def close (now : τ) : Cell ν τ → Cell ν τ
  | closed since => closed since
  | _ => closed now

def isLive : Cell ν τ → Bool
  | live _ _ => true
  | _ => false

variable [LinearOrder τ]

def read (now : τ) : Cell ν τ → Reading ν
  | absent => .missing
  | live value expiresAt => if now < expiresAt then .value value else .closed
  | closed _ => .closed

/-- The cell has a value that has expired. -/
def Expired (now : τ) : Cell ν τ → Prop
  | live _ expiresAt => expiresAt ≤ now
  | _ => False

instance (now : τ) (cell : Cell ν τ) : Decidable (cell.Expired now) := by
  cases cell <;> unfold Expired <;> infer_instance

/-- Take away the mark of a cell that has been closed for long enough. -/
def reopen (cutoff : τ) : Cell ν τ → Cell ν τ
  | closed since => if since ≤ cutoff then absent else closed since
  | cell => cell

/-- Close the cell if it has expired. -/
def expire (now : τ) (cell : Cell ν τ) : Cell ν τ :=
  if cell.Expired now then cell.close now else cell

def purge (now cutoff : τ) (cell : Cell ν τ) : Cell ν τ := (cell.expire now).reopen cutoff

variable {now cutoff : τ} {cell : Cell ν τ}

theorem expired_live {value : ν} {expiresAt : τ} :
    (live value expiresAt).Expired now ↔ expiresAt ≤ now := Iff.rfl

theorem reopen_closed {since : τ} :
    (closed since : Cell ν τ).reopen cutoff =
      if since ≤ cutoff then absent else closed since := rfl

theorem not_expired_expire : ¬(cell.expire now).Expired now := by
  unfold expire
  split_ifs with h
  · cases cell with
    | live value expiresAt => exact id
    | absent => exact id
    | closed since => exact id
  · exact h

theorem not_expired_reopen (h : ¬cell.Expired now) : ¬(cell.reopen cutoff).Expired now := by
  cases cell with
  | absent => exact h
  | live value expiresAt => exact h
  | closed since =>
      rw [reopen_closed]
      split_ifs
      · exact id
      · exact id

theorem expire_of_not_expired (h : ¬cell.Expired now) : cell.expire now = cell := if_neg h

/-- Where a value can still be read, a purge changes nothing. -/
theorem purge_live {value : ν} {expiresAt : τ} (h : now < expiresAt) :
    (live value expiresAt).purge now cutoff = live value expiresAt := by
  have hfresh : ¬(live value expiresAt).Expired now := expired_live.not.mpr (not_le.mpr h)
  rw [purge, expire_of_not_expired hfresh]
  rfl

theorem purge_expired {value : ν} {expiresAt : τ} (h : expiresAt ≤ now) :
    (live value expiresAt).purge now cutoff = (closed now).reopen cutoff :=
  congrArg (reopen cutoff) (if_pos h)

/-- A mark stands until a purge finds it old enough. -/
theorem purge_closed {since : τ} :
    (closed since : Cell ν τ).purge now cutoff =
      if since ≤ cutoff then absent else closed since := rfl

/-- A purge brings no value about. -/
theorem eq_of_isLive_purge (h : (cell.purge now cutoff).isLive = true) :
    cell.purge now cutoff = cell := by
  cases cell with
  | absent => rfl
  | closed since =>
      rw [purge_closed] at h
      split_ifs at h <;> cases h
  | live value expiresAt =>
      by_cases hexpired : expiresAt ≤ now
      · rw [purge_expired hexpired, reopen_closed] at h
        split_ifs at h <;> cases h
      · exact purge_live (not_le.mp hexpired)

/-- What is still closed after a purge was closed late enough. -/
theorem lt_of_purge_closed {since : τ} (h : cell.purge now cutoff = closed since) :
    cutoff < since := by
  have hreopened {earlier : τ} (heq : (closed earlier : Cell ν τ).reopen cutoff = closed since) :
      cutoff < since := by
    rw [reopen_closed] at heq
    split_ifs at heq with hold
    cases heq
    exact not_le.mp hold
  cases cell with
  | absent => cases h
  | closed earlier => exact hreopened h
  | live value expiresAt =>
      by_cases hexpired : expiresAt ≤ now
      · exact hreopened ((purge_expired hexpired).symm.trans h)
      · rw [purge_live (not_le.mp hexpired)] at h
        cases h

end Cell

/-! ## Runs -/

/-- What changes the cells. -/
inductive Change (κ ν τ : Type)
  | put (key : κ) (value : ν) (expiresAt : τ)
  | close (key : κ) (now : τ)
  | purge (now cutoff : τ)

variable [DecidableEq κ] [LinearOrder τ]

/-- The cells after a change. -/
def change (cells : κ → Cell ν τ) : Change κ ν τ → κ → Cell ν τ
  | .put key value expiresAt => Function.update cells key ((cells key).put value expiresAt)
  | .close key now => Function.update cells key ((cells key).close now)
  | .purge now cutoff => fun key => (cells key).purge now cutoff

/-- The change is a purge that takes away marks of this age. -/
def Change.Reopens (since : τ) : Change κ ν τ → Prop
  | .purge _ cutoff => since ≤ cutoff
  | _ => False

/-- The change leaves a value under this key that expires at this time. -/
def Change.Spares (key : κ) (expiresAt : τ) : Change κ ν τ → Prop
  | .put other _ _ => other ≠ key
  | .close other _ => other ≠ key
  | .purge now _ => now < expiresAt

variable {cells : κ → Cell ν τ} {key : κ} {changes : List (Change κ ν τ)}

theorem change_of_closed {since : τ} {made : Change κ ν τ} (h : cells key = .closed since)
    (hmade : ¬made.Reopens since) : change cells made key = .closed since := by
  cases made with
  | put other value expiresAt =>
      by_cases heq : key = other
      · subst heq
        rw [change, Function.update_self, h]
        rfl
      · rw [change, Function.update_of_ne heq, h]
  | close other now =>
      by_cases heq : key = other
      · subst heq
        rw [change, Function.update_self, h]
        rfl
      · rw [change, Function.update_of_ne heq, h]
  | purge now cutoff =>
      change (cells key).purge now cutoff = _
      rw [h, Cell.purge_closed]
      exact if_neg hmade

/-- A closed key stays closed until a purge takes its mark away. -/
theorem after_of_closed {since : τ} (h : cells key = .closed since)
    (hchanges : ∀ made ∈ changes, ¬made.Reopens since) :
    after change cells changes key = .closed since := by
  induction changes generalizing cells with
  | nil => exact h
  | cons made changes ih =>
      rw [after_cons]
      apply ih
      · exact change_of_closed h (hchanges made List.mem_cons_self)
      · exact fun later hlater => hchanges later (List.mem_cons_of_mem _ hlater)

theorem change_of_live {value : ν} {expiresAt : τ} {made : Change κ ν τ}
    (h : cells key = .live value expiresAt) (hmade : made.Spares key expiresAt) :
    change cells made key = .live value expiresAt := by
  cases made with
  | put other value' expiresAt' => exact (Function.update_of_ne (Ne.symm hmade) _ _).trans h
  | close other now => exact (Function.update_of_ne (Ne.symm hmade) _ _).trans h
  | purge now cutoff =>
      change (cells key).purge now cutoff = _
      rw [h]
      exact Cell.purge_live hmade

/-- A value stays until it is overwritten, closed or purged after its expiry. -/
theorem after_of_live {value : ν} {expiresAt : τ} (h : cells key = .live value expiresAt)
    (hchanges : ∀ made ∈ changes, made.Spares key expiresAt) :
    after change cells changes key = .live value expiresAt := by
  induction changes generalizing cells with
  | nil => exact h
  | cons made changes ih =>
      rw [after_cons]
      apply ih
      · exact change_of_live h (hchanges made List.mem_cons_self)
      · exact fun later hlater => hchanges later (List.mem_cons_of_mem _ hlater)

/-- The change puts nothing under this key and does not close it. -/
def Change.Leaves (key : κ) : Change κ ν τ → Prop
  | .put other _ _ => other ≠ key
  | .close other _ => other ≠ key
  | .purge _ _ => True

omit [DecidableEq κ] in
theorem Change.Leaves.spares {made : Change κ ν τ} {expiresAt : τ} (h : made.Leaves key)
    (hpurge : ∀ now cutoff, made = .purge now cutoff → now < expiresAt) :
    made.Spares key expiresAt := by
  cases made with
  | put other value expiresAt' => exact h
  | close other now => exact h
  | purge now cutoff => exact hpurge now cutoff rfl

/-- Under a key that is left alone there is never another value. -/
theorem after_of_leaves {value : ν} {expiresAt : τ}
    (h : (cells key).isLive = true → cells key = .live value expiresAt)
    (hchanges : ∀ made ∈ changes, made.Leaves key) :
    (after change cells changes key).isLive = true →
      after change cells changes key = .live value expiresAt := by
  induction changes generalizing cells with
  | nil => exact h
  | cons made changes ih =>
      rw [after_cons]
      apply ih _ fun later hlater => hchanges later (List.mem_cons_of_mem _ hlater)
      have hleaves := hchanges made List.mem_cons_self
      cases made with
      | put other value' expiresAt' =>
          rw [change, Function.update_of_ne (Ne.symm hleaves)]
          exact h
      | close other now =>
          rw [change, Function.update_of_ne (Ne.symm hleaves)]
          exact h
      | purge now cutoff =>
          intro hlive
          change ((cells key).purge now cutoff).isLive = true at hlive
          change (cells key).purge now cutoff = _
          rw [Cell.eq_of_isLive_purge hlive]
          exact h (Cell.eq_of_isLive_purge hlive ▸ hlive)

end Sequential
