/-
# Paths of names

A path is split at its separators. Empty components and single dots name
nothing, and two dots lead back. A path without two dots leads to the names that
are left, so it stays below the names it begins with.
-/

import Mathlib.Data.List.Basic

namespace Storage

namespace PosixPath

variable {α : Type} [DecidableEq α] (separator dot : α)

def components (path : List α) : List (List α) := path.splitOn separator

/-- The component names something. -/
def Names (component : List α) : Prop := component ≠ [] ∧ component ≠ [dot]

instance (component : List α) : Decidable (Names dot component) :=
  inferInstanceAs (Decidable (_ ∧ _))

/-- The components that name something. -/
def tail (path : List α) : List (List α) :=
  (components separator path).filter fun component => Names dot component

/-- Where one component leads from a place, given by the names on the way to it. -/
def step (place : List (List α)) (component : List α) : List (List α) :=
  if component = [dot, dot] then place.dropLast
  else if Names dot component then place ++ [component]
  else place

/-- Where the path leads from a place. -/
def walk (place : List (List α)) (path : List α) : List (List α) :=
  (components separator path).foldl (step dot) place

variable {separator dot} {path base rest : List α}

/-- Two dots are kept, so it does not matter where they are looked for. -/
theorem parent_mem_tail : [dot, dot] ∈ tail separator dot path ↔
    [dot, dot] ∈ components separator path := by
  rw [tail, List.mem_filter]
  apply and_iff_left
  exact decide_eq_true ⟨List.cons_ne_nil _ _, fun heq => nomatch heq⟩

theorem tail_append : tail separator dot (base ++ separator :: rest) =
    tail separator dot base ++ tail separator dot rest := by
  rw [tail, components, List.splitOn_append_cons_self, List.filter_append]
  rfl

/-- Without two dots every name is one step down. -/
theorem foldl_step {steps : List (List α)} (h : [dot, dot] ∉ steps) (place : List (List α)) :
    steps.foldl (step dot) place =
      place ++ steps.filter fun component => Names dot component := by
  induction steps generalizing place with
  | nil => exact (List.append_nil place).symm
  | cons component steps ih =>
      rw [List.mem_cons, not_or] at h
      obtain ⟨hfirst, hrest⟩ := h
      rw [List.foldl_cons, ih hrest, step, if_neg (Ne.symm hfirst)]
      by_cases hnames : Names dot component
      · rw [if_pos hnames, List.filter_cons_of_pos (by simpa using hnames), List.append_assoc]
        rfl
      · rw [if_neg hnames, List.filter_cons_of_neg (by simpa using hnames)]

theorem walk_eq_tail (h : [dot, dot] ∉ components separator path) (place : List (List α)) :
    walk separator dot place path = place ++ tail separator dot path :=
  foldl_step h place

/-- Without two dots the path ends at or below the names of any part it begins with. -/
theorem tail_prefix_walk (h : [dot, dot] ∉ components separator (base ++ separator :: rest)) :
    tail separator dot base <+: walk separator dot [] (base ++ separator :: rest) := by
  rw [walk_eq_tail h, List.nil_append, tail_append]
  exact List.prefix_append _ _

end PosixPath

end Storage
