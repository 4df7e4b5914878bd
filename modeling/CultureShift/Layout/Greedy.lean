/-
# Greedy line breaking

Items are put on lines in their order: the next one goes on the current line if
the line still fits, and on a line of its own otherwise. No measure is assumed
until the last section. There a line that fits also fits without the items at
either end of it, and then no other way to break the items takes fewer lines.
-/

import Mathlib.Data.List.Infix

namespace Layout

variable {α : Type} (fits : List α → Prop) [DecidablePred fits]

/-- The lines that the items make, the current line first. There are none if an item does
not even fit on a line of its own. -/
def fill : List α → List α → Option (List (List α))
  | current, [] => some (if current = [] then [] else [current])
  | current, item :: items =>
      if fits (current ++ [item]) then fill (current ++ [item]) items
      else if current ≠ [] ∧ fits [item] then (fill [item] items).map (current :: ·)
      else none

/-- The items on consecutive lines, none of which is empty. -/
structure Breaks (items : List α) (lines : List (List α)) : Prop where
  flatten : lines.flatten = items
  nonempty : ∀ line ∈ lines, line ≠ []

variable {fits} {current items : List α} {lines : List (List α)}

theorem fill_of_fits {item : α} (h : fits (current ++ [item])) :
    fill fits current (item :: items) = fill fits (current ++ [item]) items :=
  if_pos h

theorem fill_of_not_fits {item : α} (h : ¬fits (current ++ [item])) (hcurrent : current ≠ [])
    (hitem : fits [item]) :
    fill fits current (item :: items) = (fill fits [item] items).map (current :: ·) :=
  (if_neg h).trans (if_pos ⟨hcurrent, hitem⟩)

theorem fill_eq_none {item : α} (h : ¬fits (current ++ [item]))
    (hitem : ¬(current ≠ [] ∧ fits [item])) : fill fits current (item :: items) = none :=
  (if_neg h).trans (if_neg hitem)

/-! ## What the lines are -/

theorem breaks_fill (h : fill fits current items = some lines) :
    Breaks (current ++ items) lines := by
  induction items generalizing current lines with
  | nil =>
      obtain rfl := Option.some.inj h
      by_cases hcurrent : current = []
      · subst hcurrent
        exact ⟨rfl, fun _ hline => absurd hline List.not_mem_nil⟩
      · rw [if_neg hcurrent]
        refine ⟨by simp, ?_⟩
        intro line hline
        rwa [List.mem_singleton.mp hline]
  | cons item items ih =>
      by_cases hfits : fits (current ++ [item])
      · rw [fill_of_fits hfits] at h
        simpa using ih h
      · by_cases hitem : current ≠ [] ∧ fits [item]
        · rw [fill_of_not_fits hfits hitem.1 hitem.2] at h
          obtain ⟨rest, hrest, rfl⟩ := Option.map_eq_some_iff.mp h
          obtain ⟨hflatten, hnonempty⟩ := ih hrest
          refine ⟨by rw [List.flatten_cons, hflatten]; rfl, ?_⟩
          intro line hline
          rcases List.mem_cons.mp hline with rfl | hline
          · exact hitem.1
          · exact hnonempty line hline
        · rw [fill_eq_none hfits hitem] at h
          cases h

theorem fits_of_fill (h : fill fits current items = some lines)
    (hcurrent : current ≠ [] → fits current) : ∀ line ∈ lines, fits line := by
  induction items generalizing current lines with
  | nil =>
      obtain rfl := Option.some.inj h
      intro line hline
      by_cases hempty : current = []
      · rw [if_pos hempty] at hline
        cases hline
      · rw [if_neg hempty] at hline
        rw [List.mem_singleton.mp hline]
        exact hcurrent hempty
  | cons item items ih =>
      by_cases hfits : fits (current ++ [item])
      · rw [fill_of_fits hfits] at h
        exact ih h fun _ => hfits
      · by_cases hitem : current ≠ [] ∧ fits [item]
        · rw [fill_of_not_fits hfits hitem.1 hitem.2] at h
          obtain ⟨rest, hrest, rfl⟩ := Option.map_eq_some_iff.mp h
          intro line hline
          rcases List.mem_cons.mp hline with rfl | hline
          · exact hcurrent hitem.1
          · exact ih hrest (fun _ => hitem.2) line hline
        · rw [fill_eq_none hfits hitem] at h
          cases h

/-- Items make at least one line. -/
theorem lines_ne_nil (h : Breaks items lines) (hitems : items ≠ []) : lines ≠ [] := by
  rintro rfl
  exact hitems h.flatten.symm

/-! ## Greedy is best -/

/-- The line that the first of some last items stands on: what these items occupy of it, and
the lines after it. -/
theorem exists_front (hsuffix : items <:+ lines.flatten) (hitems : items ≠ []) :
    ∃ front line later, items = front ++ later.flatten ∧ front ≠ [] ∧ front <:+ line ∧
      line ∈ lines ∧ later.length + 1 ≤ lines.length ∧ later <:+ lines := by
  induction lines with
  | nil => exact absurd (List.suffix_nil.mp hsuffix) hitems
  | cons line lines ih =>
      by_cases hlater : items <:+ lines.flatten
      · obtain ⟨front, other, later, heq, hfront, hother, hmem, hlength, hlater⟩ := ih hlater
        exact ⟨front, other, later, heq, hfront, hother, List.mem_cons_of_mem line hmem,
          Nat.le_succ_of_le hlength, hlater.trans (List.suffix_cons line lines)⟩
      · obtain ⟨before, heq⟩ := hsuffix
        rw [List.flatten_cons, List.append_eq_append_iff] at heq
        rcases heq with ⟨front, hline, rfl⟩ | ⟨skipped, -, hskipped⟩
        · refine ⟨front, line, lines, rfl, ?_, ⟨before, hline.symm⟩, List.mem_cons_self,
            le_rfl, List.suffix_cons line lines⟩
          rintro rfl
          exact hlater (List.suffix_refl _)
        · exact absurd ⟨skipped, hskipped.symm⟩ hlater

variable {bound : List α}

/-- Where lines that fit end in the items still to be placed, they are at least as many as
the lines that these items make. -/
theorem exists_fill_of_suffix
    (hclosed : ∀ line part, line <:+: bound → part <:+: line → part ≠ [] → fits line → fits part)
    (hlines : ∀ line ∈ lines, line <:+: bound ∧ fits line)
    (hsuffix : current ++ items <:+ lines.flatten) :
    ∃ filled, fill fits current items = some filled ∧ filled.length ≤ lines.length := by
  induction items generalizing current lines with
  | nil =>
      refine ⟨_, rfl, ?_⟩
      by_cases hcurrent : current = []
      · rw [if_pos hcurrent]
        exact Nat.zero_le _
      · rw [List.append_nil] at hsuffix
        rw [if_neg hcurrent]
        apply List.length_pos_of_ne_nil
        rintro rfl
        exact hcurrent (List.suffix_nil.mp hsuffix)
  | cons item items ih =>
      by_cases hfits : fits (current ++ [item])
      · rw [fill_of_fits hfits]
        apply ih hlines
        simpa using hsuffix
      · obtain ⟨front, line, later, heq, hfront, hpart, hmem, hlength, hlater⟩ :=
          exists_front hsuffix (by simp)
        obtain ⟨hbound, hline⟩ := hlines line hmem
        -- The current line and the item are not both on that line, or they would fit.
        have hnext : current ≠ [] ∧ item :: items <:+ later.flatten := by
          rcases List.append_eq_append_iff.mp heq with ⟨rest, rfl, hrest⟩ | ⟨rest, rfl, hrest⟩
          · cases rest with
            | nil =>
                rw [List.append_nil] at hfront
                exact ⟨hfront, hrest ▸ List.suffix_refl _⟩
            | cons other rest =>
                obtain ⟨rfl, -⟩ := List.cons.inj hrest
                have hinfix : current ++ [item] <:+: line := by
                  obtain ⟨before, hbefore⟩ := hpart
                  exact ⟨before, rest, by simpa using hbefore⟩
                exact absurd (hclosed line _ hbound hinfix (by simp) hline) hfits
          · exact ⟨by simp [hfront], ⟨rest, hrest.symm⟩⟩
        have hkept : ∀ other ∈ later, other <:+: bound ∧ fits other :=
          fun other hother => hlines other (hlater.subset hother)
        have hitem : fits [item] := by
          have hmem : item ∈ later.flatten := hnext.2.subset List.mem_cons_self
          obtain ⟨other, hother, hitem⟩ := List.mem_flatten.mp hmem
          obtain ⟨hbound, hfits⟩ := hkept other hother
          exact hclosed other [item] hbound ((List.singleton_infix_iff item other).mpr hitem)
            (by simp) hfits
        obtain ⟨filled, hfilled, hcount⟩ : ∃ filled, fill fits [item] items = some filled ∧
            filled.length ≤ later.length := ih hkept hnext.2
        refine ⟨current :: filled, ?_, (Nat.succ_le_succ hcount).trans hlength⟩
        rw [fill_of_not_fits hfits hnext.1 hitem, hfilled]
        rfl

/-- Breaking the items greedily, if they can be broken at all, takes the fewest lines. -/
theorem exists_fill_of_breaks
    (hclosed : ∀ line part, line <:+: items → part <:+: line → part ≠ [] → fits line → fits part)
    (hbreaks : Breaks items lines) (hfits : ∀ line ∈ lines, fits line) :
    ∃ filled, fill fits [] items = some filled ∧ filled.length ≤ lines.length := by
  have hlines : ∀ line ∈ lines, line <:+: items ∧ fits line := by
    intro line hline
    rw [← hbreaks.flatten]
    exact ⟨List.infix_of_mem_flatten hline, hfits line hline⟩
  apply exists_fill_of_suffix hclosed hlines
  rw [hbreaks.flatten]
  exact List.suffix_refl _

/-- The items can be broken into so many lines that fit exactly if the greedy lines are that
many or fewer. -/
theorem exists_breaks_iff {limit : Nat}
    (hclosed : ∀ line part, line <:+: items → part <:+: line → part ≠ [] → fits line → fits part) :
    (∃ lines, Breaks items lines ∧ (∀ line ∈ lines, fits line) ∧ lines.length ≤ limit) ↔
      ∃ lines, fill fits [] items = some lines ∧ lines.length ≤ limit := by
  constructor
  · rintro ⟨lines, hbreaks, hfits, hlength⟩
    obtain ⟨filled, hfilled, hcount⟩ := exists_fill_of_breaks hclosed hbreaks hfits
    exact ⟨filled, hfilled, hcount.trans hlength⟩
  · rintro ⟨lines, hfilled, hlength⟩
    exact ⟨lines, breaks_fill hfilled, fits_of_fill hfilled (absurd rfl ·), hlength⟩

end Layout
