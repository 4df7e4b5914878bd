/-
# Wrapped copy

Wrapping puts the units of a text on lines greedily, whatever the measure. The
lines are therefore the renderings of consecutive units; and with a monotone
measure there are as few of them as there can be, so that wrapping fails only
where no lines would do.
-/

import CultureShift.CompositionText
import CultureShift.Layout.Greedy

namespace CultureShift

open Relational Layout

/-- A unit that is not the first of its line. -/
def TextUnit.appended (unit : TextUnit) : List Char :=
  if unit.separated then ' ' :: unit.text else unit.text

/-- The units on one line. -/
def render : List TextUnit → String
  | [] => ""
  | unit :: units => String.ofList (unit.text ++ units.flatMap TextUnit.appended)

section

variable {group units : List TextUnit}

@[simp]
theorem render_nil : render [] = "" := rfl

theorem render_append (group : List TextUnit) (unit : TextUnit) :
    render (group ++ [unit]) =
      render group ++ (if group ≠ [] ∧ unit.separated = true then " " else "") ++
        String.ofList unit.text := by
  cases group with
  | nil => simp [render]
  | cons first rest =>
      cases hseparated : unit.separated with
      | true =>
          simp [render, TextUnit.appended, hseparated, String.ofList_append, String.append_assoc]
      | false =>
          simp [render, TextUnit.appended, hseparated, String.ofList_append, String.append_assoc]

theorem render_eq_empty_iff (h : ∀ unit ∈ group, unit.text ≠ []) :
    render group = "" ↔ group = [] := by
  cases group with
  | nil => simp [render]
  | cons first rest =>
      have hfirst := h first List.mem_cons_self
      simp [render, hfirst]

end

section Characters

variable {group : List TextUnit} {groups : List (List TextUnit)}

theorem filter_text {unit : TextUnit} (h : ∀ c ∈ unit.text, isWhitespace c = false) :
    unit.text.filter (fun c => !isWhitespace c) = unit.text := by
  rw [List.filter_eq_self]
  intro c hc
  rw [h c hc]
  rfl

theorem filter_appended {unit : TextUnit} (h : ∀ c ∈ unit.text, isWhitespace c = false) :
    unit.appended.filter (fun c => !isWhitespace c) = unit.text := by
  unfold TextUnit.appended
  split_ifs
  · rw [List.filter_cons_of_neg (by decide), filter_text h]
  · exact filter_text h

theorem filter_render (h : ∀ unit ∈ group, ∀ c ∈ unit.text, isWhitespace c = false) :
    (render group).toList.filter (fun c => !isWhitespace c) = group.flatMap TextUnit.text := by
  cases group with
  | nil => rfl
  | cons first rest =>
      have hrest : (rest.flatMap TextUnit.appended).filter (fun c => !isWhitespace c) =
          rest.flatMap TextUnit.text := by
        rw [List.filter_flatMap]
        apply List.flatMap_congr
        intro unit hunit
        exact filter_appended (h unit (List.mem_cons_of_mem first hunit))
      rw [render, String.toList_ofList, List.filter_append,
        filter_text (h first List.mem_cons_self), hrest]
      rfl

/-- Of the renderings, the characters that are not whitespace are those of the units. -/
theorem filter_renderings
    (h : ∀ group ∈ groups, ∀ unit ∈ group, ∀ c ∈ unit.text, isWhitespace c = false) :
    ((groups.map render).flatMap String.toList).filter (fun c => !isWhitespace c) =
      groups.flatten.flatMap TextUnit.text := by
  induction groups with
  | nil => rfl
  | cons group groups ih =>
      rw [List.map_cons, List.flatMap_cons, List.filter_append, filter_render
        (h group List.mem_cons_self), ih fun other hother => h other
        (List.mem_cons_of_mem group hother), List.flatten_cons, List.flatMap_append]

end Characters

section Wrapping

variable {ν : Type} [LE ν] [DecidableLE ν] [IntCast ν] {getlength : String → ν}
  {maximumWidth maximumLines : ℤ}

/-- The units fit on one line. -/
def Fits (getlength : String → ν) (maximumWidth : ℤ) (group : List TextUnit) : Prop :=
  getlength (render group) ≤ (maximumWidth : ν)

instance (getlength : String → ν) (maximumWidth : ℤ) :
    DecidablePred (Fits getlength maximumWidth) :=
  fun _ => inferInstanceAs (Decidable (_ ≤ _))

section Loop

variable {group units : List TextUnit} {unit : TextUnit} {lines : List String}

/-- What the loop tries is the current line with one unit more. -/
theorem candidate_eq (hgroup : ∀ unit ∈ group, unit.text ≠ []) :
    render group ++ (if render group ≠ "" ∧ unit.separated = true then " " else "") ++
        String.ofList unit.text = render (group ++ [unit]) := by
  rw [render_append]
  simp only [ne_eq, render_eq_empty_iff hgroup]

theorem fillLines_of_fits (hgroup : ∀ unit ∈ group, unit.text ≠ [])
    (h : Fits getlength maximumWidth (group ++ [unit])) :
    fillLines getlength maximumWidth maximumLines lines (render group) (unit :: units) =
      fillLines getlength maximumWidth maximumLines lines (render (group ++ [unit])) units := by
  rw [fillLines, candidate_eq hgroup]
  exact if_pos h

theorem render_singleton (unit : TextUnit) : render [unit] = String.ofList unit.text := by
  simp [render]

/-- Where the unit does not fit on the current line. -/
theorem fillLines_of_not_fits (hgroup : ∀ unit ∈ group, unit.text ≠ [])
    (h : ¬Fits getlength maximumWidth (group ++ [unit])) :
    fillLines getlength maximumWidth maximumLines lines (render group) (unit :: units) =
      if ¬(group ≠ [] ∧ Fits getlength maximumWidth [unit]) then .error ⟨.invalidOutput⟩
      else if maximumLines ≤ lines.length + 1 then .error ⟨.invalidOutput⟩
      else fillLines getlength maximumWidth maximumLines (lines ++ [render group])
        (render [unit]) units := by
  rw [fillLines, candidate_eq hgroup, render_singleton]
  have hcondition : (render group = "" ∨
      ¬getlength (String.ofList unit.text) ≤ (maximumWidth : ν)) ↔
        ¬(group ≠ [] ∧ Fits getlength maximumWidth [unit]) := by
    rw [render_eq_empty_iff hgroup, Fits, render_singleton]
    tauto
  exact (if_neg h).trans (if_congr hcondition rfl rfl)

theorem closeLines_render (hgroup : ∀ unit ∈ group, unit.text ≠ []) :
    closeLines lines (render group) = lines ++ (if group = [] then [] else [group]).map render := by
  unfold closeLines
  simp only [render_eq_empty_iff hgroup]
  split_ifs with hnil
  · simp
  · rfl

end Loop

/-- The loop breaks the units greedily, and gives up before it would need another line. -/
theorem fillLines_iff {group units : List TextUnit} {lines result : List String}
    (hgroup : ∀ unit ∈ group, unit.text ≠ []) (hunits : ∀ unit ∈ units, unit.text ≠ [])
    (hlines : (lines.length : ℤ) < maximumLines) :
    (∃ filled current,
      fillLines getlength maximumWidth maximumLines lines (render group) units =
          .ok (filled, current) ∧ closeLines filled current = result) ↔
      ∃ groups, fill (Fits getlength maximumWidth) group units = some groups ∧
        (lines.length + groups.length : ℤ) ≤ maximumLines ∧
        result = lines ++ groups.map render := by
  induction units generalizing group lines with
  | nil =>
      constructor
      · rintro ⟨filled, current, hfilled, rfl⟩
        cases hfilled
        refine ⟨_, rfl, ?_, closeLines_render hgroup⟩
        split_ifs
        · simpa using hlines.le
        · simpa using Int.add_one_le_iff.mpr hlines
      · rintro ⟨groups, hgroups, -, rfl⟩
        obtain rfl := Option.some.inj hgroups
        exact ⟨lines, render group, rfl, closeLines_render hgroup⟩
  | cons unit units ih =>
      have hrest : ∀ other ∈ units, other.text ≠ [] :=
        fun other hother => hunits other (List.mem_cons_of_mem unit hother)
      have hunit : ∀ other ∈ [unit], other.text ≠ [] := by
        intro other hother
        rw [List.mem_singleton.mp hother]
        exact hunits unit List.mem_cons_self
      by_cases hfits : Fits getlength maximumWidth (group ++ [unit])
      · rw [fillLines_of_fits hgroup hfits, fill_of_fits hfits]
        apply ih _ hrest hlines
        intro other hother
        rcases List.mem_append.mp hother with hother | hother
        · exact hgroup other hother
        · exact hunit other hother
      · rw [fillLines_of_not_fits hgroup hfits]
        by_cases hitem : group ≠ [] ∧ Fits getlength maximumWidth [unit]
        · rw [if_neg (not_not.mpr hitem), fill_of_not_fits hfits hitem.1 hitem.2]
          by_cases hfull : maximumLines ≤ lines.length + 1
          · rw [if_pos hfull]
            constructor
            · rintro ⟨filled, current, hfilled, -⟩
              cases hfilled
            · rintro ⟨groups, hgroups, hlimit, -⟩
              obtain ⟨later, hlater, rfl⟩ := Option.map_eq_some_iff.mp hgroups
              have hpos : 0 < later.length :=
                List.length_pos_of_ne_nil (lines_ne_nil (breaks_fill hlater) (by simp))
              rw [List.length_cons] at hlimit
              push_cast at hlimit
              omega
          · rw [if_neg hfull]
            have hnext : ((lines ++ [render group]).length : ℤ) < maximumLines := by
              rw [List.length_append, List.length_singleton]
              push_cast
              omega
            rw [ih hunit hrest hnext]
            constructor
            · rintro ⟨later, hlater, hlimit, rfl⟩
              refine ⟨group :: later, by rw [hlater]; rfl, ?_, by simp⟩
              rw [List.length_append, List.length_singleton] at hlimit
              rw [List.length_cons]
              push_cast at hlimit ⊢
              omega
            · rintro ⟨groups, hgroups, hlimit, rfl⟩
              obtain ⟨later, hlater, rfl⟩ := Option.map_eq_some_iff.mp hgroups
              refine ⟨later, hlater, ?_, by simp⟩
              rw [List.length_append, List.length_singleton]
              rw [List.length_cons] at hlimit
              push_cast at hlimit ⊢
              omega
        · rw [if_pos hitem, fill_eq_none hfits hitem]
          constructor
          · rintro ⟨filled, current, hfilled, -⟩
            cases hfilled
          · rintro ⟨groups, hgroups, -⟩
            cases hgroups

/-- Wrapping renders the greedy lines, where they are not too many. -/
theorem wrapText_eq_ok_iff {text : String} {result : List String} :
    wrapText getlength text maximumWidth maximumLines = .ok result ↔
      (0 < maximumWidth ∧ 0 < maximumLines) ∧ ∃ units, textUnits text = .ok units ∧
        ∃ groups, fill (Fits getlength maximumWidth) [] units = some groups ∧
          (groups.length : ℤ) ≤ maximumLines ∧ result = groups.map render := by
  have hloop (units : List TextUnit) (htext : textUnits text = .ok units)
      (hlines : 0 < maximumLines) :
      (∃ filled current, fillLines getlength maximumWidth maximumLines [] "" units =
          .ok (filled, current) ∧ closeLines filled current = result) ↔
        ∃ groups, fill (Fits getlength maximumWidth) [] units = some groups ∧
          (groups.length : ℤ) ≤ maximumLines ∧ result = groups.map render := by
    have hunits := fun unit hunit => (mem_of_textUnits htext unit hunit).1
    have hnil : ∀ unit ∈ ([] : List TextUnit), unit.text ≠ [] :=
      fun _ hunit => absurd hunit List.not_mem_nil
    have hnone : (([] : List String).length : ℤ) < maximumLines := hlines
    simpa using fillLines_iff hnil hunits hnone
  simp only [wrapText, bind_eq_ok, require_eq_ok]
  constructor
  · rintro ⟨-, hlimits, units, htext, ⟨filled, current⟩, hfilled, -, -, hresult⟩
    exact ⟨hlimits, units, htext, (hloop units htext hlimits.2).mp
      ⟨filled, current, hfilled, Except.ok.inj hresult⟩⟩
  · rintro ⟨hlimits, units, htext, hgroups⟩
    obtain ⟨filled, current, hfilled, rfl⟩ := (hloop units htext hlimits.2).mpr hgroups
    obtain ⟨groups, hgroups, hcount, hresult⟩ := hgroups
    refine ⟨(), hlimits, units, htext, (filled, current), hfilled, (), ⟨?_, ?_⟩, rfl⟩
    · have hne := lines_ne_nil (breaks_fill hgroups) (ne_nil_of_textUnits htext)
      rw [hresult]
      simpa using hne
    · rw [hresult, List.length_map]
      exact hcount

/-- A wrapped text stands on lines that are no longer than allowed and no more, each of them
the rendering of consecutive units of the text, with nothing lost but whitespace. -/
theorem wrapText_lines (getlength : String → ν) (text : String) (maximumWidth maximumLines : ℤ)
    (lines : List String)
    (h : wrapText getlength text maximumWidth maximumLines = .ok lines) :
    (1 ≤ lines.length ∧ (lines.length : ℤ) ≤ maximumLines) ∧
      (∀ line ∈ lines, getlength line ≤ (maximumWidth : ν) ∧ line ≠ "") ∧
      (∃ units groups, textUnits text = .ok units ∧ SpelledBy text units ∧
        Breaks units groups ∧ lines = groups.map render) ∧
      (lines.flatMap String.toList).filter (fun c => !isWhitespace c) =
        text.toList.filter fun c => !isWhitespace c := by
  obtain ⟨-, units, htext, groups, hgroups, hcount, rfl⟩ := wrapText_eq_ok_iff.mp h
  have hbreaks : Breaks units groups := breaks_fill hgroups
  have hunits := mem_of_textUnits htext
  have hmem : ∀ group ∈ groups, ∀ unit ∈ group, unit ∈ units := by
    intro group hgroup unit hunit
    rw [← hbreaks.flatten]
    exact List.mem_flatten.mpr ⟨group, hgroup, hunit⟩
  refine ⟨⟨?_, by simpa using hcount⟩, ?_, ⟨units, groups, htext, ?_, hbreaks, rfl⟩, ?_⟩
  · rw [List.length_map]
    exact List.length_pos_of_ne_nil (lines_ne_nil hbreaks (ne_nil_of_textUnits htext))
  · intro line hline
    obtain ⟨group, hgroup, rfl⟩ := List.mem_map.mp hline
    refine ⟨fits_of_fill hgroups (absurd rfl ·) group hgroup, ?_⟩
    intro hempty
    exact hbreaks.nonempty group hgroup ((render_eq_empty_iff fun unit hunit =>
      (hunits unit (hmem group hgroup unit hunit)).1).mp hempty)
  · exact spelledBy_of_textUnits htext
  · rw [filter_renderings fun group hgroup unit hunit =>
      (hunits unit (hmem group hgroup unit hunit)).2, hbreaks.flatten, flatMap_of_textUnits htext]

theorem wrapText_eq_error_iff {text : String} {units : List TextUnit}
    (htext : textUnits text = .ok units) (hwidth : 0 < maximumWidth) (hlines : 0 < maximumLines) :
    (∃ error, wrapText getlength text maximumWidth maximumLines = .error error) ↔
      ¬∃ groups, fill (Fits getlength maximumWidth) [] units = some groups ∧
        (groups.length : ℤ) ≤ maximumLines := by
  constructor
  · rintro ⟨error, herror⟩ ⟨groups, hgroups, hcount⟩
    have hok := wrapText_eq_ok_iff.mpr
      ⟨⟨hwidth, hlines⟩, units, htext, groups, hgroups, hcount, rfl⟩
    cases hok.symm.trans herror
  · intro hnone
    cases hwrap : wrapText getlength text maximumWidth maximumLines with
    | error error => exact ⟨error, rfl⟩
    | ok lines =>
        obtain ⟨-, units', htext', groups, hgroups, hcount, -⟩ := wrapText_eq_ok_iff.mp hwrap
        obtain rfl := Except.ok.inj (htext.symm.trans htext')
        exact absurd ⟨groups, hgroups, hcount⟩ hnone

end Wrapping

/-! ## Monotone measures -/

section Monotone

variable {ν : Type} [Preorder ν]

/-- Consecutive units are never rendered longer than more of them would be. -/
def IsMonotone (getlength : String → ν) (units : List TextUnit) : Prop :=
  ∀ group part, group <:+: units → part <:+: group → part ≠ [] →
    getlength (render part) ≤ getlength (render group)

variable [IntCast ν]

theorem IsMonotone.closed {getlength : String → ν} {units : List TextUnit}
    (h : IsMonotone getlength units) (maximumWidth : ℤ) :
    ∀ group part, group <:+: units → part <:+: group → part ≠ [] →
      Fits getlength maximumWidth group → Fits getlength maximumWidth part :=
  fun group part hgroup hpart hne hfits => (h group part hgroup hpart hne).trans hfits

variable [DecidableLE ν]

/-- With a monotone measure, wrapping fails only where the units cannot be put on so many lines
that fit, and otherwise takes as few lines as possible. -/
theorem wrapText_minimal (getlength : String → ν) (text : String) (maximumWidth maximumLines : ℤ)
    (hblank : ∃ c ∈ text.toList, isWhitespace c = false) (hwidth : 0 < maximumWidth)
    (hlines : 0 < maximumLines)
    (hmonotone : ∀ units, textUnits text = .ok units → IsMonotone getlength units) :
    ∃ units, textUnits text = .ok units ∧
      ((∃ error, wrapText getlength text maximumWidth maximumLines = .error error) ↔
        ¬∃ groups, Breaks units groups ∧
          (∀ group ∈ groups, getlength (render group) ≤ (maximumWidth : ν)) ∧
          (groups.length : ℤ) ≤ maximumLines) ∧
      ∀ lines, wrapText getlength text maximumWidth maximumLines = .ok lines →
        ∀ groups, Breaks units groups →
          (∀ group ∈ groups, getlength (render group) ≤ (maximumWidth : ν)) →
          lines.length ≤ groups.length := by
  have htext := textUnits_eq_ok_iff.mpr ⟨hblank, rfl⟩
  have hclosed := (hmonotone _ htext).closed maximumWidth
  refine ⟨_, htext, ?_, ?_⟩
  · rw [wrapText_eq_error_iff htext hwidth hlines]
    apply not_congr
    obtain ⟨limit, rfl⟩ := Int.eq_ofNat_of_zero_le hlines.le
    simp only [Nat.cast_le]
    exact (exists_breaks_iff hclosed).symm
  · intro lines hwrap groups hbreaks hfits
    obtain ⟨-, units, htext', filled, hfilled, -, rfl⟩ := wrapText_eq_ok_iff.mp hwrap
    obtain rfl := Except.ok.inj (htext.symm.trans htext')
    obtain ⟨best, hbest, hcount⟩ := exists_fill_of_breaks hclosed hbreaks hfits
    obtain rfl := Option.some.inj (hfilled.symm.trans hbest)
    rw [List.length_map]
    exact hcount

end Monotone

namespace Demo

/-- A font in which every character has the same advance. -/
def measured (line : String) : ℤ := line.length

theorem length_render (first : TextUnit) (rest : List TextUnit) :
    (render (first :: rest)).length =
      first.text.length + (rest.flatMap TextUnit.appended).length := by
  simp [render]

theorem length_le_appended (unit : TextUnit) : unit.text.length ≤ unit.appended.length := by
  unfold TextUnit.appended
  split_ifs
  · exact Nat.le_succ _
  · exact le_rfl

theorem measured_le {part : List TextUnit} (hne : part ≠ []) (before after : List TextUnit) :
    measured (render part) ≤ measured (render (before ++ part ++ after)) := by
  obtain ⟨first, rest, rfl⟩ := List.exists_cons_of_ne_nil hne
  have hlength : (render (first :: rest)).length ≤
      (render (before ++ first :: rest ++ after)).length := by
    have hfirst := length_le_appended first
    cases before with
    | nil =>
        rw [List.nil_append, List.cons_append, length_render, length_render, List.flatMap_append,
          List.length_append]
        omega
    | cons other before =>
        rw [List.cons_append, List.cons_append, length_render, length_render]
        simp only [List.flatMap_append, List.flatMap_cons, List.length_append]
        omega
  exact Int.ofNat_le.mpr hlength

theorem textUnits_mixed : textUnits "AI 平台" =
    .ok [⟨['A', 'I'], false⟩, ⟨['平'], true⟩, ⟨['台'], false⟩] := by
  refine textUnits_eq_ok_iff.mpr ⟨⟨'A', by decide, by decide⟩, ?_⟩
  have hnormalize : normalize "AI 平台".toList = 'A' :: (['I'] ++ ' ' :: ['平', '台']) := by decide
  have hword : ∀ c ∈ ['A', 'I'], isWhitespace c = false ∧ isCjk c = false := by
    intro c hc
    rcases List.mem_pair.mp hc with rfl | rfl
    · exact ⟨rfl, rfl⟩
    · exact ⟨rfl, rfl⟩
  have hend : ∀ c ∈ (' ' :: ['平', '台']).head?, isWordCharacter c = false := by
    intro c hc
    obtain rfl := Option.some.inj hc
    rfl
  rw [hnormalize, scanUnits_word hword hend, scanUnits_space, scanUnits_cjk rfl,
    scanUnits_cjk rfl, scanUnits]

theorem wrapText_mixed : wrapText measured "AI 平台" 4 2 = .ok ["AI 平", "台"] := by
  rw [wrapText, textUnits_mixed]
  decide

theorem lines_mixed : ∃ units groups, textUnits "AI 平台" = .ok units ∧
    SpelledBy "AI 平台" units ∧ Breaks units groups ∧ ["AI 平", "台"] = groups.map render :=
  (wrapText_lines measured "AI 平台" 4 2 _ wrapText_mixed).2.2.1

/-- On one line, the text would be too long. -/
theorem fewest_mixed : ∃ units, textUnits "AI 平台" = .ok units ∧ ∀ groups, Breaks units groups →
    (∀ group ∈ groups, measured (render group) ≤ 4) → 2 ≤ groups.length := by
  have hmonotone (units : List TextUnit) : IsMonotone measured units := by
    rintro _ part - ⟨before, after, rfl⟩ hne
    exact measured_le hne before after
  obtain ⟨units, htext, -, hfewest⟩ := wrapText_minimal measured "AI 平台" 4 2
    ⟨'A', by decide, by decide⟩ (by decide) (by decide) fun units _ => hmonotone units
  exact ⟨units, htext, hfewest _ wrapText_mixed⟩

end Demo

end CultureShift
