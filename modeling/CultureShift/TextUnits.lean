/-
# The units of a text

Splitting a text into units loses nothing but the amount of whitespace. The loop
is written out here as the source has it, with an index into the normalized
text; each iteration moves the index on, and the units it collects are those of
the scan.
-/

import CultureShift.CompositionText

namespace CultureShift

open Relational

/-! ## The loop -/

/-- The inner loop: the first index from `stop` on at which there is no word character. -/
def wordEnd (normalized : List Char) (stop : Nat) : Nat :=
  if h : stop < normalized.length then
    if isWordCharacter normalized[stop] then wordEnd normalized (stop + 1) else stop
  else stop
termination_by normalized.length - stop

/-- The variables of the loop of `_text_units`. -/
structure UnitScan where
  index : Nat
  separated : Bool
  units : List TextUnit

namespace UnitScan

/-- One iteration, unless the index is at the end. -/
def step (normalized : List Char) (scan : UnitScan) : Option UnitScan :=
  if h : scan.index < normalized.length then
    let character := normalized[scan.index]
    if character = ' ' then some ⟨scan.index + 1, true, scan.units⟩
    else if isCjk character then
      some ⟨scan.index + 1, false, scan.units ++ [⟨[character], scan.separated⟩]⟩
    else
      let stop := wordEnd normalized (scan.index + 1)
      some ⟨stop, false,
        scan.units ++ [⟨(normalized.take stop).drop scan.index, scan.separated⟩]⟩
  else none

variable {normalized : List Char} {scan next : UnitScan}

theorem wordEnd_eq (normalized : List Char) (stop : Nat) :
    wordEnd normalized stop =
      stop + ((normalized.drop stop).takeWhile isWordCharacter).length := by
  fun_induction wordEnd normalized stop with
  | case1 stop hstop hword ih =>
      rw [ih, List.drop_eq_getElem_cons hstop, List.takeWhile_cons_of_pos hword, List.length_cons]
      omega
  | case2 stop hstop hword =>
      rw [List.drop_eq_getElem_cons hstop, List.takeWhile_cons_of_neg hword]
      rfl
  | case3 stop hstop =>
      rw [List.drop_eq_nil_of_le (Nat.le_of_not_lt hstop)]
      rfl

theorem wordEnd_bounds {stop : Nat} (h : stop ≤ normalized.length) :
    stop ≤ wordEnd normalized stop ∧ wordEnd normalized stop ≤ normalized.length := by
  rw [wordEnd_eq]
  have hrun := (List.takeWhile_prefix isWordCharacter (l := normalized.drop stop)).length_le
  rw [List.length_drop] at hrun
  omega

theorem drop_wordEnd (normalized : List Char) (stop : Nat) :
    normalized.drop (wordEnd normalized stop) =
      (normalized.drop stop).dropWhile isWordCharacter := by
  have hrest := List.takeWhile_append_dropWhile (p := isWordCharacter) (l := normalized.drop stop)
  rw [wordEnd_eq, ← List.drop_drop]
  nth_rewrite 2 [← hrest]
  exact List.drop_left

/-- The word at an index, up to where it ends. -/
theorem word_at {index : Nat} (h : index < normalized.length) :
    (normalized.take (wordEnd normalized (index + 1))).drop index =
      normalized[index] :: (normalized.drop (index + 1)).takeWhile isWordCharacter := by
  have hrest := List.takeWhile_append_dropWhile (p := isWordCharacter)
    (l := normalized.drop (index + 1))
  have hlength : wordEnd normalized (index + 1) - index =
      ((normalized.drop (index + 1)).takeWhile isWordCharacter).length + 1 := by
    rw [wordEnd_eq]
    omega
  rw [List.drop_take, hlength, List.drop_eq_getElem_cons h, List.take_succ_cons]
  nth_rewrite 2 [← hrest]
  rw [List.take_left]

/-- What one iteration does with the character at the index. -/
theorem step_cases (h : scan.step normalized = some next) :
    ∃ hindex : scan.index < normalized.length,
      (normalized[scan.index] = ' ' ∧ next = ⟨scan.index + 1, true, scan.units⟩) ∨
      (isCjk normalized[scan.index] = true ∧
        next = ⟨scan.index + 1, false,
          scan.units ++ [⟨[normalized[scan.index]], scan.separated⟩]⟩) ∨
      (isWordCharacter normalized[scan.index] = true ∧
        next = ⟨wordEnd normalized (scan.index + 1), false,
          scan.units ++ [⟨(normalized.take (wordEnd normalized (scan.index + 1))).drop scan.index,
            scan.separated⟩]⟩) := by
  unfold step at h
  by_cases hindex : scan.index < normalized.length
  · rw [dif_pos hindex] at h
    dsimp only at h
    refine ⟨hindex, ?_⟩
    by_cases hspace : normalized[scan.index] = ' '
    · rw [if_pos hspace] at h
      exact .inl ⟨hspace, (Option.some.inj h).symm⟩
    · rw [if_neg hspace] at h
      by_cases hcjk : isCjk normalized[scan.index] = true
      · rw [if_pos hcjk] at h
        exact .inr (.inl ⟨hcjk, (Option.some.inj h).symm⟩)
      · rw [if_neg hcjk] at h
        exact .inr (.inr ⟨by simp [isWordCharacter, hspace, hcjk], (Option.some.inj h).symm⟩)
  · rw [dif_neg hindex] at h
    cases h

theorem step_eq_none (h : scan.step normalized = none) : normalized.length ≤ scan.index := by
  by_contra hindex
  unfold step at h
  rw [dif_pos (not_le.mp hindex)] at h
  dsimp only at h
  split_ifs at h

/-- The index strictly increases, and does not pass the end. -/
theorem step_index (h : scan.step normalized = some next) :
    scan.index < next.index ∧ next.index ≤ normalized.length := by
  obtain ⟨hindex, ⟨-, rfl⟩ | ⟨-, rfl⟩ | ⟨-, rfl⟩⟩ := step_cases h
  · exact ⟨Nat.lt_succ_self _, hindex⟩
  · exact ⟨Nat.lt_succ_self _, hindex⟩
  · exact wordEnd_bounds hindex

/-- The units that the loop ends with. -/
def loop (normalized : List Char) (scan : UnitScan) : List TextUnit :=
  match _ : scan.step normalized with
  | some next => loop normalized next
  | none => scan.units
termination_by normalized.length - scan.index
decreasing_by
  rename_i hstep
  have hindex := step_index hstep
  omega

/-- What is scanned from an index on is added to the units so far. -/
theorem loop_eq (normalized : List Char) (scan : UnitScan) :
    scan.loop normalized =
      scan.units ++ scanUnits scan.separated (normalized.drop scan.index) := by
  fun_induction loop normalized scan with
  | case1 scan next hstep ih =>
      rw [ih]
      obtain ⟨hindex, hcases⟩ := step_cases hstep
      rw [List.drop_eq_getElem_cons hindex]
      rcases hcases with ⟨hspace, rfl⟩ | ⟨hcjk, rfl⟩ | ⟨hword, rfl⟩
      · rw [hspace, scanUnits_space]
      · rw [scanUnits_cjk hcjk, List.append_assoc]
        rfl
      · have hword' := hword
        simp only [isWordCharacter, Bool.and_eq_true, decide_eq_true_eq, Bool.not_eq_true']
          at hword'
        rw [scanUnits, if_neg hword'.1, if_neg (by simp [hword'.2]), List.append_assoc,
          word_at hindex, drop_wordEnd]
        rfl
  | case2 scan hnone =>
      rw [List.drop_eq_nil_of_le (step_eq_none hnone), scanUnits, List.append_nil]

end UnitScan

/-! ## What the units keep of the text -/

/-- The blank before a unit that is separated from the one before it. -/
def TextUnit.gap (unit : TextUnit) : List Char := if unit.separated then [' '] else []

/-- The units one after the other, each after its blank. -/
def joined (units : List TextUnit) : List Char := units.flatMap fun unit => unit.gap ++ unit.text

/-- A CJK character, or a run of word characters that neither the text before it nor the text
after it continues. -/
def Maximal (before : List Char) (unit : TextUnit) (after : List Char) : Prop :=
  (∃ c, isCjk c = true ∧ unit.text = [c]) ∨
    (unit.text ≠ [] ∧ (∀ c ∈ unit.text, isWordCharacter c = true) ∧
      (∀ c ∈ before.getLast?, isWordCharacter c = false) ∧
      ∀ c ∈ after.head?, isWordCharacter c = false)

theorem not_isWordCharacter_of_isCjk {c : Char} (h : isCjk c = true) :
    isWordCharacter c = false := by
  simp [isWordCharacter, h]

theorem isWordCharacter_of_not {c : Char} (h : isWhitespace c = false ∧ isCjk c = false) :
    isWordCharacter c = true := by
  simp [isWordCharacter, ne_space_of_not h.1, h.2]

namespace Spells

variable {separated : Bool} {units : List TextUnit} {text : List Char}

/-- Joined, the units are the normalized text; its rest, in the middle of it. -/
theorem joined_eq (h : Spells separated units text) :
    joined units =
      if separated then (if split text = [] then [] else ' ' :: normalize text)
      else remaining text := by
  induction h with
  | done separated => cases separated <;> rfl
  | @whitespace separated c units rest hspace h ih =>
      rw [ih, if_pos rfl, split_whitespace hspace, normalize_whitespace hspace]
      cases separated with
      | true => rfl
      | false =>
          rw [if_neg Bool.false_ne_true, remaining, normalize_whitespace hspace]
          by_cases hwords : split rest = []
          · rw [if_pos hwords, if_neg (by simp [hwords]), normalize, hwords]
            rfl
          · rw [if_neg hwords, if_pos ⟨hspace, hwords⟩]
  | @ideograph separated c units rest hcjk h ih =>
      have hspace := not_isWhitespace_of_isCjk hcjk
      have hwords : split (c :: rest) ≠ [] := by
        intro hnone
        have hnormal : normalize (c :: rest) = c :: remaining rest := normalize_cons hspace
        rw [normalize, hnone] at hnormal
        cases hnormal
      rw [joined, List.flatMap_cons, ← joined, ih, if_neg Bool.false_ne_true]
      cases separated with
      | true =>
          rw [if_pos rfl, if_neg hwords, normalize_cons hspace]
          rfl
      | false =>
          rw [if_neg Bool.false_ne_true, remaining_cons hspace]
          rfl
  | @word separated word units rest hne hword hend h ih =>
      have hspaces : ∀ c ∈ word, isWhitespace c = false := fun c hc => (hword c hc).1
      rw [joined, List.flatMap_cons, ← joined, ih, if_neg Bool.false_ne_true]
      cases separated with
      | true =>
          obtain ⟨c, word, rfl⟩ := List.exists_cons_of_ne_nil hne
          have hspace := hspaces c List.mem_cons_self
          have hwords : split (c :: (word ++ rest)) ≠ [] := by
            intro hnone
            have hnormal : normalize (c :: (word ++ rest)) = c :: remaining (word ++ rest) :=
              normalize_cons hspace
            rw [normalize, hnone] at hnormal
            cases hnormal
          rw [if_pos rfl, List.cons_append, if_neg hwords, normalize_cons hspace,
            remaining_append fun other hother => hspaces other (List.mem_cons_of_mem c hother)]
          rfl
      | false =>
          rw [if_neg Bool.false_ne_true, remaining_append hspaces]
          rfl

/-- A text that does not begin with whitespace begins with a unit that is not separated. -/
theorem head_separated (h : Spells separated units text)
    (hhead : ∀ c ∈ text.head?, isWhitespace c = false) :
    ∀ unit ∈ units.head?, unit.separated = separated := by
  cases h with
  | done separated => exact fun _ hunit => absurd hunit (Option.not_mem_none _)
  | whitespace hspace h =>
      rw [hhead _ rfl] at hspace
      cases hspace
  | ideograph hcjk h =>
      intro unit hunit
      rw [← Option.some.inj hunit]
  | word hne hword hend h =>
      intro unit hunit
      rw [← Option.some.inj hunit]

/-- Where a unit comes next without a blank, either the text so far does not end in a word, or
the rest does not begin with a word character. -/
def Apart (separated : Bool) (before text : List Char) : Prop :=
  separated = true ∨ (∀ c ∈ before.getLast?, isWordCharacter c = false) ∨
    ∀ c ∈ text.head?, isWhitespace c = true ∨ isCjk c = true

/-- Every unit is maximal, by induction on the units; what is before the next one is kept apart
from it. -/
theorem maximal (h : Spells separated units text) {left : List Char}
    (hapart : Apart separated left text) {before after : List TextUnit} {unit : TextUnit}
    (hunits : units = before ++ unit :: after) :
    Maximal (left ++ joined before ++ unit.gap) unit (joined after) := by
  induction h generalizing left before with
  | done separated => simp at hunits
  | whitespace hspace h ih => exact ih (.inl rfl) hunits
  | @ideograph separated c units rest hcjk h ih =>
      cases before with
      | nil =>
          obtain ⟨rfl, rfl⟩ := List.cons.inj hunits
          exact .inl ⟨c, hcjk, rfl⟩
      | cons first before =>
          obtain ⟨rfl, rfl⟩ := List.cons.inj hunits
          have hlast : Apart false (left ++ (TextUnit.gap ⟨[c], separated⟩ ++ [c])) rest := by
            refine .inr (.inl ?_)
            intro other hother
            rw [← List.append_assoc, List.getLast?_concat] at hother
            rw [← Option.some.inj hother]
            exact not_isWordCharacter_of_isCjk hcjk
          have hnext := ih hlast rfl
          rw [joined, List.flatMap_cons, ← joined]
          simpa [List.append_assoc] using hnext
  | @word separated word units rest hne hword hend h ih =>
      cases before with
      | nil =>
          obtain ⟨rfl, rfl⟩ := List.cons.inj hunits
          refine .inr ⟨hne, fun c hc => isWordCharacter_of_not (hword c hc), ?_, ?_⟩
          · intro c hc
            rcases hapart with rfl | hleft | hhead
            · rw [TextUnit.gap, if_pos rfl, List.getLast?_concat] at hc
              rw [← Option.some.inj hc]
              rfl
            · cases separated with
              | true =>
                  rw [TextUnit.gap, if_pos rfl, List.getLast?_concat] at hc
                  rw [← Option.some.inj hc]
                  rfl
              | false => exact hleft c (by simpa [TextUnit.gap, joined] using hc)
            · obtain ⟨first, word, rfl⟩ := List.exists_cons_of_ne_nil hne
              have hfirst := hword first List.mem_cons_self
              rcases hhead first rfl with hspace | hcjk
              · rw [hfirst.1] at hspace
                cases hspace
              · rw [hfirst.2] at hcjk
                cases hcjk
          · rw [h.joined_eq, if_neg Bool.false_ne_true]
            exact head_remaining hend
      | cons first before =>
          obtain ⟨rfl, rfl⟩ := List.cons.inj hunits
          have hlast : Apart false (left ++ (TextUnit.gap ⟨word, separated⟩ ++ word)) rest :=
            .inr (.inr hend)
          have hnext := ih hlast rfl
          rw [joined, List.flatMap_cons, ← joined]
          simpa [List.append_assoc] using hnext

end Spells

/-- What tokenizing a text gives. -/
structure Tokenized (text : String) (units : List TextUnit) : Prop where
  /-- Nothing but the amount of whitespace is lost. -/
  lossless : joined units = normalize text.toList
  head_joined : ∀ unit ∈ units.head?, unit.separated = false
  maximal : ∀ before unit after, units = before ++ unit :: after →
    Maximal (joined before ++ unit.gap) unit (joined after)
  /-- The loop ends, with these units; each iteration moves its index on. -/
  loop : UnitScan.loop (normalize text.toList) ⟨0, false, []⟩ = units
  index_increases : ∀ scan next : UnitScan, scan.step (normalize text.toList) = some next →
    scan.index < next.index ∧ next.index ≤ (normalize text.toList).length

/-- A text that is not blank is tokenized without loss. -/
theorem textUnits_tokenized (text : String) (h : ∃ c ∈ text.toList, isWhitespace c = false) :
    ∃ units, textUnits text = .ok units ∧ Tokenized text units := by
  obtain ⟨blank, body, htext, hblank, hbody⟩ := exists_run isWhitespace text.toList
  have hnormalize : normalize text.toList = remaining body := by
    rw [htext, normalize_eq_remaining hblank hbody]
  have hspells : Spells false (scanUnits false (normalize text.toList)) body := by
    rw [hnormalize]
    exact spells_scanUnits false body
  refine ⟨scanUnits false (normalize text.toList), textUnits_eq_ok_iff.mpr ⟨h, rfl⟩, ?_⟩
  exact
    { lossless := by rw [hspells.joined_eq, if_neg Bool.false_ne_true, hnormalize]
      head_joined := hspells.head_separated hbody
      maximal := by
        intro before unit after hunits
        have hapart : Spells.Apart false [] body := .inr (.inl (by simp))
        simpa using hspells.maximal hapart hunits
      loop := UnitScan.loop_eq _ _
      index_increases := fun _ _ hstep => UnitScan.step_index hstep }

theorem textUnits_tokenized_mixed :
    ∃ units, textUnits " Orbit  AI 帮助团队" = .ok units ∧ Tokenized " Orbit  AI 帮助团队" units :=
  textUnits_tokenized " Orbit  AI 帮助团队" ⟨'O', by decide, by decide⟩

end CultureShift
