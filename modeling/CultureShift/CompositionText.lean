/-
# Composition text

Copy is laid out in units: a CJK character is a unit of its own, and so is every
longest run of other characters without whitespace. A unit remembers whether
whitespace came before it, and only that: what the whitespace was is normalized
away first. `font.getlength` is a parameter.
-/

import CultureShift.Contracts.Text
import CultureShift.Relational.Transaction

namespace CultureShift

open Relational

inductive CompositionErrorCode
  | lockedAssetMissing | lockedContentDrift | invalidOutput
deriving DecidableEq

structure CompositionError where
  code : CompositionErrorCode
deriving DecidableEq

/-- The whitespace of Python strings: that of Unicode and the four separators of ASCII. -/
def isWhitespace (c : Char) : Bool := isSpace c || (0x1C ≤ c.toNat && c.toNat ≤ 0x1F)

/-- `str.split()`. -/
def split (text : List Char) : List (List Char) :=
  (text.splitOnP isWhitespace).filter fun word => word ≠ []

/-- `_is_cjk`. -/
def isCjk (character : Char) : Bool :=
  let codepoint := character.toNat
  (0x3400 ≤ codepoint && codepoint ≤ 0x4DBF) || (0x4E00 ≤ codepoint && codepoint ≤ 0x9FFF) ||
    (0xF900 ≤ codepoint && codepoint ≤ 0xFAFF)

structure TextUnit where
  text : List Char
  separated : Bool
deriving DecidableEq

/-- Neither a blank nor a CJK character. -/
def isWordCharacter (c : Char) : Bool := c ≠ ' ' && !isCjk c

/-- The loop of `_text_units`, at the rest of the normalized text. -/
def scanUnits (separated : Bool) : List Char → List TextUnit
  | [] => []
  | character :: rest =>
      if character = ' ' then scanUnits true rest
      else if isCjk character then ⟨[character], separated⟩ :: scanUnits false rest
      else
        ⟨character :: rest.takeWhile isWordCharacter, separated⟩ ::
          scanUnits false (rest.dropWhile isWordCharacter)
termination_by text => text.length
decreasing_by
  · exact Nat.lt_succ_self _
  · exact Nat.lt_succ_self _
  · exact Nat.lt_succ_of_le (List.length_dropWhile_le _ _)

/-- `" ".join(text.split())`. -/
def normalize (text : List Char) : List Char := [' '].intercalate (split text)

/-- `_text_units`. -/
def textUnits (text : String) : Except CompositionError (List TextUnit) := do
  let normalized := normalize text.toList
  require (normalized ≠ []) ⟨.invalidOutput⟩
  return scanUnits false normalized

/-! ## The units of a text -/

/-- How a text spells units: each is a CJK character, or a longest run of characters that are
neither whitespace nor CJK, and knows whether there is whitespace between it and the unit
before it (or, at the beginning, whether `separated` says so). -/
inductive Spells : Bool → List TextUnit → List Char → Prop
  | done (separated : Bool) : Spells separated [] []
  | whitespace {separated : Bool} {c : Char} {units : List TextUnit} {rest : List Char}
      (hspace : isWhitespace c = true) (h : Spells true units rest) :
      Spells separated units (c :: rest)
  | ideograph {separated : Bool} {c : Char} {units : List TextUnit} {rest : List Char}
      (hcjk : isCjk c = true) (h : Spells false units rest) :
      Spells separated (⟨[c], separated⟩ :: units) (c :: rest)
  | word {separated : Bool} {word : List Char} {units : List TextUnit} {rest : List Char}
      (hne : word ≠ []) (hword : ∀ c ∈ word, isWhitespace c = false ∧ isCjk c = false)
      (hend : ∀ c ∈ rest.head?, isWhitespace c = true ∨ isCjk c = true)
      (h : Spells false units rest) :
      Spells separated (⟨word, separated⟩ :: units) (word ++ rest)

theorem not_isWhitespace_of_isCjk {c : Char} (h : isCjk c = true) : isWhitespace c = false := by
  simp only [isCjk, Bool.or_eq_true, Bool.and_eq_true, decide_eq_true_eq] at h
  unfold isWhitespace isSpace
  simp
  omega

theorem ne_space_of_not {c : Char} (h : isWhitespace c = false) : c ≠ ' ' := by
  rintro rfl
  cases h

namespace Spells

variable {separated : Bool} {units : List TextUnit} {text : List Char}

/-- The units hold the characters that are not whitespace. -/
theorem flatMap_text (h : Spells separated units text) :
    units.flatMap TextUnit.text = text.filter fun c => !isWhitespace c := by
  induction h with
  | done separated => rfl
  | whitespace hspace h ih => rw [ih, List.filter_cons_of_neg (by simp [hspace])]
  | ideograph hcjk h ih =>
      rw [List.filter_cons_of_pos (by rw [not_isWhitespace_of_isCjk hcjk]; rfl), ← ih]
      rfl
  | @word separated word units rest hne hword hend h ih =>
      have hkept : word.filter (fun c => !isWhitespace c) = word := by
        rw [List.filter_eq_self]
        intro c hc
        rw [(hword c hc).1]
        rfl
      rw [List.filter_append, hkept, ← ih]
      rfl

/-- No unit is empty or contains whitespace. -/
theorem mem_units (h : Spells separated units text) : ∀ unit ∈ units,
    unit.text ≠ [] ∧ ∀ c ∈ unit.text, isWhitespace c = false := by
  induction h with
  | done separated => exact fun _ hunit => absurd hunit List.not_mem_nil
  | whitespace hspace h ih => exact ih
  | ideograph hcjk h ih =>
      intro unit hunit
      rcases List.mem_cons.mp hunit with rfl | hunit
      · refine ⟨List.cons_ne_nil _ _, ?_⟩
        intro c hc
        rw [List.mem_singleton.mp hc]
        exact not_isWhitespace_of_isCjk hcjk
      · exact ih unit hunit
  | word hne hword hend h ih =>
      intro unit hunit
      rcases List.mem_cons.mp hunit with rfl | hunit
      · exact ⟨hne, fun c hc => (hword c hc).1⟩
      · exact ih unit hunit

end Spells

section

variable {c : Char} {rest text : List Char}

theorem split_whitespace (h : isWhitespace c = true) : split (c :: rest) = split rest := by
  rw [split, List.splitOnP_cons_eq_if_modifyHead, if_pos h, List.filter_cons_of_neg (by simp)]
  rfl

theorem normalize_whitespace (h : isWhitespace c = true) :
    normalize (c :: rest) = normalize rest := by
  rw [normalize, split_whitespace h]
  rfl

/-- What is left of the normalized text in the middle of the text. -/
def remaining : List Char → List Char
  | [] => []
  | c :: rest =>
      if isWhitespace c = true ∧ split rest ≠ [] then ' ' :: normalize rest
      else normalize (c :: rest)

theorem normalize_cons (h : isWhitespace c = false) :
    normalize (c :: rest) = c :: remaining rest := by
  have hsplit (rest : List Char) : split (c :: rest) =
      ((rest.splitOnP isWhitespace).modifyHead (List.cons c)).filter fun word => word ≠ [] := by
    rw [split, List.splitOnP_cons_eq_if_modifyHead, if_neg (by simp [h])]
  unfold normalize
  rw [hsplit]
  cases rest with
  | nil => rfl
  | cons next rest =>
      rw [List.splitOnP_cons_eq_if_modifyHead]
      by_cases hnext : isWhitespace next = true
      · rw [if_pos hnext, List.modifyHead_cons, List.filter_cons_of_pos (by simp)]
        show [' '].intercalate ([c] :: split rest) = c :: remaining (next :: rest)
        by_cases hwords : split rest = []
        · rw [remaining, if_neg (by simp [hwords]), normalize_whitespace hnext, normalize, hwords]
          rfl
        · rw [remaining, if_pos ⟨hnext, hwords⟩, List.intercalate_cons_of_ne_nil hwords]
          rfl
      · obtain ⟨word, words, hwords⟩ :=
          List.exists_cons_of_ne_nil (List.splitOnP_ne_nil isWhitespace rest)
        rw [if_neg hnext, remaining, if_neg (fun hboth => hnext hboth.1), normalize, split,
          List.splitOnP_cons_eq_if_modifyHead, if_neg hnext, hwords]
        simp

theorem remaining_cons (h : isWhitespace c = false) :
    remaining (c :: rest) = c :: remaining rest := by
  rw [remaining, if_neg (by simp [h]), normalize_cons h]

theorem remaining_append {word : List Char} (h : ∀ c ∈ word, isWhitespace c = false) :
    remaining (word ++ rest) = word ++ remaining rest := by
  induction word with
  | nil => rfl
  | cons c word ih =>
      rw [List.cons_append, remaining_cons (h c List.mem_cons_self),
        ih fun other hother => h other (List.mem_cons_of_mem c hother)]
      rfl

/-- Where a word ends in the text, it ends in the normalized text. -/
theorem head_remaining (hend : ∀ c ∈ rest.head?, isWhitespace c = true ∨ isCjk c = true) :
    ∀ c ∈ (remaining rest).head?, isWordCharacter c = false := by
  cases rest with
  | nil => exact fun _ hc => absurd hc (Option.not_mem_none _)
  | cons first rest =>
      intro c hc
      rcases hend first rfl with hspace | hcjk
      · by_cases hwords : split rest = []
        · rw [remaining, if_neg (by simp [hwords]), normalize_whitespace hspace, normalize,
            hwords] at hc
          cases hc
        · rw [remaining, if_pos ⟨hspace, hwords⟩] at hc
          obtain rfl := Option.some.inj hc
          rfl
      · rw [remaining_cons (not_isWhitespace_of_isCjk hcjk)] at hc
        obtain rfl := Option.some.inj hc
        simp [isWordCharacter, hcjk]

theorem scanUnits_space (separated : Bool) :
    scanUnits separated (' ' :: rest) = scanUnits true rest := by
  rw [scanUnits, if_pos rfl]

theorem scanUnits_cjk {separated : Bool} (h : isCjk c = true) :
    scanUnits separated (c :: rest) = ⟨[c], separated⟩ :: scanUnits false rest := by
  rw [scanUnits, if_neg (ne_space_of_not (not_isWhitespace_of_isCjk h)), if_pos h]

theorem scanUnits_word {separated : Bool} {word : List Char}
    (hword : ∀ other ∈ c :: word, isWhitespace other = false ∧ isCjk other = false)
    (hend : ∀ other ∈ rest.head?, isWordCharacter other = false) :
    scanUnits separated (c :: (word ++ rest)) = ⟨c :: word, separated⟩ :: scanUnits false rest := by
  have hcharacters : ∀ other ∈ word, isWordCharacter other = true := by
    intro other hother
    obtain ⟨hspace, hcjk⟩ := hword other (List.mem_cons_of_mem c hother)
    simp [isWordCharacter, hcjk, ne_space_of_not hspace]
  have htake : rest.takeWhile isWordCharacter = [] := by
    cases rest with
    | nil => rfl
    | cons first rest => exact List.takeWhile_cons_of_neg (by simp [hend first rfl])
  have hdrop : rest.dropWhile isWordCharacter = rest := by
    cases rest with
    | nil => rfl
    | cons first rest => exact List.dropWhile_cons_of_neg (by simp [hend first rfl])
  obtain ⟨hspace, hcjk⟩ := hword c List.mem_cons_self
  rw [scanUnits, if_neg (ne_space_of_not hspace), if_neg (by simp [hcjk]),
    List.takeWhile_append_of_pos hcharacters, List.dropWhile_append_of_pos hcharacters, htake,
    hdrop, List.append_nil]

/-- The text after the first longest run of characters that satisfy a condition. -/
theorem exists_run (condition : Char → Bool) (text : List Char) :
    ∃ run after, text = run ++ after ∧ (∀ c ∈ run, condition c = true) ∧
      ∀ c ∈ after.head?, condition c = false := by
  refine ⟨text.takeWhile condition, text.dropWhile condition,
    List.takeWhile_append_dropWhile.symm, fun c hc => List.mem_takeWhile_imp hc, ?_⟩
  intro c hc
  have hhead := List.head?_dropWhile_not condition text
  rw [Option.mem_def.mp hc] at hhead
  exact hhead

/-- The scan of what is left of the normalized text finds the units of what is left of the
text, by induction on its length. -/
theorem spells_scanUnits (separated : Bool) (text : List Char) :
    Spells separated (scanUnits separated (if separated then normalize text else remaining text))
      text := by
  induction hlength : text.length using Nat.strong_induction_on generalizing separated text with
  | _ length ih =>
      cases text with
      | nil =>
          have hnil : (if separated then normalize [] else remaining []) = [] := by
            cases separated <;> rfl
          rw [hnil, scanUnits]
          exact .done separated
      | cons c rest =>
          have hshorter : rest.length < length := hlength ▸ Nat.lt_succ_self _
          by_cases hspace : isWhitespace c = true
          · have hscan : scanUnits separated
                (if separated then normalize (c :: rest) else remaining (c :: rest)) =
                  scanUnits true (normalize rest) := by
              cases separated with
              | true => rw [if_pos rfl, normalize_whitespace hspace]
              | false =>
                  by_cases hwords : split rest = []
                  · rw [if_neg Bool.false_ne_true, remaining, if_neg (by simp [hwords]),
                      normalize_whitespace hspace, normalize, hwords, List.intercalate_nil,
                      scanUnits, scanUnits]
                  · rw [if_neg Bool.false_ne_true, remaining, if_pos ⟨hspace, hwords⟩,
                      scanUnits_space]
            rw [hscan]
            exact .whitespace hspace (ih _ hshorter true rest rfl)
          · rw [Bool.not_eq_true] at hspace
            have hrest : (if separated then normalize (c :: rest) else remaining (c :: rest)) =
                c :: remaining rest := by
              cases separated with
              | true => rw [if_pos rfl, normalize_cons hspace]
              | false => rw [if_neg Bool.false_ne_true, remaining_cons hspace]
            rw [hrest]
            by_cases hcjk : isCjk c = true
            · rw [scanUnits_cjk hcjk]
              exact .ideograph hcjk (ih _ hshorter false rest rfl)
            · rw [Bool.not_eq_true] at hcjk
              obtain ⟨word, after, rfl, hrun, hafter⟩ :=
                exists_run (fun c => !isWhitespace c && !isCjk c) rest
              have hword : ∀ other ∈ word, isWhitespace other = false ∧ isCjk other = false := by
                intro other hother
                simpa using hrun other hother
              have hend : ∀ other ∈ after.head?,
                  isWhitespace other = true ∨ isCjk other = true := by
                intro other hother
                have hcondition := hafter other hother
                by_contra hnot
                rw [not_or, Bool.not_eq_true, Bool.not_eq_true] at hnot
                simp [hnot] at hcondition
              have hcharacters : ∀ other ∈ c :: word,
                  isWhitespace other = false ∧ isCjk other = false := by
                rintro other (_ | ⟨_, hother⟩)
                · exact ⟨hspace, hcjk⟩
                · exact hword other hother
              rw [remaining_append fun other hother => (hword other hother).1,
                scanUnits_word hcharacters (head_remaining hend)]
              have hlast : after.length < length := by
                rw [List.length_append] at hshorter
                omega
              exact .word (List.cons_ne_nil c word) hcharacters hend (ih _ hlast false after rfl)

theorem normalize_append {blank : List Char} (h : ∀ c ∈ blank, isWhitespace c = true) :
    normalize (blank ++ text) = normalize text := by
  induction blank with
  | nil => rfl
  | cons c blank ih =>
      rw [List.cons_append, normalize_whitespace (h c List.mem_cons_self)]
      exact ih fun other hother => h other (List.mem_cons_of_mem c hother)

/-- Where the text itself begins, nothing of it is behind the normalized text yet. -/
theorem normalize_eq_remaining {blank body : List Char}
    (hblank : ∀ c ∈ blank, isWhitespace c = true)
    (hbody : ∀ c ∈ body.head?, isWhitespace c = false) :
    normalize (blank ++ body) = remaining body := by
  rw [normalize_append hblank]
  cases body with
  | nil => rfl
  | cons c rest => rw [normalize_cons (hbody c rfl), remaining_cons (hbody c rfl)]

theorem normalize_ne_nil_iff : normalize text ≠ [] ↔ ∃ c ∈ text, isWhitespace c = false := by
  induction text with
  | nil => simp [normalize, split]
  | cons c rest ih =>
      by_cases hspace : isWhitespace c = true
      · rw [normalize_whitespace hspace, ih]
        simp [hspace]
      · rw [Bool.not_eq_true] at hspace
        rw [normalize_cons hspace]
        exact ⟨fun _ => ⟨c, List.mem_cons_self, hspace⟩, fun _ => List.cons_ne_nil _ _⟩

end

/-- The text is these units; whitespace before the first of them is not counted. -/
def SpelledBy (text : String) (units : List TextUnit) : Prop :=
  ∃ blank body, text.toList = blank ++ body ∧ (∀ c ∈ blank, isWhitespace c = true) ∧
    (∀ c ∈ body.head?, isWhitespace c = false) ∧ Spells false units body

theorem spelledBy_scanUnits (text : String) :
    SpelledBy text (scanUnits false (normalize text.toList)) := by
  obtain ⟨blank, body, htext, hblank, hbody⟩ := exists_run isWhitespace text.toList
  refine ⟨blank, body, htext, hblank, hbody, ?_⟩
  rw [htext, normalize_eq_remaining hblank hbody]
  exact spells_scanUnits false body

/-- A text that is not blank has units. -/
theorem textUnits_eq_ok_iff {text : String} {units : List TextUnit} :
    textUnits text = .ok units ↔ (∃ c ∈ text.toList, isWhitespace c = false) ∧
      units = scanUnits false (normalize text.toList) := by
  rw [← normalize_ne_nil_iff]
  simp only [textUnits, bind_eq_ok, require_eq_ok]
  constructor
  · rintro ⟨-, hne, hunits⟩
    exact ⟨hne, (Except.ok.inj hunits).symm⟩
  · rintro ⟨hne, rfl⟩
    exact ⟨(), hne, rfl⟩

section

variable {text : String} {units : List TextUnit}

theorem spelledBy_of_textUnits (h : textUnits text = .ok units) : SpelledBy text units := by
  rw [(textUnits_eq_ok_iff.mp h).2]
  exact spelledBy_scanUnits text

theorem mem_of_textUnits (h : textUnits text = .ok units) : ∀ unit ∈ units,
    unit.text ≠ [] ∧ ∀ c ∈ unit.text, isWhitespace c = false := by
  obtain ⟨_, _, -, -, -, hspells⟩ := spelledBy_of_textUnits h
  exact hspells.mem_units

/-- Put together, the units are the text without its whitespace. -/
theorem flatMap_of_textUnits (h : textUnits text = .ok units) :
    units.flatMap TextUnit.text = text.toList.filter fun c => !isWhitespace c := by
  obtain ⟨blank, body, htext, hblank, -, hspells⟩ := spelledBy_of_textUnits h
  have hnone : blank.filter (fun c => !isWhitespace c) = [] := by
    rw [List.filter_eq_nil_iff]
    intro c hc
    simp [hblank c hc]
  rw [hspells.flatMap_text, htext, List.filter_append, hnone, List.nil_append]

theorem ne_nil_of_textUnits (h : textUnits text = .ok units) : units ≠ [] := by
  rintro rfl
  obtain ⟨⟨c, hc, hspace⟩, -⟩ := textUnits_eq_ok_iff.mp h
  have hnone := List.filter_eq_nil_iff.mp (flatMap_of_textUnits h).symm c hc
  simp [hspace] at hnone

end

/-! ## The lines -/

section

variable {ν : Type} [LE ν] [DecidableLE ν] [IntCast ν] (getlength : String → ν)

/-- The loop of `_wrap_text`: the lines so far, the current line and the units to come. -/
def fillLines (maximumWidth maximumLines : ℤ) (lines : List String) (current : String) :
    List TextUnit → Except CompositionError (List String × String)
  | [] => .ok (lines, current)
  | unit :: units =>
      let gap := if current ≠ "" ∧ unit.separated = true then " " else ""
      let candidate := current ++ gap ++ String.ofList unit.text
      if getlength candidate ≤ maximumWidth then
        fillLines maximumWidth maximumLines lines candidate units
      else if current = "" ∨ ¬getlength (String.ofList unit.text) ≤ maximumWidth then
        .error ⟨.invalidOutput⟩
      else if maximumLines ≤ lines.length + 1 then .error ⟨.invalidOutput⟩
      else
        fillLines maximumWidth maximumLines (lines ++ [current]) (String.ofList unit.text) units

/-- The lines with the last one, if anything is on it. -/
def closeLines (lines : List String) (current : String) : List String :=
  if current = "" then lines else lines ++ [current]

/-- `_wrap_text`. -/
def wrapText (text : String) (maximumWidth maximumLines : ℤ) :
    Except CompositionError (List String) := do
  require (0 < maximumWidth ∧ 0 < maximumLines) ⟨.invalidOutput⟩
  let units ← textUnits text
  let (filled, current) ← fillLines getlength maximumWidth maximumLines [] "" units
  let lines := closeLines filled current
  require (lines ≠ [] ∧ lines.length ≤ maximumLines) ⟨.invalidOutput⟩
  return lines

end

end CultureShift
