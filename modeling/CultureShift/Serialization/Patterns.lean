/-
# Patterns in text

Regular expressions with word boundaries. A search tries a pattern at every
position of a text, and it succeeds exactly when some part of the text matches
the pattern where it stands. What is a word, a digit or a space is looked up in
a table of characters, of which only its ASCII part is fixed.
-/

import Mathlib.Data.List.Basic
import Mathlib.Data.List.Infix

namespace Serialization

/-! ## Characters -/

def isAsciiWord (c : Char) : Bool := c.isAlphanum || c == '_'

def isAsciiSpace (c : Char) : Bool :=
  (0x09 ≤ c.toNat && c.toNat ≤ 0x0D) || (0x1C ≤ c.toNat && c.toNat ≤ 0x20)

/-- A table of characters: `\w`, `\d`, `\s` and the folding of case. -/
structure Unicode where
  isWord : Char → Bool
  isDecimal : Char → Bool
  isSpace : Char → Bool
  casefold : Char → List Char
  isWord_ascii : ∀ c : Char, c.toNat < 0x80 → isWord c = isAsciiWord c
  isDecimal_ascii : ∀ c : Char, c.toNat < 0x80 → isDecimal c = c.isDigit
  isSpace_ascii : ∀ c : Char, c.toNat < 0x80 → isSpace c = isAsciiSpace c
  casefold_ascii : ∀ c : Char, c.toNat < 0x80 → casefold c = [c.toLower]
  isWord_of_isSpace : ∀ c : Char, isSpace c = true → isWord c = false
  casefold_of_isSpace : ∀ c : Char, isSpace c = true → casefold c = [c]

namespace Unicode

/-- `str.casefold` -/
def fold (unicode : Unicode) (text : List Char) : List Char := text.flatMap unicode.casefold

variable {unicode : Unicode} {cs ds : List Char}

theorem fold_append : unicode.fold (cs ++ ds) = unicode.fold cs ++ unicode.fold ds :=
  List.flatMap_append

theorem fold_cons_of_isSpace {c : Char} (h : unicode.isSpace c = true) :
    unicode.fold (c :: cs) = c :: unicode.fold cs := by
  rw [fold, List.flatMap_cons, unicode.casefold_of_isSpace c h]
  rfl

/-- Spaces have no case. -/
theorem fold_of_isSpace (h : ∀ c ∈ cs, unicode.isSpace c = true) : unicode.fold cs = cs := by
  induction cs with
  | nil => rfl
  | cons c cs ih =>
      obtain ⟨hfirst, hrest⟩ := List.forall_mem_cons.mp h
      rw [fold_cons_of_isSpace hfirst, ih hrest]

/-- ASCII text is folded to lower case. -/
theorem fold_of_ascii (h : ∀ c ∈ cs, c.toNat < 0x80) : unicode.fold cs = cs.map Char.toLower := by
  induction cs with
  | nil => rfl
  | cons c cs ih =>
      obtain ⟨hfirst, hrest⟩ := List.forall_mem_cons.mp h
      rw [fold, List.flatMap_cons, unicode.casefold_ascii c hfirst, List.map_cons, ← ih hrest]
      rfl

/-- What holds of 128 characters holds of every ASCII character. -/
theorem forall_ascii {P : Char → Prop} (h : ∀ n : Fin 0x80, P (Char.ofNat n)) (c : Char)
    (hc : c.toNat < 0x80) : P c := by
  have hn := h ⟨c.toNat, hc⟩
  rwa [Char.ofNat_toNat] at hn

/-- ASCII characters, and nothing else, are words, digits and spaces. -/
def ascii : Unicode where
  isWord c := decide (c.toNat < 0x80) && isAsciiWord c
  isDecimal c := decide (c.toNat < 0x80) && c.isDigit
  isSpace c := decide (c.toNat < 0x80) && isAsciiSpace c
  casefold c := [if c.toNat < 0x80 then c.toLower else c]
  isWord_ascii c h := by simp [h]
  isDecimal_ascii c h := by simp [h]
  isSpace_ascii c h := by simp [h]
  casefold_ascii c h := by simp [h]
  isWord_of_isSpace c h := by
    rw [Bool.and_eq_true, decide_eq_true_iff] at h
    have hnot : isAsciiWord c = false :=
      forall_ascii (P := fun c => isAsciiSpace c = true → isAsciiWord c = false)
        (by decide +kernel) c h.1 h.2
    rw [hnot, Bool.and_false]
  casefold_of_isSpace c h := by
    rw [Bool.and_eq_true, decide_eq_true_iff] at h
    rw [if_pos h.1]
    exact forall_ascii (P := fun c => isAsciiSpace c = true → [c.toLower] = [c])
      (by decide +kernel) c h.1 h.2

end Unicode

/-! ## Patterns -/

/-- A class of characters. -/
inductive CharClass
  | literal (c : Char)
  | decimal
  | space
  /-- `.`, which is not the end of a line. -/
  | any
deriving DecidableEq

def CharClass.contains (unicode : Unicode) : CharClass → Char → Bool
  | literal expected, c => c == expected
  | decimal, c => unicode.isDecimal c
  | space, c => unicode.isSpace c
  | any, c => c != '\n'

inductive Pattern
  | empty
  | one (characters : CharClass)
  | many (characters : CharClass)
  | seq (first second : Pattern)
  | alt (first second : Pattern)
  | boundary
deriving DecidableEq

namespace Pattern

/-- One pattern after another. -/
def all : List Pattern → Pattern
  | [] => empty
  | pattern :: patterns => seq pattern (all patterns)

def literal (cs : List Char) : Pattern := all (cs.map fun c => one (.literal c))

/-- `+` -/
def some (characters : CharClass) : Pattern := seq (one characters) (many characters)

/-- `?` -/
def optional (pattern : Pattern) : Pattern := alt pattern empty

/-- What is left of a text, and the character in front of it. -/
structure Cursor where
  previous : Option Char
  rest : List Char
deriving DecidableEq

variable (unicode : Unicode)

/-- The places behind characters of the class. -/
def skip (characters : CharClass) : Option Char → List Char → List Cursor
  | previous, [] => [⟨previous, []⟩]
  | previous, c :: rest =>
      ⟨previous, c :: rest⟩ ::
        if characters.contains unicode c then skip characters (Option.some c) rest else []

/-- The places where a match that begins at the cursor can end. -/
def run : Pattern → Cursor → List Cursor
  | empty, cursor => [cursor]
  | one characters, cursor =>
      match cursor.rest with
      | [] => []
      | c :: rest => if characters.contains unicode c then [⟨Option.some c, rest⟩] else []
  | many characters, cursor => skip unicode characters cursor.previous cursor.rest
  | seq first second, cursor => (run first cursor).flatMap (run second)
  | alt first second, cursor => run first cursor ++ run second cursor
  | boundary, cursor =>
      if cursor.previous.any unicode.isWord != cursor.rest.head?.any unicode.isWord then [cursor]
      else []

def searchFrom (pattern : Pattern) : Option Char → List Char → Bool
  | previous, [] => !(run unicode pattern ⟨previous, []⟩).isEmpty
  | previous, c :: rest =>
      !(run unicode pattern ⟨previous, c :: rest⟩).isEmpty ||
        searchFrom pattern (Option.some c) rest

/-- `re.search`, as a test. -/
def search (pattern : Pattern) (text : List Char) : Bool := searchFrom unicode pattern none text

/-! ## Matches -/

/-- The pattern matches the characters where they stand, between what is before and after. -/
inductive Matches : Pattern → List Char → List Char → List Char → Prop
  | empty (before after : List Char) : Matches empty before [] after
  | one {characters : CharClass} {c : Char} (h : characters.contains unicode c = true)
      (before after : List Char) : Matches (one characters) before [c] after
  | many {characters : CharClass} {cs : List Char}
      (h : ∀ c ∈ cs, characters.contains unicode c = true) (before after : List Char) :
      Matches (many characters) before cs after
  | seq {first second : Pattern} {before cs ds after : List Char}
      (hfirst : Matches first before cs (ds ++ after))
      (hsecond : Matches second (before ++ cs) ds after) :
      Matches (seq first second) before (cs ++ ds) after
  | left {first : Pattern} {before cs after : List Char} (h : Matches first before cs after)
      (second : Pattern) : Matches (alt first second) before cs after
  | right {second : Pattern} {before cs after : List Char} (h : Matches second before cs after)
      (first : Pattern) : Matches (alt first second) before cs after
  | boundary {before after : List Char}
      (h : before.getLast?.any unicode.isWord ≠ after.head?.any unicode.isWord) :
      Matches boundary before [] after

variable {unicode} {pattern : Pattern} {characters : CharClass}

theorem mem_skip_iff {before text : List Char} {cursor : Cursor} :
    cursor ∈ skip unicode characters before.getLast? text ↔
      ∃ cs, text = cs ++ cursor.rest ∧ cursor.previous = (before ++ cs).getLast? ∧
        ∀ c ∈ cs, characters.contains unicode c = true := by
  induction text generalizing before with
  | nil =>
      rw [skip, List.mem_singleton]
      constructor
      · rintro rfl
        exact ⟨[], rfl, by rw [List.append_nil], List.forall_mem_nil _⟩
      · rintro ⟨cs, htext, hprevious, -⟩
        obtain ⟨rfl, hrest⟩ := List.append_eq_nil_iff.mp htext.symm
        rw [List.append_nil] at hprevious
        rw [← hprevious, ← hrest]
  | cons c text ih =>
      have hbefore : Option.some c = (before ++ [c]).getLast? := by simp
      rw [skip, List.mem_cons, hbefore]
      constructor
      · rintro (rfl | hlater)
        · exact ⟨[], rfl, by rw [List.append_nil], List.forall_mem_nil _⟩
        · by_cases hcontains : characters.contains unicode c = true
          · rw [if_pos hcontains, ih] at hlater
            obtain ⟨cs, rfl, hprevious, hall⟩ := hlater
            refine ⟨c :: cs, rfl, ?_, List.forall_mem_cons.mpr ⟨hcontains, hall⟩⟩
            rw [hprevious, List.append_assoc, List.singleton_append]
          · rw [if_neg hcontains] at hlater
            cases hlater
      · rintro ⟨cs, htext, hprevious, hall⟩
        cases cs with
        | nil =>
            left
            rw [List.append_nil] at hprevious
            rw [← hprevious, htext]
            rfl
        | cons first cs =>
            right
            obtain ⟨rfl, hrest⟩ := List.cons.inj htext
            obtain ⟨hcontains, hall⟩ := List.forall_mem_cons.mp hall
            rw [if_pos hcontains, ih]
            refine ⟨cs, hrest, ?_, hall⟩
            rw [hprevious, List.append_assoc, List.singleton_append]

/-- The places where a match can end are the ends of the matches. The induction is on the
pattern; what was before a part of it is the text before the match and the matched parts before
it. -/
theorem mem_run_iff {before text : List Char} {cursor : Cursor} :
    cursor ∈ run unicode pattern ⟨before.getLast?, text⟩ ↔
      ∃ cs, text = cs ++ cursor.rest ∧ cursor.previous = (before ++ cs).getLast? ∧
        Matches unicode pattern before cs cursor.rest := by
  induction pattern generalizing before text cursor with
  | empty =>
      rw [run, List.mem_singleton]
      constructor
      · rintro rfl
        exact ⟨[], rfl, by rw [List.append_nil], .empty _ _⟩
      · rintro ⟨_, rfl, hprevious, ⟨⟩⟩
        rw [List.append_nil] at hprevious
        rw [← hprevious]
        rfl
  | one characters =>
      constructor
      · intro hmem
        cases text with
        | nil => cases hmem
        | cons c rest =>
            by_cases hcontains : characters.contains unicode c = true
            · simp only [run, if_pos hcontains, List.mem_singleton] at hmem
              subst hmem
              exact ⟨[c], rfl, by simp, .one hcontains _ _⟩
            · simp only [run, if_neg hcontains] at hmem
              cases hmem
      · rintro ⟨_, rfl, hprevious, hmatches⟩
        cases hmatches with
        | @one _ c hcontains =>
            have hcursor : cursor = ⟨Option.some c, cursor.rest⟩ := by
              rw [List.getLast?_append, List.getLast?_singleton, Option.some_or] at hprevious
              rw [← hprevious]
            simp only [run, List.singleton_append, if_pos hcontains, List.mem_singleton]
            exact hcursor
  | many characters =>
      rw [run, mem_skip_iff]
      constructor
      · rintro ⟨cs, htext, hprevious, hall⟩
        exact ⟨cs, htext, hprevious, .many hall _ _⟩
      · rintro ⟨cs, htext, hprevious, hmatches⟩
        cases hmatches with
        | many hall => exact ⟨cs, htext, hprevious, hall⟩
  | seq first second ihfirst ihsecond =>
      rw [run, List.mem_flatMap]
      constructor
      · rintro ⟨⟨previous, middle⟩, hmiddle, hmem⟩
        obtain ⟨cs, rfl, hprevious, hfirst⟩ := ihfirst.mp hmiddle
        obtain rfl : previous = (before ++ cs).getLast? := hprevious
        obtain ⟨ds, hrest, hlast, hsecond⟩ := ihsecond.mp hmem
        obtain rfl : middle = ds ++ cursor.rest := hrest
        refine ⟨cs ++ ds, (List.append_assoc ..).symm, ?_, .seq hfirst hsecond⟩
        rw [hlast, List.append_assoc]
      · rintro ⟨_, rfl, hprevious, hmatches⟩
        cases hmatches with
        | @seq _ _ _ cs ds _ hfirst hsecond =>
            rw [List.append_assoc]
            refine ⟨⟨(before ++ cs).getLast?, ds ++ cursor.rest⟩, ?_, ?_⟩
            · exact ihfirst.mpr ⟨cs, rfl, rfl, hfirst⟩
            · refine ihsecond.mpr ⟨ds, rfl, ?_, hsecond⟩
              rw [hprevious, List.append_assoc]
  | alt first second ihfirst ihsecond =>
      rw [run, List.mem_append, ihfirst, ihsecond]
      constructor
      · rintro (⟨cs, htext, hprevious, hmatches⟩ | ⟨cs, htext, hprevious, hmatches⟩)
        · exact ⟨cs, htext, hprevious, .left hmatches _⟩
        · exact ⟨cs, htext, hprevious, .right hmatches _⟩
      · rintro ⟨cs, htext, hprevious, hmatches⟩
        cases hmatches with
        | left hmatches => exact .inl ⟨cs, htext, hprevious, hmatches⟩
        | right hmatches => exact .inr ⟨cs, htext, hprevious, hmatches⟩
  | boundary =>
      constructor
      · intro hmem
        by_cases hboundary :
            before.getLast?.any unicode.isWord ≠ text.head?.any unicode.isWord
        · simp only [run, bne_iff_ne, if_pos hboundary, List.mem_singleton] at hmem
          subst hmem
          exact ⟨[], rfl, by rw [List.append_nil], .boundary hboundary⟩
        · simp only [run, bne_iff_ne, if_neg hboundary, List.not_mem_nil] at hmem
      · rintro ⟨_, rfl, hprevious, hmatches⟩
        cases hmatches with
        | boundary hboundary =>
            rw [List.append_nil] at hprevious
            simp only [run, bne_iff_ne, List.nil_append, if_pos hboundary, List.mem_singleton]
            rw [← hprevious]

theorem run_isEmpty_iff {before text : List Char} :
    (run unicode pattern ⟨before.getLast?, text⟩).isEmpty = false ↔
      ∃ cs after, text = cs ++ after ∧ Matches unicode pattern before cs after := by
  rw [List.isEmpty_eq_false_iff_exists_mem]
  constructor
  · rintro ⟨cursor, hcursor⟩
    obtain ⟨cs, htext, -, hmatches⟩ := mem_run_iff.mp hcursor
    exact ⟨cs, cursor.rest, htext, hmatches⟩
  · rintro ⟨cs, after, htext, hmatches⟩
    exact ⟨⟨(before ++ cs).getLast?, after⟩, mem_run_iff.mpr ⟨cs, htext, rfl, hmatches⟩⟩

theorem searchFrom_iff {before text : List Char} :
    searchFrom unicode pattern before.getLast? text = true ↔
      ∃ skipped cs after, text = skipped ++ cs ++ after ∧
        Matches unicode pattern (before ++ skipped) cs after := by
  induction text generalizing before with
  | nil =>
      rw [searchFrom, Bool.not_eq_true', run_isEmpty_iff]
      constructor
      · rintro ⟨cs, after, htext, hmatches⟩
        exact ⟨[], cs, after, htext, by rwa [List.append_nil]⟩
      · rintro ⟨skipped, cs, after, htext, hmatches⟩
        obtain ⟨hskipped, rfl⟩ := List.append_eq_nil_iff.mp htext.symm
        obtain ⟨rfl, rfl⟩ := List.append_eq_nil_iff.mp hskipped
        exact ⟨[], [], rfl, by rwa [List.append_nil] at hmatches⟩
  | cons c text ih =>
      have hbefore : Option.some c = (before ++ [c]).getLast? := by simp
      rw [searchFrom, Bool.or_eq_true, Bool.not_eq_true', run_isEmpty_iff, hbefore, ih]
      constructor
      · rintro (⟨cs, after, htext, hmatches⟩ | ⟨skipped, cs, after, rfl, hmatches⟩)
        · exact ⟨[], cs, after, htext, by rwa [List.append_nil]⟩
        · refine ⟨c :: skipped, cs, after, rfl, ?_⟩
          rwa [List.append_assoc, List.singleton_append] at hmatches
      · rintro ⟨skipped, cs, after, htext, hmatches⟩
        cases skipped with
        | nil =>
            rw [List.append_nil] at hmatches
            exact .inl ⟨cs, after, htext, hmatches⟩
        | cons first skipped =>
            obtain ⟨rfl, hrest⟩ := List.cons.inj htext
            refine .inr ⟨skipped, cs, after, hrest, ?_⟩
            rwa [List.append_assoc, List.singleton_append]

/-- A search succeeds when some part of the text matches where it stands. -/
theorem search_iff {text : List Char} :
    search unicode pattern text = true ↔
      ∃ before cs after, text = before ++ cs ++ after ∧
        Matches unicode pattern before cs after := by
  have h : searchFrom unicode pattern ([] : List Char).getLast? text = true ↔ _ := searchFrom_iff
  simp only [List.nil_append] at h
  exact h

/-! ## Matches of composed patterns -/

variable {before cs ds after : List Char}

theorem Matches.cons {patterns : List Pattern}
    (hfirst : Matches unicode pattern before cs (ds ++ after))
    (hrest : Matches unicode (all patterns) (before ++ cs) ds after) :
    Matches unicode (all (pattern :: patterns)) before (cs ++ ds) after :=
  .seq hfirst hrest

theorem matches_literal (cs before after : List Char) :
    Matches unicode (literal cs) before cs after := by
  induction cs generalizing before with
  | nil => exact .empty _ _
  | cons c cs ih =>
      have hone : Matches unicode (one (.literal c)) before [c] (cs ++ after) :=
        .one (show (CharClass.literal c).contains unicode c = true from beq_self_eq_true c) _ _
      exact .seq hone (ih (before ++ [c]))

theorem matches_some (hnonempty : cs ≠ []) (h : ∀ c ∈ cs, characters.contains unicode c = true) :
    Matches unicode (some characters) before cs after := by
  cases cs with
  | nil => exact absurd rfl hnonempty
  | cons c cs =>
      obtain ⟨hfirst, hrest⟩ := List.forall_mem_cons.mp h
      have hone : Matches unicode (one characters) before [c] (cs ++ after) :=
        .one hfirst _ _
      exact .seq hone (.many hrest _ _)

/-! ## Tables -/

/-- Two tables agree on a character, but for its case. -/
structure Agree (unicode other : Unicode) (c : Char) : Prop where
  isWord : unicode.isWord c = other.isWord c
  isDecimal : unicode.isDecimal c = other.isDecimal c
  isSpace : unicode.isSpace c = other.isSpace c

theorem agree_ascii (unicode other : Unicode) {c : Char} (h : c.toNat < 0x80) :
    Agree unicode other c where
  isWord := by rw [unicode.isWord_ascii c h, other.isWord_ascii c h]
  isDecimal := by rw [unicode.isDecimal_ascii c h, other.isDecimal_ascii c h]
  isSpace := by rw [unicode.isSpace_ascii c h, other.isSpace_ascii c h]

variable {other : Unicode}

theorem Agree.contains {c : Char} (h : Agree unicode other c) (characters : CharClass) :
    characters.contains unicode c = characters.contains other c := by
  cases characters with
  | literal expected => rfl
  | decimal => exact h.isDecimal
  | space => exact h.isSpace
  | any => rfl

/-- A character at the edge of a match is looked up in either table. -/
theorem any_isWord_congr {c : Option Char} (h : ∀ held ∈ c, Agree unicode other held) :
    c.any unicode.isWord = c.any other.isWord := by
  cases c with
  | none => rfl
  | some held => exact (h held rfl).isWord

/-- Whether a text matches depends on the characters of the text only. -/
theorem Matches.of_agree (h : Matches unicode pattern before cs after)
    (hagree : ∀ c ∈ before ++ cs ++ after, Agree unicode other c) :
    Matches other pattern before cs after := by
  induction h with
  | empty before after => exact .empty _ _
  | @one characters c hcontains before after =>
      have hc : Agree unicode other c := hagree c (by simp)
      exact .one (hc.contains characters ▸ hcontains) _ _
  | @many characters cs hall before after =>
      refine .many ?_ _ _
      intro c hc
      have hc' : Agree unicode other c := hagree c (by simp [hc])
      exact hc'.contains characters ▸ hall c hc
  | seq _ _ ihfirst ihsecond =>
      refine .seq (ihfirst ?_) (ihsecond ?_)
      · simpa only [List.append_assoc] using hagree
      · simpa only [List.append_assoc] using hagree
  | left _ second ih => exact .left (ih hagree) _
  | right _ first ih => exact .right (ih hagree) _
  | @boundary before after hboundary =>
      refine .boundary ?_
      have hbefore : ∀ c ∈ before.getLast?, Agree unicode other c := fun c hc =>
        hagree c (by simp [List.mem_of_getLast? hc])
      have hafter : ∀ c ∈ after.head?, Agree unicode other c := fun c hc =>
        hagree c (by simp [List.mem_of_head? hc])
      rwa [← any_isWord_congr hbefore, ← any_isWord_congr hafter]

theorem search_congr {text : List Char} (h : ∀ c ∈ text, Agree unicode other c) :
    search unicode pattern text = search other pattern text := by
  have hsymm : ∀ c ∈ text, Agree other unicode c := fun c hc =>
    ⟨(h c hc).isWord.symm, (h c hc).isDecimal.symm, (h c hc).isSpace.symm⟩
  rw [Bool.eq_iff_iff, search_iff, search_iff]
  constructor
  · rintro ⟨before, cs, after, rfl, hmatches⟩
    exact ⟨before, cs, after, rfl, hmatches.of_agree h⟩
  · rintro ⟨before, cs, after, rfl, hmatches⟩
    exact ⟨before, cs, after, rfl, hmatches.of_agree hsymm⟩

/-- On ASCII text every table gives the same answer. -/
theorem search_ascii {text : List Char} (h : ∀ c ∈ text, c.toNat < 0x80) :
    search unicode pattern text = search Unicode.ascii pattern text :=
  search_congr fun c hc => agree_ascii _ _ (h c hc)

end Pattern

end Serialization
