/-
# The fixture image provider

Before a background is drawn, the texts that ask for it are searched for what
the background may not show. The request names the prohibited content, and the
provider has patterns of its own: one of the six names, in the plural, is in
none of them.
-/

import CultureShift.CompositionService
import CultureShift.Serialization.Patterns

namespace CultureShift

open Serialization Relational

inductive ImageProviderErrorCode
  | invalidRequest | invalidOutput
deriving DecidableEq

instance : StrEnum ImageProviderErrorCode where
  values := [.invalidRequest, .invalidOutput]
  value
    | .invalidRequest => "background_request_invalid"
    | .invalidOutput => "background_output_invalid"
  find_value member := by cases member <;> rfl

structure ImageProviderError where
  code : ImageProviderErrorCode
deriving DecidableEq

/-- What every request prohibits. -/
inductive ProhibitedContent
  | logo | brandName | productUi | statistics | claims | longText
deriving DecidableEq

instance : StrEnum ProhibitedContent where
  values := [.logo, .brandName, .productUi, .statistics, .claims, .longText]
  value
    | .logo => "logo"
    | .brandName => "brand_name"
    | .productUi => "product_ui"
    | .statistics => "statistics"
    | .claims => "claims"
    | .longText => "long_text"
  find_value member := by cases member <;> rfl

/-! ## Patterns -/

namespace ImageProvider

def literal (text : String) : Pattern := .literal text.toList

/-- The words one after another, with spaces between them. -/
def spaced : List (List Char) → Pattern
  | [] => .empty
  | [word] => .literal word
  | word :: words => .seq (.literal word) (.seq (.some .space) (spaced words))

/-- The pattern, from the edge of a word to the edge of a word. -/
def bounded (pattern : Pattern) : Pattern := .seq .boundary (.seq pattern .boundary)

/-- `\bfirst\s+second\b` -/
def phrase (words : List String) : Pattern := bounded (spaced (words.map String.toList))

/-- `_PROTECTED_PATTERNS` -/
def protectedPatterns : List Pattern :=
  [phrase ["orbit", "ai"],
    phrase ["logo"],
    phrase ["brand", "name"],
    phrase ["product", "ui"],
    phrase ["screenshot"],
    phrase ["claim"],
    -- `\bstatistic(?:s)?\b`
    bounded (.seq (literal "statistic") (.optional (literal "s"))),
    phrase ["long", "text"],
    -- `\btypograph(?:y|ic)\b`
    bounded (.seq (literal "typograph") (.alt (literal "y") (literal "ic"))),
    phrase ["caption"],
    -- `\brender\b.*\btext\b`
    .all [phrase ["render"], .many .any, phrase ["text"]],
    -- `\d+(?:\.\d+)?%`
    .all [.some .decimal, .optional (.seq (literal ".") (.some .decimal)), literal "%"]]

/-! ## The provider -/

/-- The narrative and the use scenario on lines of their own, in one case. -/
def combined (unicode : Unicode) (request : BackgroundRequest) : List Char :=
  unicode.fold (request.narrative.text.toList ++ '\n' :: request.useScenario.text.toList)

def validateRequest (unicode : Unicode) (request : BackgroundRequest) :
    Except ImageProviderError Unit :=
  require (¬∃ pattern ∈ protectedPatterns,
    pattern.search unicode (combined unicode request) = true) ⟨.invalidRequest⟩

/-- The provider that draws the backgrounds of the fixtures. Drawing and hashing are done
elsewhere. -/
structure FixtureImageProvider where
  unicode : Unicode
  hexdigest : List UInt8 → String
  renderDirectionBackground : LocalizationDirection → List UInt8

def FixtureImageProvider.generateBackground (provider : FixtureImageProvider)
    (request : BackgroundRequest) : Except ImageProviderError GeneratedBackground := do
  validateRequest provider.unicode request
  let pngBytes := provider.renderDirectionBackground request.direction
  return {
    sha256 := provider.hexdigest pngBytes
    provenanceRef := "fixture:day12-background-" ++ StrEnum.value request.direction
    pngBytes }

/-! ## Prohibited content in a text -/

/-- The words of a name: underscores stand for spaces. -/
def words (entry : ProhibitedContent) : List (List Char) :=
  (StrEnum.value entry).toList.splitOn '_'

/-- The characters spell the words in any case, with one or more spaces between them. -/
inductive Spells (unicode : Unicode) : List (List Char) → List Char → Prop
  | last {cs : List Char} : Spells unicode [unicode.fold cs] cs
  | more {words : List (List Char)} {cs spaces rest : List Char} (hspaces : spaces ≠ [])
      (hall : ∀ c ∈ spaces, unicode.isSpace c = true) (hrest : Spells unicode words rest) :
      Spells unicode (unicode.fold cs :: words) (cs ++ (spaces ++ rest))

/-- The words stand in the text, delimited by spaces or its ends. -/
def Stands (unicode : Unicode) (words : List (List Char)) (text : List Char) : Prop :=
  ∃ before cs after, text = before ++ cs ++ after ∧ Spells unicode words cs ∧
    (∀ c ∈ before.getLast?, unicode.isSpace c = true) ∧
    ∀ c ∈ after.head?, unicode.isSpace c = true

/-- The narrative or the use scenario contains the entry. -/
def Contains (unicode : Unicode) (entry : ProhibitedContent) (request : BackgroundRequest) :
    Prop :=
  Stands unicode (words entry) request.narrative.text.toList ∨
    Stands unicode (words entry) request.useScenario.text.toList

/-- Some part of the request is what a pattern of the provider describes. -/
def Protected (unicode : Unicode) (request : BackgroundRequest) : Prop :=
  ∃ pattern ∈ protectedPatterns, ∃ before cs after,
    combined unicode request = before ++ cs ++ after ∧ pattern.Matches unicode before cs after

variable {unicode : Unicode} {cs ds text before after : List Char} {entry : ProhibitedContent}
variable {request : BackgroundRequest} {provider : FixtureImageProvider}

theorem isSpace_newline (unicode : Unicode) : unicode.isSpace '\n' = true := by
  rw [unicode.isSpace_ascii '\n' (by decide)]
  rfl

/-- The line in front of a text delimits it, too. -/
theorem Stands.after_line {words : List (List Char)} (h : Stands unicode words text)
    (line : List Char) : Stands unicode words (line ++ '\n' :: text) := by
  obtain ⟨before, cs, after, rfl, hspells, hbefore, hafter⟩ := h
  refine ⟨line ++ '\n' :: before, cs, after, by simp, hspells, ?_, hafter⟩
  intro c hc
  cases before with
  | nil =>
      rw [List.getLast?_append, List.getLast?_singleton, Option.some_or, Option.mem_some] at hc
      subst hc
      exact isSpace_newline unicode
  | cons first before =>
      apply hbefore c
      rw [List.getLast?_append, List.getLast?_cons_cons, List.getLast?_cons, Option.some_or] at hc
      rwa [List.getLast?_cons]

theorem Stands.before_line {words : List (List Char)} (h : Stands unicode words text)
    (line : List Char) : Stands unicode words (text ++ '\n' :: line) := by
  obtain ⟨before, cs, after, rfl, hspells, hbefore, hafter⟩ := h
  refine ⟨before, cs, after ++ '\n' :: line, by simp, hspells, hbefore, ?_⟩
  intro c hc
  cases after with
  | nil =>
      obtain rfl := Option.some.inj hc
      exact isSpace_newline unicode
  | cons first after => exact hafter c hc

/-- The entry stands in the two lines that are searched. -/
theorem Contains.stands (h : Contains unicode entry request) :
    Stands unicode (words entry)
      (request.narrative.text.toList ++ '\n' :: request.useScenario.text.toList) := by
  rcases h with hnarrative | hscenario
  · exact hnarrative.before_line _
  · exact hscenario.after_line _

/-! ## What the words match -/

theorem Spells.ne_nil {words : List (List Char)} (h : Spells unicode words cs) : words ≠ [] := by
  cases h <;> exact List.cons_ne_nil _ _

theorem fold_spaced {spaces rest : List Char} (hall : ∀ c ∈ spaces, unicode.isSpace c = true) :
    unicode.fold (cs ++ (spaces ++ rest)) = unicode.fold cs ++ (spaces ++ unicode.fold rest) := by
  rw [Unicode.fold_append, Unicode.fold_append, Unicode.fold_of_isSpace hall]

theorem Spells.matches {words : List (List Char)} (h : Spells unicode words cs)
    (before after : List Char) :
    (spaced words).Matches unicode before (unicode.fold cs) after := by
  induction h generalizing before with
  | last => exact Pattern.matches_literal _ _ _
  | @more words cs spaces rest hspaces hall hrest ih =>
      cases words with
      | nil => exact absurd rfl hrest.ne_nil
      | cons word words =>
          rw [fold_spaced hall]
          exact .seq (Pattern.matches_literal _ _ _)
            (.seq (Pattern.matches_some hspaces hall) (ih _))

theorem Spells.first_ne_nil {words : List (List Char)} (h : Spells unicode words cs)
    (hwords : [] ∉ words) : unicode.fold cs ≠ [] := by
  cases h with
  | last => exact fun heq => hwords (heq ▸ List.mem_cons_self)
  | @more _ cs spaces rest hspaces hall hrest =>
      rw [fold_spaced hall]
      apply List.append_ne_nil_of_left_ne_nil
      exact fun heq => hwords (heq ▸ List.mem_cons_self)

theorem Spells.head? {words : List (List Char)} (h : Spells unicode words cs)
    (hwords : [] ∉ words) : (unicode.fold cs).head? = words.head?.bind List.head? := by
  cases h with
  | last => rfl
  | @more _ cs spaces rest hspaces hall hrest =>
      have hfirst : unicode.fold cs ≠ [] := fun heq => hwords (heq ▸ List.mem_cons_self)
      rw [fold_spaced hall, List.head?_append_of_ne_nil _ hfirst]
      rfl

theorem Spells.getLast? {words : List (List Char)} (h : Spells unicode words cs)
    (hwords : [] ∉ words) : (unicode.fold cs).getLast? = words.getLast?.bind List.getLast? := by
  induction h with
  | last => rfl
  | @more words cs spaces rest hspaces hall hrest ih =>
      have hrestWords : [] ∉ words := fun hmem => hwords (List.mem_cons_of_mem _ hmem)
      have hnonempty := hrest.first_ne_nil hrestWords
      rw [fold_spaced hall,
        List.getLast?_append_of_ne_nil _ (List.append_ne_nil_of_right_ne_nil _ hnonempty),
        List.getLast?_append_of_ne_nil _ hnonempty, ih hrestWords]
      cases words with
      | nil => exact absurd rfl hrest.ne_nil
      | cons word words => rw [List.getLast?_cons_cons]

/-- A word character at each end makes the edges of a match boundaries. -/
theorem matches_bounded {pattern : Pattern}
    (hpattern : ∀ before after, pattern.Matches unicode before cs after)
    (hhead : cs.head?.any unicode.isWord = true) (hlast : cs.getLast?.any unicode.isWord = true)
    (hbefore : before.getLast?.any unicode.isWord = false)
    (hafter : after.head?.any unicode.isWord = false) :
    (bounded pattern).Matches unicode before cs after := by
  have hnonempty : cs ≠ [] := by
    rintro rfl
    cases hhead
  have hfirst : Pattern.boundary.Matches unicode before [] (cs ++ after) := by
    apply Pattern.Matches.boundary
    rw [hbefore, List.head?_append_of_ne_nil _ hnonempty, hhead]
    exact Bool.false_ne_true
  have hsecond : Pattern.boundary.Matches unicode (before ++ cs) [] after := by
    apply Pattern.Matches.boundary
    rw [hafter, List.getLast?_append_of_ne_nil _ hnonempty, hlast]
    exact Bool.false_ne_true.symm
  have hrest : (Pattern.seq pattern .boundary).Matches unicode before (cs ++ []) after :=
    .seq (hpattern before _) hsecond
  rw [List.append_nil] at hrest
  have hwhole : (bounded pattern).Matches unicode before ([] ++ cs) after := by
    apply Pattern.Matches.seq hfirst
    rwa [List.append_nil]
  exact hwhole

/-- In front of the words there is no word: what is there ends with a space. -/
theorem isWord_fold_before (h : ∀ c ∈ before.getLast?, unicode.isSpace c = true) :
    (unicode.fold before).getLast?.any unicode.isWord = false := by
  rcases List.eq_nil_or_concat before with rfl | ⟨init, last, rfl⟩
  · rfl
  · have hspace : unicode.isSpace last = true := h last (by simp)
    rw [List.concat_eq_append, Unicode.fold_append, Unicode.fold_cons_of_isSpace hspace]
    simp [Unicode.fold, unicode.isWord_of_isSpace last hspace]

theorem isWord_fold_after (h : ∀ c ∈ after.head?, unicode.isSpace c = true) :
    (unicode.fold after).head?.any unicode.isWord = false := by
  cases after with
  | nil => rfl
  | cons first after =>
      have hspace : unicode.isSpace first = true := h first rfl
      rw [Unicode.fold_cons_of_isSpace hspace]
      exact unicode.isWord_of_isSpace first hspace

/-- Each word of an entry is one of letters. -/
theorem words_edges (entry : ProhibitedContent) :
    [] ∉ words entry ∧
      (((words entry).head?.bind List.head?).any fun c =>
        decide (c.toNat < 0x80) && isAsciiWord c) = true ∧
      (((words entry).getLast?.bind List.getLast?).any fun c =>
        decide (c.toNat < 0x80) && isAsciiWord c) = true := by
  cases entry <;> decide

theorem any_isWord_of_ascii {c : Option Char}
    (h : (c.any fun c => decide (c.toNat < 0x80) && isAsciiWord c) = true) :
    c.any unicode.isWord = true := by
  cases c with
  | none => cases h
  | some c =>
      rw [Option.any_some, Bool.and_eq_true, decide_eq_true_iff] at h
      rw [Option.any_some, unicode.isWord_ascii c h.1, h.2]

/-- What matches the words of an entry is found where the entry stands. -/
theorem Stands.found {pattern : Pattern} (h : Stands unicode (words entry) text)
    (hpattern : ∀ cs, Spells unicode (words entry) cs → ∀ before after,
      pattern.Matches unicode before (unicode.fold cs) after) :
    ∃ before cs after, unicode.fold text = before ++ cs ++ after ∧
      (bounded pattern).Matches unicode before cs after := by
  obtain ⟨before, cs, after, rfl, hspells, hbefore, hafter⟩ := h
  obtain ⟨hwords, hfirst, hlast⟩ := words_edges entry
  refine ⟨unicode.fold before, unicode.fold cs, unicode.fold after, ?_, ?_⟩
  · rw [Unicode.fold_append, Unicode.fold_append]
  · apply matches_bounded (hpattern cs hspells)
    · rw [hspells.head? hwords]
      exact any_isWord_of_ascii hfirst
    · rw [hspells.getLast? hwords]
      exact any_isWord_of_ascii hlast
    · exact isWord_fold_before hbefore
    · exact isWord_fold_after hafter

theorem spells_statistics (h : Spells unicode (words .statistics) cs) :
    unicode.fold cs = "statistic".toList ++ "s".toList := by
  have hwords : words .statistics = ["statistic".toList ++ "s".toList] := by decide
  rw [hwords] at h
  generalize "statistic".toList ++ "s".toList = word at h ⊢
  cases h with
  | last => rfl
  | more hspaces hall hrest => exact absurd rfl hrest.ne_nil

/-- All entries but one have a pattern of their own. -/
theorem exists_pattern (unicode : Unicode) (h : entry ≠ .claims) :
    ∃ pattern, bounded pattern ∈ protectedPatterns ∧
      ∀ cs, Spells unicode (words entry) cs → ∀ before after,
        pattern.Matches unicode before (unicode.fold cs) after := by
  have hspaced (entry : ProhibitedContent)
      (hmem : bounded (spaced (words entry)) ∈ protectedPatterns) :
      ∃ pattern, bounded pattern ∈ protectedPatterns ∧
        ∀ cs, Spells unicode (words entry) cs → ∀ before after,
          pattern.Matches unicode before (unicode.fold cs) after :=
    ⟨_, hmem, fun _ hspells before after => hspells.matches before after⟩
  cases entry with
  | logo => exact hspaced _ (by decide)
  | brandName => exact hspaced _ (by decide)
  | productUi => exact hspaced _ (by decide)
  | longText => exact hspaced _ (by decide)
  | claims => exact absurd rfl h
  | statistics =>
      refine ⟨.seq (literal "statistic") (.optional (literal "s")), by decide, ?_⟩
      intro cs hspells before after
      rw [spells_statistics hspells]
      exact .seq (Pattern.matches_literal _ _ _) (.left (Pattern.matches_literal _ _ _) _)

/-! ## Requests that are refused -/

theorem Contains.protected (h : Contains unicode entry request) (hentry : entry ≠ .claims) :
    Protected unicode request := by
  obtain ⟨pattern, hmem, hpattern⟩ := exists_pattern unicode hentry
  exact ⟨bounded pattern, hmem, h.stands.found hpattern⟩

theorem validateRequest_eq_error_iff :
    validateRequest unicode request = .error ⟨.invalidRequest⟩ ↔ Protected unicode request := by
  have hsearch : (∃ pattern ∈ protectedPatterns,
      pattern.search unicode (combined unicode request) = true) ↔ Protected unicode request := by
    simp only [Pattern.search_iff, Protected]
  rw [validateRequest]
  by_cases h : Protected unicode request
  · rw [require, if_neg (not_not.mpr (hsearch.mpr h))]
    exact iff_of_true rfl h
  · rw [require, if_pos (fun hfound => h (hsearch.mp hfound))]
    refine iff_of_false (fun heq => ?_) h
    cases heq

theorem generateBackground_eq_error_iff :
    provider.generateBackground request = .error ⟨.invalidRequest⟩ ↔
      Protected provider.unicode request := by
  rw [← validateRequest_eq_error_iff, FixtureImageProvider.generateBackground]
  cases validateRequest provider.unicode request with
  | error error => rw [error_bind, Except.error.injEq, Except.error.injEq]
  | ok checked =>
      constructor
      · intro heq
        cases heq
      · intro heq
        cases heq

end ImageProvider

namespace Demo

open ImageProvider

/-- Claims are asked for, in a narrative of that one word. -/
def claimsRequest : BackgroundRequest where
  direction := .chinaToUk
  targetLocale := .enGB
  narrative := ⟨"claims", strip_ofList (by decide), length_ofList (by decide)⟩
  useScenario := ⟨"A workspace", strip_ofList (by decide), length_ofList (by decide)⟩
  locale_matches := rfl

/-- Text is ASCII when a look at each character says so. -/
theorem ascii_of_all {cs : List Char} (h : (cs.all fun c => c.toNat < 0x80) = true) :
    ∀ c ∈ cs, c.toNat < 0x80 := by
  intro c hc
  exact of_decide_eq_true (List.all_eq_true.mp h c hc)

theorem combined_claimsRequest (unicode : Unicode) :
    combined unicode claimsRequest = "claims\na workspace".toList :=
  Unicode.fold_of_ascii (ascii_of_all (by decide))

/-- Of ASCII text every table of characters says the same, so the patterns can be tried. -/
theorem not_protected_claimsRequest (unicode : Unicode) : ¬Protected unicode claimsRequest := by
  rintro ⟨pattern, hmem, hfound⟩
  rw [combined_claimsRequest, ← Pattern.search_iff, Pattern.search_ascii (ascii_of_all (by decide))]
    at hfound
  revert pattern
  decide +kernel

theorem contains_claimsRequest (unicode : Unicode) : Contains unicode .claims claimsRequest := by
  have hfold : unicode.fold "claims".toList = "claims".toList :=
    Unicode.fold_of_ascii (ascii_of_all (by decide))
  have hspells : ImageProvider.Spells unicode (words .claims) "claims".toList := by
    have hwords : words .claims = [unicode.fold "claims".toList] := by
      rw [hfold]
      decide
    rw [hwords]
    exact .last
  exact .inl ⟨[], _, [], (List.append_nil _).symm, hspells, nofun, nofun⟩

/-- The digest and the picture do not matter to a request that is refused. -/
def imageProvider : FixtureImageProvider := ⟨.ascii, fun _ => "", fun _ => []⟩

end Demo

namespace ImageProvider

/-- A request that contains prohibited content is refused, unless claims are what it contains and
nothing in it is what a pattern describes. Each other entry is refused in every request, and there
are requests that contain claims and are not refused. -/
theorem refuses_prohibited_iff (provider : FixtureImageProvider) :
    (∀ request, (∀ entry, Contains provider.unicode entry request →
        provider.generateBackground request = .error ⟨.invalidRequest⟩) ↔
      (Contains provider.unicode .claims request → Protected provider.unicode request)) ∧
    ∀ entry, (∀ request, Contains provider.unicode entry request →
        provider.generateBackground request = .error ⟨.invalidRequest⟩) ↔ entry ≠ .claims := by
  simp only [generateBackground_eq_error_iff]
  constructor
  · intro request
    constructor
    · intro h
      exact h .claims
    · intro h entry hcontains
      by_cases hentry : entry = .claims
      · subst hentry
        exact h hcontains
      · exact hcontains.protected hentry
  · intro entry
    constructor
    · rintro h rfl
      exact Demo.not_protected_claimsRequest _ (h _ (Demo.contains_claimsRequest _))
    · intro hentry request hcontains
      exact hcontains.protected hentry

/-- Claims are prohibited, and a background is drawn for them. -/
theorem not_refuses_prohibited :
    ¬∀ entry request, Contains Demo.imageProvider.unicode entry request →
      Demo.imageProvider.generateBackground request = .error ⟨.invalidRequest⟩ := by
  intro h
  have hrefused := h .claims Demo.claimsRequest (Demo.contains_claimsRequest _)
  rw [generateBackground_eq_error_iff] at hrefused
  exact Demo.not_protected_claimsRequest _ hrefused

end ImageProvider

end CultureShift
