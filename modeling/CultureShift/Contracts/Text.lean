/-
# Constrained text

The contracts strip surrounding whitespace from every string before they check
it. A value of one of these types is the text after stripping, together with
the check it passed.
-/

import CultureShift.Serialization.Json
import Mathlib.Data.List.DropRight

namespace CultureShift

open Serialization

/-- The characters that stripping removes: Unicode `White_Space`. -/
def isSpace (c : Char) : Bool :=
  let code := c.toNat
  (0x09 ≤ code && code ≤ 0x0D) || code == 0x20 || code == 0x85 || code == 0xA0 ||
    code == 0x1680 || (0x2000 ≤ code && code ≤ 0x200A) || code == 0x2028 || code == 0x2029 ||
    code == 0x202F || code == 0x205F || code == 0x3000

/-- `strip_whitespace`. -/
def strip (text : String) : String :=
  String.ofList ((text.toList.dropWhile isSpace).rdropWhile isSpace)

theorem dropWhile_rdropWhile_dropWhile {α : Type} (p : α → Bool) (l : List α) :
    ((l.dropWhile p).rdropWhile p).dropWhile p = (l.dropWhile p).rdropWhile p := by
  rw [List.dropWhile_eq_self_iff]
  intro hpos
  have hleading := List.rdropWhile_prefix p (l.dropWhile p)
  have hlength : 0 < (l.dropWhile p).length := hpos.trans_le hleading.length_le
  rw [hleading.getElem hpos]
  exact List.dropWhile_get_zero_not p l hlength

@[simp]
theorem strip_strip (text : String) : strip (strip text) = strip text := by
  simp only [strip, String.toList_ofList, dropWhile_rdropWhile_dropWhile,
    List.rdropWhile_idempotent]

/-- Neither the first nor the last character is a space. -/
def isUnpadded (cs : List Char) : Bool :=
  (cs.head?.all fun c => !isSpace c) && cs.getLast?.all fun c => !isSpace c

/-- Text literals are compared with `String.ofList` of their characters, so this
is how a literal is shown to be stripped. -/
theorem strip_ofList {cs : List Char} (h : isUnpadded cs = true) :
    strip (String.ofList cs) = String.ofList cs := by
  rw [isUnpadded, Bool.and_eq_true] at h
  have hfirst : cs.dropWhile isSpace = cs := by
    rcases cs with _ | ⟨c, cs⟩
    · rfl
    · exact List.dropWhile_cons_of_neg (by simpa using h.1)
  have hlast : cs.rdropWhile isSpace = cs := by
    rw [List.rdropWhile_eq_self_iff]
    intro hne
    simpa [List.getLast?_eq_some_getLast hne] using h.2
  simp only [strip, String.toList_ofList, hfirst, hlast]

theorem length_ofList {cs : List Char} {limit : Nat} (h : 1 ≤ cs.length ∧ cs.length ≤ limit) :
    1 ≤ (String.ofList cs).length ∧ (String.ofList cs).length ≤ limit := by
  simpa using h

/-- Stripped, non-empty text of at most `limit` characters. -/
structure BoundedText (limit : Nat) where
  text : String
  stripped : strip text = text
  bounded : 1 ≤ text.length ∧ text.length ≤ limit
deriving DecidableEq

abbrev ShortText := BoundedText 256

abbrev LongText := BoundedText 4000

namespace BoundedText

variable {limit : Nat}

def validate (raw : String) : Option (BoundedText limit) :=
  if h : 1 ≤ (strip raw).length ∧ (strip raw).length ≤ limit then
    some ⟨strip raw, strip_strip raw, h⟩
  else none

@[simp]
theorem validate_text (value : BoundedText limit) : validate value.text = some value := by
  obtain ⟨text, hstripped, hbounded⟩ := value
  simp [validate, hstripped, hbounded]

instance : Codec (BoundedText limit) := Codec.refine text validate validate_text

end BoundedText

/-- Stripped text that a pattern accepts. -/
structure PatternText (accepts : List Char → Bool) where
  text : String
  stripped : strip text = text
  accepted : accepts text.toList = true
deriving DecidableEq

namespace PatternText

variable {accepts : List Char → Bool}

def validate (raw : String) : Option (PatternText accepts) :=
  if h : accepts (strip raw).toList = true then some ⟨strip raw, strip_strip raw, h⟩ else none

@[simp]
theorem validate_text (value : PatternText accepts) : validate value.text = some value := by
  obtain ⟨text, hstripped, haccepted⟩ := value
  simp [validate, hstripped, haccepted]

instance : Codec (PatternText accepts) := Codec.refine text validate validate_text

end PatternText

theorem accepts_ofList {accepts : List Char → Bool} {cs : List Char} (h : accepts cs = true) :
    accepts (String.ofList cs).toList = true := by
  simpa using h

/-- The character class `[a-z]`. -/
def isLower (c : Char) : Bool := 'a' ≤ c && c ≤ 'z'

/-- The character class `[0-9]`. -/
def isDigit (c : Char) : Bool := '0' ≤ c && c ≤ '9'

/-- The character class `[A-Za-z0-9]`. -/
def isAlphanumeric (c : Char) : Bool := isLower c || ('A' ≤ c && c ≤ 'Z') || isDigit c

/-- `^[a-f0-9]{64}$` -/
def isSha256 (cs : List Char) : Bool :=
  cs.length == 64 && cs.all fun c => ('a' ≤ c && c ≤ 'f') || isDigit c

/-- `[a-z0-9][a-z0-9.+-]*` -/
def isMediaTypePart : List Char → Bool
  | [] => false
  | c :: cs =>
      (isLower c || isDigit c) &&
        cs.all fun c => isLower c || isDigit c || c == '.' || c == '+' || c == '-'

/-- `^[a-z0-9][a-z0-9.+-]*/[a-z0-9][a-z0-9.+-]*$` -/
def isMediaType (cs : List Char) : Bool :=
  isMediaTypePart (cs.takeWhile (· ≠ '/')) && isMediaTypePart ((cs.dropWhile (· ≠ '/')).drop 1)

/-- `^[a-z][a-z0-9_]{0,63}$` -/
def isWarningCode : List Char → Bool
  | [] => false
  | c :: cs =>
      isLower c && cs.length ≤ 63 && cs.all fun c => isLower c || isDigit c || c == '_'

theorem not_isSpace_of_code {c : Char} (h : (isLower c || isDigit c || c == '_') = true) :
    isSpace c = false := by
  have hrange : 0x30 ≤ c.toNat ∧ c.toNat ≤ 0x7A := by
    simp only [isLower, isDigit, Bool.or_eq_true, Bool.and_eq_true, decide_eq_true_eq,
      beq_iff_eq, Char.le_def, UInt32.le_iff_toNat_le] at h
    rcases h with (h | h) | rfl
    · exact ⟨(by decide : 0x30 ≤ 'a'.val.toNat).trans h.1, h.2⟩
    · exact ⟨h.1, h.2.trans (by decide : '9'.val.toNat ≤ 0x7A)⟩
    · decide
  unfold isSpace
  simp
  omega

theorem all_of_isWarningCode {cs : List Char} (h : isWarningCode cs = true) :
    ∀ c ∈ cs, isSpace c = false := by
  cases cs with
  | nil => cases h
  | cons first rest =>
      simp only [isWarningCode, Bool.and_eq_true, List.all_eq_true] at h
      intro c hc
      rcases List.mem_cons.mp hc with rfl | hrest
      · exact not_isSpace_of_code (by rw [h.1.1]; rfl)
      · exact not_isSpace_of_code (h.2 c hrest)

/-- A warning code has nothing that stripping removes. -/
theorem strip_of_isWarningCode {code : String} (h : isWarningCode code.toList = true) :
    strip code = code := by
  have hspaces := all_of_isWarningCode h
  have hunpadded : isUnpadded code.toList = true := by
    rw [isUnpadded, Bool.and_eq_true, Option.all_eq_true, Option.all_eq_true]
    constructor
    · intro c hc
      rw [hspaces c (List.mem_of_mem_head? hc)]
      rfl
    · intro c hc
      rw [hspaces c (List.mem_of_mem_getLast? hc)]
      rfl
  have hstrip := strip_ofList hunpadded
  rwa [String.ofList_toList] at hstrip

/-- One of the schemes `fixture`, `rights` and `evidence`, then a path that
starts with a letter or digit; at most 256 characters. -/
def isPublicReference (cs : List Char) : Bool :=
  let path := (cs.dropWhile (· ≠ ':')).drop 1
  cs.length ≤ 256 &&
    ["fixture:", "rights:", "evidence:"].any (fun scheme => scheme.toList.isPrefixOf cs) &&
    match path with
    | [] => false
    | c :: rest =>
        isAlphanumeric c &&
          rest.all fun c => isAlphanumeric c || c == '.' || c == '_' || c == '/' || c == '-'

abbrev Sha256 := PatternText isSha256

abbrev MediaType := PatternText isMediaType

abbrev WarningCode := PatternText isWarningCode

abbrev PublicReference := PatternText isPublicReference

end CultureShift
