/-
# JSON documents

Compact ASCII text with sorted keys, and a reader of arbitrary JSON text. Reading
what was written gives the document back, its strings in normal form. Documents
are written without floating-point numbers; the reader knows them.
-/

import CultureShift.Serialization.Strings
import Mathlib.Data.List.Sort

namespace Serialization

/-- A JSON document with floating-point numbers in `φ`. Members keep their order,
and a name may stand more than once. -/
inductive Document (φ : Type)
  | null
  | bool (value : Bool)
  | int (value : Int)
  | float (value : φ)
  | str (value : Text)
  | arr (items : List (Document φ))
  | obj (members : List (Text × Document φ))

namespace Document

variable {φ : Type}

/-- The member of that name. The last one counts. -/
def get? (members : List (Text × Document φ)) (name : Text) : Option (Document φ) :=
  members.reverse.lookup name

/-! ## Writing -/

def renderInt (value : Int) : List Char :=
  if value < 0 then '-' :: Nat.toDigits 10 value.natAbs else Nat.toDigits 10 value.natAbs

mutual

def render : Document Empty → List Char
  | null => ['n', 'u', 'l', 'l']
  | bool true => ['t', 'r', 'u', 'e']
  | bool false => ['f', 'a', 'l', 's', 'e']
  | int value => renderInt value
  | str value => quoteAscii value
  | arr [] => ['[', ']']
  | arr (item :: items) => '[' :: (render item ++ renderItems items)
  | obj [] => ['{', '}']
  | obj ((name, value) :: members) =>
      '{' :: (quoteAscii name ++ ':' :: (render value ++ renderMembers members))

/-- The items behind the first one, and the closing bracket. -/
def renderItems : List (Document Empty) → List Char
  | [] => [']']
  | item :: items => ',' :: (render item ++ renderItems items)

def renderMembers : List (Text × Document Empty) → List Char
  | [] => ['}']
  | (name, value) :: members =>
      ',' :: (quoteAscii name ++ ':' :: (render value ++ renderMembers members))

end

mutual

/-- Sort the members of every object by name. -/
def sortKeys : Document Empty → Document Empty
  | arr items => arr (sortItems items)
  | obj members =>
      obj ((sortMembers members).insertionSort fun first second => first.1 ≤ second.1)
  | document => document

def sortItems : List (Document Empty) → List (Document Empty)
  | [] => []
  | item :: items => sortKeys item :: sortItems items

def sortMembers : List (Text × Document Empty) → List (Text × Document Empty)
  | [] => []
  | (name, value) :: members => (name, sortKeys value) :: sortMembers members

end

/-- `json.dumps(…, separators=(",", ":"), sort_keys=True)` -/
def dumps (document : Document Empty) : List Char := document.sortKeys.render

/-! ## Reading -/

def isSpace (c : Char) : Bool := c = ' ' || c = '\t' || c = '\n' || c = '\r'

def skipSpace (cs : List Char) : List Char := cs.dropWhile isSpace

/-- An optional sign in front of a number. -/
def scanSign : List Char → Bool × List Char
  | c :: rest => if c = '-' then (true, rest) else (false, c :: rest)
  | [] => (false, [])

/-- The digits of an integer. A leading zero stands alone. -/
def scanDigits : List Char → Option (List Char × List Char)
  | [] => none
  | c :: rest =>
      if c = '0' then some ([c], rest)
      else if c.isDigit then
        some (c :: rest.takeWhile Char.isDigit, rest.dropWhile Char.isDigit)
      else none

/-- The digits behind a point, if there are any. -/
def scanFraction : List Char → Option (List Char × List Char)
  | c :: rest =>
      if c = '.' ∧ (rest.takeWhile Char.isDigit) ≠ [] then
        some (rest.takeWhile Char.isDigit, rest.dropWhile Char.isDigit)
      else none
  | [] => none

/-- A decimal exponent, if there is one. -/
def scanExponent : List Char → Option (Int × List Char)
  | c :: rest =>
      if c = 'e' ∨ c = 'E' then
        let (negative, rest) := match rest with
          | sign :: digits => if sign = '+' then (false, digits) else scanSign rest
          | [] => (false, [])
        let exponent := Nat.ofDigitChars 10 (rest.takeWhile Char.isDigit) 0
        if rest.takeWhile Char.isDigit = [] then none
        else some (if negative then -exponent else exponent, rest.dropWhile Char.isDigit)
      else none
  | [] => none

def signed (negative : Bool) (value : Nat) : Int := if negative then -value else value

/-- Floating-point numbers: what a literal stands for, and the names that are no
literals. -/
structure Floats (φ : Type) where
  /-- The sign, the digits in front of the exponent without the point, and the exponent
  of that number of units. -/
  ofDecimal : Bool → Nat → Int → φ
  nan : φ
  infinity : φ
  negInfinity : φ

/-- A number. With a point or an exponent it is a floating-point number. -/
def scanNumber (floats : Floats φ) (cs : List Char) : Option (Document φ × List Char) :=
  let (negative, unsigned) := scanSign cs
  (scanDigits unsigned).map fun (whole, rest) =>
    match scanFraction rest, scanExponent rest with
    | some (fraction, rest), _ =>
        let mantissa := Nat.ofDigitChars 10 (whole ++ fraction) 0
        match scanExponent rest with
        | some (exponent, rest) =>
            (float (floats.ofDecimal negative mantissa (exponent - fraction.length)), rest)
        | none => (float (floats.ofDecimal negative mantissa (-fraction.length)), rest)
    | none, some (exponent, rest) =>
        (float (floats.ofDecimal negative (Nat.ofDigitChars 10 whole 0) exponent), rest)
    | none, none => (int (signed negative (Nat.ofDigitChars 10 whole 0)), rest)

/-- The rest of the text behind a name. -/
def scanName : List Char → List Char → Option (List Char)
  | [], rest => some rest
  | c :: name, d :: rest => if c = d then scanName name rest else none
  | _ :: _, [] => none

/-- The values that are names. -/
def names (floats : Floats φ) : List (List Char × Document φ) :=
  [(['n', 'u', 'l', 'l'], null), (['t', 'r', 'u', 'e'], bool true),
    (['f', 'a', 'l', 's', 'e'], bool false), (['N', 'a', 'N'], float floats.nan),
    ("Infinity".toList, float floats.infinity), ("-Infinity".toList, float floats.negInfinity)]

def scanNames (cs : List Char) : List (List Char × Document φ) → Option (Document φ × List Char)
  | [] => none
  | (name, value) :: names =>
      match scanName name cs with
      | some rest => some (value, rest)
      | none => scanNames cs names

mutual

/-- Read one value. Every step into a value or past an item takes one unit of fuel. -/
def scanValue (floats : Floats φ) : Nat → List Char → Option (Document φ × List Char)
  | fuel + 1, c :: rest =>
      if c = '"' then (scanString rest).map fun (text, rest) => (str text, rest)
      else if c = '[' then scanArray floats fuel (skipSpace rest)
      else if c = '{' then scanObject floats fuel (skipSpace rest)
      else
        match scanNames (c :: rest) (names floats) with
        | some scanned => some scanned
        | none => scanNumber floats (c :: rest)
  | _ + 1, [] => none
  | 0, _ => none

def scanArray (floats : Floats φ) : Nat → List Char → Option (Document φ × List Char)
  | fuel + 1, cs =>
      match cs with
      | ']' :: rest => some (arr [], rest)
      | cs => (scanItems floats fuel cs).map fun (items, rest) => (arr items, rest)
  | 0, _ => none

/-- Read items up to the closing bracket. -/
def scanItems (floats : Floats φ) : Nat → List Char → Option (List (Document φ) × List Char)
  | fuel + 1, cs =>
      (scanValue floats fuel cs).bind fun (item, rest) =>
        match skipSpace rest with
        | c :: rest =>
            if c = ']' then some ([item], rest)
            else if c = ',' then
              (scanItems floats fuel (skipSpace rest)).map fun (items, rest) =>
                (item :: items, rest)
            else none
        | [] => none
  | 0, _ => none

def scanObject (floats : Floats φ) : Nat → List Char → Option (Document φ × List Char)
  | fuel + 1, cs =>
      match cs with
      | '}' :: rest => some (obj [], rest)
      | cs => (scanMembers floats fuel cs).map fun (members, rest) => (obj members, rest)
  | 0, _ => none

/-- Read members up to the closing brace. -/
def scanMembers (floats : Floats φ) :
    Nat → List Char → Option (List (Text × Document φ) × List Char)
  | fuel + 1, c :: cs =>
      if c = '"' then
        (scanString cs).bind fun (name, rest) =>
          match skipSpace rest with
          | c :: rest =>
              if c = ':' then
                (scanValue floats fuel (skipSpace rest)).bind fun (value, rest) =>
                  match skipSpace rest with
                  | c :: rest =>
                      if c = '}' then some ([(name, value)], rest)
                      else if c = ',' then
                        (scanMembers floats fuel (skipSpace rest)).map fun (members, rest) =>
                          ((name, value) :: members, rest)
                      else none
                  | [] => none
              else none
          | [] => none
      else none
  | _ + 1, [] => none
  | 0, _ => none

end

/-- `json.loads` on text. Nothing but space may follow the value. -/
def loads (floats : Floats φ) (cs : List Char) : Option (Document φ) :=
  match scanValue floats (2 * cs.length + 1) (skipSpace cs) with
  | some (document, rest) => if skipSpace rest = [] then some document else none
  | none => none

/-! ## Numbers -/

/-- Behind a number comes nothing that could belong to it. -/
def Delimited (rest : List Char) : Prop :=
  ∀ c ∈ rest.head?, c.isDigit = false ∧ c ≠ '.' ∧ c ≠ 'e' ∧ c ≠ 'E'

theorem toDigits_eq_zero_or (n : Nat) :
    n = 0 ∨ ∃ c tail, Nat.toDigits 10 n = c :: tail ∧ c ≠ '0' := by
  induction n using Nat.strongRecOn with
  | ind n ih =>
      by_cases hsmall : n < 10
      · by_cases hzero : n = 0
        · exact Or.inl hzero
        · refine Or.inr ⟨_, _, Nat.toDigits_of_lt_base hsmall, ?_⟩
          interval_cases n <;> first | contradiction | decide
      · right
        have hdigits : Nat.toDigits 10 n = Nat.toDigits 10 (n / 10) ++ [Nat.digitChar (n % 10)] :=
          Nat.toDigits_of_base_le (by omega) (by omega)
        rcases ih (n / 10) (by omega) with hzero | ⟨c, tail, hcons, hne⟩
        · omega
        · exact ⟨c, tail ++ [Nat.digitChar (n % 10)], by rw [hdigits, hcons]; rfl, hne⟩

theorem isDigit_of_mem_toDigits {n : Nat} {c : Char} (h : c ∈ Nat.toDigits 10 n) :
    c.isDigit = true :=
  Nat.isDigit_of_mem_toDigits (by omega) (le_refl 10) h

theorem takeWhile_digits {ds rest : List Char} (hdigits : ∀ c ∈ ds, c.isDigit = true)
    (hrest : Delimited rest) :
    (ds ++ rest).takeWhile Char.isDigit = ds ∧ (ds ++ rest).dropWhile Char.isDigit = rest := by
  have hstop : rest.takeWhile Char.isDigit = [] ∧ rest.dropWhile Char.isDigit = rest := by
    cases rest with
    | nil => exact ⟨rfl, rfl⟩
    | cons c rest =>
        have hc := (hrest c rfl).1
        exact ⟨List.takeWhile_cons_of_neg (by simp [hc]), List.dropWhile_cons_of_neg (by simp [hc])⟩
  constructor
  · rw [List.takeWhile_append_of_pos hdigits, hstop.1, List.append_nil]
  · rw [List.dropWhile_append_of_pos hdigits, hstop.2]

theorem scanDigits_toDigits (n : Nat) {rest : List Char} (hrest : Delimited rest) :
    scanDigits (Nat.toDigits 10 n ++ rest) = some (Nat.toDigits 10 n, rest) := by
  rcases toDigits_eq_zero_or n with rfl | ⟨c, tail, hcons, hne⟩
  · rfl
  · have hmem : ∀ d ∈ c :: tail, d.isDigit = true := by
      intro d hd
      exact isDigit_of_mem_toDigits (hcons ▸ hd)
    have htail := takeWhile_digits (fun d hd => hmem d (List.mem_cons_of_mem _ hd)) hrest
    rw [hcons, List.cons_append, scanDigits, if_neg hne, if_pos (hmem c List.mem_cons_self),
      htail.1, htail.2]

theorem scanFraction_delimited {rest : List Char} (hrest : Delimited rest) :
    scanFraction rest = none := by
  cases rest with
  | nil => rfl
  | cons c rest => exact if_neg fun h => (hrest c rfl).2.1 h.1

theorem scanExponent_delimited {rest : List Char} (hrest : Delimited rest) :
    scanExponent rest = none := by
  cases rest with
  | nil => rfl
  | cons c rest => exact if_neg (not_or.mpr (hrest c rfl).2.2)

/-- An unsigned number does not start with a sign. -/
theorem scanSign_toDigits (n : Nat) (rest : List Char) :
    scanSign (Nat.toDigits 10 n ++ rest) = (false, Nat.toDigits 10 n ++ rest) := by
  cases hcons : Nat.toDigits 10 n with
  | nil => exact absurd hcons Nat.toDigits_ne_nil
  | cons c tail =>
      have hdigit : c.isDigit = true := isDigit_of_mem_toDigits (hcons ▸ List.mem_cons_self)
      have hne : c ≠ '-' := by
        rintro rfl
        exact absurd hdigit (by decide)
      exact if_neg hne

theorem scanNumber_renderInt (floats : Floats φ) (value : Int) {rest : List Char}
    (hrest : Delimited rest) :
    scanNumber floats (renderInt value ++ rest) = some (int value, rest) := by
  have hscan : ∀ negative, scanSign (renderInt value ++ rest) =
        (negative, Nat.toDigits 10 value.natAbs ++ rest) → signed negative value.natAbs = value →
      scanNumber floats (renderInt value ++ rest) = some (int value, rest) := by
    intro negative hsign hvalue
    simp only [scanNumber, hsign, scanDigits_toDigits _ hrest, scanFraction_delimited hrest,
      scanExponent_delimited hrest, Option.map_some, Nat.ofDigitChars_ten_toDigits, hvalue]
  by_cases hneg : value < 0
  · apply hscan true
    · rw [renderInt, if_pos hneg]
      rfl
    · simp only [signed, if_true]
      omega
  · apply hscan false
    · rw [renderInt, if_neg hneg]
      exact scanSign_toDigits _ rest
    · simp only [signed, Bool.false_eq_true, if_false]
      omega

/-- A rendered number is not one of the names, and not the start of another value. -/
theorem exists_renderInt_cons (value : Int) (rest : List Char) :
    ∃ c tail, renderInt value ++ rest = c :: tail ∧
      (c.isDigit = true ∨ (c = '-' ∧ ∀ d ∈ tail.head?, d.isDigit = true)) := by
  cases hcons : Nat.toDigits 10 value.natAbs with
  | nil => exact absurd hcons Nat.toDigits_ne_nil
  | cons c tail =>
      have hdigit : c.isDigit = true := isDigit_of_mem_toDigits (hcons ▸ List.mem_cons_self)
      by_cases hneg : value < 0
      · refine ⟨'-', c :: (tail ++ rest), ?_, Or.inr ⟨rfl, ?_⟩⟩
        · rw [renderInt, if_pos hneg, hcons]
          rfl
        · intro d hd
          cases hd
          exact hdigit
      · refine ⟨c, tail ++ rest, ?_, Or.inl hdigit⟩
        rw [renderInt, if_neg hneg, hcons]
        rfl

theorem scanNames_renderInt (floats : Floats φ) (value : Int) (rest : List Char) :
    scanNames (renderInt value ++ rest) (names floats) = none := by
  obtain ⟨c, tail, hcons, hdigit | ⟨rfl, htail⟩⟩ := exists_renderInt_cons value rest
  · have hne : ∀ other : Char, other.isDigit = false → other ≠ c := by
      rintro other hother rfl
      rw [hdigit] at hother
      cases hother
    rw [hcons]
    have hinfinity : "Infinity".toList = 'I' :: "nfinity".toList := rfl
    have hneg : "-Infinity".toList = '-' :: "Infinity".toList := rfl
    simp only [names, scanNames, hinfinity, hneg, scanName, if_neg (hne 'n' rfl),
      if_neg (hne 't' rfl), if_neg (hne 'f' rfl), if_neg (hne 'N' rfl), if_neg (hne 'I' rfl),
      if_neg (hne '-' rfl)]
  · rw [hcons]
    have hinfinity : "Infinity".toList = 'I' :: "nfinity".toList := rfl
    have hneg : "-Infinity".toList = '-' :: "Infinity".toList := rfl
    have hlast : scanName "Infinity".toList tail = none := by
      rw [hinfinity]
      cases tail with
      | nil => rfl
      | cons d tail =>
          have hd := htail d rfl
          apply if_neg
          rintro rfl
          exact absurd hd (by decide)
    simp only [names, scanNames, hneg, scanName, hlast, if_true]
    rfl

/-! ## Reading what was written -/

mutual

/-- The document that the reader makes of a written one. -/
def normalize : Document Empty → Document φ
  | null => null
  | bool value => bool value
  | int value => int value
  | str value => str value.normalize
  | arr items => arr (normalizeItems items)
  | obj members => obj (normalizeMembers members)

def normalizeItems : List (Document Empty) → List (Document φ)
  | [] => []
  | item :: items => item.normalize :: normalizeItems items

def normalizeMembers : List (Text × Document Empty) → List (Text × Document φ)
  | [] => []
  | (name, value) :: members => (name.normalize, value.normalize) :: normalizeMembers members

end

/-- No value starts with space or with a closing bracket. -/
theorem exists_render_cons (document : Document Empty) :
    ∃ c tail, document.render = c :: tail ∧ isSpace c = false ∧ c ≠ ']' := by
  cases document with
  | null => exact ⟨_, _, by rw [render], rfl, by decide⟩
  | bool value => cases value <;> exact ⟨_, _, by rw [render], rfl, by decide⟩
  | int value =>
      obtain ⟨c, tail, hcons, hdigit⟩ := exists_renderInt_cons value []
      rw [List.append_nil] at hcons
      refine ⟨c, tail, by rw [render, hcons], ?_, ?_⟩
      · rcases hdigit with hdigit | ⟨rfl, -⟩
        · rw [← Bool.not_eq_true]
          intro hspace
          simp only [isSpace, Bool.or_eq_true, decide_eq_true_iff] at hspace
          rcases hspace with ((rfl | rfl) | rfl) | rfl <;> exact absurd hdigit (by decide)
        · rfl
      · rintro rfl
        rcases hdigit with hdigit | ⟨heq, -⟩
        · exact absurd hdigit (by decide)
        · exact absurd heq (by decide)
  | float value => exact value.elim
  | str value => exact ⟨_, _, by rw [render, quoteAscii], rfl, by decide⟩
  | arr items => cases items <;> exact ⟨_, _, by rw [render], rfl, by decide⟩
  | obj members =>
      cases members with
      | nil => exact ⟨_, _, by rw [render], rfl, by decide⟩
      | cons member members => exact ⟨_, _, by rw [render], rfl, by decide⟩

theorem skipSpace_cons {c : Char} (h : isSpace c = false) (rest : List Char) :
    skipSpace (c :: rest) = c :: rest :=
  List.dropWhile_cons_of_neg (by simp [h])

theorem skipSpace_render (document : Document Empty) (rest : List Char) :
    skipSpace (document.render ++ rest) = document.render ++ rest := by
  obtain ⟨c, tail, hcons, hspace, -⟩ := exists_render_cons document
  rw [hcons, List.cons_append, skipSpace_cons hspace]

theorem delimited_cons {c : Char} (h : c = ',' ∨ c = ']' ∨ c = '}') (rest : List Char) :
    Delimited (c :: rest) := by
  intro d hd
  cases hd
  rcases h with rfl | rfl | rfl <;> decide

theorem delimited_renderItems (items : List (Document Empty)) (rest : List Char) :
    Delimited (renderItems items ++ rest) := by
  cases items with
  | nil => exact delimited_cons (Or.inr (Or.inl rfl)) _
  | cons item items => exact delimited_cons (Or.inl rfl) _

theorem delimited_renderMembers (members : List (Text × Document Empty)) (rest : List Char) :
    Delimited (renderMembers members ++ rest) := by
  cases members with
  | nil => exact delimited_cons (Or.inr (Or.inr rfl)) _
  | cons member members => exact delimited_cons (Or.inl rfl) _

section

variable (floats : Floats φ)

theorem scanArray_cons {fuel : Nat} {c : Char} {rest : List Char} (h : c ≠ ']') :
    scanArray floats (fuel + 1) (c :: rest) =
      (scanItems floats fuel (c :: rest)).map fun (items, rest) => (arr items, rest) := by
  rw [scanArray.eq_def]
  dsimp only
  split
  · rename_i heq
    cases heq
    exact absurd rfl h
  · rfl

mutual

theorem scanValue_render (document : Document Empty) (fuel : Nat) (rest : List Char)
    (hfuel : 2 * document.render.length ≤ fuel) (hrest : Delimited rest) :
    scanValue floats fuel (document.render ++ rest) = some (document.normalize, rest) := by
  obtain ⟨fuel, rfl⟩ : ∃ left, fuel = left + 2 := by
    obtain ⟨c, tail, hcons, -⟩ := exists_render_cons document
    rw [hcons, List.length_cons] at hfuel
    exact ⟨fuel - 2, by omega⟩
  cases document with
  | null => rfl
  | bool value => cases value <;> rfl
  | int value =>
      obtain ⟨c, tail, hcons, hdigit⟩ := exists_renderInt_cons value rest
      have hstart : ∀ other : Char, other.isDigit = false → other ≠ '-' → c ≠ other := by
        rintro other hother hsign rfl
        rcases hdigit with hdigit | ⟨heq, -⟩
        · rw [hdigit] at hother
          cases hother
        · exact hsign heq
      have hnames := scanNames_renderInt floats value rest
      have hnumber := scanNumber_renderInt floats value hrest
      rw [hcons] at hnames hnumber
      rw [render, hcons, scanValue, if_neg (hstart '"' rfl (by decide)),
        if_neg (hstart '[' rfl (by decide)), if_neg (hstart '{' rfl (by decide)), hnames, hnumber,
        normalize]
  | float value => exact value.elim
  | str value =>
      rw [render, quoteAscii, List.cons_append, List.append_assoc, scanValue, if_pos rfl,
        List.singleton_append, scanString_quoteAscii, normalize]
      rfl
  | arr items =>
      cases items with
      | nil => rfl
      | cons item items =>
          rw [render, List.length_cons] at hfuel
          have hitems := scanItems_render item items fuel rest (by omega)
          obtain ⟨c, tail, hcons, hspace, hclose⟩ := exists_render_cons item
          rw [hcons, List.cons_append, List.cons_append] at hitems
          rw [render, hcons, List.cons_append, List.cons_append, List.cons_append, scanValue,
            if_neg (by decide), if_pos rfl, skipSpace_cons hspace, scanArray_cons floats hclose,
            hitems]
          rfl
  | obj members =>
      cases members with
      | nil => rfl
      | cons member members =>
          rw [render, List.length_cons] at hfuel
          have hmembers := scanMembers_render member.1 member.2 members fuel rest (by omega)
          rw [quoteAscii, List.cons_append, List.cons_append] at hmembers
          rw [render, quoteAscii, List.cons_append, List.cons_append, List.cons_append, scanValue,
            if_neg (by decide), if_neg (by decide), if_pos rfl, skipSpace_cons rfl, scanObject]
          · rw [hmembers]
            rfl
          · intro other heq
            cases heq
termination_by fuel

theorem scanItems_render (item : Document Empty) (items : List (Document Empty)) (fuel : Nat)
    (rest : List Char) (hfuel : 2 * (item.render ++ renderItems items).length ≤ fuel) :
    scanItems floats fuel (item.render ++ renderItems items ++ rest) =
      some (item.normalize :: normalizeItems items, rest) := by
  rw [List.length_append] at hfuel
  obtain ⟨fuel, rfl⟩ : ∃ left, fuel = left + 1 := by
    obtain ⟨c, tail, hcons, -⟩ := exists_render_cons item
    rw [hcons, List.length_cons] at hfuel
    exact ⟨fuel - 1, by omega⟩
  have hclose : 0 < (renderItems items).length := by
    cases items <;> simp [renderItems]
  rw [List.append_assoc, scanItems,
    scanValue_render item fuel _ (by omega) (delimited_renderItems items rest), Option.bind_some]
  cases items with
  | nil => rfl
  | cons next items =>
      rw [renderItems, List.length_cons] at hfuel
      rw [renderItems, List.cons_append]
      dsimp only
      rw [skipSpace_cons rfl]
      dsimp only
      rw [if_neg (by decide), if_pos rfl, List.append_assoc, skipSpace_render, ← List.append_assoc,
        scanItems_render next items fuel rest (by omega), normalizeItems]
      rfl
termination_by fuel

theorem scanMembers_render (name : Text) (value : Document Empty)
    (members : List (Text × Document Empty)) (fuel : Nat) (rest : List Char)
    (hfuel : 2 * (quoteAscii name ++ ':' :: (value.render ++ renderMembers members)).length ≤
      fuel) :
    scanMembers floats fuel
        (quoteAscii name ++ ':' :: (value.render ++ renderMembers members) ++ rest) =
      some ((name.normalize, value.normalize) :: normalizeMembers members, rest) := by
  rw [List.length_append, List.length_cons, List.length_append, quoteAscii,
    List.length_cons] at hfuel
  obtain ⟨fuel, rfl⟩ : ∃ left, fuel = left + 1 := ⟨fuel - 1, by omega⟩
  rw [quoteAscii, List.cons_append, List.cons_append, scanMembers, if_pos rfl, List.append_assoc,
    List.append_assoc, List.singleton_append, scanString_quoteAscii, Option.bind_some]
  dsimp only
  rw [List.cons_append, skipSpace_cons rfl]
  dsimp only
  rw [if_pos rfl, List.append_assoc, skipSpace_render,
    scanValue_render value fuel _ (by omega) (delimited_renderMembers members rest),
    Option.bind_some]
  cases members with
  | nil => rfl
  | cons next members =>
      rw [renderMembers, List.length_cons] at hfuel
      have hmembers := scanMembers_render next.1 next.2 members fuel rest (by omega)
      rw [quoteAscii, List.cons_append, List.cons_append] at hmembers
      rw [renderMembers, List.cons_append]
      dsimp only
      rw [skipSpace_cons rfl]
      dsimp only
      rw [if_neg (by decide), if_pos rfl, quoteAscii, List.cons_append, List.cons_append,
        skipSpace_cons rfl, hmembers, normalizeMembers]
      rfl
termination_by fuel

end

/-- What was written is read, with every string in normal form. -/
theorem loads_dumps (document : Document Empty) :
    loads floats document.dumps = some document.sortKeys.normalize := by
  have hscan := scanValue_render floats document.sortKeys
    (2 * document.sortKeys.render.length + 1) [] (by omega) (fun c hc => by cases hc)
  have hspace := skipSpace_render document.sortKeys []
  rw [List.append_nil] at hscan hspace
  rw [loads, dumps, hspace, hscan]
  rfl

end

end Document

end Serialization
