/-
# Strings in JSON text

A string is a sequence of code points, and surrogates are code points too. In
ASCII text everything else is written as `\u` escapes, a code point above the
basic plane as two of them. The reader makes one code point of such a pair
again, wherever the pair came from, so a string survives the round trip exactly
when it has no pair of its own.
-/

import CultureShift.Serialization.Digits
import Mathlib.Data.List.Chain

namespace Serialization

/-- What a string is made of. -/
abbrev CodePoint := Fin 0x110000

instance neZero_codePoints : NeZero 0x110000 := ⟨by decide⟩

/-- A string of code points. -/
abbrev Text := List CodePoint

instance : LawfulBEq Text := inferInstance

namespace CodePoint

def ofChar (c : Char) : CodePoint :=
  ⟨c.toNat, by
    rcases c.valid with h | h
    · exact Nat.lt_trans h (by decide)
    · exact h.2⟩

def isHighSurrogate (c : CodePoint) : Bool := 0xD800 ≤ c.val && c.val < 0xDC00

def isLowSurrogate (c : CodePoint) : Bool := 0xDC00 ≤ c.val && c.val < 0xE000

/-- The code units of UTF-16. -/
def units (c : CodePoint) : List CodePoint :=
  if c.val < 0x10000 then [c]
  else
    [⟨0xD800 + (c.val - 0x10000) / 0x400, by omega⟩,
      ⟨0xDC00 + (c.val - 0x10000) % 0x400, by omega⟩]

/-- The code point of a surrogate pair. -/
def join (high low : CodePoint) : CodePoint :=
  ⟨0x10000 + (high.val - 0xD800) % 0x400 * 0x400 + (low.val - 0xDC00) % 0x400, by omega⟩

end CodePoint

namespace Text

def ofString (text : String) : Text := text.toList.map CodePoint.ofChar

/-- Surrogate pairs become one code point each, from left to right. -/
def joinSurrogates : Text → Text
  | high :: low :: rest =>
      if high.isHighSurrogate && low.isLowSurrogate then high.join low :: joinSurrogates rest
      else high :: joinSurrogates (low :: rest)
  | [c] => [c]
  | [] => []

/-- What the reader makes of a string that was written. -/
def normalize (text : Text) : Text := joinSurrogates (text.flatMap CodePoint.units)

/-- No high surrogate stands right before a low one. -/
def PairFree (text : Text) : Prop :=
  text.IsChain fun high low => ¬(high.isHighSurrogate = true ∧ low.isLowSurrogate = true)

instance (text : Text) : Decidable text.PairFree :=
  inferInstanceAs (Decidable (List.IsChain _ text))

theorem units_of_lt {c : CodePoint} (h : c.val < 0x10000) : c.units = [c] := if_pos h

/-- A code point above the basic plane is a pair of surrogates. -/
theorem exists_units_of_le {c : CodePoint} (h : 0x10000 ≤ c.val) :
    ∃ high low : CodePoint, c.units = [high, low] ∧ high.isHighSurrogate = true ∧
      low.isLowSurrogate = true ∧ high.isLowSurrogate = false ∧ high.join low = c := by
  refine ⟨_, _, if_neg (by omega), ?_, ?_, ?_, ?_⟩
  · simp only [CodePoint.isHighSurrogate, Bool.and_eq_true, decide_eq_true_iff]
    omega
  · simp only [CodePoint.isLowSurrogate, Bool.and_eq_true, decide_eq_true_iff]
    omega
  · simp only [CodePoint.isLowSurrogate, Bool.and_eq_false_iff, decide_eq_false_iff_not]
    omega
  · apply Fin.ext
    simp only [CodePoint.join]
    omega

theorem joinSurrogates_pair {high low : CodePoint} (hhigh : high.isHighSurrogate = true)
    (hlow : low.isLowSurrogate = true) (rest : Text) :
    joinSurrogates (high :: low :: rest) = high.join low :: joinSurrogates rest := by
  simp [joinSurrogates, hhigh, hlow]

theorem joinSurrogates_cons {c : CodePoint} {rest : Text}
    (h : ∀ next ∈ rest.head?, ¬(c.isHighSurrogate = true ∧ next.isLowSurrogate = true)) :
    joinSurrogates (c :: rest) = c :: joinSurrogates rest := by
  cases rest with
  | nil => rfl
  | cons next rest =>
      rw [joinSurrogates, if_neg]
      rw [Bool.and_eq_true]
      exact h next rfl

/-- Without surrogate pairs, nothing is lost. -/
theorem normalize_of_pairFree {text : Text} (h : text.PairFree) : text.normalize = text := by
  induction text with
  | nil => rfl
  | cons c rest ih =>
      obtain ⟨hnext, hrest⟩ := List.isChain_cons.mp h
      have ih' : joinSurrogates (rest.flatMap CodePoint.units) = rest := ih hrest
      rw [normalize, List.flatMap_cons]
      by_cases hplane : c.val < 0x10000
      · rw [units_of_lt hplane, List.singleton_append, joinSurrogates_cons, ih']
        intro unit hunit
        cases rest with
        | nil => cases hunit
        | cons next rest =>
            have hpair := hnext next rfl
            rw [List.flatMap_cons] at hunit
            by_cases hplane' : next.val < 0x10000
            · rw [units_of_lt hplane'] at hunit
              obtain rfl : next = unit := Option.some.inj hunit
              exact hpair
            · obtain ⟨high, low, hunits, -, -, hnot, -⟩ := exists_units_of_le (not_lt.mp hplane')
              rw [hunits] at hunit
              obtain rfl : high = unit := Option.some.inj hunit
              simp [hnot]
      · obtain ⟨high, low, hunits, hhigh, hlow, -, hjoin⟩ := exists_units_of_le (not_lt.mp hplane)
        rw [hunits, List.cons_append, List.singleton_append, joinSurrogates_pair hhigh hlow, hjoin,
          ih']

end Text

/-! ## Writing and reading -/

def hexValue? (c : Char) : Option Nat := digitValue? c.toLower

/-- The code unit of four hexadecimal digits. -/
def hexUnit? (first second third fourth : Char) : Option CodePoint :=
  match hexValue? first, hexValue? second, hexValue? third, hexValue? fourth with
  | some a, some b, some c, some d =>
      if h : ((a * 16 + b) * 16 + c) * 16 + d < 0x10000 then
        some ⟨((a * 16 + b) * 16 + c) * 16 + d, by omega⟩
      else none
  | _, _, _, _ => none

/-- The escapes of one letter. -/
def shortEscape? (c : CodePoint) : Option Char :=
  if c.val = 0x22 then some '"'
  else if c.val = 0x5C then some '\\'
  else if c.val = 0x0A then some 'n'
  else if c.val = 0x0D then some 'r'
  else if c.val = 0x09 then some 't'
  else if c.val = 0x08 then some 'b'
  else if c.val = 0x0C then some 'f'
  else none

def unescape? (c : Char) : Option CodePoint :=
  if c = '"' then some 0x22
  else if c = '\\' then some 0x5C
  else if c = '/' then some 0x2F
  else if c = 'n' then some 0x0A
  else if c = 'r' then some 0x0D
  else if c = 't' then some 0x09
  else if c = 'b' then some 0x08
  else if c = 'f' then some 0x0C
  else none

def unicodeEscape (unit : CodePoint) : List Char := '\\' :: 'u' :: digits 16 4 unit.val

/-- One code point in ASCII text. -/
def escapeAscii (c : CodePoint) : List Char :=
  match shortEscape? c with
  | some letter => ['\\', letter]
  | none =>
      if 0x20 ≤ c.val ∧ c.val < 0x7F then [Char.ofNat c.val]
      else c.units.flatMap unicodeEscape

/-- Read up to the closing quote. Control characters are refused. -/
def scanUnits : List Char → Option (Text × List Char)
  | [] => none
  | c :: rest =>
      if c = '"' then some ([], rest)
      else if c = '\\' then
        match rest with
        | [] => none
        | letter :: rest =>
            if letter = 'u' then
              match rest with
              | first :: second :: third :: fourth :: rest =>
                  (hexUnit? first second third fourth).bind fun unit =>
                    (scanUnits rest).map fun (units, rest) => (unit :: units, rest)
              | _ => none
            else
              (unescape? letter).bind fun unit =>
                (scanUnits rest).map fun (units, rest) => (unit :: units, rest)
      else if c.toNat < 0x20 then none
      else (scanUnits rest).map fun (units, rest) => (CodePoint.ofChar c :: units, rest)

/-- Read a string behind its opening quote. -/
def scanString (cs : List Char) : Option (Text × List Char) :=
  (scanUnits cs).map fun (units, rest) => (Text.joinSurrogates units, rest)

/-- A quoted string in ASCII text. -/
def quoteAscii (text : Text) : List Char := '"' :: (text.flatMap escapeAscii ++ ['"'])

theorem hexValue?_digitChar {digit : Nat} (h : digit < 16) :
    hexValue? (Nat.digitChar digit) = some digit := by
  interval_cases digit <;> decide

theorem scanUnits_quote (rest : List Char) : scanUnits ('"' :: rest) = some ([], rest) := by
  rw [scanUnits.eq_def]
  rfl

theorem hexUnit?_digits {unit : CodePoint} (h : unit.val < 0x10000) :
    hexUnit? (Nat.digitChar (unit.val / 16 ^ 3)) (Nat.digitChar (unit.val % 16 ^ 3 / 16 ^ 2))
      (Nat.digitChar (unit.val % 16 ^ 3 % 16 ^ 2 / 16 ^ 1))
      (Nat.digitChar (unit.val % 16 ^ 3 % 16 ^ 2 % 16 ^ 1 / 16 ^ 0)) = some unit := by
  have hvalue : (((unit.val / 16 ^ 3) * 16 + unit.val % 16 ^ 3 / 16 ^ 2) * 16 +
      unit.val % 16 ^ 3 % 16 ^ 2 / 16 ^ 1) * 16 +
      unit.val % 16 ^ 3 % 16 ^ 2 % 16 ^ 1 / 16 ^ 0 = unit.val := by
    omega
  unfold hexUnit?
  rw [hexValue?_digitChar (by omega), hexValue?_digitChar (by omega),
    hexValue?_digitChar (by omega), hexValue?_digitChar (by omega)]
  simp only [hvalue]
  exact dif_pos h

theorem scanUnits_unicodeEscape {unit : CodePoint} (h : unit.val < 0x10000) (rest : List Char) :
    scanUnits (unicodeEscape unit ++ rest) =
      (scanUnits rest).map fun (units, rest) => (unit :: units, rest) := by
  simp only [unicodeEscape, digits, List.cons_append, List.nil_append]
  rw [scanUnits.eq_def]
  dsimp only
  rw [if_neg (by decide), if_pos rfl, if_pos rfl, hexUnit?_digits h]
  rfl

theorem scanUnits_letter {letter : Char} {unit : CodePoint} (hletter : letter ≠ 'u')
    (hunit : unescape? letter = some unit) (rest : List Char) :
    scanUnits ('\\' :: letter :: rest) =
      (scanUnits rest).map fun (units, rest) => (unit :: units, rest) := by
  rw [scanUnits.eq_def]
  dsimp only
  rw [if_neg (by decide), if_pos rfl, if_neg hletter, hunit]
  rfl

theorem scanUnits_plain {c : Char} (hquote : c ≠ '"') (hescape : c ≠ '\\')
    (hcontrol : ¬c.toNat < 0x20) (rest : List Char) :
    scanUnits (c :: rest) =
      (scanUnits rest).map fun (units, rest) => (CodePoint.ofChar c :: units, rest) := by
  rw [scanUnits.eq_def]
  dsimp only
  rw [if_neg hquote, if_neg hescape, if_neg hcontrol]

theorem unescape?_of_shortEscape? {c : CodePoint} {letter : Char}
    (h : shortEscape? c = some letter) :
    letter ≠ 'u' ∧ unescape? letter = some c ∧ c.val < 0x10000 := by
  unfold shortEscape? at h
  split_ifs at h with h1 h2 h3 h4 h5 h6 h7
  · cases h
    exact ⟨by decide, congrArg some (Fin.ext h1.symm), by omega⟩
  · cases h
    exact ⟨by decide, congrArg some (Fin.ext h2.symm), by omega⟩
  · cases h
    exact ⟨by decide, congrArg some (Fin.ext h3.symm), by omega⟩
  · cases h
    exact ⟨by decide, congrArg some (Fin.ext h4.symm), by omega⟩
  · cases h
    exact ⟨by decide, congrArg some (Fin.ext h5.symm), by omega⟩
  · cases h
    exact ⟨by decide, congrArg some (Fin.ext h6.symm), by omega⟩
  · cases h
    exact ⟨by decide, congrArg some (Fin.ext h7.symm), by omega⟩

/-- A code unit stands in the basic plane. -/
theorem units_lt {c unit : CodePoint} (h : unit ∈ c.units) : unit.val < 0x10000 := by
  by_cases hplane : c.val < 0x10000
  · rw [Text.units_of_lt hplane] at h
    rwa [List.mem_singleton.mp h]
  · rw [CodePoint.units, if_neg hplane] at h
    rcases List.mem_pair.mp h with rfl | rfl
    · simp only
      omega
    · simp only
      omega

/-- Escapes that are read one after the other. -/
theorem scanUnits_units (units : List CodePoint) (h : ∀ unit ∈ units, unit.val < 0x10000)
    (rest : List Char) :
    scanUnits (units.flatMap unicodeEscape ++ rest) =
      (scanUnits rest).map fun (read, rest) => (units ++ read, rest) := by
  induction units with
  | nil => simp
  | cons unit units ih =>
      rw [List.flatMap_cons, List.append_assoc,
        scanUnits_unicodeEscape (h unit List.mem_cons_self),
        ih fun other hother => h other (List.mem_cons_of_mem _ hother), Option.map_map]
      rfl

theorem toNat_ofNat {n : Nat} (h : n < 0xD800) : (Char.ofNat n).toNat = n := by
  rw [Char.ofNat, dif_pos (Or.inl h)]
  rfl

/-- What one code point is written as is read as its code units. -/
theorem scanUnits_escapeAscii (c : CodePoint) (rest : List Char) :
    scanUnits (escapeAscii c ++ rest) =
      (scanUnits rest).map fun (read, rest) => (c.units ++ read, rest) := by
  unfold escapeAscii
  cases hshort : shortEscape? c with
  | some letter =>
      obtain ⟨hletter, hunit, hplane⟩ := unescape?_of_shortEscape? hshort
      rw [Text.units_of_lt hplane]
      exact scanUnits_letter hletter hunit rest
  | none =>
      dsimp only
      by_cases hplain : 0x20 ≤ c.val ∧ c.val < 0x7F
      · rw [if_pos hplain, Text.units_of_lt (by omega)]
        have hnat : (Char.ofNat c.val).toNat = c.val := toNat_ofNat (by omega)
        have hne : ∀ other : Char, c.val ≠ other.toNat → Char.ofNat c.val ≠ other := by
          intro other hother heq
          exact hother (by rw [← heq, hnat])
        have hchar : CodePoint.ofChar (Char.ofNat c.val) = c := Fin.ext hnat
        have hquote : c.val ≠ 0x22 := by
          intro heq
          simp [shortEscape?, heq] at hshort
        have hescape : c.val ≠ 0x5C := by
          intro heq
          simp [shortEscape?, heq] at hshort
        rw [List.singleton_append, scanUnits_plain (hne '"' hquote) (hne '\\' hescape)
          (by rw [hnat]; omega), hchar]
        rfl
      · rw [if_neg hplain]
        exact scanUnits_units _ (fun unit hunit => units_lt hunit) rest

/-- A quoted string is read as its normal form. -/
theorem scanString_quoteAscii (text : Text) (rest : List Char) :
    scanString (text.flatMap escapeAscii ++ '"' :: rest) = some (text.normalize, rest) := by
  have hunits : scanUnits (text.flatMap escapeAscii ++ '"' :: rest) =
      some (text.flatMap CodePoint.units, rest) := by
    induction text with
    | nil => exact scanUnits_quote rest
    | cons c text ih =>
        rw [List.flatMap_cons, List.append_assoc, scanUnits_escapeAscii, ih]
        rfl
  rw [scanString, hunits]
  rfl

end Serialization
