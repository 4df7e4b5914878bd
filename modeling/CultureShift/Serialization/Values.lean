/-
# Values of the web application

What the web application holds after it has read JSON: strings of code units,
numbers that need not be integers, and the value of a field that is missing.
Sent on, such a value is JSON for a codec to read.
-/

import CultureShift.Serialization.Json
import CultureShift.Serialization.Strings
import Mathlib.Data.List.Forall2
import Mathlib.Data.List.Sort
import Mathlib.Data.Rat.Defs

namespace Serialization

/-! ## Strings -/

/-- The character of a code point, unless it is a surrogate. -/
def CodePoint.toChar? (c : CodePoint) : Option Char :=
  if c.isHighSurrogate || c.isLowSurrogate then none else some (Char.ofNat c.val)

namespace Text

/-- The string that is sent: pairs of surrogates are one character, and there is
no string with a surrogate of its own. -/
def toString? (text : Text) : Option String :=
  (text.joinSurrogates.mapM CodePoint.toChar?).map String.ofList

theorem isHighSurrogate_of_range {c : CodePoint} (h : c.val < 0xD800 ∨ 0xDFFF < c.val) :
    c.isHighSurrogate = false := by
  simp only [CodePoint.isHighSurrogate, Bool.and_eq_false_iff, decide_eq_false_iff_not]
  omega

theorem isLowSurrogate_of_range {c : CodePoint} (h : c.val < 0xD800 ∨ 0xDFFF < c.val) :
    c.isLowSurrogate = false := by
  simp only [CodePoint.isLowSurrogate, Bool.and_eq_false_iff, decide_eq_false_iff_not]
  omega

/-- A character is no surrogate. -/
theorem ofChar_range (c : Char) :
    (CodePoint.ofChar c).val < 0xD800 ∨ 0xDFFF < (CodePoint.ofChar c).val :=
  c.valid.imp_right And.left

theorem toChar?_ofChar (c : Char) : (CodePoint.ofChar c).toChar? = some c := by
  rw [CodePoint.toChar?, isHighSurrogate_of_range (ofChar_range c),
    isLowSurrogate_of_range (ofChar_range c)]
  exact congrArg some (Char.ofNat_toNat c)

theorem joinSurrogates_ofChars (cs : List Char) :
    joinSurrogates (cs.map CodePoint.ofChar) = cs.map CodePoint.ofChar := by
  induction cs with
  | nil => rfl
  | cons c cs ih =>
      rw [List.map_cons, joinSurrogates_cons, ih]
      intro next _ hpair
      rw [isHighSurrogate_of_range (ofChar_range c)] at hpair
      cases hpair.1

theorem toChar?_ofChars (cs : List Char) :
    (cs.map CodePoint.ofChar).mapM CodePoint.toChar? = some cs := by
  induction cs with
  | nil => rfl
  | cons c cs ih => simp [toChar?_ofChar, ih]

@[simp]
theorem toString?_ofString (text : String) : (ofString text).toString? = some text := by
  rw [toString?, ofString, joinSurrogates_ofChars, toChar?_ofChars]
  exact congrArg some String.ofList_toList

end Text

/-! ## Values -/

inductive Number
  | finite (value : ℚ)
  | infinite (negative : Bool)
deriving DecidableEq

/-- `Number.isInteger`, with the integer. -/
def Number.integer? : Number → Option Int
  | .finite value => if value.den = 1 then some value.num else none
  | .infinite _ => none

/-- Every finite number is smaller. -/
def Number.limit : Nat := 2 ^ 1024

/-- The number that a subtraction of integers gives: the nearest one with 53 bits, even in
the middle of two. `none` stands for an infinite one. -/
def Number.round (value : Int) : Option Int :=
  let magnitude := value.natAbs
  let unit := 2 ^ (magnitude.log2 - 52)
  let rest := magnitude % unit
  let units :=
    if unit < 2 * rest ∨ (2 * rest = unit ∧ magnitude / unit % 2 = 1) then magnitude / unit + 1
    else magnitude / unit
  if units * unit < Number.limit then some (value.sign * (units * unit : Nat)) else none

theorem Number.round_of_lt {value : Int} (h : value.natAbs < 2 ^ 53) :
    Number.round value = some value := by
  have hlog : value.natAbs.log2 - 52 = 0 := by
    by_cases hzero : value.natAbs = 0
    · rw [hzero]
      rfl
    · have := (Nat.log2_lt hzero).mpr h
      omega
  have hlimit : 2 ^ 53 ≤ Number.limit := by decide +kernel
  have hfinite : value.natAbs < Number.limit := lt_of_lt_of_le h hlimit
  simp only [Number.round, hlog, pow_zero, Nat.mod_one, Nat.div_one, Nat.mul_one]
  have heven : ¬(1 < 2 * 0 ∨ 2 * 0 = 1 ∧ value.natAbs % 2 = 1) := by omega
  rw [if_neg heven, if_pos hfinite, Int.sign_mul_natAbs]

/-- A value. The members of an object have different names. -/
inductive Value
  | undefined
  | null
  | bool (value : Bool)
  | number (value : Number)
  | str (value : Text)
  | arr (items : List Value)
  | obj (members : List (Text × Value))

namespace Value

def ofString (text : String) : Value := str (Text.ofString text)

def ofInt (value : Int) : Value := number (.finite value)

/-- An object with its fields in the given order. -/
def record (fields : List (String × Value)) : Value :=
  obj (fields.map fun field => (Text.ofString field.1, field.2))

def lookup (members : List (Text × Value)) (name : Text) : Value :=
  (members.lookup name).getD undefined

/-- The field of an object. -/
def get : Value → String → Value
  | obj members, name => lookup members (Text.ofString name)
  | _, _ => undefined

/-- The items of an array. -/
def items : Value → List Value
  | arr items => items
  | _ => []

/-- The field at the end of a path. -/
def path (value : Value) (names : List String) : Value := names.foldl get value

/-! ## What is sent -/

mutual

/-- The value as JSON, where it has strings without stray surrogates and integers only. -/
def toJson? : Value → Option Json
  | undefined => none
  | null => some .null
  | bool value => some (.bool value)
  | number value => value.integer?.map .int
  | str value => value.toString?.map .str
  | arr items => (toJsonItems? items).map .arr
  | obj members => (toJsonMembers? members).map .obj

def toJsonItems? : List Value → Option (List Json)
  | [] => some []
  | item :: items => do
      let json ← toJson? item
      let jsons ← toJsonItems? items
      pure (json :: jsons)

def toJsonMembers? : List (Text × Value) → Option (List (String × Json))
  | [] => some []
  | (name, value) :: members => do
      let text ← name.toString?
      let json ← toJson? value
      let jsons ← toJsonMembers? members
      pure ((text, json) :: jsons)

end

/-- What a codec reads of a value that is sent. -/
def received (α : Type) [Codec α] (value : Value) : Option α := value.toJson?.bind decode

/-- The value passes the checks of a type. -/
def Satisfies (α : Type) [Codec α] (value : Value) : Prop := (received α value).isSome = true

variable {α : Type} [Codec α]

@[simp]
theorem toJson?_ofString (text : String) : (ofString text).toJson? = some (.str text) := by
  rw [ofString, toJson?, Text.toString?_ofString]
  rfl

@[simp]
theorem toJson?_ofInt (value : Int) : (ofInt value).toJson? = some (.int value) := rfl

@[simp]
theorem toJsonItems?_nil : toJsonItems? [] = some [] := rfl

@[simp]
theorem toJsonItems?_cons (item : Value) (items : List Value) :
    toJsonItems? (item :: items) =
      item.toJson?.bind fun json => (toJsonItems? items).bind fun jsons => some (json :: jsons) :=
  rfl

/-- The fields of a record, as JSON. -/
def fields? : List (String × Value) → Option (List (String × Json))
  | [] => some []
  | (name, value) :: fields =>
      value.toJson?.bind fun json => (fields? fields).bind fun jsons => some ((name, json) :: jsons)

theorem toJson?_record (fields : List (String × Value)) :
    (record fields).toJson? = (fields? fields).map .obj := by
  have hmembers : toJsonMembers? (fields.map fun field => (Text.ofString field.1, field.2)) =
      fields? fields := by
    induction fields with
    | nil => rfl
    | cons field fields ih =>
        rw [List.map_cons, toJsonMembers?, ih, Text.toString?_ofString]
        rfl
  rw [record, toJson?, hmembers]

/-- An array is received item by item. -/
theorem received_arr (items : List Value) :
    received (List α) (.arr items) = items.mapM (received α) := by
  induction items with
  | nil => rfl
  | cons item items ih =>
      rw [List.mapM_cons, ← ih]
      simp only [received, toJson?, toJsonItems?_cons]
      cases item.toJson? with
      | none => rfl
      | some json =>
          cases toJsonItems? items with
          | none =>
              simp only [Option.bind_some, Option.bind_none, Option.map_none]
              cases (decode json : Option α) <;> rfl
          | some jsons => rfl

theorem received_arr_eq_some {items : List Value} {values : List α} :
    received (List α) (.arr items) = some values ↔
      List.Forall₂ (fun item value => received α item = some value) items values := by
  rw [received_arr]
  induction items generalizing values with
  | nil => simp [eq_comm]
  | cons item items ih =>
      cases values with
      | nil => simp [Option.bind_eq_some_iff]
      | cons value values =>
          simp only [List.mapM_cons, Option.bind_eq_bind, Option.bind_eq_some_iff,
            Option.pure_def, Option.some.injEq, List.cons.injEq, List.forall₂_cons, ← ih]
          constructor
          · rintro ⟨_, hfirst, _, hrest, rfl, rfl⟩
            exact ⟨hfirst, hrest⟩
          · rintro ⟨hfirst, hrest⟩
            exact ⟨_, hfirst, _, hrest, rfl, rfl⟩

theorem satisfies_of_received_arr {items : List Value} {values : List α}
    (h : received (List α) (.arr items) = some values) : ∀ item ∈ items, Satisfies α item := by
  rw [received_arr_eq_some] at h
  induction h with
  | nil => exact List.forall_mem_nil _
  | cons hfirst hrest ih =>
      refine List.forall_mem_cons.mpr ⟨?_, ih⟩
      rw [Satisfies, hfirst]
      rfl

/-- When all items pass their checks, the array is received with as many values. -/
theorem exists_received_arr {items : List Value} (h : ∀ item ∈ items, Satisfies α item) :
    ∃ values : List α, received (List α) (.arr items) = some values ∧
      values.length = items.length := by
  induction items with
  | nil => exact ⟨[], rfl, rfl⟩
  | cons item items ih =>
      obtain ⟨value, hvalue⟩ := Option.isSome_iff_exists.mp (h item List.mem_cons_self)
      obtain ⟨values, hvalues, hlength⟩ :=
        ih fun other hother => h other (List.mem_cons_of_mem _ hother)
      rw [received_arr_eq_some] at hvalues
      refine ⟨value :: values, received_arr_eq_some.mpr (.cons hvalue hvalues), ?_⟩
      rw [List.length_cons, List.length_cons, hlength]

theorem received_of_toJson? {value : Value} (result : α)
    (h : value.toJson? = some (encode result)) :
    received α value = some result := by
  rw [received, h, Option.bind_some, Codec.decode_encode]

theorem satisfies_of_toJson? {value : Value} (result : α)
    (h : value.toJson? = some (encode result)) : Satisfies α value := by
  rw [Satisfies, received_of_toJson? result h]
  rfl

end Value

end Serialization
