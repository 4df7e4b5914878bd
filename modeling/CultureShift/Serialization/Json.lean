/-
# JSON values and codecs

A codec renders the values of a type as JSON and reads them back. Its law is
that reading what was rendered gives the same value; nothing is said about JSON
that was never rendered.

Objects are read by field name, in any order. Fields that a record does not
know are refused, and a field may have a default.
-/

import CultureShift.Serialization.Calendar

namespace Serialization

/-- A JSON value. Numbers are integers; the members of an object keep the order
in which they are written. -/
inductive Json
  | null
  | bool (value : Bool)
  | int (value : Int)
  | str (value : String)
  | arr (items : List Json)
  | obj (members : List (String × Json))

/-- Types with a JSON rendering that can be read back. -/
class Codec (α : Type) where
  encode : α → Json
  decode : Json → Option α
  decode_encode : ∀ value, decode (encode value) = some value

export Codec (encode decode)

attribute [simp] Codec.decode_encode

namespace Codec

variable {α β : Type}

theorem encode_injective [Codec α] : Function.Injective (encode : α → Json) := by
  intro first second heq
  have hsome : some first = some second := by
    rw [← decode_encode first, ← decode_encode second, heq]
  exact Option.some.inj hsome

instance : Codec String where
  encode := .str
  decode
    | .str value => some value
    | _ => none
  decode_encode _ := rfl

instance : Codec Bool where
  encode := .bool
  decode
    | .bool value => some value
    | _ => none
  decode_encode _ := rfl

instance : Codec Int where
  encode := .int
  decode
    | .int value => some value
    | _ => none
  decode_encode _ := rfl

instance : Codec Nat where
  encode value := .int value
  decode
    | .int (.ofNat value) => some value
    | _ => none
  decode_encode _ := rfl

instance : Codec UUID where
  encode id := .str id.text
  decode
    | .str text => UUID.ofText? text
    | _ => none
  decode_encode := UUID.ofText?_text

/-- Instants are printed with the designator `Z`. -/
instance : Codec Datetime where
  encode t := .str (t.isoformat ['Z'])
  decode
    | .str text => Datetime.ofIsoformat? ['Z'] text
    | _ => none
  decode_encode t := t.ofIsoformat?_isoformat (by decide)

/-- Read every item of a list, or none of it. -/
def decodeItems [Codec α] : List Json → Option (List α)
  | [] => some []
  | item :: items => do
      let value ← decode item
      let values ← decodeItems items
      pure (value :: values)

theorem decodeItems_map_encode [Codec α] (values : List α) :
    decodeItems (values.map encode) = some values := by
  induction values with
  | nil => rfl
  | cons value values ih => simp [decodeItems, ih]

instance [Codec α] : Codec (List α) where
  encode values := .arr (values.map encode)
  decode
    | .arr items => decodeItems items
    | _ => none
  decode_encode := decodeItems_map_encode

/-- A codec for values that are rendered as other values and checked when they
are read. -/
@[reducible]
def refine [Codec β] (render : α → β) (read : β → Option α)
    (h : ∀ value, read (render value) = some value) : Codec α where
  encode value := encode (render value)
  decode json := (decode json).bind read
  decode_encode value := by simp [h]

/-- A field whose only value is `value`. -/
structure Constant {α : Type} (value : α) where

instance [Codec α] [DecidableEq α] (value : α) : Codec (Constant value) :=
  refine (fun _ => value) (fun other => if other = value then some ⟨⟩ else none)
    fun _ => if_pos rfl

end Codec

/-- A type whose rendering is never `null`, so that `null` can stand for an
absent value. -/
class NonNull (α : Type) [Codec α] : Prop where
  encode_ne_null : ∀ value : α, encode value ≠ .null

instance : NonNull UUID := ⟨fun _ => Json.noConfusion⟩

instance : NonNull Datetime := ⟨fun _ => Json.noConfusion⟩

instance {α : Type} [Codec α] [NonNull α] : Codec (Option α) where
  encode
    | some value => encode value
    | none => .null
  decode
    | .null => some none
    | json => (decode json).map some
  decode_encode
    | none => rfl
    | some value => by
        have hne := NonNull.encode_ne_null value
        have hread := Codec.decode_encode value
        cases hjson : encode value with
        | null => exact absurd hjson hne
        | _ => simp only [hread, Option.map_some]

/-! ## Enumerations -/

/-- An enumeration of strings. -/
class StrEnum (ε : Type) where
  values : List ε
  value : ε → String
  find_value : ∀ member, values.find? (fun other => value other == value member) = some member

namespace StrEnum

variable {ε : Type} [StrEnum ε]

/-- The member with the given value. -/
def ofValue? (text : String) : Option ε := values.find? fun other => value other == text

@[simp]
theorem ofValue?_value (member : ε) : ofValue? (value member) = some member :=
  find_value member

theorem value_injective : Function.Injective (value : ε → String) := by
  intro first second heq
  have hsome : some first = some second := by
    rw [← ofValue?_value first, ← ofValue?_value second, heq]
  exact Option.some.inj hsome

instance : Codec ε := Codec.refine value ofValue? ofValue?_value

end StrEnum

/-! ## Records -/

namespace Json

/-- The members of an object that has no other fields than `names`. -/
def record (names : List String) : Json → Option (List (String × Json))
  | obj members => if members.all fun member => member.1 ∈ names then some members else none
  | _ => none

/-- A required field. -/
def field {α : Type} [Codec α] (members : List (String × Json)) (name : String) : Option α :=
  (members.lookup name).bind decode

/-- A field with a default. -/
def fieldOr {α : Type} [Codec α] (members : List (String × Json)) (name : String)
    (default : α) : Option α :=
  match members.lookup name with
  | some json => decode json
  | none => some default

section

variable {α : Type} [Codec α] {key name : String} {json : Json} {members : List (String × Json)}

theorem record_obj {names : List String} (h : members.map Prod.fst = names) :
    record names (.obj members) = some members := by
  have hall : (members.all fun member => decide (member.1 ∈ names)) = true := by
    rw [List.all_eq_true, ← h]
    exact fun member hmember => decide_eq_true (List.mem_map_of_mem hmember)
  exact if_pos hall

@[simp]
theorem field_cons : (field ((key, json) :: members) name : Option α) =
    if name = key then decode json else field members name := by
  by_cases h : name = key
  · simp [field, h]
  · simp [field, List.lookup_cons, h, beq_eq_false_iff_ne.mpr h]

@[simp]
theorem fieldOr_cons {default : α} : fieldOr ((key, json) :: members) name default =
    if name = key then decode json else fieldOr members name default := by
  by_cases h : name = key
  · simp [fieldOr, h]
  · simp [fieldOr, List.lookup_cons, h, beq_eq_false_iff_ne.mpr h]

end

end Json

/-! ## Columns -/

/-- A column of JSON text that only ever holds rendered values of `α`. -/
structure Column (α : Type) [Codec α] where
  json : Json
  rendered : ∃ value : α, encode value = json

namespace Column

variable {α : Type} [Codec α]

def dump (value : α) : Column α := ⟨encode value, value, rfl⟩

/-- Read the column back. -/
def load? (column : Column α) : Option α := decode column.json

@[simp]
theorem load?_dump (value : α) : (dump value).load? = some value :=
  Codec.decode_encode value

theorem exists_dump (column : Column α) : ∃ value, column = dump value := by
  obtain ⟨_, value, rfl⟩ := column
  exact ⟨value, rfl⟩

@[simp]
theorem dump_inj {first second : α} : dump first = dump second ↔ first = second := by
  constructor
  · exact fun h => Codec.encode_injective (congrArg json h)
  · exact congrArg dump

end Column

end Serialization
