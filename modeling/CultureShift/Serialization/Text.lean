/-
# Canonical JSON text

Compact JSON with sorted keys, where only quotes, backslashes and control
characters are escaped.
-/

import CultureShift.Serialization.Json
import Mathlib.Data.List.Sort

namespace Serialization

namespace Json

/-- One character of a JSON string. -/
def escape (c : Char) : List Char :=
  if c = '"' then ['\\', '"']
  else if c = '\\' then ['\\', '\\']
  else if c = '\n' then ['\\', 'n']
  else if c = '\r' then ['\\', 'r']
  else if c = '\t' then ['\\', 't']
  else if c.toNat = 0x08 then ['\\', 'b']
  else if c.toNat = 0x0C then ['\\', 'f']
  else if c.toNat < 0x20 then '\\' :: 'u' :: digits 16 4 c.toNat
  else [c]

/-- A quoted string. -/
def quote (text : String) : List Char := '"' :: (text.toList.flatMap escape ++ ['"'])

mutual

/-- Compact text, members in the order in which they stand. -/
def render : Json → List Char
  | null => "null".toList
  | bool true => "true".toList
  | bool false => "false".toList
  | int value => (toString value).toList
  | str value => quote value
  | arr items => '[' :: (renderItems items ++ [']'])
  | obj members => '{' :: (renderMembers members ++ ['}'])

def renderItems : List Json → List Char
  | [] => []
  | [item] => render item
  | item :: items => render item ++ ',' :: renderItems items

def renderMembers : List (String × Json) → List Char
  | [] => []
  | [(name, value)] => quote name ++ ':' :: render value
  | (name, value) :: members => quote name ++ ':' :: (render value ++ ',' :: renderMembers members)

end

mutual

/-- Sort the members of every object by name. -/
def sortKeys : Json → Json
  | arr items => arr (sortItems items)
  | obj members =>
      obj ((sortMembers members).insertionSort fun first second => first.1 ≤ second.1)
  | json => json

def sortItems : List Json → List Json
  | [] => []
  | item :: items => sortKeys item :: sortItems items

def sortMembers : List (String × Json) → List (String × Json)
  | [] => []
  | (name, value) :: members => (name, sortKeys value) :: sortMembers members

end

/-- `json.dumps(…, ensure_ascii=False, separators=(",", ":"), sort_keys=True)` -/
def canonical (json : Json) : String := String.ofList json.sortKeys.render

end Json

end Serialization
