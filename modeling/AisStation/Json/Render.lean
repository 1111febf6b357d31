import AisStation.Json.Basic

/-!
The text of JSON values.

Items are separated by a comma and a space, names from values by a colon and a space. Characters
beyond ASCII are escaped by the UTF-16 units of their code points.
-/

namespace AisStation.Json

/-- The escape of a 16-bit unit. -/
def escapeUnit (n : Nat) : List Char :=
  '\\' :: 'u' :: Text.hexDigits 4 n

/-- One character of a JSON text. -/
def escapeChar (c : Char) : List Char :=
  if c = '\x22' ∨ c = '\\' then ['\\', c]
  else if c = '\n' then ['\\', 'n']
  else if c = '\r' then ['\\', 'r']
  else if c = '\t' then ['\\', 't']
  else if c = '\x08' then ['\\', 'b']
  else if c = '\x0c' then ['\\', 'f']
  else if 32 ≤ c.toNat ∧ c.toNat < 127 then [c]
  else if c.toNat < 0x10000 then escapeUnit c.toNat
  else
    let n := c.toNat - 0x10000
    escapeUnit (0xD800 + n / 0x400) ++ escapeUnit (0xDC00 + n % 0x400)

/-- A text between quotation marks. -/
def renderText (s : String) : List Char :=
  '\x22' :: s.toList.flatMap escapeChar ++ ['\x22']

mutual

/-- The characters of a value. -/
def renderChars : Json → List Char
  | null => "null".toList
  | bool b => (if b then "true" else "false").toList
  | int n => (toString n).toList
  | real x => x.text.toList
  | text s => renderText s
  | list items => '[' :: renderItems items ++ [']']
  | object members => '\x7b' :: renderMembers members ++ ['\x7d']

/-- The characters of the items of a list. -/
def renderItems : List Json → List Char
  | [] => []
  | [item] => renderChars item
  | item :: items => renderChars item ++ ", ".toList ++ renderItems items

/-- The characters of the members of an object. -/
def renderMembers : List (String × Json) → List Char
  | [] => []
  | [(name, value)] => renderText name ++ ": ".toList ++ renderChars value
  | (name, value) :: members =>
    renderText name ++ ": ".toList ++ renderChars value ++ ", ".toList ++ renderMembers members

end

/-- The text of a value. -/
def render (value : Json) : String :=
  String.ofList (renderChars value)

end AisStation.Json
