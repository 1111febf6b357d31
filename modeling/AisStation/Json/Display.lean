import AisStation.Json.Basic

/-!
The reading form of JSON values.

A setting that is used as text but given as something else is shown in this form: a text stands for
itself, other values are spelled out, and what stands inside a list or an object is quoted.
-/

namespace AisStation.Json

mutual

/-- The characters of a value inside another. -/
def displayChars : Json → List Char
  | null => "None".toList
  | bool b => (if b then "True" else "False").toList
  | int n => (toString n).toList
  | real x => x.text.toList
  | text s => (Text.quote s.toList).toList
  | list items => '[' :: displayItems items ++ [']']
  | object members => '\x7b' :: displayMembers members ++ ['\x7d']

/-- The characters of the items of a list. -/
def displayItems : List Json → List Char
  | [] => []
  | [item] => displayChars item
  | item :: items => displayChars item ++ ", ".toList ++ displayItems items

/-- The characters of the members of an object. -/
def displayMembers : List (String × Json) → List Char
  | [] => []
  | [(name, value)] => (Text.quote name.toList).toList ++ ": ".toList ++ displayChars value
  | (name, value) :: members =>
    (Text.quote name.toList).toList ++ ": ".toList ++ displayChars value ++ ", ".toList ++
      displayMembers members

end

/-- The reading form of a value. -/
def display : Json → String
  | text s => s
  | value => String.ofList (displayChars value)

end AisStation.Json
