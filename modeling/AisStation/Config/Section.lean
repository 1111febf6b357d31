import AisStation.Json.Display
import AisStation.Text.Integer

/-!
Sections of a configuration.

A section is a collection of named settings. It is given as an object, as a list of pairs, or not at
all, and its settings are read leniently: any value counts as a flag by whether it is empty or zero,
any value has a reading form as text, and texts may hold integers.
-/

namespace AisStation.Config

/-- The settings of a section under their names. -/
abbrev Section := List (String × Json)

/-- Why a value is no section. -/
inductive ShapeError
  /-- The value has no elements. -/
  | noElements (typeName : String)
  /-- An element of the list has no parts. -/
  | noParts (index : Nat)
  /-- An element of the list does not have two parts. -/
  | partCount (index count : Nat)
  /-- The first part of an element cannot be a name. -/
  | noName (typeName : String)
deriving DecidableEq, Repr

/-- The wording of a shape error. -/
def ShapeError.message : ShapeError → String
  | noElements typeName => s!"'{typeName}' object is not iterable"
  | noParts index => s!"cannot convert dictionary update sequence element #{index} to a sequence"
  | partCount index count =>
    s!"dictionary update sequence element #{index} has length {count}; 2 is required"
  | noName typeName => s!"unhashable type: '{typeName}'"

namespace Section

/-- The parts of a value: items, names of members, or characters. -/
def parts? : Json → Option (List Json)
  | .list items => some items
  | .object members => some (members.map fun (name, _) => .text name)
  | .text s => some (s.toList.map fun c => .text (String.singleton c))
  | _ => none

/-- Adds the pairs of a list, the first of which has the given index, to a section. -/
def addPairs (s : Section) (index : Nat) : List Json → Except ShapeError Section
  | [] => .ok s
  | element :: elements =>
    match parts? element with
    | none => .error (.noParts index)
    | some [.text name, value] => addPairs (Json.setMember name value s) (index + 1) elements
    | some [name, _] =>
      if name.isContainer then .error (.noName name.typeName)
      else addPairs s (index + 1) elements
    | some parts => .error (.partCount index parts.length)

/-- The section that a value describes. -/
def ofJson : Json → Except ShapeError Section
  | .null => .ok []
  | .object members => .ok members
  | value =>
    match parts? value with
    | none => .error (.noElements value.typeName)
    | some elements => addPairs [] 0 elements

/-- A setting read as a flag. -/
def flag (s : Section) (name : String) (default : Bool) : Bool :=
  match s.lookup name with
  | some value => value.isTruthy
  | none => default

/-- A setting read as a text. -/
def text (s : Section) (name : String) (default : String) : String :=
  match s.lookup name with
  | some value => value.display
  | none => default

end Section

/-- Why a setting is no integer. -/
inductive IntegerError
  /-- The text holds no integer. -/
  | noNumeral
  /-- The value is neither a number nor a text. -/
  | noNumber
  /-- The number has no integer part. -/
  | unrepresentable (why : NumberError)
deriving DecidableEq, Repr

/-- A value read as an integer: numbers lose their fraction. -/
def toInteger : Json → Except IntegerError Int
  | .bool b => .ok b.toInt
  | .int n => .ok n
  | .real x => x.truncate.mapError .unrepresentable
  | .text s => match Text.integer? s with
    | some n => .ok n
    | none => .error .noNumeral
  | _ => .error .noNumber

/-- A setting read as an integer. -/
def Section.integer (s : Section) (name : String) (default : Int) : Except IntegerError Int :=
  match s.lookup name with
  | some value => toInteger value
  | none => .ok default

end AisStation.Config
