import AisStation.Number.Shortest
import AisStation.Text.Quoted

/-!
JSON values.

Configuration is read as such values and records are printed as them. Integers are of any size and
kept apart from numbers in double precision; the members of an object keep their order.
-/

namespace AisStation

/-- A JSON value. -/
inductive Json
  | null
  | bool (b : Bool)
  | int (n : Int)
  | real (x : Binary64)
  | text (s : String)
  | list (items : List Json)
  | object (members : List (String × Json))
deriving Inhabited, Repr

namespace Json

/-- The member of the given name. -/
def member? (members : List (String × Json)) (name : String) : Option Json :=
  members.lookup name

/-- Sets a member: in its place if it exists, at the end otherwise. -/
def setMember (name : String) (value : Json) : List (String × Json) → List (String × Json)
  | [] => [(name, value)]
  | (name', value') :: members =>
    if name' = name then (name', value) :: members
    else (name', value') :: setMember name value members

/-- Is the value an object or a list? -/
def isContainer : Json → Bool
  | list _ | object _ => true
  | _ => false

/-- Is the value an object? -/
def isObject : Json → Bool
  | object _ => true
  | _ => false

/-- Does the value count as true? Everything does but null, false, zero and what is empty. -/
def isTruthy : Json → Bool
  | null => false
  | bool b => b
  | int n => n != 0
  | real x => !x.isZero
  | text s => !s.isEmpty
  | list items => !items.isEmpty
  | object members => !members.isEmpty

/-- The name of the kind of a value. -/
def typeName : Json → String
  | null => "NoneType"
  | bool _ => "bool"
  | int _ => "int"
  | real _ => "float"
  | text _ => "str"
  | list _ => "list"
  | object _ => "dict"

end Json

end AisStation
