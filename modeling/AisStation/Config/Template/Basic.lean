import AisStation.Json.Basic

/-!
Texts with references.

A text of a configuration may refer to other values: a reference stands between a dollar sign with
an opening brace and a closing brace. It names a place by a path of keys, or it is a call: the name
of a function, a colon, and arguments. References may stand inside of references.
-/

namespace AisStation.Config

mutual

/-- A piece of a text. -/
inductive Piece
  | plain (cs : List Char)
  | reference (r : Reference)

/-- A reference. -/
inductive Reference
  /-- The value at the place that the pieces of a path name. -/
  | place (path : List Piece)
  /-- The value of a function. -/
  | call (function : List Piece) (arguments : List Expression)

/-- An argument of a call. -/
inductive Expression
  /-- A number, a flag or nothing. -/
  | constant (value : Json)
  /-- A bare text. -/
  | text (pieces : List Piece)
  /-- A text in quotation marks. -/
  | quoted (pieces : List Piece)
  | list (items : List Expression)
  | object (members : List (String × Expression))

end

/-- A text in pieces. -/
abbrev Template := List Piece

namespace Template

/-- Do the characters start a reference? -/
def isOpening : List Char → Bool
  | '$' :: '\x7b' :: _ => true
  | _ => false

/-- Is there the start of a reference anywhere in the text? -/
def holdsOpening : List Char → Bool
  | [] => false
  | c :: cs => isOpening (c :: cs) || holdsOpening cs

/-- Is the value a text that is read as a template? -/
def isTemplate : Json → Bool
  | .text s => holdsOpening s.toList
  | _ => false

end Template

end AisStation.Config
