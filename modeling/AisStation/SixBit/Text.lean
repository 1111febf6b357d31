import AisStation.Bits.Basic
import AisStation.Bits.Error
import AisStation.Text.Blank

/-!
The six-bit alphabet of text fields.

Codes 0 to 31 are the characters from `@` to `_` and codes 32 to 63 those from the space to `?`, so
a code is the low six bits of its character. Lower case is folded on writing. The character `@`
fills a text up to the width of its field.
-/

namespace AisStation.SixBit

/-- The character of the low six bits of `n`. -/
def char (n : Nat) : Char :=
  let code := n % 64
  Char.ofNat (if code < 32 then code + 64 else code)

/-- The upper-case form of a letter whose upper-case form is ASCII: the letters a to z, the dotless
i and the long s. -/
def upper (c : Char) : Char :=
  if c = '\u0131' then 'I' else if c = '\u017F' then 'S' else c.toUpper

/-- The code of a character, case ignored. -/
def code? (c : Char) : Option Nat :=
  let n := (upper c).toNat
  if 32 ≤ n ∧ n < 96 then some (n % 64) else none

/-- The code of a text that is a single character. -/
def codeOf : List Char → Except Malformed Nat
  | [c] => match code? c with
    | some code => .ok code
    | none => .error (.notSixBit [c])
  | text => .error (.notSixBit text)

/-- Does every character have a code? -/
def isText (s : String) : Bool :=
  s.toList.all fun c => (code? c).isSome

/-- The character that fills a text field. -/
def pad : Char := '@'

/-- Drops the filling at the end. -/
def stripPadding (cs : List Char) : List Char :=
  Text.dropTailWhile (· = pad) cs

/-- The text cut or filled to `n` characters. -/
def fit (n : Nat) (cs : List Char) : List Char :=
  cs.take n ++ List.replicate (n - cs.length) pad

/-- The bits of a text, six a character. -/
def encode : List Char → Except Malformed Bits
  | [] => .ok []
  | c :: cs => do
    let code ← codeOf [c]
    let rest ← encode cs
    return Bits.ofNat 6 code ++ rest

/-- What of a text is meant for display: the part before any filling, without blanks at its end. -/
def display (cs : List Char) : List Char :=
  Text.trimRight (cs.takeWhile (· ≠ pad))

end AisStation.SixBit
