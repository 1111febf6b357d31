import AisStation.Text.Blank
import AisStation.Text.Digit

/-!
Integers written in text.

The form is an optional sign and decimal digits, in which single underscores may separate digits,
with blanks around it. Digits of every script count. Which blanks count depends on the text: in
ASCII text only those of ASCII, otherwise also every blank beyond ASCII.

Numbers of more than 4300 digits are neither read nor written.
-/

namespace AisStation.Text

-- Powers are those of core, also where Mathlib offers others.
attribute [local instance (high)] instPowNat

/-- The greatest number of digits that is read or written. -/
def maxIntegerDigits : Nat := 4300

/-- Writes digits and blanks beyond ASCII in ASCII; what is neither becomes a question mark. -/
def asciiNumeral (c : Char) : Char :=
  if c.toNat < 127 then c
  else if isBlank c then ' '
  else match decimalDigit? c with
    | some d => Char.ofNat (48 + d)
    | none => '?'

/-- The digits of a numeral in which single underscores may stand between digits. The flag says
that the next character has to be a digit. -/
def numeralDigits : Bool → List Char → Option (List Nat)
  | needed, [] => if needed then none else some []
  | needed, c :: cs =>
    if '0' ≤ c ∧ c ≤ '9' then (numeralDigits false cs).map ((c.toNat - 48) :: ·)
    else if c = '_' ∧ !needed then numeralDigits true cs
    else none

/-- The number with the given decimal digits, most significant first. -/
def ofDigits (digits : List Nat) : Nat :=
  digits.foldl (10 * · + ·) 0

/-- An unsigned numeral of at most `maxIntegerDigits` digits. -/
def numeral? (cs : List Char) : Option Nat := do
  let digits ← numeralDigits true cs
  if digits.length ≤ maxIntegerDigits then some (ofDigits digits) else none

/-- A numeral with an optional sign. -/
def signedNumeral? : List Char → Option Int
  | '-' :: cs => (numeral? cs).map fun n => -(n : Int)
  | '+' :: cs => (numeral? cs).map Int.ofNat
  | cs => (numeral? cs).map Int.ofNat

/-- Reads an integer, blanks around it allowed. -/
def integer? (s : String) : Option Int :=
  let cs := s.toList
  let cs := if isAscii cs then cs else cs.map asciiNumeral
  signedNumeral? (dropTailWhile isAsciiBlank (cs.dropWhile isAsciiBlank))

/-- Why an integer is not written: it has too many digits. -/
inductive Unwritable
  | tooManyDigits
deriving DecidableEq, Repr

/-- The least number with too many digits. Irreducible, as nothing but its size is ever needed. -/
@[irreducible] def overlong : Nat := 10 ^ maxIntegerDigits

/-- An integer that has few enough digits to be written. -/
def IsWritable (n : Int) : Prop :=
  n.natAbs < overlong

instance (n : Int) : Decidable (IsWritable n) :=
  inferInstanceAs (Decidable (_ < _))

/-- Writes an integer in decimal digits. -/
def decimal (n : Int) : Except Unwritable String :=
  if IsWritable n then .ok (toString n) else .error .tooManyDigits

end AisStation.Text
