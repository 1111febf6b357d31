import AisStation.Text.Integer
import AisStation.Text.Quoted

/-!
What can be wrong with bits.

`Malformed` lists the ways in which a payload or a text fails to be what it should be: these are
faults of data. `AccessError` adds the faults of a caller, who may ask for a field of an impossible
width.

The wording of a fault repeats the numbers that the caller gave. One that is too long to be written
leaves no wording, and another error is raised in place of the fault.
-/

namespace AisStation

/-- Why a payload or a text is not what it should be. -/
inductive Malformed
  /-- More bits are declared than there are, or less than none. -/
  | overdeclared (declared : Int) (available : Nat)
  /-- A character beyond the first 256 in armor text. -/
  | foreignArmor (index : Nat)
  /-- A character that is no armor. -/
  | badArmor (c : Char) (index : Nat)
  /-- A field is wider than what remains. -/
  | exhausted (width remaining : Nat)
  /-- A look outside the declared bits. -/
  | peekOutside (width offset : Int) (length : Nat)
  /-- A text that is no character of the six-bit alphabet. -/
  | notSixBit (text : List Char)
  /-- A static data report of a part that does not exist. -/
  | undefinedPart (part : Nat)
  /-- A slot message without room for the fields that its flags announce. -/
  | tooShort (messageType : Int)
deriving DecidableEq, Repr

namespace Malformed

/-- The wording of the fault. -/
def message : Malformed → Except Text.Unwritable String
  | overdeclared declared available => do
    let declared ← Text.decimal declared
    return s!"Declared length {declared} exceeds the {available} bits available"
  | foreignArmor index => return s!"Invalid armor character at {index}"
  | badArmor c index => return s!"Invalid armor character {Text.quote [c]} at {index}"
  | exhausted width remaining => do
    let width ← Text.decimal width
    return s!"Buffer exhausted: cannot read {width} bits, only {remaining} remaining"
  | peekOutside width offset length => do
    let width ← Text.decimal width
    let offset ← Text.decimal offset
    return s!"Cannot peek {width} bits at {offset}: buffer holds {length}"
  | notSixBit text => return s!"Character {Text.quote text} has no six-bit encoding"
  | undefinedPart part => return s!"Message 24 part number {part} is not defined"
  | tooShort messageType => return s!"Message {messageType} too short for its addressing fields"

/-- The message type that the fault is about, where it is about one. -/
def messageType? : Malformed → Option Int
  | undefinedPart _ => some 24
  | tooShort messageType => some messageType
  | _ => none

end Malformed

/-- Why a field cannot be accessed. -/
inductive AccessError
  /-- The width has to be positive. -/
  | emptyWidth
  /-- There is no mask of a negative width. -/
  | negativeWidth
  | malformed (why : Malformed)
  /-- The bits are not what they should be, and the number to be told is too long. -/
  | unwritable
deriving DecidableEq, Repr

namespace AccessError

/-- The error that is raised for a fault. -/
def raised (why : Malformed) : AccessError :=
  match why.message with
  | .ok _ => malformed why
  | .error _ => unwritable

/-- The wording of the error. -/
def message : AccessError → Except Text.Unwritable String
  | emptyWidth => return "bits must be > 0"
  | negativeWidth => return "negative shift count"
  | malformed why => why.message
  | unwritable => throw .tooManyDigits

end AccessError

end AisStation
