import AisStation.Bits.Basic
import AisStation.Bits.Error

/-!
Armor: printable characters that carry six bits each.

Values 0 to 39 are the characters from `0` to `W`, values 40 to 63 those from the grave accent to
`w`. Bits are armored in groups of six, the last one completed by zeros, the fill bits; the declared
length says where the message ends.
-/

namespace AisStation

/-- Armored bits with their declared length. -/
structure Payload where
  text : String
  bitLength : Int
deriving DecidableEq, Repr

/-- The number of bits that complete the last armor character. -/
def Payload.fillBits (p : Payload) : Nat :=
  AisStation.fillBits 6 p.bitLength

namespace Armor

/-- The armor character of a value below 64. -/
def char (value : Nat) : Char :=
  Char.ofNat (if value < 40 then value + 48 else value + 56)

/-- The value of an armor character. -/
def value? (c : Char) : Option Nat :=
  let n := c.toNat
  if 48 ≤ n ∧ n < 88 then some (n - 48)
  else if 96 ≤ n ∧ n < 120 then some (n - 56)
  else none

/-- Bits in armor, with their length. -/
def encode (bits : Bits) : Payload where
  text := String.ofList ((bits.chunks 6).map fun piece => char piece.toNat)
  bitLength := bits.length

/-- The bits of armor characters, the first of which has the given index. -/
def decodeFrom (index : Nat) : List Char → Except Malformed Bits
  | [] => .ok []
  | c :: cs => match value? c with
    | none => .error (.badArmor c index)
    | some value => (decodeFrom (index + 1) cs).map (Bits.ofNat 6 value ++ ·)

/-- The bits of an armor text. A character beyond the first 256 is reported before any other. -/
def decode (text : String) : Except Malformed Bits :=
  match text.toList.findIdx? (255 < ·.toNat) with
  | some index => .error (.foreignArmor index)
  | none => decodeFrom 0 text.toList

end Armor

end AisStation
