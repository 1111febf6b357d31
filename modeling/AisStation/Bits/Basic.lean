/-!
Bit strings, most significant bit first.

A bit string and a width and a value say the same thing: `Bits.ofInt` takes the low bits of an
integer of any sign and size, `Bits.toNat` reads them back, and `signed` is the reading in two's
complement.
-/

namespace AisStation

-- Powers are those of core, also where Mathlib offers others.
attribute [local instance (high)] instPowNat

/-- A bit string, most significant bit first. -/
abbrev Bits := List Bool

/-- The low `width` bits of a natural number. -/
def Bits.ofNat : Nat → Nat → Bits
  | 0, _ => []
  | width + 1, n => n.testBit width :: Bits.ofNat width n

/-- The low `width` bits of an integer, in two's complement if it is negative. -/
def Bits.ofInt (width : Nat) (value : Int) : Bits :=
  Bits.ofNat width (value % 2 ^ width).toNat

/-- The unsigned number with the given bits. -/
def Bits.toNat (bits : Bits) : Nat :=
  bits.foldl (fun n b => 2 * n + b.toNat) 0

/-- The number below `2 ^ width` whose low bits `value` has. -/
def unsigned (width : Nat) (value : Int) : Int :=
  value % 2 ^ width

/-- The number in two's complement whose low `width` bits `value` has. -/
def signed (width : Nat) (value : Int) : Int :=
  let low := unsigned width value
  if 2 ^ (width - 1) ≤ low then low - 2 ^ width else low

/-- `n` zero bits. -/
def Bits.zeros (n : Nat) : Bits :=
  List.replicate n false

/-- The least number of bits that completes `length` to a multiple of `unit`. -/
def fillBits (unit : Nat) (length : Int) : Nat :=
  (-length % unit).toNat

/-- The bits cut into pieces of `unit` bits, but of at least one, the last completed by zeros. -/
def Bits.chunks (unit : Nat) : Bits → List Bits
  | [] => []
  | b :: bs =>
    let piece := b :: bs.take (unit - 1)
    (piece ++ Bits.zeros (unit - piece.length)) :: Bits.chunks unit (bs.drop (unit - 1))
termination_by bits => bits.length
decreasing_by simp only [List.length_drop, List.length_cons]; omega

end AisStation
