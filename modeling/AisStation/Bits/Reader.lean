import AisStation.Bits.Blob
import AisStation.SixBit.Armor
import AisStation.SixBit.Text

/-!
A cursor over bits.

A reader holds all bits at hand, the declared length and the position of its cursor, which stays
between zero and the declared length. A read either moves the cursor past the bits it took or fails
and leaves the reader as it was; only a text is read character by character, so a text that is cut
short moves the cursor past its whole characters.
-/

namespace AisStation

/-- Bits with a declared length and a cursor. -/
structure Reader where
  /-- All the bits at hand, those after the declared length included. -/
  bits : Bits
  /-- The declared length. -/
  length : Nat
  position : Nat
  length_le : length ≤ bits.length
  position_le : position ≤ length

/-- A computation that reads bits of a message. -/
abbrev Read := EStateM Malformed Reader

/-- A computation that a caller asks for with widths of any sign. -/
abbrev Access := EStateM AccessError Reader

namespace Reader

/-- A reader at the start of `bits`; by default all of them are declared. -/
def ofBits (bits : Bits) (declared : Option Int) : Except Malformed Reader :=
  let length := declared.getD bits.length
  if h : 0 ≤ length ∧ length ≤ bits.length then
    .ok ⟨bits, length.toNat, 0, by omega, Nat.zero_le _⟩
  else .error (.overdeclared length bits.length)

/-- A reader at the start of an armor text. -/
def ofArmor (text : String) (declared : Option Int) : Except Malformed Reader := do
  ofBits (← Armor.decode text) declared

/-- The number of declared bits after the cursor. -/
def remaining (r : Reader) : Nat :=
  r.length - r.position

/-- The declared bits after the cursor. -/
def rest (r : Reader) : Bits :=
  (r.bits.take r.length).drop r.position

/-- The value of the bits from `offset` on. The window has to end within the declared length; a
window of negative width ends before the end of the bits at hand, counted from there. -/
def window (r : Reader) (offset width : Int) : Except Malformed Nat :=
  if offset < 0 ∨ (r.length : Int) < offset + width then
    .error (.peekOutside width offset r.length)
  else
    let stop := offset + width
    let stop := if stop < 0 then stop + r.bits.length else stop
    .ok (Bits.toNat ((r.bits.take stop.toNat).drop offset.toNat))

/-- A look of a caller at the bits from `offset` on, the cursor left where it is. -/
def peekUint (r : Reader) (offset width : Int) : Except AccessError Nat :=
  (r.window offset width).mapError .raised

end Reader

namespace Read

/-- The next `width` bits. -/
def take (width : Nat) : Read Bits := fun r =>
  if h : r.position + width ≤ r.length then
    .ok ((r.bits.drop r.position).take width)
      { r with position := r.position + width, position_le := h }
  else .error (.exhausted width r.remaining) r

/-- The declared length of the message being read. -/
def bitLength : Read Nat := fun r => .ok r.length r

/-- The number of bits still to be read. -/
def bitsRemaining : Read Nat := fun r => .ok r.remaining r

/-- A look at other bits of the message. -/
def peek (offset width : Nat) : Read Nat := fun r =>
  match r.window offset width with
  | .ok n => .ok n r
  | .error why => .error why r

/-- An unsigned number of `width` bits. -/
def uint (width : Nat) : Read Int := do
  return (Bits.toNat (← take width) : Int)

/-- A number of `width` bits in two's complement. -/
def sint (width : Nat) : Read Int := do
  return signed width (Bits.toNat (← take width))

/-- A single bit. -/
def flag : Read Bool := do
  return Bits.toNat (← take 1) == 1

/-- `n` characters of six bits, filling included. -/
def text : Nat → Read (List Char)
  | 0 => pure []
  | n + 1 => do
    let c ← take 6
    let cs ← text n
    return SixBit.char (Bits.toNat c) :: cs

/-- A blob of `width` bits. -/
def blob (width : Nat) : Read Blob := do
  return ⟨← take width⟩

end Read

namespace Access

/-- A read of a message, as a caller's access. -/
def ofRead {α : Type} (read : Read α) : Access α :=
  read.adaptExcept .raised

/-- Applies a read to a width that has to be positive. -/
def positive {α : Type} (read : Nat → Read α) (width : Int) : Access α :=
  if width ≤ 0 then throw .emptyWidth else ofRead (read width.toNat)

/-- An unsigned number of positive width. -/
def uint (width : Int) : Access Int :=
  positive Read.uint width

/-- A number in two's complement, of positive width. -/
def sint (width : Int) : Access Int :=
  positive Read.sint width

/-- A single bit. -/
def flag : Access Bool :=
  ofRead Read.flag

/-- Some characters; less than none are none. -/
def text (count : Int) : Access (List Char) :=
  ofRead (Read.text count.toNat)

/-- A blob that may be empty. -/
def blob (width : Int) : Access Blob :=
  if width = 0 then pure {} else positive Read.blob width

end Access

end AisStation
