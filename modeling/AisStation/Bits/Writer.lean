import AisStation.Bits.Reader

/-!
An append-only bit string.

A writer keeps what was written and appends to it. Values wider than their field lose their high
bits. A write that fails appends nothing, except that a text is written character by character, so
the characters before the one without a code stay.
-/

namespace AisStation

/-- The bits written so far. -/
structure Writer where
  bits : Bits := []
deriving DecidableEq, Repr

/-- A computation that writes bits. -/
abbrev Write := EStateM AccessError Writer

namespace Write

/-- Appends bits. -/
def append (bits : Bits) : Write Unit := fun w => .ok () ⟨w.bits ++ bits⟩

/-- Appends the low `width` bits of `value`; the width has to be positive. -/
def uint (value width : Int) : Write Unit :=
  if width ≤ 0 then throw .emptyWidth else append (Bits.ofInt width.toNat value)

/-- Appends `value` in two's complement of `width` bits. -/
def sint (value width : Int) : Write Unit :=
  if width < 0 then throw .negativeWidth else uint value width

/-- Appends a single bit. -/
def flag (value : Bool) : Write Unit :=
  append [value]

/-- Appends characters, up to the first one without a code. -/
def chars : List Char → Write Unit
  | [] => pure ()
  | c :: cs => do
    match SixBit.codeOf [c] with
    | .ok code => append (Bits.ofNat 6 code); chars cs
    | .error why => throw (.malformed why)

/-- The characters that a text field of `count` characters holds. A negative count takes that many
characters off the end and fills nothing. -/
def fitted (text : List Char) (count : Int) : List Char :=
  if count < 0 then text.take ((text.length : Int) + count).toNat else SixBit.fit count.toNat text

/-- Appends a text cut or filled to `count` characters. -/
def text (text : List Char) (count : Int) : Write Unit :=
  chars (fitted text count)

/-- Appends a blob. -/
def blob (d : Blob) : Write Unit :=
  append d.bits

/-- Appends zeros up to a whole number of bytes. -/
def padToByte : Write Unit := fun w => .ok () ⟨w.bits ++ Bits.zeros (fillBits 8 w.bits.length)⟩

end Write

namespace Writer

/-- What was written, in armor. -/
def toArmor (w : Writer) : Payload :=
  Armor.encode w.bits

/-- A reader of the armored form of what was written. -/
def toReader (w : Writer) : Except Malformed Reader :=
  Reader.ofArmor w.toArmor.text (some w.toArmor.bitLength)

end Writer

end AisStation
