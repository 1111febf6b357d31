import AisStation.Bits.Basic
import AisStation.Text.Integer
import AisStation.Text.Quoted

/-!
Opaque binary data.

A blob is a bit string; its bytes are a view, in which the last byte is completed by zeros. So two
blobs are equal exactly if they have the same bits, whatever bytes they were made from.
-/

namespace AisStation

/-- Binary data of any number of bits. -/
structure Blob where
  bits : Bits := []
deriving DecidableEq, Repr

/-- Why there is no such blob. -/
inductive BlobError
  | negativeLength
  /-- The bytes do not hold that many bits. -/
  | tooFewBytes (length : Int) (given : Nat)
  /-- There is no mask of a negative width. -/
  | negativeWidth
deriving DecidableEq, Repr

/-- The number of bytes that hold `length` bits. -/
def byteCount (length : Int) : Int :=
  (length + 7) / 8

/-- The wording of the fault. -/
def BlobError.message : BlobError → Except Text.Unwritable String
  | negativeLength => return "bit_length must be >= 0"
  | tooFewBytes length given => do
    let bits ← Text.decimal length
    let needed ← Text.decimal (byteCount length)
    return s!"{bits} bits need {needed} bytes, got {given}"
  | negativeWidth => return "negative shift count"

namespace Blob

/-- The number of bits. -/
def length (d : Blob) : Nat :=
  d.bits.length

/-- The bytes, the last one completed by zeros. -/
def bytes (d : Blob) : List UInt8 :=
  (d.bits.chunks 8).map fun piece => .ofNat piece.toNat

/-- The first `length` bits of some bytes. -/
def ofBytes (bytes : List UInt8) (length : Int) : Except BlobError Blob :=
  if length < 0 then .error .negativeLength
  else if (bytes.length : Int) < byteCount length then .error (.tooFewBytes length bytes.length)
  else .ok ⟨(bytes.flatMap fun b => Bits.ofNat 8 b.toNat).take length.toNat⟩

/-- The low `length` bits of an integer. -/
def ofInt (value length : Int) : Except BlobError Blob :=
  if length < 0 then .error .negativeWidth else .ok ⟨Bits.ofInt length.toNat value⟩

/-- The unsigned number that the bits spell. -/
def toNat (d : Blob) : Nat :=
  d.bits.toNat

/-- The bytes in lower-case hexadecimal digits. -/
def hex (d : Blob) : String :=
  String.ofList (d.bytes.flatMap fun b => Text.hexDigits 2 b.toNat)

end Blob

end AisStation
