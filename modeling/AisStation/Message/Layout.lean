import AisStation.Position

/-!
Layouts: the fields of a message in wire order.

A field has a name and a kind; the kind fixes the type of its values, its width, and how it is read
and written. A layout is a list of fields, and `Layout.Values` are one value for each. Reading and
writing a whole layout go field by field, so a law of every kind is a law of every layout.
-/

namespace AisStation

/-- One to four stations are acknowledged by a message. -/
structure Acknowledgement where
  mmsi : Int := 0
  sequence : Int := 0
deriving DecidableEq, Repr

/-- A reservation of slots for a base station. -/
structure SlotReservation where
  offset : Int := 0
  slots : Int := 0
  timeout : Int := 0
  increment : Int := 0
deriving DecidableEq, Repr

/-- The value of a field of any kind. -/
inductive FieldValue
  | number (n : Int)
  | flag (b : Bool)
  | text (s : String)
  | position {grid : Grid} (p : Position grid)
  /-- A number that may be missing. -/
  | optional (n : Option Int)
  | data (d : Blob)
  | acknowledgements (acks : List Acknowledgement)
  | reservations (slots : List SlotReservation)

/-- Named field values, in order. -/
abbrev Fields := List (String × FieldValue)

namespace Fields

/-- The number of the given name, or `default`. -/
def number (fields : Fields) (name : String) (default : Int) : Int :=
  match fields.lookup name with
  | some (.number n) => n
  | _ => default

/-- The flag of the given name, or `default`. -/
def flag (fields : Fields) (name : String) (default : Bool) : Bool :=
  match fields.lookup name with
  | some (.flag b) => b
  | _ => default

/-- The text of the given name, or `default`. -/
def text (fields : Fields) (name : String) (default : String) : String :=
  match fields.lookup name with
  | some (.text s) => s
  | _ => default

/-- The number that may be missing, of the given name, or `default`. -/
def optional (fields : Fields) (name : String) (default : Option Int) : Option Int :=
  match fields.lookup name with
  | some (.optional n) => n
  | _ => default

/-- The data of the given name, or `default`. -/
def data (fields : Fields) (name : String) (default : Blob) : Blob :=
  match fields.lookup name with
  | some (.data d) => d
  | _ => default

/-- The coarse position of the given name, or `default`. -/
def coarse (fields : Fields) (name : String) (default : Position .coarse) : Position .coarse :=
  match fields.lookup name with
  | some (@FieldValue.position .coarse p) => p
  | _ => default

end Fields

/-- The kinds of fields. -/
inductive FieldKind
  | unsigned (width : Nat)
  | signed (width : Nat)
  | flag
  | text (chars : Nat)
  | position (grid : Grid)
  /-- Reserved bits, kept as they are. -/
  | spare (width : Nat)
deriving DecidableEq, Repr

namespace FieldKind

/-- The type of the values of a kind. -/
@[reducible] def Carrier : FieldKind → Type
  | unsigned _ | signed _ | spare _ => Int
  | flag => Bool
  | text _ => String
  | position grid => Position grid

/-- The number of bits. -/
def width : FieldKind → Nat
  | unsigned width | signed width | spare width => width
  | flag => 1
  | text chars => 6 * chars
  | position grid => grid.bits

/-- Reads a value. The filling of a text is dropped. -/
def read : (kind : FieldKind) → Read kind.Carrier
  | unsigned width | spare width => Read.uint width
  | signed width => Read.sint width
  | flag => Read.flag
  | text chars => do return String.ofList (SixBit.stripPadding (← Read.text chars))
  | position grid => Position.read grid

/-- The bits of a value. Only a text may have none. -/
def encode : (kind : FieldKind) → kind.Carrier → Except Malformed Bits
  | unsigned width, n | signed width, n | spare width, n => .ok (Bits.ofInt width n)
  | flag, b => .ok [b]
  | text chars, s => SixBit.encode (SixBit.fit chars s.toList)
  | position _, p => .ok p.encode

/-- A value as a value of any kind. -/
def toValue : (kind : FieldKind) → kind.Carrier → FieldValue
  | unsigned _, n | signed _, n | spare _, n => .number n
  | flag, b => .flag b
  | text _, s => .text s
  | position _, p => .position p

/-- A value of this kind, if it is one. -/
def ofValue? : (kind : FieldKind) → FieldValue → Option kind.Carrier
  | unsigned _, .number n | signed _, .number n | spare _, .number n => some n
  | flag, .flag b => some b
  | text _, .text s => some s
  | position .fine, @FieldValue.position .fine p => some p
  | position .coarse, @FieldValue.position .coarse p => some p
  | _, _ => none

end FieldKind

/-- A field of a layout. -/
structure Field where
  name : String
  kind : FieldKind
deriving DecidableEq, Repr

/-- The fields of a message, in wire order. -/
abbrev Layout := List Field

namespace Layout

/-- One value for every field. -/
@[reducible] def Values : Layout → Type
  | [] => Unit
  | field :: layout => field.kind.Carrier × Values layout

/-- The number of bits of all fields. -/
def width (layout : Layout) : Nat :=
  layout.foldr (fun field width => field.kind.width + width) 0

/-- Reads all fields. -/
def read : (layout : Layout) → Read layout.Values
  | [] => pure ()
  | field :: layout => do
    let value ← field.kind.read
    let values ← read layout
    return (value, values)

/-- The bits of all fields. -/
def encode : (layout : Layout) → layout.Values → Except Malformed Bits
  | [], () => .ok []
  | field :: layout, (value, values) => do
    let bits ← field.kind.encode value
    let rest ← encode layout values
    return bits ++ rest

/-- The values with the names of their fields. -/
def toFields : (layout : Layout) → layout.Values → Fields
  | [], () => []
  | field :: layout, (value, values) =>
    (field.name, field.kind.toValue value) :: toFields layout values

/-- The values with those replaced that `fields` names. -/
def replace (fields : Fields) : (layout : Layout) → layout.Values → layout.Values
  | [], () => ()
  | field :: layout, (value, values) =>
    (((fields.lookup field.name).bind field.kind.ofValue?).getD value,
      replace fields layout values)

/-- The fields that every message starts with, then those of its own. -/
@[reducible] def withHeader (fields : Layout) : Layout :=
  ⟨"message_type", .unsigned 6⟩ :: ⟨"repeat", .unsigned 2⟩ :: ⟨"mmsi", .unsigned 30⟩ :: fields

end Layout

/-- What every message starts with. -/
structure Header where
  messageType : Int
  repeatIndicator : Int := 0
  mmsi : Int := 0
deriving DecidableEq, Repr

/-- A type of message records and their form on the wire: a fixed head, laid out by `layout`, and a
tail, which the record reads and writes itself. -/
class WireRecord (R : Type) where
  /-- The fields of the head. -/
  layout : Layout
  /-- The values of the head. -/
  head : R → layout.Values
  /-- The record with a given head and the default tail. -/
  ofHead : layout.Values → R
  /-- The record in which every field has its default. -/
  blank : R
  toHeader : R → Header
  /-- Completes a record whose head is read by reading its tail. -/
  readTail : R → Read R := pure
  /-- The bits of the tail. -/
  encodeTail : R → Except Malformed Bits := fun _ => .ok []
  /-- The fields of the tail. -/
  tailFields : R → Fields := fun _ => []
  /-- The record with the fields of its tail replaced that are named. -/
  replaceTail : Fields → R → R := fun _ r => r

namespace WireRecord

variable {R : Type} [WireRecord R]

/-- Reads a record. -/
def read (R : Type) [WireRecord R] : Read R := do
  readTail (ofHead (← (layout R).read))

/-- The bits of a record. -/
def encode (r : R) : Except Malformed Bits := do
  return (← (layout R).encode (head r)) ++ (← encodeTail r)

/-- All fields of a record, those of the head first. -/
def toFields (r : R) : Fields :=
  (layout R).toFields (head r) ++ tailFields r

/-- The record of the named fields, all others at their defaults. -/
def ofFields (R : Type) [WireRecord R] (fields : Fields) : R :=
  replaceTail fields (ofHead ((layout R).replace fields (head (blank : R))))

end WireRecord

end AisStation
