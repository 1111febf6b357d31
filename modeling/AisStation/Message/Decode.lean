import AisStation.Message.Error

/-!
Decoding a message.

The first six bits tell the type; the type tells the records that carry it. The declared length is
checked before any field is read. A static data report tells its part by two bits after the header,
and its length is checked a second time against that of the part.
-/

namespace AisStation

/-- A computation that decodes a message. -/
abbrev Decode := EStateM CodecError Reader

namespace Decode

/-- A read of a message, as a step of decoding. -/
def ofRead {α : Type} (read : Read α) : Decode α :=
  read.adaptExcept .malformed

/-- Checks the declared length. -/
def checkLength (lengths : Lengths) (messageType : Int) : Decode Unit := fun r =>
  match lengths.check messageType r.length with
  | .ok () => .ok () r
  | .error error => .error error r

/-- The message type, the cursor left where it is. -/
def messageType : Decode Nat :=
  ofRead (Read.peek 0 6)

/-- Decodes a record of a given kind. -/
def record (kind : RecordKind) : Decode Message := do
  checkLength kind.lengths (← messageType)
  ofRead kind.read

/-- Decodes a static data report. -/
def staticData : Decode Message := do
  checkLength Carrier.staticData.lengths 24
  match ← ofRead (Read.peek 38 2) with
  | 0 => record .staticDataReportPartA
  | 1 => record .staticDataReportPartB
  | part => throw (.malformed (.undefinedPart part))

/-- Decodes a message as one of a given carrier, whatever its bits say. -/
def carried : Carrier → Decode Message
  | .record kind => record kind
  | .staticData => staticData

/-- Decodes a message. -/
def message : Decode Message := do
  let messageType ← messageType
  match Carrier.ofType? messageType with
  | some carrier => carried carrier
  | none => throw (.unknownType messageType)

/-- The result of a computation on a reader at the start of an armor text. -/
def ofArmor {α : Type} (decode : Decode α) (text : String) (declared : Option Int) :
    Except CodecError α :=
  match Reader.ofArmor text declared with
  | .error why => .error (.malformed why)
  | .ok reader => match decode reader with
    | .ok a _ => .ok a
    | .error error _ => .error error

/-- The message in an armor text of a declared length, or what is wrong with it. By default all its
bits are declared. -/
def result (text : String) (declared : Option Int) : Except CodecError Message :=
  ofArmor message text declared

end Decode

/-- Decodes an armor text of a declared length. -/
def decode (text : String) (declared : Option Int) : Except DecodeError Message :=
  (Decode.result text declared).mapError .raised

end AisStation
