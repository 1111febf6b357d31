import AisStation.Json.Render
import AisStation.Message.Basic

/-!
Records as JSON.

A record is an object of its fields in wire order. Positions are in degrees, null where not
available; binary data are their number of bits and their bytes in hexadecimal.
-/

namespace AisStation

/-- A coordinate in degrees, or null. -/
def Json.ofDegrees? : Option Binary64 → Json
  | some x => real x
  | none => null

/-- A position in degrees. -/
def Position.toJson {grid : Grid} (p : Position grid) : Json :=
  .object [("lat", .ofDegrees? p.latitudeDegrees?), ("lon", .ofDegrees? p.longitudeDegrees?)]

/-- A blob as its length and its bytes. -/
def Blob.toJson (d : Blob) : Json :=
  .object [("bits", .int d.length), ("hex", .text d.hex)]

/-- An acknowledgement as an object. -/
def Acknowledgement.toJson (ack : Acknowledgement) : Json :=
  .object [("mmsi", .int ack.mmsi), ("seqno", .int ack.sequence)]

/-- A reservation as an object. -/
def SlotReservation.toJson (slot : SlotReservation) : Json :=
  .object [("offset", .int slot.offset), ("slots", .int slot.slots),
    ("timeout", .int slot.timeout), ("increment", .int slot.increment)]

/-- The value of a field. -/
def FieldValue.toJson : FieldValue → Json
  | number n => .int n
  | flag b => .bool b
  | text s => .text s
  | position p => p.toJson
  | optional (some n) => .int n
  | optional none => .null
  | data d => d.toJson
  | acknowledgements acks => .list (acks.map (·.toJson))
  | reservations slots => .list (slots.map (·.toJson))

/-- A record as an object of its fields. -/
def Message.toJson (m : Message) : Json :=
  .object (m.toFields.map fun (name, value) => (name, value.toJson))

end AisStation
