import AisStation.Message.Error

/-!
Encoding a record.

The type that the record carries has to be one of its own. The bits are those of its fields, and
their number is checked against the lengths of the record's kind. Only the wording of an unknown
type repeats a number of the caller.
-/

namespace AisStation

/-- Encodes a record into an armor text and its exact length. -/
def encode (m : Message) : Except EncodeError Payload :=
  match Carrier.ofType? m.messageType with
  | none => .error (.raised (.unknownType m.messageType))
  | some carrier =>
    if !carrier.carries m.kind then .error (.wrongCarrier m.kind m.messageType)
    else match m.bits with
      | .error why => .error (.codec (.malformed why))
      | .ok bits => match m.kind.lengths.check m.messageType bits.length with
        | .error error => .error (.codec error)
        | .ok () => .ok (Armor.encode bits)

end AisStation
