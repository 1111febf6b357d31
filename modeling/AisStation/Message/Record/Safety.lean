import AisStation.Message.Layout

/-!
Safety related text messages.

The text fills the rest of the message, up to bits that do not make a character; those are lost. A
text longer than the message can carry is cut.
-/

namespace AisStation

/-- Safety related text to one station (12). -/
structure AddressedSafetyMessage extends Header where
  messageType := 12
  seqno : Int := 0
  destMmsi : Int := 0
  retransmit : Bool := false
  spare : Int := 0
  text : String := ""
deriving DecidableEq, Repr

/-- The head of the record on the wire. -/
@[reducible] def AddressedSafetyMessage.layout : Layout := .withHeader [
  ⟨"seqno", .unsigned 2⟩, ⟨"dest_mmsi", .unsigned 30⟩, ⟨"retransmit", .flag⟩, ⟨"spare", .spare 1⟩]

/-- The greatest number of characters. -/
def AddressedSafetyMessage.maxText : Nat := 156

instance : WireRecord AddressedSafetyMessage where
  layout := AddressedSafetyMessage.layout
  head r :=
    (r.messageType, r.repeatIndicator, r.mmsi, r.seqno, r.destMmsi, r.retransmit, r.spare, ())
  ofHead
    | (messageType, repeatIndicator, mmsi, seqno, destMmsi, retransmit, spare, ()) => {
        messageType, repeatIndicator, mmsi, seqno, destMmsi, retransmit, spare }
  blank := {}
  toHeader r := r.toHeader
  readTail r := do
    return { r with text := String.ofList (← Read.text ((← Read.bitsRemaining) / 6)) }
  encodeTail r := SixBit.encode (r.text.toList.take AddressedSafetyMessage.maxText)
  tailFields r := [("text", .text r.text)]
  replaceTail fields r := { r with text := fields.text "text" r.text }

/-- Safety related text to all stations (14). -/
structure SafetyBroadcastMessage extends Header where
  messageType := 14
  spare : Int := 0
  text : String := ""
deriving DecidableEq, Repr

/-- The head of the record on the wire. -/
@[reducible] def SafetyBroadcastMessage.layout : Layout := .withHeader [
  ⟨"spare", .spare 2⟩]

/-- The greatest number of characters. -/
def SafetyBroadcastMessage.maxText : Nat := 161

instance : WireRecord SafetyBroadcastMessage where
  layout := SafetyBroadcastMessage.layout
  head r :=
    (r.messageType, r.repeatIndicator, r.mmsi, r.spare, ())
  ofHead
    | (messageType, repeatIndicator, mmsi, spare, ()) => {
        messageType, repeatIndicator, mmsi, spare }
  blank := {}
  toHeader r := r.toHeader
  readTail r := do
    return { r with text := String.ofList (← Read.text ((← Read.bitsRemaining) / 6)) }
  encodeTail r := SixBit.encode (r.text.toList.take SafetyBroadcastMessage.maxText)
  tailFields r := [("text", .text r.text)]
  replaceTail fields r := { r with text := fields.text "text" r.text }

end AisStation
