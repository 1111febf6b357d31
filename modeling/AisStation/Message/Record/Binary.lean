import AisStation.Message.Layout

/-!
Messages that carry opaque binary data.

The data fill the rest of the message. The slot messages announce by flags whether an address and an
application identifier come before the data; the message of several slots ends with the
communication state.
-/

namespace AisStation

/-- Binary message to one station (6). -/
structure AddressedBinaryMessage extends Header where
  messageType := 6
  seqno : Int := 0
  destMmsi : Int := 0
  retransmit : Bool := false
  spare : Int := 0
  dac : Int := 0
  fid : Int := 0
  data : Blob := {}
deriving DecidableEq, Repr

/-- The head of the record on the wire. -/
@[reducible] def AddressedBinaryMessage.layout : Layout := .withHeader [
  ⟨"seqno", .unsigned 2⟩, ⟨"dest_mmsi", .unsigned 30⟩, ⟨"retransmit", .flag⟩, ⟨"spare", .spare 1⟩,
  ⟨"dac", .unsigned 10⟩, ⟨"fid", .unsigned 6⟩]

instance : WireRecord AddressedBinaryMessage where
  layout := AddressedBinaryMessage.layout
  head r :=
    (r.messageType, r.repeatIndicator, r.mmsi, r.seqno, r.destMmsi, r.retransmit, r.spare, r.dac,
      r.fid, ())
  ofHead
    | (messageType, repeatIndicator, mmsi, seqno, destMmsi, retransmit, spare, dac, fid, ()) => {
        messageType, repeatIndicator, mmsi, seqno, destMmsi, retransmit, spare, dac, fid }
  blank := {}
  toHeader r := r.toHeader
  readTail r := do
    return { r with data := ← Read.blob (← Read.bitsRemaining) }
  encodeTail r := .ok r.data.bits
  tailFields r := [("data", .data r.data)]
  replaceTail fields r := { r with data := fields.data "data" r.data }

/-- Binary message to all stations (8). -/
structure BinaryBroadcastMessage extends Header where
  messageType := 8
  spare : Int := 0
  dac : Int := 0
  fid : Int := 0
  data : Blob := {}
deriving DecidableEq, Repr

/-- The head of the record on the wire. -/
@[reducible] def BinaryBroadcastMessage.layout : Layout := .withHeader [
  ⟨"spare", .spare 2⟩, ⟨"dac", .unsigned 10⟩, ⟨"fid", .unsigned 6⟩]

instance : WireRecord BinaryBroadcastMessage where
  layout := BinaryBroadcastMessage.layout
  head r :=
    (r.messageType, r.repeatIndicator, r.mmsi, r.spare, r.dac, r.fid, ())
  ofHead
    | (messageType, repeatIndicator, mmsi, spare, dac, fid, ()) => {
        messageType, repeatIndicator, mmsi, spare, dac, fid }
  blank := {}
  toHeader r := r.toHeader
  readTail r := do
    return { r with data := ← Read.blob (← Read.bitsRemaining) }
  encodeTail r := .ok r.data.bits
  tailFields r := [("data", .data r.data)]
  replaceTail fields r := { r with data := fields.data "data" r.data }

/-- Corrections for satellite navigation around a reference position (17). -/
structure DgnssBroadcast extends Header where
  messageType := 17
  spare : Int := 0
  position : Position .coarse := {}
  spare2 : Int := 0
  data : Blob := {}
deriving DecidableEq, Repr

/-- The head of the record on the wire. -/
@[reducible] def DgnssBroadcast.layout : Layout := .withHeader [
  ⟨"spare", .spare 2⟩, ⟨"position", .position .coarse⟩, ⟨"spare2", .spare 5⟩]

instance : WireRecord DgnssBroadcast where
  layout := DgnssBroadcast.layout
  head r :=
    (r.messageType, r.repeatIndicator, r.mmsi, r.spare, r.position, r.spare2, ())
  ofHead
    | (messageType, repeatIndicator, mmsi, spare, position, spare2, ()) => {
        messageType, repeatIndicator, mmsi, spare, position, spare2 }
  blank := {}
  toHeader r := r.toHeader
  readTail r := do
    return { r with data := ← Read.blob (← Read.bitsRemaining) }
  encodeTail r := .ok r.data.bits
  tailFields r := [("data", .data r.data)]
  replaceTail fields r := { r with data := fields.data "data" r.data }

/-- Binary message of a single slot (25). -/
structure SingleSlotBinaryMessage extends Header where
  messageType := 25
  addressed : Bool := false
  structured : Bool := false
  destMmsi : Int := 0
  spare : Int := 0
  appId : Int := 0
  data : Blob := {}
deriving DecidableEq, Repr

/-- The head of the record on the wire. -/
@[reducible] def SingleSlotBinaryMessage.layout : Layout := .withHeader [
  ⟨"addressed", .flag⟩, ⟨"structured", .flag⟩]

/-- The bits of the address and the application identifier, each if its flag announces it. -/
def SlotAddress.encode (addressed structured : Bool) (mmsi spare application : Int) : Bits :=
  (if addressed then Bits.ofInt 30 mmsi ++ Bits.ofInt 2 spare else []) ++
    (if structured then Bits.ofInt 16 application else [])

/-- Reads the bits that a flag announces; without the flag the field has its default. -/
def Read.announced (announced : Bool) (width : Nat) : Read Int :=
  if announced then Read.uint width else pure 0

/-- Reads data up to the last `trailer` bits of the message. -/
def Read.dataBefore (trailer : Nat) (messageType : Int) : Read Blob := do
  let remaining ← Read.bitsRemaining
  if remaining < trailer then throw (.tooShort messageType)
  Read.blob (remaining - trailer)

instance : WireRecord SingleSlotBinaryMessage where
  layout := SingleSlotBinaryMessage.layout
  head r :=
    (r.messageType, r.repeatIndicator, r.mmsi, r.addressed, r.structured, ())
  ofHead
    | (messageType, repeatIndicator, mmsi, addressed, structured, ()) => {
        messageType, repeatIndicator, mmsi, addressed, structured }
  blank := {}
  toHeader r := r.toHeader
  readTail r := do
    let destMmsi ← Read.announced r.addressed 30
    let spare ← Read.announced r.addressed 2
    let appId ← Read.announced r.structured 16
    let data ← Read.dataBefore 0 r.messageType
    return { r with destMmsi, spare, appId, data }
  encodeTail r :=
    .ok (SlotAddress.encode r.addressed r.structured r.destMmsi r.spare r.appId ++ r.data.bits)
  tailFields r := [
    ("dest_mmsi", .number r.destMmsi), ("spare", .number r.spare), ("app_id", .number r.appId),
    ("data", .data r.data)]
  replaceTail fields r := { r with
    destMmsi := fields.number "dest_mmsi" r.destMmsi
    spare := fields.number "spare" r.spare
    appId := fields.number "app_id" r.appId
    data := fields.data "data" r.data }

/-- Binary message of several slots with a communication state (26). -/
structure MultipleSlotBinaryMessage extends Header where
  messageType := 26
  addressed : Bool := false
  structured : Bool := false
  destMmsi : Int := 0
  spare : Int := 0
  appId : Int := 0
  data : Blob := {}
  radioSelector : Bool := false
  radio : Int := 0
deriving DecidableEq, Repr

/-- The head of the record on the wire. -/
@[reducible] def MultipleSlotBinaryMessage.layout : Layout := .withHeader [
  ⟨"addressed", .flag⟩, ⟨"structured", .flag⟩]

/-- The number of bits of the communication state. -/
def MultipleSlotBinaryMessage.trailerBits : Nat := 20

instance : WireRecord MultipleSlotBinaryMessage where
  layout := MultipleSlotBinaryMessage.layout
  head r :=
    (r.messageType, r.repeatIndicator, r.mmsi, r.addressed, r.structured, ())
  ofHead
    | (messageType, repeatIndicator, mmsi, addressed, structured, ()) => {
        messageType, repeatIndicator, mmsi, addressed, structured }
  blank := {}
  toHeader r := r.toHeader
  readTail r := do
    let destMmsi ← Read.announced r.addressed 30
    let spare ← Read.announced r.addressed 2
    let appId ← Read.announced r.structured 16
    let data ← Read.dataBefore MultipleSlotBinaryMessage.trailerBits r.messageType
    let radioSelector ← Read.flag
    let radio ← Read.uint 19
    return { r with destMmsi, spare, appId, data, radioSelector, radio }
  encodeTail r :=
    .ok (SlotAddress.encode r.addressed r.structured r.destMmsi r.spare r.appId ++ r.data.bits ++
      r.radioSelector :: Bits.ofInt 19 r.radio)
  tailFields r := [
    ("dest_mmsi", .number r.destMmsi), ("spare", .number r.spare), ("app_id", .number r.appId),
    ("data", .data r.data), ("radio_selector", .flag r.radioSelector), ("radio", .number r.radio)]
  replaceTail fields r := { r with
    destMmsi := fields.number "dest_mmsi" r.destMmsi
    spare := fields.number "spare" r.spare
    appId := fields.number "app_id" r.appId
    data := fields.data "data" r.data
    radioSelector := fields.flag "radio_selector" r.radioSelector
    radio := fields.number "radio" r.radio }

end AisStation
