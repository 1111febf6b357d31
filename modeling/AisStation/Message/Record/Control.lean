import AisStation.Message.Layout

/-!
Messages that acknowledge, ask, assign and reserve.

Their tails are repeated groups and optional sections. Groups are read while there are bits for
another one and the first four are written. Which optional sections a message has is told by its
length, and for channel management by a flag after them.
-/

namespace AisStation

/-- Acknowledgement of binary messages (7) or of safety related messages (13), of one to four of
them. -/
structure BinaryAcknowledge extends Header where
  messageType := 7
  spare : Int := 0
  acks : List Acknowledgement := []
deriving DecidableEq, Repr

/-- The head of the record on the wire. -/
@[reducible] def BinaryAcknowledge.layout : Layout := .withHeader [
  ⟨"spare", .spare 2⟩]

/-- The greatest number of groups that a message carries. -/
def maxGroups : Nat := 4

/-- Reads groups of `width` bits while there are bits for one more; `count` bounds their number. -/
def Read.groups {α : Type} (width : Nat) (group : Read α) : Nat → Read (List α)
  | 0 => pure []
  | count + 1 => do
    if (← Read.bitsRemaining) < width then return []
    let first ← group
    let others ← groups width group count
    return first :: others

namespace Acknowledgement

/-- The number of bits of an acknowledgement. -/
def width : Nat := 32

/-- The bits of an acknowledgement. -/
def encode (ack : Acknowledgement) : Bits :=
  Bits.ofInt 30 ack.mmsi ++ Bits.ofInt 2 ack.sequence

/-- Reads an acknowledgement. -/
def read : Read Acknowledgement := do
  let mmsi ← Read.uint 30
  let sequence ← Read.uint 2
  return { mmsi, sequence }

end Acknowledgement

instance : WireRecord BinaryAcknowledge where
  layout := BinaryAcknowledge.layout
  head r :=
    (r.messageType, r.repeatIndicator, r.mmsi, r.spare, ())
  ofHead
    | (messageType, repeatIndicator, mmsi, spare, ()) => {
        messageType, repeatIndicator, mmsi, spare }
  blank := {}
  toHeader r := r.toHeader
  readTail r := do
    let count := (← Read.bitsRemaining) / Acknowledgement.width
    return { r with acks := ← Read.groups Acknowledgement.width Acknowledgement.read count }
  encodeTail r := .ok ((r.acks.take maxGroups).flatMap Acknowledgement.encode)
  tailFields r := [("acks", .acknowledgements r.acks)]
  replaceTail fields r := match fields.lookup "acks" with
    | some (.acknowledgements acks) => { r with acks }
    | _ => r

/-- Inquiry for date and time (10). -/
structure UtcDateInquiry extends Header where
  messageType := 10
  spare : Int := 0
  destMmsi : Int := 0
  spare2 : Int := 0
deriving DecidableEq, Repr

/-- The head of the record on the wire. -/
@[reducible] def UtcDateInquiry.layout : Layout := .withHeader [
  ⟨"spare", .spare 2⟩, ⟨"dest_mmsi", .unsigned 30⟩, ⟨"spare2", .spare 2⟩]

instance : WireRecord UtcDateInquiry where
  layout := UtcDateInquiry.layout
  head r :=
    (r.messageType, r.repeatIndicator, r.mmsi, r.spare, r.destMmsi, r.spare2, ())
  ofHead
    | (messageType, repeatIndicator, mmsi, spare, destMmsi, spare2, ()) => {
        messageType, repeatIndicator, mmsi, spare, destMmsi, spare2 }
  blank := {}
  toHeader r := r.toHeader

/-- Interrogation (15) of one station for one message or two, and of a second station for one. A
request to the second station takes the second request to the first with it. -/
structure Interrogation extends Header where
  messageType := 15
  spare : Int := 0
  mmsi1 : Int := 0
  type11 : Int := 0
  offset11 : Int := 0
  spare2 : Int := 0
  type12 : Option Int := none
  offset12 : Int := 0
  spare3 : Int := 0
  mmsi2 : Option Int := none
  type21 : Int := 0
  offset21 : Int := 0
  spare4 : Int := 0
deriving DecidableEq, Repr

/-- The head of the record on the wire. -/
@[reducible] def Interrogation.layout : Layout := .withHeader [
  ⟨"spare", .spare 2⟩, ⟨"mmsi1", .unsigned 30⟩, ⟨"type1_1", .unsigned 6⟩,
  ⟨"offset1_1", .unsigned 12⟩]

instance : WireRecord Interrogation where
  layout := Interrogation.layout
  head r :=
    (r.messageType, r.repeatIndicator, r.mmsi, r.spare, r.mmsi1, r.type11, r.offset11, ())
  ofHead
    | (messageType, repeatIndicator, mmsi, spare, mmsi1, type11, offset11, ()) => {
        messageType, repeatIndicator, mmsi, spare, mmsi1, type11, offset11 }
  blank := {}
  toHeader r := r.toHeader
  readTail r := do
    let length ← Read.bitLength
    let mut r := r
    if 110 ≤ length then
      let spare2 ← Read.uint 2
      let type12 ← Read.uint 6
      let offset12 ← Read.uint 12
      let spare3 ← Read.uint 2
      r := { r with spare2, type12 := some type12, offset12, spare3 }
    if 160 ≤ length then
      let mmsi2 ← Read.uint 30
      let type21 ← Read.uint 6
      let offset21 ← Read.uint 12
      let spare4 ← Read.uint 2
      r := { r with mmsi2 := some mmsi2, type21, offset21, spare4 }
    return r
  encodeTail r :=
    let second :=
      if r.type12.isSome ∨ r.mmsi2.isSome then
        Bits.ofInt 2 r.spare2 ++ Bits.ofInt 6 (r.type12.getD 0) ++ Bits.ofInt 12 r.offset12 ++
          Bits.ofInt 2 r.spare3
      else []
    let other := match r.mmsi2 with
      | some mmsi2 =>
        Bits.ofInt 30 mmsi2 ++ Bits.ofInt 6 r.type21 ++ Bits.ofInt 12 r.offset21 ++
          Bits.ofInt 2 r.spare4
      | none => []
    .ok (second ++ other)
  tailFields r := [
    ("spare2", .number r.spare2), ("type1_2", .optional r.type12),
    ("offset1_2", .number r.offset12),
    ("spare3", .number r.spare3), ("mmsi2", .optional r.mmsi2), ("type2_1", .number r.type21),
    ("offset2_1", .number r.offset21), ("spare4", .number r.spare4)]
  replaceTail fields r := { r with
    spare2 := fields.number "spare2" r.spare2
    type12 := fields.optional "type1_2" r.type12
    offset12 := fields.number "offset1_2" r.offset12
    spare3 := fields.number "spare3" r.spare3
    mmsi2 := fields.optional "mmsi2" r.mmsi2
    type21 := fields.number "type2_1" r.type21
    offset21 := fields.number "offset2_1" r.offset21
    spare4 := fields.number "spare4" r.spare4 }

/-- Assignment of a reporting mode to one station or two (16). -/
structure AssignedModeCommand extends Header where
  messageType := 16
  spare : Int := 0
  destMmsiA : Int := 0
  offsetA : Int := 0
  incrementA : Int := 0
  destMmsiB : Option Int := none
  offsetB : Int := 0
  incrementB : Int := 0
  spare2 : Int := 0
deriving DecidableEq, Repr

/-- The head of the record on the wire. -/
@[reducible] def AssignedModeCommand.layout : Layout := .withHeader [
  ⟨"spare", .spare 2⟩, ⟨"dest_mmsi_a", .unsigned 30⟩, ⟨"offset_a", .unsigned 12⟩,
  ⟨"increment_a", .unsigned 10⟩]

instance : WireRecord AssignedModeCommand where
  layout := AssignedModeCommand.layout
  head r :=
    (r.messageType, r.repeatIndicator, r.mmsi, r.spare, r.destMmsiA, r.offsetA, r.incrementA, ())
  ofHead
    | (messageType, repeatIndicator, mmsi, spare, destMmsiA, offsetA, incrementA, ()) => {
        messageType, repeatIndicator, mmsi, spare, destMmsiA, offsetA, incrementA }
  blank := {}
  toHeader r := r.toHeader
  readTail r := do
    if (← Read.bitLength) = 144 then
      let destMmsiB ← Read.uint 30
      let offsetB ← Read.uint 12
      let incrementB ← Read.uint 10
      return { r with destMmsiB := some destMmsiB, offsetB, incrementB }
    else
      return { r with spare2 := ← Read.uint 4 }
  encodeTail r := match r.destMmsiB with
    | none => .ok (Bits.ofInt 4 r.spare2)
    | some destMmsiB =>
      .ok (Bits.ofInt 30 destMmsiB ++ Bits.ofInt 12 r.offsetB ++ Bits.ofInt 10 r.incrementB)
  tailFields r := [
    ("dest_mmsi_b", .optional r.destMmsiB), ("offset_b", .number r.offsetB),
    ("increment_b", .number r.incrementB), ("spare2", .number r.spare2)]
  replaceTail fields r := { r with
    destMmsiB := fields.optional "dest_mmsi_b" r.destMmsiB
    offsetB := fields.number "offset_b" r.offsetB
    incrementB := fields.number "increment_b" r.incrementB
    spare2 := fields.number "spare2" r.spare2 }

/-- Reservation of slots (20), one to four groups of them, completed to whole bytes. -/
structure DataLinkManagement extends Header where
  messageType := 20
  spare : Int := 0
  reservations : List SlotReservation := []
deriving DecidableEq, Repr

/-- The head of the record on the wire. -/
@[reducible] def DataLinkManagement.layout : Layout := .withHeader [
  ⟨"spare", .spare 2⟩]

namespace SlotReservation

/-- The number of bits of a reservation. -/
def width : Nat := 30

/-- The bits of a reservation. -/
def encode (slot : SlotReservation) : Bits :=
  Bits.ofInt 12 slot.offset ++ Bits.ofInt 4 slot.slots ++ Bits.ofInt 3 slot.timeout ++
    Bits.ofInt 11 slot.increment

/-- Reads a reservation. -/
def read : Read SlotReservation := do
  let offset ← Read.uint 12
  let slots ← Read.uint 4
  let timeout ← Read.uint 3
  let increment ← Read.uint 11
  return { offset, slots, timeout, increment }

end SlotReservation

instance : WireRecord DataLinkManagement where
  layout := DataLinkManagement.layout
  head r :=
    (r.messageType, r.repeatIndicator, r.mmsi, r.spare, ())
  ofHead
    | (messageType, repeatIndicator, mmsi, spare, ()) => {
        messageType, repeatIndicator, mmsi, spare }
  blank := {}
  toHeader r := r.toHeader
  readTail r := do
    let count := (← Read.bitsRemaining) / SlotReservation.width
    return { r with
      reservations := ← Read.groups SlotReservation.width SlotReservation.read count }
  encodeTail r :=
    let bits := (r.reservations.take maxGroups).flatMap SlotReservation.encode
    let length := Layout.width DataLinkManagement.layout + bits.length
    .ok (bits ++ Bits.zeros (fillBits 8 length))
  tailFields r := [("reservations", .reservations r.reservations)]
  replaceTail fields r := match fields.lookup "reservations" with
    | some (.reservations reservations) => { r with reservations }
    | _ => r

/-- Management of radio channels (22) in a region or for two addressed stations. The flag
`addressed`, which follows this section, tells which. -/
structure ChannelManagement extends Header where
  messageType := 22
  spare : Int := 0
  channelA : Int := 0
  channelB : Int := 0
  txrx : Int := 0
  power : Bool := false
  nePosition : Position .coarse := {}
  swPosition : Position .coarse := {}
  destMmsiA : Int := 0
  spare2 : Int := 0
  destMmsiB : Int := 0
  spare3 : Int := 0
  addressed : Bool := false
  bandA : Bool := false
  bandB : Bool := false
  zoneSize : Int := 0
  spare4 : Int := 0
deriving DecidableEq, Repr

/-- The head of the record on the wire. -/
@[reducible] def ChannelManagement.layout : Layout := .withHeader [
  ⟨"spare", .spare 2⟩, ⟨"channel_a", .unsigned 12⟩, ⟨"channel_b", .unsigned 12⟩,
  ⟨"txrx", .unsigned 4⟩, ⟨"power", .flag⟩]

/-- The place of the flag that tells whether stations are addressed. -/
def ChannelManagement.addressedOffset : Nat := 139

instance : WireRecord ChannelManagement where
  layout := ChannelManagement.layout
  head r :=
    (r.messageType, r.repeatIndicator, r.mmsi, r.spare, r.channelA, r.channelB, r.txrx, r.power, ())
  ofHead
    | (messageType, repeatIndicator, mmsi, spare, channelA, channelB, txrx, power, ()) => {
        messageType, repeatIndicator, mmsi, spare, channelA, channelB, txrx, power }
  blank := {}
  toHeader r := r.toHeader
  readTail r := do
    let mut r := r
    if (← Read.peek ChannelManagement.addressedOffset 1) = 1 then
      let destMmsiA ← Read.uint 30
      let spare2 ← Read.uint 5
      let destMmsiB ← Read.uint 30
      let spare3 ← Read.uint 5
      r := { r with destMmsiA, spare2, destMmsiB, spare3 }
    else
      let nePosition ← Position.read .coarse
      let swPosition ← Position.read .coarse
      r := { r with nePosition, swPosition }
    let addressed ← Read.flag
    let bandA ← Read.flag
    let bandB ← Read.flag
    let zoneSize ← Read.uint 3
    let spare4 ← Read.uint 23
    return { r with addressed, bandA, bandB, zoneSize, spare4 }
  encodeTail r :=
    let area :=
      if r.addressed then
        Bits.ofInt 30 r.destMmsiA ++ Bits.ofInt 5 r.spare2 ++ Bits.ofInt 30 r.destMmsiB ++
          Bits.ofInt 5 r.spare3
      else r.nePosition.encode ++ r.swPosition.encode
    .ok (area ++ [r.addressed, r.bandA, r.bandB] ++ Bits.ofInt 3 r.zoneSize ++
      Bits.ofInt 23 r.spare4)
  tailFields r := [
    ("ne_position", .position r.nePosition), ("sw_position", .position r.swPosition),
    ("dest_mmsi_a", .number r.destMmsiA), ("spare2", .number r.spare2),
    ("dest_mmsi_b", .number r.destMmsiB), ("spare3", .number r.spare3),
    ("addressed", .flag r.addressed), ("band_a", .flag r.bandA), ("band_b", .flag r.bandB),
    ("zone_size", .number r.zoneSize), ("spare4", .number r.spare4)]
  replaceTail fields r := { r with
    nePosition := fields.coarse "ne_position" r.nePosition
    swPosition := fields.coarse "sw_position" r.swPosition
    destMmsiA := fields.number "dest_mmsi_a" r.destMmsiA
    spare2 := fields.number "spare2" r.spare2
    destMmsiB := fields.number "dest_mmsi_b" r.destMmsiB
    spare3 := fields.number "spare3" r.spare3
    addressed := fields.flag "addressed" r.addressed
    bandA := fields.flag "band_a" r.bandA
    bandB := fields.flag "band_b" r.bandB
    zoneSize := fields.number "zone_size" r.zoneSize
    spare4 := fields.number "spare4" r.spare4 }

/-- Assignment of a reporting mode to a group of stations in a region (23). -/
structure GroupAssignmentCommand extends Header where
  messageType := 23
  spare : Int := 0
  nePosition : Position .coarse := {}
  swPosition : Position .coarse := {}
  stationType : Int := 0
  shipType : Int := 0
  spare2 : Int := 0
  txrx : Int := 0
  interval : Int := 0
  quiet : Int := 0
  spare3 : Int := 0
deriving DecidableEq, Repr

/-- The head of the record on the wire. -/
@[reducible] def GroupAssignmentCommand.layout : Layout := .withHeader [
  ⟨"spare", .spare 2⟩, ⟨"ne_position", .position .coarse⟩, ⟨"sw_position", .position .coarse⟩,
  ⟨"station_type", .unsigned 4⟩, ⟨"ship_type", .unsigned 8⟩, ⟨"spare2", .spare 22⟩,
  ⟨"txrx", .unsigned 2⟩, ⟨"interval", .unsigned 4⟩, ⟨"quiet", .unsigned 4⟩, ⟨"spare3", .spare 6⟩]

instance : WireRecord GroupAssignmentCommand where
  layout := GroupAssignmentCommand.layout
  head r :=
    (r.messageType, r.repeatIndicator, r.mmsi, r.spare, r.nePosition, r.swPosition, r.stationType,
      r.shipType, r.spare2, r.txrx, r.interval, r.quiet, r.spare3, ())
  ofHead
    | (messageType, repeatIndicator, mmsi, spare, nePosition, swPosition, stationType, shipType,
      spare2, txrx, interval, quiet, spare3, ()) => {
        messageType, repeatIndicator, mmsi, spare, nePosition, swPosition, stationType, shipType,
        spare2, txrx, interval, quiet, spare3 }
  blank := {}
  toHeader r := r.toHeader

end AisStation
