import AisStation.Proofs.Layout
import AisStation.Message.Length

/-!
# Messages by place

Where every field of a message stands. The fields of the head follow each other as their layout
says. The fields of a tail are given here by their places, counted from the start of the message;
the length of the message and the flags of the head tell which of them there are.
-/

namespace AisStation

/-! ## Opaque data -/

/-- The message with the data that fill its bits from the head on. -/
def AddressedBinaryMessage.tailAt (r : AddressedBinaryMessage) (bs : Bits) :
    AddressedBinaryMessage :=
  { r with data := ⟨bs.drop 88⟩ }

/-- The message with the data that fill its bits from the head on. -/
def BinaryBroadcastMessage.tailAt (r : BinaryBroadcastMessage) (bs : Bits) :
    BinaryBroadcastMessage :=
  { r with data := ⟨bs.drop 56⟩ }

/-- The message with the data that fill its bits from the head on. -/
def DgnssBroadcast.tailAt (r : DgnssBroadcast) (bs : Bits) : DgnssBroadcast :=
  { r with data := ⟨bs.drop 80⟩ }

/-- The place of the application identifier of a slot message, behind the address if there is
one. -/
def slotApplication (addressed : Bool) : Nat :=
  if addressed then 72 else 40

/-- The place of the data of a slot message, behind all that its flags announce. -/
def slotData (addressed structured : Bool) : Nat :=
  slotApplication addressed + if structured then 16 else 0

/-- The message with the fields that its flags announce and the data behind them. -/
def SingleSlotBinaryMessage.tailAt (r : SingleSlotBinaryMessage) (bs : Bits) :
    SingleSlotBinaryMessage :=
  { r with
    destMmsi := if r.addressed then bs.uintAt 40 30 else 0
    spare := if r.addressed then bs.uintAt 70 2 else 0
    appId := if r.structured then bs.uintAt (slotApplication r.addressed) 16 else 0
    data := ⟨bs.drop (slotData r.addressed r.structured)⟩ }

/-- The message with the fields that its flags announce, the data behind them, and the communication
state in its last twenty bits. -/
def MultipleSlotBinaryMessage.tailAt (r : MultipleSlotBinaryMessage) (bs : Bits) :
    MultipleSlotBinaryMessage :=
  { r with
    destMmsi := if r.addressed then bs.uintAt 40 30 else 0
    spare := if r.addressed then bs.uintAt 70 2 else 0
    appId := if r.structured then bs.uintAt (slotApplication r.addressed) 16 else 0
    data := ⟨(bs.take (bs.length - 20)).drop (slotData r.addressed r.structured)⟩
    radioSelector := bs.flagAt (bs.length - 20)
    radio := bs.uintAt (bs.length - 19) 19 }

/-! ## Repeated groups -/

/-- As many groups of `width` bits as the bits from `offset` on hold, one behind the other. -/
def groupsAt {α : Type} (group : Bits → Nat → α) (width : Nat) (bs : Bits) (offset : Nat) :
    List α :=
  (List.range ((bs.length - offset) / width)).map fun i => group bs (offset + width * i)

/-- The acknowledgement at a place. -/
def Acknowledgement.ofBits (bs : Bits) (offset : Nat) : Acknowledgement where
  mmsi := bs.uintAt offset 30
  sequence := bs.uintAt (offset + 30) 2

/-- The message with as many acknowledgements as its length holds. -/
def BinaryAcknowledge.tailAt (r : BinaryAcknowledge) (bs : Bits) : BinaryAcknowledge :=
  { r with acks := groupsAt Acknowledgement.ofBits Acknowledgement.width bs 40 }

/-- The reservation at a place. -/
def SlotReservation.ofBits (bs : Bits) (offset : Nat) : SlotReservation where
  offset := bs.uintAt offset 12
  slots := bs.uintAt (offset + 12) 4
  timeout := bs.uintAt (offset + 16) 3
  increment := bs.uintAt (offset + 19) 11

/-- The message with as many reservations as its length holds. -/
def DataLinkManagement.tailAt (r : DataLinkManagement) (bs : Bits) : DataLinkManagement :=
  { r with reservations := groupsAt SlotReservation.ofBits SlotReservation.width bs 40 }

/-! ## Optional sections -/

/-- The message with the second request to the first station, at the places from 88 on. -/
def Interrogation.secondAt (r : Interrogation) (bs : Bits) : Interrogation :=
  { r with
    spare2 := bs.uintAt 88 2
    type12 := some (bs.uintAt 90 6)
    offset12 := bs.uintAt 96 12
    spare3 := bs.uintAt 108 2 }

/-- The message with the request to the second station, at the places from 110 on. -/
def Interrogation.otherAt (r : Interrogation) (bs : Bits) : Interrogation :=
  { r with
    mmsi2 := some (bs.uintAt 110 30)
    type21 := bs.uintAt 140 6
    offset21 := bs.uintAt 146 12
    spare4 := bs.uintAt 158 2 }

/-- The message with the sections that its length announces. -/
def Interrogation.tailAt (r : Interrogation) (bs : Bits) : Interrogation :=
  if 160 ≤ bs.length then (r.secondAt bs).otherAt bs
  else if 110 ≤ bs.length then r.secondAt bs
  else r

/-- The message with a second station if its length announces one, else with the bits that complete
it. -/
def AssignedModeCommand.tailAt (r : AssignedModeCommand) (bs : Bits) : AssignedModeCommand :=
  if bs.length = 144 then
    { r with
      destMmsiB := some (bs.uintAt 92 30)
      offsetB := bs.uintAt 122 12
      incrementB := bs.uintAt 134 10 }
  else { r with spare2 := bs.uintAt 92 4 }

/-- The message with the two stations in its area. -/
def ChannelManagement.stationsAt (r : ChannelManagement) (bs : Bits) : ChannelManagement :=
  { r with
    destMmsiA := bs.uintAt 69 30
    spare2 := bs.uintAt 99 5
    destMmsiB := bs.uintAt 104 30
    spare3 := bs.uintAt 134 5 }

/-- The message with the two corners of its area. -/
def ChannelManagement.regionAt (r : ChannelManagement) (bs : Bits) : ChannelManagement :=
  { r with
    nePosition := Position.ofBits .coarse bs 69
    swPosition := Position.ofBits .coarse bs 104 }

/-- The message with the area that the flag behind it tells, and the fields after that flag. -/
def ChannelManagement.tailAt (r : ChannelManagement) (bs : Bits) : ChannelManagement :=
  { (if bs.flagAt addressedOffset then r.stationsAt bs else r.regionAt bs) with
    addressed := bs.flagAt addressedOffset
    bandA := bs.flagAt 140
    bandB := bs.flagAt 141
    zoneSize := bs.uintAt 142 3
    spare4 := bs.uintAt 145 23 }

/-! ## Texts -/

/-- The message with the text that fills its bits from the head on, up to bits that make no
character. -/
def AddressedSafetyMessage.tailAt (r : AddressedSafetyMessage) (bs : Bits) :
    AddressedSafetyMessage :=
  { r with text := String.ofList (SixBit.textAt ((bs.length - 72) / 6) (bs.drop 72)) }

/-- The message with the text that fills its bits from the head on, up to bits that make no
character. -/
def SafetyBroadcastMessage.tailAt (r : SafetyBroadcastMessage) (bs : Bits) :
    SafetyBroadcastMessage :=
  { r with text := String.ofList (SixBit.textAt ((bs.length - 40) / 6) (bs.drop 40)) }

/-- The number of characters of a name extension, its filling included, in a message of `n` bits. -/
def AidToNavigationReport.extensionCount (n : Nat) : Nat :=
  min ((n - 272) / 6) maxExtension

/-- The message with the characters of its name beyond the head. -/
def AidToNavigationReport.tailAt (r : AidToNavigationReport) (bs : Bits) : AidToNavigationReport :=
  let extension := SixBit.textAt (extensionCount bs.length) (bs.drop 272)
  { r with nameExtension := String.ofList (SixBit.stripPadding extension) }

/-! ## Messages -/

namespace Message

/-- The message with the fields of its tail at their places. -/
def tailAt (m : Message) (bs : Bits) : Message :=
  match m with
  | addressedBinaryMessage r => addressedBinaryMessage (r.tailAt bs)
  | binaryAcknowledge r => binaryAcknowledge (r.tailAt bs)
  | binaryBroadcastMessage r => binaryBroadcastMessage (r.tailAt bs)
  | addressedSafetyMessage r => addressedSafetyMessage (r.tailAt bs)
  | safetyBroadcastMessage r => safetyBroadcastMessage (r.tailAt bs)
  | interrogation r => interrogation (r.tailAt bs)
  | assignedModeCommand r => assignedModeCommand (r.tailAt bs)
  | dgnssBroadcast r => dgnssBroadcast (r.tailAt bs)
  | dataLinkManagement r => dataLinkManagement (r.tailAt bs)
  | aidToNavigationReport r => aidToNavigationReport (r.tailAt bs)
  | channelManagement r => channelManagement (r.tailAt bs)
  | singleSlotBinaryMessage r => singleSlotBinaryMessage (r.tailAt bs)
  | multipleSlotBinaryMessage r => multipleSlotBinaryMessage (r.tailAt bs)
  | m => m

/-- A message of `n` bits has room for all fields that the flags of its head announce. -/
def HasRoom (m : Message) (n : Nat) : Prop :=
  match m with
  | singleSlotBinaryMessage r => slotData r.addressed r.structured ≤ n
  | multipleSlotBinaryMessage r => slotData r.addressed r.structured + 20 ≤ n
  | _ => True

instance (m : Message) (n : Nat) : Decidable (m.HasRoom n) :=
  let hasRoom : Bool := match m with
    | singleSlotBinaryMessage r => slotData r.addressed r.structured ≤ n
    | multipleSlotBinaryMessage r => slotData r.addressed r.structured + 20 ≤ n
    | _ => true
  decidable_of_iff hasRoom (by cases m <;> simp [hasRoom, HasRoom])

end Message

namespace RecordKind

/-- The message of a kind with the fields of its head at their places. -/
def headAt (kind : RecordKind) (bs : Bits) : Message :=
  kind.visit fun R _ message =>
    message (WireRecord.ofHead ((WireRecord.layout R).valuesAt bs 0))

/-- The message of a kind with all fields at their places. -/
def messageAt (kind : RecordKind) (bs : Bits) : Message :=
  (kind.headAt bs).tailAt bs

end RecordKind

end AisStation
