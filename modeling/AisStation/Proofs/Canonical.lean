import AisStation.Proofs.Place

/-!
# Canonical messages

A message is canonical if its wire form holds all of it: every field that is sent fits its width,
and every field that the form of the message does not send has its default.
-/

namespace AisStation

/-- Opaque data behind `before` bits, in a message of at most `greatest` bits. -/
def FitsData (before greatest : Nat) (d : Blob) : Prop :=
  before + d.length ≤ greatest

instance (before greatest : Nat) (d : Blob) : Decidable (FitsData before greatest d) :=
  inferInstanceAs (Decidable (_ ≤ _))

/-- Address and application identifier of a slot message fit if they are announced, and have their
defaults if not. -/
structure FitsSlot (addressed structured : Bool) (destMmsi spare appId : Int) : Prop where
  destMmsi : if addressed then FitsUnsigned 30 destMmsi else destMmsi = 0
  spare : if addressed then FitsUnsigned 2 spare else spare = 0
  appId : if structured then FitsUnsigned 16 appId else appId = 0

instance (addressed structured : Bool) (destMmsi spare appId : Int) :
    Decidable (FitsSlot addressed structured destMmsi spare appId) :=
  decidable_of_iff (_ ∧ _ ∧ _) ⟨fun ⟨h, h', h''⟩ => ⟨h, h', h''⟩, fun ⟨h, h', h''⟩ => ⟨h, h', h''⟩⟩

/-- Both fields fit. -/
def Acknowledgement.Fits (ack : Acknowledgement) : Prop :=
  FitsUnsigned 30 ack.mmsi ∧ FitsUnsigned 2 ack.sequence

instance (ack : Acknowledgement) : Decidable ack.Fits :=
  inferInstanceAs (Decidable (_ ∧ _))

/-- All fields fit. -/
def SlotReservation.Fits (slot : SlotReservation) : Prop :=
  FitsUnsigned 12 slot.offset ∧ FitsUnsigned 4 slot.slots ∧ FitsUnsigned 3 slot.timeout ∧
    FitsUnsigned 11 slot.increment

instance (slot : SlotReservation) : Decidable slot.Fits :=
  inferInstanceAs (Decidable (_ ∧ _ ∧ _ ∧ _))

/-- One to four groups, all of which fit. -/
def FitsGroups {α : Type} (Fits : α → Prop) (groups : List α) : Prop :=
  1 ≤ groups.length ∧ groups.length ≤ maxGroups ∧ ∀ group ∈ groups, Fits group

instance {α : Type} (Fits : α → Prop) [DecidablePred Fits] (groups : List α) :
    Decidable (FitsGroups Fits groups) :=
  inferInstanceAs (Decidable (_ ∧ _ ∧ _))

/-- A text that fills the rest of a message: at most `count` characters of the six-bit alphabet. -/
def FitsRest (count : Nat) (s : String) : Prop :=
  s.length ≤ count ∧ ∀ c ∈ s.toList, c ∈ SixBit.alphabet

instance (count : Nat) (s : String) : Decidable (FitsRest count s) :=
  inferInstanceAs (Decidable (_ ∧ _))

namespace Interrogation

/-- The second request to the first station fits. -/
structure FitsSecond (r : Interrogation) (type12 : Int) : Prop where
  spare2 : FitsUnsigned 2 r.spare2
  type12 : FitsUnsigned 6 type12
  offset12 : FitsUnsigned 12 r.offset12
  spare3 : FitsUnsigned 2 r.spare3

instance (r : Interrogation) (type12 : Int) : Decidable (r.FitsSecond type12) :=
  decidable_of_iff (_ ∧ _ ∧ _ ∧ _)
    ⟨fun ⟨h1, h2, h3, h4⟩ => ⟨h1, h2, h3, h4⟩, fun ⟨h1, h2, h3, h4⟩ => ⟨h1, h2, h3, h4⟩⟩

/-- Without a second request its fields have their defaults. -/
structure LacksSecond (r : Interrogation) : Prop where
  spare2 : r.spare2 = 0
  offset12 : r.offset12 = 0
  spare3 : r.spare3 = 0

instance (r : Interrogation) : Decidable r.LacksSecond :=
  decidable_of_iff (_ ∧ _ ∧ _) ⟨fun ⟨h, h', h''⟩ => ⟨h, h', h''⟩, fun ⟨h, h', h''⟩ => ⟨h, h', h''⟩⟩

/-- The request to the second station fits. -/
structure FitsOther (r : Interrogation) (mmsi2 : Int) : Prop where
  mmsi2 : FitsUnsigned 30 mmsi2
  type21 : FitsUnsigned 6 r.type21
  offset21 : FitsUnsigned 12 r.offset21
  spare4 : FitsUnsigned 2 r.spare4

instance (r : Interrogation) (mmsi2 : Int) : Decidable (r.FitsOther mmsi2) :=
  decidable_of_iff (_ ∧ _ ∧ _ ∧ _)
    ⟨fun ⟨h1, h2, h3, h4⟩ => ⟨h1, h2, h3, h4⟩, fun ⟨h1, h2, h3, h4⟩ => ⟨h1, h2, h3, h4⟩⟩

/-- Without a second station its fields have their defaults. -/
structure LacksOther (r : Interrogation) : Prop where
  type21 : r.type21 = 0
  offset21 : r.offset21 = 0
  spare4 : r.spare4 = 0

instance (r : Interrogation) : Decidable r.LacksOther :=
  decidable_of_iff (_ ∧ _ ∧ _) ⟨fun ⟨h, h', h''⟩ => ⟨h, h', h''⟩, fun ⟨h, h', h''⟩ => ⟨h, h', h''⟩⟩

/-- The sections that are sent fit, and a second station comes only after a second request. -/
def FitsTail (r : Interrogation) : Prop :=
  match r.type12, r.mmsi2 with
  | none, none => r.LacksSecond ∧ r.LacksOther
  | some type12, none => r.FitsSecond type12 ∧ r.LacksOther
  | some type12, some mmsi2 => r.FitsSecond type12 ∧ r.FitsOther mmsi2
  | none, some _ => False

instance (r : Interrogation) : Decidable r.FitsTail := by
  unfold FitsTail
  split <;> infer_instance

end Interrogation

/-- The second station fits, or there is none and only the completing bits are sent. -/
def AssignedModeCommand.FitsTail (r : AssignedModeCommand) : Prop :=
  match r.destMmsiB with
  | some destMmsiB =>
    FitsUnsigned 30 destMmsiB ∧ FitsUnsigned 12 r.offsetB ∧ FitsUnsigned 10 r.incrementB ∧
      r.spare2 = 0
  | none => r.offsetB = 0 ∧ r.incrementB = 0 ∧ FitsUnsigned 4 r.spare2

instance (r : AssignedModeCommand) : Decidable r.FitsTail := by
  unfold AssignedModeCommand.FitsTail
  split <;> infer_instance

namespace ChannelManagement

/-- The two stations fit, and no region is given. -/
structure FitsStations (r : ChannelManagement) : Prop where
  destMmsiA : FitsUnsigned 30 r.destMmsiA
  spare2 : FitsUnsigned 5 r.spare2
  destMmsiB : FitsUnsigned 30 r.destMmsiB
  spare3 : FitsUnsigned 5 r.spare3
  nePosition : r.nePosition = {}
  swPosition : r.swPosition = {}

instance (r : ChannelManagement) : Decidable r.FitsStations :=
  decidable_of_iff (_ ∧ _ ∧ _ ∧ _ ∧ _ ∧ _)
    ⟨fun ⟨h1, h2, h3, h4, h5, h6⟩ => ⟨h1, h2, h3, h4, h5, h6⟩,
      fun ⟨h1, h2, h3, h4, h5, h6⟩ => ⟨h1, h2, h3, h4, h5, h6⟩⟩

/-- The region fits, and no stations are given. -/
structure FitsRegion (r : ChannelManagement) : Prop where
  nePosition : r.nePosition.Fits
  swPosition : r.swPosition.Fits
  destMmsiA : r.destMmsiA = 0
  spare2 : r.spare2 = 0
  destMmsiB : r.destMmsiB = 0
  spare3 : r.spare3 = 0

instance (r : ChannelManagement) : Decidable r.FitsRegion :=
  decidable_of_iff (_ ∧ _ ∧ _ ∧ _ ∧ _ ∧ _)
    ⟨fun ⟨h1, h2, h3, h4, h5, h6⟩ => ⟨h1, h2, h3, h4, h5, h6⟩,
      fun ⟨h1, h2, h3, h4, h5, h6⟩ => ⟨h1, h2, h3, h4, h5, h6⟩⟩

/-- The area that is sent fits, and so do the fields behind it. -/
structure FitsTail (r : ChannelManagement) : Prop where
  area : if r.addressed then r.FitsStations else r.FitsRegion
  zoneSize : FitsUnsigned 3 r.zoneSize
  spare4 : FitsUnsigned 23 r.spare4

instance (r : ChannelManagement) : Decidable r.FitsTail :=
  decidable_of_iff (_ ∧ _ ∧ _) ⟨fun ⟨h, h', h''⟩ => ⟨h, h', h''⟩, fun ⟨h, h', h''⟩ => ⟨h, h', h''⟩⟩

end ChannelManagement

namespace Message

/-- The tail of the message is kept by its wire form. -/
def FitsTail (m : Message) : Prop :=
  match m with
  | bareMessage _ => False
  | addressedBinaryMessage r => FitsData 88 1008 r.data
  | binaryAcknowledge r => FitsGroups Acknowledgement.Fits r.acks
  | binaryBroadcastMessage r => FitsData 56 1008 r.data
  | addressedSafetyMessage r => FitsRest AddressedSafetyMessage.maxText r.text
  | safetyBroadcastMessage r => FitsRest SafetyBroadcastMessage.maxText r.text
  | interrogation r => r.FitsTail
  | assignedModeCommand r => r.FitsTail
  | dgnssBroadcast r => FitsData 80 816 r.data
  | dataLinkManagement r => FitsGroups SlotReservation.Fits r.reservations
  | aidToNavigationReport r => FitsText AidToNavigationReport.maxExtension r.nameExtension
  | channelManagement r => r.FitsTail
  | singleSlotBinaryMessage r =>
    FitsSlot r.addressed r.structured r.destMmsi r.spare r.appId ∧
      FitsData (slotData r.addressed r.structured) 168 r.data
  | multipleSlotBinaryMessage r =>
    FitsSlot r.addressed r.structured r.destMmsi r.spare r.appId ∧
      FitsData (slotData r.addressed r.structured + 20) 1064 r.data ∧ FitsUnsigned 19 r.radio
  | _ => True

instance : (m : Message) → Decidable m.FitsTail
  | bareMessage _ => .isFalse id
  | addressedBinaryMessage r => inferInstanceAs (Decidable (FitsData 88 1008 r.data))
  | binaryAcknowledge r => inferInstanceAs (Decidable (FitsGroups Acknowledgement.Fits r.acks))
  | binaryBroadcastMessage r => inferInstanceAs (Decidable (FitsData 56 1008 r.data))
  | addressedSafetyMessage r =>
    inferInstanceAs (Decidable (FitsRest AddressedSafetyMessage.maxText r.text))
  | safetyBroadcastMessage r =>
    inferInstanceAs (Decidable (FitsRest SafetyBroadcastMessage.maxText r.text))
  | interrogation r => inferInstanceAs (Decidable r.FitsTail)
  | assignedModeCommand r => inferInstanceAs (Decidable r.FitsTail)
  | dgnssBroadcast r => inferInstanceAs (Decidable (FitsData 80 816 r.data))
  | dataLinkManagement r =>
    inferInstanceAs (Decidable (FitsGroups SlotReservation.Fits r.reservations))
  | aidToNavigationReport r =>
    inferInstanceAs (Decidable (FitsText AidToNavigationReport.maxExtension r.nameExtension))
  | channelManagement r => inferInstanceAs (Decidable r.FitsTail)
  | singleSlotBinaryMessage _ | multipleSlotBinaryMessage _ => inferInstanceAs (Decidable (_ ∧ _))
  | positionReport _ | baseStationReport _ | staticAndVoyageData _ | sarAircraftPositionReport _
  | utcDateInquiry _ | standardClassBPositionReport _ | extendedClassBPositionReport _
  | groupAssignmentCommand _ | staticDataReportPartA _ | staticDataReportPartB _
  | longRangeBroadcast _ => .isTrue trivial

/-- A part of a static data report says which part it is. -/
def FitsPart (m : Message) : Prop :=
  match m with
  | staticDataReportPartA r => r.partNumber = 0
  | staticDataReportPartB r => r.partNumber = 1
  | _ => True

instance (m : Message) : Decidable m.FitsPart :=
  let fits : Bool := match m with
    | staticDataReportPartA r => r.partNumber = 0
    | staticDataReportPartB r => r.partNumber = 1
    | _ => true
  decidable_of_iff fits (by cases m <;> simp [fits, FitsPart])

/-- The fields of the head fit their widths. -/
def FitsHead (m : Message) : Prop :=
  m.visit fun {R} _ r => (WireRecord.layout R).Fits (WireRecord.head r)

instance (m : Message) : Decidable m.FitsHead :=
  decidable_of_iff (m.visit fun {R} _ r => decide ((WireRecord.layout R).Fits (WireRecord.head r)))
    (by cases m <;> exact decide_eq_true_iff)

/-- A message that its wire form holds entirely. -/
structure Canonical (m : Message) : Prop where
  /-- The message carries a type of its own kind. -/
  type : m.messageType ∈ m.kind.types
  part : m.FitsPart
  head : m.FitsHead
  tail : m.FitsTail

instance (m : Message) : Decidable m.Canonical :=
  decidable_of_iff (_ ∧ _ ∧ _ ∧ _)
    ⟨fun ⟨h1, h2, h3, h4⟩ => ⟨h1, h2, h3, h4⟩, fun ⟨h1, h2, h3, h4⟩ => ⟨h1, h2, h3, h4⟩⟩

end Message

end AisStation
