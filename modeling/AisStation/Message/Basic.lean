import AisStation.Message.Record.Binary
import AisStation.Message.Record.Control
import AisStation.Message.Record.Report
import AisStation.Message.Record.Safety
import AisStation.Message.Record.StaticData

/-!
Message records of all kinds.

There are 24 kinds of records with a layout of their own, and bare messages, which have the header
only and belong to no type. A `Message` is a record of one of them; what holds or is computed for
every kind alike goes through `Message.visit` and `RecordKind.visit`, so that a kind is listed once
for messages and once for kinds.
-/

namespace AisStation

/-- The kinds of message records. -/
inductive RecordKind
  | bareMessage
  | positionReport
  | baseStationReport
  | staticAndVoyageData
  | addressedBinaryMessage
  | binaryAcknowledge
  | binaryBroadcastMessage
  | sarAircraftPositionReport
  | utcDateInquiry
  | addressedSafetyMessage
  | safetyBroadcastMessage
  | interrogation
  | assignedModeCommand
  | dgnssBroadcast
  | standardClassBPositionReport
  | extendedClassBPositionReport
  | dataLinkManagement
  | aidToNavigationReport
  | channelManagement
  | groupAssignmentCommand
  | staticDataReportPartA
  | staticDataReportPartB
  | singleSlotBinaryMessage
  | multipleSlotBinaryMessage
  | longRangeBroadcast
deriving DecidableEq, Repr

/-- A message record of any kind. -/
inductive Message
  | bareMessage (r : BareMessage)
  | positionReport (r : PositionReport)
  | baseStationReport (r : BaseStationReport)
  | staticAndVoyageData (r : StaticAndVoyageData)
  | addressedBinaryMessage (r : AddressedBinaryMessage)
  | binaryAcknowledge (r : BinaryAcknowledge)
  | binaryBroadcastMessage (r : BinaryBroadcastMessage)
  | sarAircraftPositionReport (r : SarAircraftPositionReport)
  | utcDateInquiry (r : UtcDateInquiry)
  | addressedSafetyMessage (r : AddressedSafetyMessage)
  | safetyBroadcastMessage (r : SafetyBroadcastMessage)
  | interrogation (r : Interrogation)
  | assignedModeCommand (r : AssignedModeCommand)
  | dgnssBroadcast (r : DgnssBroadcast)
  | standardClassBPositionReport (r : StandardClassBPositionReport)
  | extendedClassBPositionReport (r : ExtendedClassBPositionReport)
  | dataLinkManagement (r : DataLinkManagement)
  | aidToNavigationReport (r : AidToNavigationReport)
  | channelManagement (r : ChannelManagement)
  | groupAssignmentCommand (r : GroupAssignmentCommand)
  | staticDataReportPartA (r : StaticDataReportPartA)
  | staticDataReportPartB (r : StaticDataReportPartB)
  | singleSlotBinaryMessage (r : SingleSlotBinaryMessage)
  | multipleSlotBinaryMessage (r : MultipleSlotBinaryMessage)
  | longRangeBroadcast (r : LongRangeBroadcast)
deriving DecidableEq, Repr

namespace RecordKind

/-- All kinds. -/
def all : List RecordKind := [
  .bareMessage, .positionReport, .baseStationReport, .staticAndVoyageData, .addressedBinaryMessage,
  .binaryAcknowledge, .binaryBroadcastMessage, .sarAircraftPositionReport, .utcDateInquiry,
  .addressedSafetyMessage, .safetyBroadcastMessage, .interrogation, .assignedModeCommand,
  .dgnssBroadcast, .standardClassBPositionReport, .extendedClassBPositionReport,
  .dataLinkManagement, .aidToNavigationReport, .channelManagement, .groupAssignmentCommand,
  .staticDataReportPartA, .staticDataReportPartB, .singleSlotBinaryMessage,
  .multipleSlotBinaryMessage, .longRangeBroadcast]

/-- The name of a kind, as messages show it. -/
def name : RecordKind → String
  | bareMessage => "AisMessage"
  | positionReport => "PositionReport"
  | baseStationReport => "BaseStationReport"
  | staticAndVoyageData => "StaticAndVoyageData"
  | addressedBinaryMessage => "AddressedBinaryMessage"
  | binaryAcknowledge => "BinaryAcknowledge"
  | binaryBroadcastMessage => "BinaryBroadcastMessage"
  | sarAircraftPositionReport => "SarAircraftPositionReport"
  | utcDateInquiry => "UtcDateInquiry"
  | addressedSafetyMessage => "AddressedSafetyMessage"
  | safetyBroadcastMessage => "SafetyBroadcastMessage"
  | interrogation => "Interrogation"
  | assignedModeCommand => "AssignedModeCommand"
  | dgnssBroadcast => "DgnssBroadcast"
  | standardClassBPositionReport => "StandardClassBPositionReport"
  | extendedClassBPositionReport => "ExtendedClassBPositionReport"
  | dataLinkManagement => "DataLinkManagement"
  | aidToNavigationReport => "AidToNavigationReport"
  | channelManagement => "ChannelManagement"
  | groupAssignmentCommand => "GroupAssignmentCommand"
  | staticDataReportPartA => "StaticDataReportPartA"
  | staticDataReportPartB => "StaticDataReportPartB"
  | singleSlotBinaryMessage => "SingleSlotBinaryMessage"
  | multipleSlotBinaryMessage => "MultipleSlotBinaryMessage"
  | longRangeBroadcast => "LongRangeBroadcast"

/-- The message types that records of a kind carry. -/
def types : RecordKind → List Int
  | bareMessage => []
  | positionReport => [1, 2, 3]
  | baseStationReport => [4, 11]
  | staticAndVoyageData => [5]
  | addressedBinaryMessage => [6]
  | binaryAcknowledge => [7, 13]
  | binaryBroadcastMessage => [8]
  | sarAircraftPositionReport => [9]
  | utcDateInquiry => [10]
  | addressedSafetyMessage => [12]
  | safetyBroadcastMessage => [14]
  | interrogation => [15]
  | assignedModeCommand => [16]
  | dgnssBroadcast => [17]
  | standardClassBPositionReport => [18]
  | extendedClassBPositionReport => [19]
  | dataLinkManagement => [20]
  | aidToNavigationReport => [21]
  | channelManagement => [22]
  | groupAssignmentCommand => [23]
  | staticDataReportPartA => [24]
  | staticDataReportPartB => [24]
  | singleSlotBinaryMessage => [25]
  | multipleSlotBinaryMessage => [26]
  | longRangeBroadcast => [27]

/-- Applies a function of record types to the records of a kind. -/
def visit {α : Type} (kind : RecordKind)
    (f : (R : Type) → [WireRecord R] → (R → Message) → α) : α :=
  match kind with
  | bareMessage => f BareMessage .bareMessage
  | positionReport => f PositionReport .positionReport
  | baseStationReport => f BaseStationReport .baseStationReport
  | staticAndVoyageData => f StaticAndVoyageData .staticAndVoyageData
  | addressedBinaryMessage => f AddressedBinaryMessage .addressedBinaryMessage
  | binaryAcknowledge => f BinaryAcknowledge .binaryAcknowledge
  | binaryBroadcastMessage => f BinaryBroadcastMessage .binaryBroadcastMessage
  | sarAircraftPositionReport => f SarAircraftPositionReport .sarAircraftPositionReport
  | utcDateInquiry => f UtcDateInquiry .utcDateInquiry
  | addressedSafetyMessage => f AddressedSafetyMessage .addressedSafetyMessage
  | safetyBroadcastMessage => f SafetyBroadcastMessage .safetyBroadcastMessage
  | interrogation => f Interrogation .interrogation
  | assignedModeCommand => f AssignedModeCommand .assignedModeCommand
  | dgnssBroadcast => f DgnssBroadcast .dgnssBroadcast
  | standardClassBPositionReport => f StandardClassBPositionReport .standardClassBPositionReport
  | extendedClassBPositionReport => f ExtendedClassBPositionReport .extendedClassBPositionReport
  | dataLinkManagement => f DataLinkManagement .dataLinkManagement
  | aidToNavigationReport => f AidToNavigationReport .aidToNavigationReport
  | channelManagement => f ChannelManagement .channelManagement
  | groupAssignmentCommand => f GroupAssignmentCommand .groupAssignmentCommand
  | staticDataReportPartA => f StaticDataReportPartA .staticDataReportPartA
  | staticDataReportPartB => f StaticDataReportPartB .staticDataReportPartB
  | singleSlotBinaryMessage => f SingleSlotBinaryMessage .singleSlotBinaryMessage
  | multipleSlotBinaryMessage => f MultipleSlotBinaryMessage .multipleSlotBinaryMessage
  | longRangeBroadcast => f LongRangeBroadcast .longRangeBroadcast

/-- The fields of the head of records of a kind. -/
def layout (kind : RecordKind) : Layout :=
  kind.visit fun R _ _ => WireRecord.layout R

/-- The record of the named fields, all others at their defaults. -/
def ofFields (kind : RecordKind) (fields : Fields) : Message :=
  kind.visit fun R _ message => message (WireRecord.ofFields R fields)

/-- The record in which every field has its default. -/
def blank (kind : RecordKind) : Message :=
  kind.visit fun _ _ message => message WireRecord.blank

/-- Reads a record of a kind. -/
def read (kind : RecordKind) : Read Message :=
  kind.visit fun R _ message => message <$> WireRecord.read R

end RecordKind

namespace Message

/-- The kind of the record. -/
def kind : Message → RecordKind
  | bareMessage _ => .bareMessage
  | positionReport _ => .positionReport
  | baseStationReport _ => .baseStationReport
  | staticAndVoyageData _ => .staticAndVoyageData
  | addressedBinaryMessage _ => .addressedBinaryMessage
  | binaryAcknowledge _ => .binaryAcknowledge
  | binaryBroadcastMessage _ => .binaryBroadcastMessage
  | sarAircraftPositionReport _ => .sarAircraftPositionReport
  | utcDateInquiry _ => .utcDateInquiry
  | addressedSafetyMessage _ => .addressedSafetyMessage
  | safetyBroadcastMessage _ => .safetyBroadcastMessage
  | interrogation _ => .interrogation
  | assignedModeCommand _ => .assignedModeCommand
  | dgnssBroadcast _ => .dgnssBroadcast
  | standardClassBPositionReport _ => .standardClassBPositionReport
  | extendedClassBPositionReport _ => .extendedClassBPositionReport
  | dataLinkManagement _ => .dataLinkManagement
  | aidToNavigationReport _ => .aidToNavigationReport
  | channelManagement _ => .channelManagement
  | groupAssignmentCommand _ => .groupAssignmentCommand
  | staticDataReportPartA _ => .staticDataReportPartA
  | staticDataReportPartB _ => .staticDataReportPartB
  | singleSlotBinaryMessage _ => .singleSlotBinaryMessage
  | multipleSlotBinaryMessage _ => .multipleSlotBinaryMessage
  | longRangeBroadcast _ => .longRangeBroadcast

/-- Applies a function of records of any type to the record. -/
def visit {α : Type} (m : Message) (f : {R : Type} → [WireRecord R] → R → α) : α :=
  match m with
  | bareMessage r => f r
  | positionReport r => f r
  | baseStationReport r => f r
  | staticAndVoyageData r => f r
  | addressedBinaryMessage r => f r
  | binaryAcknowledge r => f r
  | binaryBroadcastMessage r => f r
  | sarAircraftPositionReport r => f r
  | utcDateInquiry r => f r
  | addressedSafetyMessage r => f r
  | safetyBroadcastMessage r => f r
  | interrogation r => f r
  | assignedModeCommand r => f r
  | dgnssBroadcast r => f r
  | standardClassBPositionReport r => f r
  | extendedClassBPositionReport r => f r
  | dataLinkManagement r => f r
  | aidToNavigationReport r => f r
  | channelManagement r => f r
  | groupAssignmentCommand r => f r
  | staticDataReportPartA r => f r
  | staticDataReportPartB r => f r
  | singleSlotBinaryMessage r => f r
  | multipleSlotBinaryMessage r => f r
  | longRangeBroadcast r => f r

/-- Type, repeat indicator and identity of the sender. -/
def header (m : Message) : Header :=
  m.visit WireRecord.toHeader

/-- The number of the message type. -/
def messageType (m : Message) : Int :=
  m.header.messageType

/-- All fields, in wire order. -/
def toFields (m : Message) : Fields :=
  m.visit WireRecord.toFields

/-- The bits of the record. -/
def bits (m : Message) : Except Malformed Bits :=
  m.visit WireRecord.encode

end Message

end AisStation
