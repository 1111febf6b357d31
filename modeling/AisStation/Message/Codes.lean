/-!
Coded values of message fields.

Each type lists the values that the standard names; `ofCode?` finds the value of a code and gives
nothing for a code without a name.
-/

namespace AisStation

/-- The kinds of messages. -/
inductive MessageType
  | positionReportScheduled
  | positionReportAssigned
  | positionReportResponse
  | baseStationReport
  | staticAndVoyageData
  | addressedBinary
  | binaryAcknowledge
  | binaryBroadcast
  | sarAircraftPosition
  | utcDateInquiry
  | utcDateResponse
  | addressedSafety
  | safetyAcknowledge
  | safetyBroadcast
  | interrogation
  | assignedModeCommand
  | dgnssBroadcast
  | standardClassBPosition
  | extendedClassBPosition
  | dataLinkManagement
  | aidToNavigation
  | channelManagement
  | groupAssignment
  | staticDataReport
  | singleSlotBinary
  | multipleSlotBinary
  | longRangeBroadcast
deriving DecidableEq, Repr

namespace MessageType

/-- All values, in the order of their codes. -/
def all : List MessageType := [
  .positionReportScheduled, .positionReportAssigned, .positionReportResponse, .baseStationReport,
  .staticAndVoyageData, .addressedBinary, .binaryAcknowledge, .binaryBroadcast,
  .sarAircraftPosition, .utcDateInquiry, .utcDateResponse, .addressedSafety, .safetyAcknowledge,
  .safetyBroadcast, .interrogation, .assignedModeCommand, .dgnssBroadcast, .standardClassBPosition,
  .extendedClassBPosition, .dataLinkManagement, .aidToNavigation, .channelManagement,
  .groupAssignment, .staticDataReport, .singleSlotBinary, .multipleSlotBinary, .longRangeBroadcast]

/-- The number that stands for a type on the wire. -/
def code : MessageType → Int
  | positionReportScheduled => 1
  | positionReportAssigned => 2
  | positionReportResponse => 3
  | baseStationReport => 4
  | staticAndVoyageData => 5
  | addressedBinary => 6
  | binaryAcknowledge => 7
  | binaryBroadcast => 8
  | sarAircraftPosition => 9
  | utcDateInquiry => 10
  | utcDateResponse => 11
  | addressedSafety => 12
  | safetyAcknowledge => 13
  | safetyBroadcast => 14
  | interrogation => 15
  | assignedModeCommand => 16
  | dgnssBroadcast => 17
  | standardClassBPosition => 18
  | extendedClassBPosition => 19
  | dataLinkManagement => 20
  | aidToNavigation => 21
  | channelManagement => 22
  | groupAssignment => 23
  | staticDataReport => 24
  | singleSlotBinary => 25
  | multipleSlotBinary => 26
  | longRangeBroadcast => 27

/-- The name of a type. -/
def label : MessageType → String
  | positionReportScheduled => "POSITION_REPORT_SCHEDULED"
  | positionReportAssigned => "POSITION_REPORT_ASSIGNED"
  | positionReportResponse => "POSITION_REPORT_RESPONSE"
  | baseStationReport => "BASE_STATION_REPORT"
  | staticAndVoyageData => "STATIC_AND_VOYAGE_DATA"
  | addressedBinary => "ADDRESSED_BINARY"
  | binaryAcknowledge => "BINARY_ACKNOWLEDGE"
  | binaryBroadcast => "BINARY_BROADCAST"
  | sarAircraftPosition => "SAR_AIRCRAFT_POSITION"
  | utcDateInquiry => "UTC_DATE_INQUIRY"
  | utcDateResponse => "UTC_DATE_RESPONSE"
  | addressedSafety => "ADDRESSED_SAFETY"
  | safetyAcknowledge => "SAFETY_ACKNOWLEDGE"
  | safetyBroadcast => "SAFETY_BROADCAST"
  | interrogation => "INTERROGATION"
  | assignedModeCommand => "ASSIGNED_MODE_COMMAND"
  | dgnssBroadcast => "DGNSS_BROADCAST"
  | standardClassBPosition => "STANDARD_CLASS_B_POSITION"
  | extendedClassBPosition => "EXTENDED_CLASS_B_POSITION"
  | dataLinkManagement => "DATA_LINK_MANAGEMENT"
  | aidToNavigation => "AID_TO_NAVIGATION"
  | channelManagement => "CHANNEL_MANAGEMENT"
  | groupAssignment => "GROUP_ASSIGNMENT"
  | staticDataReport => "STATIC_DATA_REPORT"
  | singleSlotBinary => "SINGLE_SLOT_BINARY"
  | multipleSlotBinary => "MULTIPLE_SLOT_BINARY"
  | longRangeBroadcast => "LONG_RANGE_BROADCAST"

/-- The value of a code. -/
def ofCode? (code : Int) : Option MessageType :=
  all.find? (·.code = code)

end MessageType

/-- What a vessel is doing. -/
inductive NavigationStatus
  | underWayUsingEngine
  | atAnchor
  | notUnderCommand
  | restrictedManoeuvrability
  | constrainedByDraught
  | moored
  | aground
  | engagedInFishing
  | underWaySailing
  | reservedHsc
  | reservedWig
  | powerDrivenTowingAstern
  | powerDrivenPushingAhead
  | reserved
  | aisSart
  | notDefined
deriving DecidableEq, Repr

namespace NavigationStatus

/-- All values, in the order of their codes. -/
def all : List NavigationStatus := [
  .underWayUsingEngine, .atAnchor, .notUnderCommand, .restrictedManoeuvrability,
  .constrainedByDraught, .moored, .aground, .engagedInFishing, .underWaySailing, .reservedHsc,
  .reservedWig, .powerDrivenTowingAstern, .powerDrivenPushingAhead, .reserved, .aisSart,
  .notDefined]

/-- The number that stands for a status on the wire. -/
def code : NavigationStatus → Int
  | underWayUsingEngine => 0
  | atAnchor => 1
  | notUnderCommand => 2
  | restrictedManoeuvrability => 3
  | constrainedByDraught => 4
  | moored => 5
  | aground => 6
  | engagedInFishing => 7
  | underWaySailing => 8
  | reservedHsc => 9
  | reservedWig => 10
  | powerDrivenTowingAstern => 11
  | powerDrivenPushingAhead => 12
  | reserved => 13
  | aisSart => 14
  | notDefined => 15

/-- The name of a status. -/
def label : NavigationStatus → String
  | underWayUsingEngine => "UNDER_WAY_USING_ENGINE"
  | atAnchor => "AT_ANCHOR"
  | notUnderCommand => "NOT_UNDER_COMMAND"
  | restrictedManoeuvrability => "RESTRICTED_MANOEUVRABILITY"
  | constrainedByDraught => "CONSTRAINED_BY_DRAUGHT"
  | moored => "MOORED"
  | aground => "AGROUND"
  | engagedInFishing => "ENGAGED_IN_FISHING"
  | underWaySailing => "UNDER_WAY_SAILING"
  | reservedHsc => "RESERVED_HSC"
  | reservedWig => "RESERVED_WIG"
  | powerDrivenTowingAstern => "POWER_DRIVEN_TOWING_ASTERN"
  | powerDrivenPushingAhead => "POWER_DRIVEN_PUSHING_AHEAD"
  | reserved => "RESERVED"
  | aisSart => "AIS_SART"
  | notDefined => "NOT_DEFINED"

/-- The value of a code. -/
def ofCode? (code : Int) : Option NavigationStatus :=
  all.find? (·.code = code)

end NavigationStatus

/-- Electronic position fixing devices. Codes 9 to 14 are not used. -/
inductive PositionFix
  | undefined
  | gps
  | glonass
  | combinedGpsGlonass
  | loranC
  | chayka
  | integratedNavigation
  | surveyed
  | galileo
  | internalGnss
deriving DecidableEq, Repr

namespace PositionFix

/-- All values, in the order of their codes. -/
def all : List PositionFix := [
  .undefined, .gps, .glonass, .combinedGpsGlonass, .loranC, .chayka, .integratedNavigation,
  .surveyed, .galileo, .internalGnss]

/-- The number that stands for a kind of fix on the wire. -/
def code : PositionFix → Int
  | undefined => 0
  | gps => 1
  | glonass => 2
  | combinedGpsGlonass => 3
  | loranC => 4
  | chayka => 5
  | integratedNavigation => 6
  | surveyed => 7
  | galileo => 8
  | internalGnss => 15

/-- The name of a kind of fix. -/
def label : PositionFix → String
  | undefined => "UNDEFINED"
  | gps => "GPS"
  | glonass => "GLONASS"
  | combinedGpsGlonass => "COMBINED_GPS_GLONASS"
  | loranC => "LORAN_C"
  | chayka => "CHAYKA"
  | integratedNavigation => "INTEGRATED_NAVIGATION"
  | surveyed => "SURVEYED"
  | galileo => "GALILEO"
  | internalGnss => "INTERNAL_GNSS"

/-- The value of a code. -/
def ofCode? (code : Int) : Option PositionFix :=
  all.find? (·.code = code)

end PositionFix

/-- Whether a vessel is in a special maneuver. -/
inductive Maneuver
  | notAvailable
  | noSpecialManeuver
  | specialManeuver
deriving DecidableEq, Repr

namespace Maneuver

/-- All values, in the order of their codes. -/
def all : List Maneuver := [
  .notAvailable, .noSpecialManeuver, .specialManeuver]

/-- The number that stands for an indicator on the wire. -/
def code : Maneuver → Int
  | notAvailable => 0
  | noSpecialManeuver => 1
  | specialManeuver => 2

/-- The name of an indicator. -/
def label : Maneuver → String
  | notAvailable => "NOT_AVAILABLE"
  | noSpecialManeuver => "NO_SPECIAL_MANEUVER"
  | specialManeuver => "SPECIAL_MANEUVER"

/-- The value of a code. -/
def ofCode? (code : Int) : Option Maneuver :=
  all.find? (·.code = code)

end Maneuver

/-- The stations that a group assignment addresses. -/
inductive StationType
  | allMobiles
  | reserved1
  | allClassB
  | sarAirborne
  | aidToNavigation
  | classBShipborne
  | regional6
  | regional7
  | regional8
  | regional9
deriving DecidableEq, Repr

namespace StationType

/-- All values, in the order of their codes. -/
def all : List StationType := [
  .allMobiles, .reserved1, .allClassB, .sarAirborne, .aidToNavigation, .classBShipborne,
  .regional6, .regional7, .regional8, .regional9]

/-- The number that stands for a type of station on the wire. -/
def code : StationType → Int
  | allMobiles => 0
  | reserved1 => 1
  | allClassB => 2
  | sarAirborne => 3
  | aidToNavigation => 4
  | classBShipborne => 5
  | regional6 => 6
  | regional7 => 7
  | regional8 => 8
  | regional9 => 9

/-- The name of a type of station. -/
def label : StationType → String
  | allMobiles => "ALL_MOBILES"
  | reserved1 => "RESERVED_1"
  | allClassB => "ALL_CLASS_B"
  | sarAirborne => "SAR_AIRBORNE"
  | aidToNavigation => "AID_TO_NAVIGATION"
  | classBShipborne => "CLASS_B_SHIPBORNE"
  | regional6 => "REGIONAL_6"
  | regional7 => "REGIONAL_7"
  | regional8 => "REGIONAL_8"
  | regional9 => "REGIONAL_9"

/-- The value of a code. -/
def ofCode? (code : Int) : Option StationType :=
  all.find? (·.code = code)

end StationType

/-- Aids to navigation. -/
inductive AidType
  | unspecified
  | referencePoint
  | racon
  | fixedStructure
  | lightWithoutSectors
  | lightWithSectors
  | leadingLightFront
  | leadingLightRear
  | beaconCardinalN
  | beaconCardinalE
  | beaconCardinalS
  | beaconCardinalW
  | beaconPortHand
  | beaconStarboardHand
  | beaconPreferredChannelPort
  | beaconPreferredChannelStarboard
  | beaconIsolatedDanger
  | beaconSafeWater
  | beaconSpecialMark
  | cardinalMarkN
  | cardinalMarkE
  | cardinalMarkS
  | cardinalMarkW
  | portHandMark
  | starboardHandMark
  | preferredChannelPort
  | preferredChannelStarboard
  | isolatedDanger
  | safeWater
  | specialMark
  | lightVessel
deriving DecidableEq, Repr

namespace AidType

/-- All values, in the order of their codes. -/
def all : List AidType := [
  .unspecified, .referencePoint, .racon, .fixedStructure, .lightWithoutSectors, .lightWithSectors,
  .leadingLightFront, .leadingLightRear, .beaconCardinalN, .beaconCardinalE, .beaconCardinalS,
  .beaconCardinalW, .beaconPortHand, .beaconStarboardHand, .beaconPreferredChannelPort,
  .beaconPreferredChannelStarboard, .beaconIsolatedDanger, .beaconSafeWater, .beaconSpecialMark,
  .cardinalMarkN, .cardinalMarkE, .cardinalMarkS, .cardinalMarkW, .portHandMark,
  .starboardHandMark, .preferredChannelPort, .preferredChannelStarboard, .isolatedDanger,
  .safeWater, .specialMark, .lightVessel]

/-- The number that stands for a type of aid on the wire. -/
def code : AidType → Int
  | unspecified => 0
  | referencePoint => 1
  | racon => 2
  | fixedStructure => 3
  | lightWithoutSectors => 5
  | lightWithSectors => 6
  | leadingLightFront => 7
  | leadingLightRear => 8
  | beaconCardinalN => 9
  | beaconCardinalE => 10
  | beaconCardinalS => 11
  | beaconCardinalW => 12
  | beaconPortHand => 13
  | beaconStarboardHand => 14
  | beaconPreferredChannelPort => 15
  | beaconPreferredChannelStarboard => 16
  | beaconIsolatedDanger => 17
  | beaconSafeWater => 18
  | beaconSpecialMark => 19
  | cardinalMarkN => 20
  | cardinalMarkE => 21
  | cardinalMarkS => 22
  | cardinalMarkW => 23
  | portHandMark => 24
  | starboardHandMark => 25
  | preferredChannelPort => 26
  | preferredChannelStarboard => 27
  | isolatedDanger => 28
  | safeWater => 29
  | specialMark => 30
  | lightVessel => 31

/-- The name of a type of aid. -/
def label : AidType → String
  | unspecified => "UNSPECIFIED"
  | referencePoint => "REFERENCE_POINT"
  | racon => "RACON"
  | fixedStructure => "FIXED_STRUCTURE"
  | lightWithoutSectors => "LIGHT_WITHOUT_SECTORS"
  | lightWithSectors => "LIGHT_WITH_SECTORS"
  | leadingLightFront => "LEADING_LIGHT_FRONT"
  | leadingLightRear => "LEADING_LIGHT_REAR"
  | beaconCardinalN => "BEACON_CARDINAL_N"
  | beaconCardinalE => "BEACON_CARDINAL_E"
  | beaconCardinalS => "BEACON_CARDINAL_S"
  | beaconCardinalW => "BEACON_CARDINAL_W"
  | beaconPortHand => "BEACON_PORT_HAND"
  | beaconStarboardHand => "BEACON_STARBOARD_HAND"
  | beaconPreferredChannelPort => "BEACON_PREFERRED_CHANNEL_PORT"
  | beaconPreferredChannelStarboard => "BEACON_PREFERRED_CHANNEL_STARBOARD"
  | beaconIsolatedDanger => "BEACON_ISOLATED_DANGER"
  | beaconSafeWater => "BEACON_SAFE_WATER"
  | beaconSpecialMark => "BEACON_SPECIAL_MARK"
  | cardinalMarkN => "CARDINAL_MARK_N"
  | cardinalMarkE => "CARDINAL_MARK_E"
  | cardinalMarkS => "CARDINAL_MARK_S"
  | cardinalMarkW => "CARDINAL_MARK_W"
  | portHandMark => "PORT_HAND_MARK"
  | starboardHandMark => "STARBOARD_HAND_MARK"
  | preferredChannelPort => "PREFERRED_CHANNEL_PORT"
  | preferredChannelStarboard => "PREFERRED_CHANNEL_STARBOARD"
  | isolatedDanger => "ISOLATED_DANGER"
  | safeWater => "SAFE_WATER"
  | specialMark => "SPECIAL_MARK"
  | lightVessel => "LIGHT_VESSEL"

/-- The value of a code. -/
def ofCode? (code : Int) : Option AidType :=
  all.find? (·.code = code)

end AidType

/-- The meaning of the seconds field of a time stamp. -/
inductive TimeStampStatus
  | valid
  | notAvailable
  | manualInput
  | deadReckoning
  | inoperative
deriving DecidableEq, Repr

namespace TimeStampStatus

/-- The name of a status. -/
def label : TimeStampStatus → String
  | valid => "VALID"
  | notAvailable => "NOT_AVAILABLE"
  | manualInput => "MANUAL_INPUT"
  | deadReckoning => "DEAD_RECKONING"
  | inoperative => "INOPERATIVE"

/-- The lower-case word for the status. -/
def word : TimeStampStatus → String
  | valid => "valid"
  | notAvailable => "not_available"
  | manualInput => "manual_input"
  | deadReckoning => "dead_reckoning"
  | inoperative => "inoperative"

end TimeStampStatus

end AisStation
