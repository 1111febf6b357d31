import AisStation.Message.Basic

/-!
The lengths that messages may have.

A message of a fixed layout has one of a few exact lengths, a message with a free payload any length
of a range. A static data report has two kinds of records and may have the length of either.
-/

namespace AisStation

/-- The lengths, in bits, that a message may have. -/
inductive Lengths
  | exactly (lengths : List Nat)
  | between (least greatest : Nat)
deriving DecidableEq, Repr

namespace Lengths

/-- Is `n` one of the lengths? -/
def accepts (lengths : Lengths) (n : Int) : Bool :=
  match lengths with
  | exactly lengths => lengths.any fun (length : Nat) => n == length
  | between least greatest => (least : Int) ≤ n && n ≤ greatest

/-- The lengths in words. -/
def describe : Lengths → String
  | exactly lengths => "/".intercalate (lengths.map toString)
  | between least greatest => s!"{least}..{greatest}"

end Lengths

/-- The lengths of records of a kind. -/
def RecordKind.lengths : RecordKind → Lengths
  | .bareMessage => .exactly []
  | .positionReport => .exactly [168]
  | .baseStationReport => .exactly [168]
  | .staticAndVoyageData => .exactly [424]
  | .addressedBinaryMessage => .between 88 1008
  | .binaryAcknowledge => .exactly [72, 104, 136, 168]
  | .binaryBroadcastMessage => .between 56 1008
  | .sarAircraftPositionReport => .exactly [168]
  | .utcDateInquiry => .exactly [72]
  | .addressedSafetyMessage => .between 72 1008
  | .safetyBroadcastMessage => .between 40 1008
  | .interrogation => .exactly [88, 110, 160]
  | .assignedModeCommand => .exactly [96, 144]
  | .dgnssBroadcast => .between 80 816
  | .standardClassBPositionReport => .exactly [168]
  | .extendedClassBPositionReport => .exactly [312]
  | .dataLinkManagement => .exactly [72, 104, 136, 160]
  | .aidToNavigationReport => .between 272 360
  | .channelManagement => .exactly [168]
  | .groupAssignmentCommand => .exactly [160]
  | .staticDataReportPartA => .exactly [160]
  | .staticDataReportPartB => .exactly [168]
  | .singleSlotBinaryMessage => .between 40 168
  | .multipleSlotBinaryMessage => .between 60 1064
  | .longRangeBroadcast => .exactly [96]

/-- What carries messages of a type: records of one kind, or the two parts of a static data report.
-/
inductive Carrier
  | record (kind : RecordKind)
  | staticData
deriving DecidableEq, Repr

namespace Carrier

/-- The carrier of a message type; types outside 1 to 27 have none. -/
def ofType? (messageType : Int) : Option Carrier :=
  if messageType = 24 then some staticData
  else (RecordKind.all.find? fun kind => messageType ∈ kind.types).map record

/-- The lengths of messages. -/
def lengths : Carrier → Lengths
  | record kind => kind.lengths
  | staticData => .exactly [160, 168]

/-- May records of a kind be carried? -/
def carries : Carrier → RecordKind → Bool
  | record kind, kind' => kind == kind'
  | staticData, kind => kind == .staticDataReportPartA || kind == .staticDataReportPartB

end Carrier

end AisStation
