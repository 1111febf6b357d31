import AisStation.Message.Basic
import AisStation.Message.Quantity

/-!
What the fields of a record mean.

A view exists for the records that have its fields. `Message.views` lists the views of a record
under their names. A quantity may be unavailable, and a conversion of a raw value far beyond its
field may fail.
-/

namespace AisStation

/-- A measured quantity, in whole units or in double precision. -/
inductive Measure
  | whole (n : Int)
  | real (x : Binary64)
deriving DecidableEq, Repr

/-- The dimensions of a vessel or aid around the reference point of its position. -/
structure Dimensions where
  toBow : Int
  toStern : Int
  toPort : Int
  toStarboard : Int
deriving DecidableEq, Repr

namespace Dimensions

/-- The distance from bow to stern. -/
def length (d : Dimensions) : Int :=
  d.toBow + d.toStern

/-- The distance from port to starboard. -/
def beam (d : Dimensions) : Int :=
  d.toPort + d.toStarboard

end Dimensions

/-- The integer whose bits are those of `a` or of `b`, in two's complement. -/
def bitOr : Int → Int → Int
  | .ofNat a, .ofNat b => .ofNat (a ||| b)
  | .ofNat a, .negSucc b => .negSucc (b ^^^ (b &&& a))
  | .negSucc a, .ofNat b => .negSucc (a ^^^ (a &&& b))
  | .negSucc a, .negSucc b => .negSucc (a &&& b)

namespace StaticDataReportPartB

-- Powers are those of core, also where Mathlib offers others. A numeral as an exponent needs its type
-- for that.
attribute [local instance (high)] instPowNat

/-- An auxiliary craft has an identity that begins with 98. -/
def isAuxiliary (r : StaticDataReportPartB) : Bool :=
  ['9', '8'].isPrefixOf (toString r.mmsi).toList

/-- The identity of the mother ship of an auxiliary craft: the bits of its dimensions. -/
def mothership? (r : StaticDataReportPartB) : Option Int :=
  if r.isAuxiliary then
    some (bitOr (bitOr (bitOr (r.toBow * 2 ^ (21 : Nat)) (r.toStern * 2 ^ (12 : Nat)))
      (r.toPort * 2 ^ (6 : Nat))) r.toStarboard)
  else none

end StaticDataReportPartB

/-- The name of an aid to navigation with its extension, as it is displayed. -/
def AidToNavigationReport.fullName (r : AidToNavigationReport) : String :=
  String.ofList (SixBit.display (r.name.toList ++ r.nameExtension.toList))

namespace Message

/-- The kind of the message, by its type. -/
def messageKind? (m : Message) : Option MessageType :=
  MessageType.ofCode? m.messageType

/-- A speed or course in tenths. -/
def inTenths (x : Quantity.Real) : Except NumberError (Option Measure) :=
  x.map (·.map .real)

/-- Speed over ground in knots. -/
def speed? : Message → Option (Except NumberError (Option Measure))
  | positionReport r => some (inTenths (Quantity.speedKnots r.sog))
  | standardClassBPositionReport r => some (inTenths (Quantity.speedKnots r.sog))
  | extendedClassBPositionReport r => some (inTenths (Quantity.speedKnots r.sog))
  | sarAircraftPositionReport r => some (.ok ((Quantity.wholeSpeed? r.sog).map .whole))
  | longRangeBroadcast r => some (.ok ((Quantity.longRangeSpeed? r.sog).map .whole))
  | _ => none

/-- Does the speed stand for itself or more? -/
def speedSaturated? : Message → Option Bool
  | positionReport r => some (Quantity.speedSaturated r.sog)
  | standardClassBPositionReport r => some (Quantity.speedSaturated r.sog)
  | extendedClassBPositionReport r => some (Quantity.speedSaturated r.sog)
  | _ => none

/-- Course over ground in degrees. -/
def course? : Message → Option (Except NumberError (Option Measure))
  | positionReport r => some (inTenths (Quantity.courseDegrees r.cog))
  | standardClassBPositionReport r => some (inTenths (Quantity.courseDegrees r.cog))
  | extendedClassBPositionReport r => some (inTenths (Quantity.courseDegrees r.cog))
  | sarAircraftPositionReport r => some (inTenths (Quantity.courseDegrees r.cog))
  | longRangeBroadcast r => some (.ok ((Quantity.longRangeCourse? r.cog).map .whole))
  | _ => none

/-- Heading in degrees. -/
def trueHeading? : Message → Option (Option Int)
  | positionReport r => some (Quantity.heading? r.heading)
  | standardClassBPositionReport r => some (Quantity.heading? r.heading)
  | extendedClassBPositionReport r => some (Quantity.heading? r.heading)
  | _ => none

/-- The seconds field of a time stamp. -/
def timeStamp? : Message → Option Int
  | positionReport r => some r.second
  | sarAircraftPositionReport r => some r.second
  | standardClassBPositionReport r => some r.second
  | extendedClassBPositionReport r => some r.second
  | aidToNavigationReport r => some r.second
  | _ => none

/-- The status of the time stamp. -/
def timeStampStatus? (m : Message) : Option TimeStampStatus :=
  m.timeStamp?.map Quantity.timeStampStatus

/-- The second of the time stamp. -/
def utcSecond? (m : Message) : Option (Option Int) :=
  m.timeStamp?.map Quantity.utcSecond?

/-- The device that fixed the position. -/
def positionFix? : Message → Option (Option PositionFix)
  | baseStationReport r => some (Quantity.positionFix? r.epfd)
  | staticAndVoyageData r => some (Quantity.positionFix? r.epfd)
  | extendedClassBPositionReport r => some (Quantity.positionFix? r.epfd)
  | aidToNavigationReport r => some (Quantity.positionFix? r.epfd)
  | _ => none

/-- The dimensions. -/
def dimensions? : Message → Option Dimensions
  | staticAndVoyageData r => some ⟨r.toBow, r.toStern, r.toPort, r.toStarboard⟩
  | extendedClassBPositionReport r => some ⟨r.toBow, r.toStern, r.toPort, r.toStarboard⟩
  | aidToNavigationReport r => some ⟨r.toBow, r.toStern, r.toPort, r.toStarboard⟩
  | staticDataReportPartB r => some ⟨r.toBow, r.toStern, r.toPort, r.toStarboard⟩
  | _ => none

/-- What the vessel is doing. -/
def navigationStatus? : Message → Option (Option NavigationStatus)
  | positionReport r => some (Quantity.navigationStatus? r.navStatus)
  | longRangeBroadcast r => some (Quantity.navigationStatus? r.navStatus)
  | _ => none

end Message

/-- The value of a view. -/
inductive Reading
  | absent
  | whole (n : Int)
  | real (x : Binary64)
  | truth (b : Bool)
  | text (s : String)
  /-- A value with a name and a code. -/
  | coded (label : String) (code : Int)
  | status (s : TimeStampStatus)
  | header (h : Header)
deriving DecidableEq, Repr

namespace Reading

/-- The reading of a measure that may be absent. -/
def ofMeasure? : Option Measure → Reading
  | some (.whole n) => whole n
  | some (.real x) => real x
  | none => absent

/-- The reading of a real number that may be absent. -/
def ofReal? : Option Binary64 → Reading
  | some x => real x
  | none => absent

/-- The reading of an integer that may be absent. -/
def ofInt? : Option Int → Reading
  | some n => whole n
  | none => absent

/-- The reading of a value that has a label and a code. -/
def ofCoded? {α : Type} (label : α → String) (code : α → Int) : Option α → Reading
  | some a => coded (label a) (code a)
  | none => absent

end Reading

namespace Message

/-- The views that only one or two kinds of records have. -/
def particularViews : Message → List (String × Except NumberError Reading)
  | positionReport r => [
    ("rate_of_turn", (Quantity.rateOfTurn r.rot).map .ofReal?),
    ("maneuver_indicator",
      .ok (.ofCoded? Maneuver.label Maneuver.code (Quantity.maneuver? r.maneuver)))]
  | staticAndVoyageData r => [
    ("draught_meters", (Quantity.draughtMeters r.draught).map .real)]
  | sarAircraftPositionReport r => [
    ("altitude_meters", .ok (.ofInt? (Quantity.altitudeMeters? r.altitude)))]
  | aidToNavigationReport r => [
    ("full_name", .ok (.text r.fullName)),
    ("aid", .ok (.ofCoded? AidType.label AidType.code (AidType.ofCode? r.aidType)))]
  | groupAssignmentCommand r => [
    ("station", .ok (.ofCoded? StationType.label StationType.code
      (StationType.ofCode? r.stationType)))]
  | staticDataReportPartB r => [
    ("is_auxiliary", .ok (.truth r.isAuxiliary)),
    ("mothership_mmsi", .ok (.ofInt? r.mothership?))]
  | _ => []

/-- All views of a record, under their names. -/
def views (m : Message) : List (String × Except NumberError Reading) :=
  [("header", .ok (.header m.header)),
    ("kind", .ok (.ofCoded? MessageType.label MessageType.code m.messageKind?))] ++
  (m.speed?.map fun x => ("speed_knots", x.map Reading.ofMeasure?)).toList ++
  (m.speedSaturated?.map fun b => ("speed_saturated", .ok (.truth b))).toList ++
  (m.course?.map fun x => ("course", x.map Reading.ofMeasure?)).toList ++
  (m.trueHeading?.map fun x => ("true_heading", .ok (.ofInt? x))).toList ++
  (m.timeStampStatus?.map fun s => ("timestamp_status", .ok (.status s))).toList ++
  (m.utcSecond?.map fun x => ("utc_second", .ok (.ofInt? x))).toList ++
  (m.positionFix?.map fun x =>
    ("position_fix_type", .ok (.ofCoded? PositionFix.label PositionFix.code x))).toList ++
  (m.dimensions?.map fun d => ("length", .ok (.whole d.length))).toList ++
  (m.dimensions?.map fun d => ("beam", .ok (.whole d.beam))).toList ++
  (m.navigationStatus?.map fun x =>
    ("navigation_status", .ok (.ofCoded? NavigationStatus.label NavigationStatus.code x))).toList ++
  m.particularViews

end Message

end AisStation
