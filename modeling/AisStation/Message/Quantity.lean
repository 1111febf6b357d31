import AisStation.Message.Codes
import AisStation.Number.Binary64

/-!
What raw field values mean.

Records keep raw values. The functions here give their meaning; a reserved value means that nothing
is known, or has a status of its own. Speeds and courses in tenths become numbers in double
precision, whole ones stay integers.
-/

namespace AisStation.Quantity

/-- The result of a conversion to double precision. -/
abbrev Real := Except NumberError (Option Binary64)

/-- The quotient of an integer, first brought to double precision, by a positive ratio in the same
precision. -/
def ratio (raw : Int) (num den : Nat) : Except NumberError Binary64 := do
  return (← Binary64.ofInt raw).div (.ofRatio false num den)

/-- A number of tenths. -/
def tenths (raw : Int) : Except NumberError Binary64 :=
  ratio raw 10 1

/-- Speed over ground in knots; 1023 is not available. -/
def speedKnots (raw : Int) : Real :=
  if raw = 1023 then .ok none else some <$> tenths raw

/-- The speed 1022 stands for 102.2 knots or more. -/
def speedSaturated (raw : Int) : Bool :=
  raw == 1022

/-- Speed in whole knots; 1023 is not available. -/
def wholeSpeed? (raw : Int) : Option Int :=
  if raw = 1023 then none else some raw

/-- Course over ground in degrees; 3600 and more is not available. -/
def courseDegrees (raw : Int) : Real :=
  if 3600 ≤ raw then .ok none else some <$> tenths raw

/-- Heading in degrees; 511 is not available. -/
def heading? (raw : Int) : Option Int :=
  if raw = 511 then none else some raw

/-- Rate of turn in degrees per minute, the square of the indicator over 4.733 with the indicator's
sign. The indicators of 127 to either side stand for 720; -128 is not available. -/
def rateOfTurn (raw : Int) : Real :=
  if raw = -128 then .ok none
  else if raw = 127 then .ok (some (.ofRatio false 720 1))
  else if raw = -127 then .ok (some (.ofRatio true 720 1))
  else do
    let x ← ratio raw 4733 1000
    match x.mul x with
    | .infinite _ => throw .squareTooLarge
    | square => return some (if 0 ≤ raw then square else square.neg)

/-- The status that a seconds field tells: 60 to 63 are four statuses, more than 63 is like 60. -/
def timeStampStatus (raw : Int) : TimeStampStatus :=
  if raw < 60 then .valid
  else if raw = 61 then .manualInput
  else if raw = 62 then .deadReckoning
  else if raw = 63 then .inoperative
  else .notAvailable

/-- The seconds, if the field tells any. -/
def utcSecond? (raw : Int) : Option Int :=
  if raw < 60 then some raw else none

/-- The device that fixed a position. -/
def positionFix? (raw : Int) : Option PositionFix :=
  PositionFix.ofCode? raw

/-- What the vessel is doing, by the low four bits. -/
def navigationStatus? (raw : Int) : Option NavigationStatus :=
  NavigationStatus.ofCode? (raw % 16)

/-- Whether the vessel is in a special maneuver. -/
def maneuver? (raw : Int) : Option Maneuver :=
  Maneuver.ofCode? raw

/-- Altitude in meters; 4095 is not available. -/
def altitudeMeters? (raw : Int) : Option Int :=
  if raw = 4095 then none else some raw

/-- Draught in meters, from tenths. -/
def draughtMeters (raw : Int) : Except NumberError Binary64 :=
  tenths raw

/-- Speed of a long-range report in whole knots; 63 is not available. -/
def longRangeSpeed? (raw : Int) : Option Int :=
  if raw = 63 then none else some raw

/-- Course of a long-range report in whole degrees; 511 is not available. -/
def longRangeCourse? (raw : Int) : Option Int :=
  if raw = 511 then none else some raw

end AisStation.Quantity
