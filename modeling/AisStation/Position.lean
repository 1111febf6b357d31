import AisStation.Bits.Writer
import AisStation.Number.Binary64

/-!
Positions on the earth, in the raw units of the wire.

A position keeps the two coordinates as transmitted, so that writing gives back the bits that were
read. The grid says how fine the units are and how wide the fields; each coordinate has one raw
value that means "not available". Degrees are derived: the raw value in two's complement divided by
the units of a degree.
-/

namespace AisStation

/-- The two grids of positions. -/
inductive Grid
  /-- Units of 1/10000 minute. -/
  | fine
  /-- Units of 1/10 minute. -/
  | coarse
deriving DecidableEq, Repr

namespace Grid

/-- The width of a longitude. -/
def longitudeBits : Grid → Nat
  | fine => 28
  | coarse => 18

/-- The width of a latitude. -/
def latitudeBits : Grid → Nat
  | fine => 27
  | coarse => 17

/-- Units of a degree. -/
def unitsPerDegree : Grid → Nat
  | fine => 600000
  | coarse => 600

/-- The longitude of 181 degrees, which no place has. -/
def longitudeUnavailable : Grid → Int
  | fine => 0x6791AC0
  | coarse => 0x1A838

/-- The latitude of 91 degrees, which no place has. -/
def latitudeUnavailable : Grid → Int
  | fine => 0x3412140
  | coarse => 0xD548

/-- The number of bits of a position. -/
def bits (grid : Grid) : Nat :=
  grid.longitudeBits + grid.latitudeBits

end Grid

/-- A position in raw units of a grid. -/
structure Position (grid : Grid) where
  longitude : Int := grid.longitudeUnavailable
  latitude : Int := grid.latitudeUnavailable
deriving DecidableEq, Repr

/-- An angle in degrees, as a caller gives it. -/
inductive Degrees
  | whole (degrees : Int)
  | real (degrees : Binary64)
deriving DecidableEq, Repr

namespace Degrees

/-- The angle in double precision. -/
def toBinary64 : Degrees → Except NumberError Binary64
  | whole n => Binary64.ofInt n
  | real x => .ok x

/-- The angle in raw units, rounded to the nearest and cut to `width` bits. -/
def toRaw (degrees : Degrees) (grid : Grid) (width : Nat) : Except NumberError Int := do
  let x ← degrees.toBinary64
  let units ← (x.mul (.ofRatio false grid.unitsPerDegree 1)).round
  return unsigned width units

end Degrees

namespace Position

variable {grid : Grid}

/-- Neither coordinate is available. -/
def unavailable (grid : Grid) : Position grid where

/-- The position with raw coordinates cut to their widths. -/
def ofRaw (grid : Grid) (longitude latitude : Int) : Position grid where
  longitude := unsigned grid.longitudeBits longitude
  latitude := unsigned grid.latitudeBits latitude

/-- The position with the given degrees, of which an absent one is not available. The longitude is
converted first. -/
def ofDegrees (grid : Grid) (latitude longitude : Option Degrees) :
    Except NumberError (Position grid) := do
  let rawLongitude ← match longitude with
    | none => pure grid.longitudeUnavailable
    | some d => d.toRaw grid grid.longitudeBits
  let rawLatitude ← match latitude with
    | none => pure grid.latitudeUnavailable
    | some d => d.toRaw grid grid.latitudeBits
  return ⟨rawLongitude, rawLatitude⟩

/-- The longitude is given, and not the value for one that is not available. -/
def longitudeAvailable (p : Position grid) : Bool :=
  p.longitude != grid.longitudeUnavailable

/-- The latitude is given, and not the value for one that is not available. -/
def latitudeAvailable (p : Position grid) : Bool :=
  p.latitude != grid.latitudeUnavailable

/-- Both coordinates are available. -/
def available (p : Position grid) : Bool :=
  p.longitudeAvailable && p.latitudeAvailable

/-- The longitude in signed units. -/
def signedLongitude (p : Position grid) : Int :=
  signed grid.longitudeBits p.longitude

/-- The latitude in signed units. -/
def signedLatitude (p : Position grid) : Int :=
  signed grid.latitudeBits p.latitude

/-- Signed units in degrees. -/
def degrees (grid : Grid) (units : Int) : Binary64 :=
  .ofRatio (units < 0) units.natAbs grid.unitsPerDegree

/-- The longitude in degrees, if available. -/
def longitudeDegrees? (p : Position grid) : Option Binary64 :=
  if p.longitudeAvailable then some (degrees grid p.signedLongitude) else none

/-- The latitude in degrees, if available. -/
def latitudeDegrees? (p : Position grid) : Option Binary64 :=
  if p.latitudeAvailable then some (degrees grid p.signedLatitude) else none

/-- The bits of a position, longitude first. -/
def encode (p : Position grid) : Bits :=
  Bits.ofInt grid.longitudeBits p.longitude ++ Bits.ofInt grid.latitudeBits p.latitude

/-- Reads a position, longitude first. -/
def read (grid : Grid) : Read (Position grid) := do
  let longitude ← Read.uint grid.longitudeBits
  let latitude ← Read.uint grid.latitudeBits
  return ⟨longitude, latitude⟩

/-- Appends a position. -/
def write (p : Position grid) : Write Unit :=
  Write.append p.encode

end Position

end AisStation
