import AisStation.Message.Layout

/-!
Reports of a station's own position, and messages of which only the header is known.

All of them are fixed layouts; they have no tail.
-/

namespace AisStation

/-- A message of which only the header is known. -/
structure BareMessage extends Header where
  messageType := 0
deriving DecidableEq, Repr

/-- The head of the record on the wire. -/
@[reducible] def BareMessage.layout : Layout := .withHeader []

instance : WireRecord BareMessage where
  layout := BareMessage.layout
  head r := (r.messageType, r.repeatIndicator, r.mmsi, ())
  ofHead
    | (messageType, repeatIndicator, mmsi, ()) => { messageType, repeatIndicator, mmsi }
  blank := {}
  toHeader r := r.toHeader

/-- Position report of a class A vessel (types 1, 2, 3). The last field is the communication state.
-/
structure PositionReport extends Header where
  messageType := 1
  navStatus : Int := 15
  rot : Int := -128
  sog : Int := 1023
  positionAccuracy : Bool := false
  position : Position .fine := {}
  cog : Int := 3600
  heading : Int := 511
  second : Int := 60
  maneuver : Int := 0
  spare : Int := 0
  raim : Bool := false
  radio : Int := 0
deriving DecidableEq, Repr

/-- The head of the record on the wire. -/
@[reducible] def PositionReport.layout : Layout := .withHeader [
  ⟨"nav_status", .unsigned 4⟩, ⟨"rot", .signed 8⟩, ⟨"sog", .unsigned 10⟩,
  ⟨"position_accuracy", .flag⟩, ⟨"position", .position .fine⟩, ⟨"cog", .unsigned 12⟩,
  ⟨"heading", .unsigned 9⟩, ⟨"second", .unsigned 6⟩, ⟨"maneuver", .unsigned 2⟩, ⟨"spare", .spare 3⟩,
  ⟨"raim", .flag⟩, ⟨"radio", .unsigned 19⟩]

instance : WireRecord PositionReport where
  layout := PositionReport.layout
  head r :=
    (r.messageType, r.repeatIndicator, r.mmsi, r.navStatus, r.rot, r.sog, r.positionAccuracy,
      r.position, r.cog, r.heading, r.second, r.maneuver, r.spare, r.raim, r.radio, ())
  ofHead
    | (messageType, repeatIndicator, mmsi, navStatus, rot, sog, positionAccuracy, position, cog,
      heading, second, maneuver, spare, raim, radio, ()) => {
        messageType, repeatIndicator, mmsi, navStatus, rot, sog, positionAccuracy, position, cog,
        heading, second, maneuver, spare, raim, radio }
  blank := {}
  toHeader r := r.toHeader

/-- Report of a base station (4), and answer to an inquiry for date and time (11). -/
structure BaseStationReport extends Header where
  messageType := 4
  year : Int := 0
  month : Int := 0
  day : Int := 0
  hour : Int := 24
  minute : Int := 60
  second : Int := 60
  positionAccuracy : Bool := false
  position : Position .fine := {}
  epfd : Int := 0
  spare : Int := 0
  raim : Bool := false
  radio : Int := 0
deriving DecidableEq, Repr

/-- The head of the record on the wire. -/
@[reducible] def BaseStationReport.layout : Layout := .withHeader [
  ⟨"year", .unsigned 14⟩, ⟨"month", .unsigned 4⟩, ⟨"day", .unsigned 5⟩, ⟨"hour", .unsigned 5⟩,
  ⟨"minute", .unsigned 6⟩, ⟨"second", .unsigned 6⟩, ⟨"position_accuracy", .flag⟩,
  ⟨"position", .position .fine⟩, ⟨"epfd", .unsigned 4⟩, ⟨"spare", .spare 10⟩, ⟨"raim", .flag⟩,
  ⟨"radio", .unsigned 19⟩]

instance : WireRecord BaseStationReport where
  layout := BaseStationReport.layout
  head r :=
    (r.messageType, r.repeatIndicator, r.mmsi, r.year, r.month, r.day, r.hour, r.minute, r.second,
      r.positionAccuracy, r.position, r.epfd, r.spare, r.raim, r.radio, ())
  ofHead
    | (messageType, repeatIndicator, mmsi, year, month, day, hour, minute, second, positionAccuracy,
      position, epfd, spare, raim, radio, ()) => {
        messageType, repeatIndicator, mmsi, year, month, day, hour, minute, second,
        positionAccuracy, position, epfd, spare, raim, radio }
  blank := {}
  toHeader r := r.toHeader

/-- Position report of a search and rescue aircraft (9). The speed is in whole knots. -/
structure SarAircraftPositionReport extends Header where
  messageType := 9
  altitude : Int := 4095
  sog : Int := 1023
  positionAccuracy : Bool := false
  position : Position .fine := {}
  cog : Int := 3600
  second : Int := 60
  regional : Int := 0
  dte : Bool := false
  spare : Int := 0
  assigned : Bool := false
  raim : Bool := false
  radioSelector : Bool := false
  radio : Int := 0
deriving DecidableEq, Repr

/-- The head of the record on the wire. -/
@[reducible] def SarAircraftPositionReport.layout : Layout := .withHeader [
  ⟨"altitude", .unsigned 12⟩, ⟨"sog", .unsigned 10⟩, ⟨"position_accuracy", .flag⟩,
  ⟨"position", .position .fine⟩, ⟨"cog", .unsigned 12⟩, ⟨"second", .unsigned 6⟩,
  ⟨"regional", .unsigned 8⟩, ⟨"dte", .flag⟩, ⟨"spare", .spare 3⟩, ⟨"assigned", .flag⟩,
  ⟨"raim", .flag⟩, ⟨"radio_selector", .flag⟩, ⟨"radio", .unsigned 19⟩]

instance : WireRecord SarAircraftPositionReport where
  layout := SarAircraftPositionReport.layout
  head r :=
    (r.messageType, r.repeatIndicator, r.mmsi, r.altitude, r.sog, r.positionAccuracy, r.position,
      r.cog, r.second, r.regional, r.dte, r.spare, r.assigned, r.raim, r.radioSelector, r.radio, ())
  ofHead
    | (messageType, repeatIndicator, mmsi, altitude, sog, positionAccuracy, position, cog, second,
      regional, dte, spare, assigned, raim, radioSelector, radio, ()) => {
        messageType, repeatIndicator, mmsi, altitude, sog, positionAccuracy, position, cog, second,
        regional, dte, spare, assigned, raim, radioSelector, radio }
  blank := {}
  toHeader r := r.toHeader

/-- Standard position report of a class B vessel (18). -/
structure StandardClassBPositionReport extends Header where
  messageType := 18
  spare : Int := 0
  sog : Int := 1023
  positionAccuracy : Bool := false
  position : Position .fine := {}
  cog : Int := 3600
  heading : Int := 511
  second : Int := 60
  spare2 : Int := 0
  csUnit : Bool := false
  display : Bool := false
  dsc : Bool := false
  band : Bool := false
  msg22 : Bool := false
  assigned : Bool := false
  raim : Bool := false
  radioSelector : Bool := false
  radio : Int := 0
deriving DecidableEq, Repr

/-- The head of the record on the wire. -/
@[reducible] def StandardClassBPositionReport.layout : Layout := .withHeader [
  ⟨"spare", .spare 8⟩, ⟨"sog", .unsigned 10⟩, ⟨"position_accuracy", .flag⟩,
  ⟨"position", .position .fine⟩, ⟨"cog", .unsigned 12⟩, ⟨"heading", .unsigned 9⟩,
  ⟨"second", .unsigned 6⟩, ⟨"spare2", .spare 2⟩, ⟨"cs_unit", .flag⟩, ⟨"display", .flag⟩,
  ⟨"dsc", .flag⟩, ⟨"band", .flag⟩, ⟨"msg22", .flag⟩, ⟨"assigned", .flag⟩, ⟨"raim", .flag⟩,
  ⟨"radio_selector", .flag⟩, ⟨"radio", .unsigned 19⟩]

instance : WireRecord StandardClassBPositionReport where
  layout := StandardClassBPositionReport.layout
  head r :=
    (r.messageType, r.repeatIndicator, r.mmsi, r.spare, r.sog, r.positionAccuracy, r.position,
      r.cog, r.heading, r.second, r.spare2, r.csUnit, r.display, r.dsc, r.band, r.msg22, r.assigned,
      r.raim, r.radioSelector, r.radio, ())
  ofHead
    | (messageType, repeatIndicator, mmsi, spare, sog, positionAccuracy, position, cog, heading,
      second, spare2, csUnit, display, dsc, band, msg22, assigned, raim, radioSelector, radio,
      ()) => {
        messageType, repeatIndicator, mmsi, spare, sog, positionAccuracy, position, cog, heading,
        second, spare2, csUnit, display, dsc, band, msg22, assigned, raim, radioSelector, radio }
  blank := {}
  toHeader r := r.toHeader

/-- Extended position report of a class B vessel, with its name and dimensions (19). -/
structure ExtendedClassBPositionReport extends Header where
  messageType := 19
  spare : Int := 0
  sog : Int := 1023
  positionAccuracy : Bool := false
  position : Position .fine := {}
  cog : Int := 3600
  heading : Int := 511
  second : Int := 60
  spare2 : Int := 0
  shipname : String := ""
  shipType : Int := 0
  toBow : Int := 0
  toStern : Int := 0
  toPort : Int := 0
  toStarboard : Int := 0
  epfd : Int := 0
  raim : Bool := false
  dte : Bool := false
  assigned : Bool := false
  spare3 : Int := 0
deriving DecidableEq, Repr

/-- The head of the record on the wire. -/
@[reducible] def ExtendedClassBPositionReport.layout : Layout := .withHeader [
  ⟨"spare", .spare 8⟩, ⟨"sog", .unsigned 10⟩, ⟨"position_accuracy", .flag⟩,
  ⟨"position", .position .fine⟩, ⟨"cog", .unsigned 12⟩, ⟨"heading", .unsigned 9⟩,
  ⟨"second", .unsigned 6⟩, ⟨"spare2", .spare 4⟩, ⟨"shipname", .text 20⟩, ⟨"ship_type", .unsigned 8⟩,
  ⟨"to_bow", .unsigned 9⟩, ⟨"to_stern", .unsigned 9⟩, ⟨"to_port", .unsigned 6⟩,
  ⟨"to_starboard", .unsigned 6⟩, ⟨"epfd", .unsigned 4⟩, ⟨"raim", .flag⟩, ⟨"dte", .flag⟩,
  ⟨"assigned", .flag⟩, ⟨"spare3", .spare 4⟩]

instance : WireRecord ExtendedClassBPositionReport where
  layout := ExtendedClassBPositionReport.layout
  head r :=
    (r.messageType, r.repeatIndicator, r.mmsi, r.spare, r.sog, r.positionAccuracy, r.position,
      r.cog, r.heading, r.second, r.spare2, r.shipname, r.shipType, r.toBow, r.toStern, r.toPort,
      r.toStarboard, r.epfd, r.raim, r.dte, r.assigned, r.spare3, ())
  ofHead
    | (messageType, repeatIndicator, mmsi, spare, sog, positionAccuracy, position, cog, heading,
      second, spare2, shipname, shipType, toBow, toStern, toPort, toStarboard, epfd, raim, dte,
      assigned, spare3, ()) => {
        messageType, repeatIndicator, mmsi, spare, sog, positionAccuracy, position, cog, heading,
        second, spare2, shipname, shipType, toBow, toStern, toPort, toStarboard, epfd, raim, dte,
        assigned, spare3 }
  blank := {}
  toHeader r := r.toHeader

/-- Position report for long-range applications (27), in whole knots and whole degrees. -/
structure LongRangeBroadcast extends Header where
  messageType := 27
  positionAccuracy : Bool := false
  raim : Bool := false
  navStatus : Int := 15
  position : Position .coarse := {}
  sog : Int := 63
  cog : Int := 511
  gnss : Bool := false
  spare : Int := 0
deriving DecidableEq, Repr

/-- The head of the record on the wire. -/
@[reducible] def LongRangeBroadcast.layout : Layout := .withHeader [
  ⟨"position_accuracy", .flag⟩, ⟨"raim", .flag⟩, ⟨"nav_status", .unsigned 4⟩,
  ⟨"position", .position .coarse⟩, ⟨"sog", .unsigned 6⟩, ⟨"cog", .unsigned 9⟩, ⟨"gnss", .flag⟩,
  ⟨"spare", .spare 1⟩]

instance : WireRecord LongRangeBroadcast where
  layout := LongRangeBroadcast.layout
  head r :=
    (r.messageType, r.repeatIndicator, r.mmsi, r.positionAccuracy, r.raim, r.navStatus, r.position,
      r.sog, r.cog, r.gnss, r.spare, ())
  ofHead
    | (messageType, repeatIndicator, mmsi, positionAccuracy, raim, navStatus, position, sog, cog,
      gnss, spare, ()) => {
        messageType, repeatIndicator, mmsi, positionAccuracy, raim, navStatus, position, sog, cog,
        gnss, spare }
  blank := {}
  toHeader r := r.toHeader

end AisStation
