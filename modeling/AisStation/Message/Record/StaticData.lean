import AisStation.Message.Layout

/-!
Data that change with a voyage or never: names, call signs, dimensions.

Only an aid to navigation has a tail, the characters of its name beyond the twenty of the head.
-/

namespace AisStation

/-- Static and voyage related data of a class A vessel (5). -/
structure StaticAndVoyageData extends Header where
  messageType := 5
  aisVersion : Int := 0
  imo : Int := 0
  callsign : String := ""
  shipname : String := ""
  shipType : Int := 0
  toBow : Int := 0
  toStern : Int := 0
  toPort : Int := 0
  toStarboard : Int := 0
  epfd : Int := 0
  etaMonth : Int := 0
  etaDay : Int := 0
  etaHour : Int := 24
  etaMinute : Int := 60
  draught : Int := 0
  destination : String := ""
  dte : Bool := false
  spare : Int := 0
deriving DecidableEq, Repr

/-- The head of the record on the wire. -/
@[reducible] def StaticAndVoyageData.layout : Layout := .withHeader [
  ⟨"ais_version", .unsigned 2⟩, ⟨"imo", .unsigned 30⟩, ⟨"callsign", .text 7⟩,
  ⟨"shipname", .text 20⟩, ⟨"ship_type", .unsigned 8⟩, ⟨"to_bow", .unsigned 9⟩,
  ⟨"to_stern", .unsigned 9⟩, ⟨"to_port", .unsigned 6⟩, ⟨"to_starboard", .unsigned 6⟩,
  ⟨"epfd", .unsigned 4⟩, ⟨"eta_month", .unsigned 4⟩, ⟨"eta_day", .unsigned 5⟩,
  ⟨"eta_hour", .unsigned 5⟩, ⟨"eta_minute", .unsigned 6⟩, ⟨"draught", .unsigned 8⟩,
  ⟨"destination", .text 20⟩, ⟨"dte", .flag⟩, ⟨"spare", .spare 1⟩]

instance : WireRecord StaticAndVoyageData where
  layout := StaticAndVoyageData.layout
  head r :=
    (r.messageType, r.repeatIndicator, r.mmsi, r.aisVersion, r.imo, r.callsign, r.shipname,
      r.shipType, r.toBow, r.toStern, r.toPort, r.toStarboard, r.epfd, r.etaMonth, r.etaDay,
      r.etaHour, r.etaMinute, r.draught, r.destination, r.dte, r.spare, ())
  ofHead
    | (messageType, repeatIndicator, mmsi, aisVersion, imo, callsign, shipname, shipType, toBow,
      toStern, toPort, toStarboard, epfd, etaMonth, etaDay, etaHour, etaMinute, draught,
      destination, dte, spare, ()) => {
        messageType, repeatIndicator, mmsi, aisVersion, imo, callsign, shipname, shipType, toBow,
        toStern, toPort, toStarboard, epfd, etaMonth, etaDay, etaHour, etaMinute, draught,
        destination, dte, spare }
  blank := {}
  toHeader r := r.toHeader

/-- Static data of a class B vessel, part A: the name (24). -/
structure StaticDataReportPartA extends Header where
  messageType := 24
  partNumber : Int := 0
  shipname : String := ""
deriving DecidableEq, Repr

/-- The head of the record on the wire. -/
@[reducible] def StaticDataReportPartA.layout : Layout := .withHeader [
  ⟨"part_number", .unsigned 2⟩, ⟨"shipname", .text 20⟩]

instance : WireRecord StaticDataReportPartA where
  layout := StaticDataReportPartA.layout
  head r :=
    (r.messageType, r.repeatIndicator, r.mmsi, r.partNumber, r.shipname, ())
  ofHead
    | (messageType, repeatIndicator, mmsi, partNumber, shipname, ()) => {
        messageType, repeatIndicator, mmsi, partNumber, shipname }
  blank := {}
  toHeader r := r.toHeader

/-- Static data of a class B vessel, part B (24). An auxiliary craft sends the identity of its
mother ship in place of the dimensions. -/
structure StaticDataReportPartB extends Header where
  messageType := 24
  partNumber : Int := 1
  shipType : Int := 0
  vendorId : String := ""
  callsign : String := ""
  toBow : Int := 0
  toStern : Int := 0
  toPort : Int := 0
  toStarboard : Int := 0
  spare : Int := 0
deriving DecidableEq, Repr

/-- The head of the record on the wire. -/
@[reducible] def StaticDataReportPartB.layout : Layout := .withHeader [
  ⟨"part_number", .unsigned 2⟩, ⟨"ship_type", .unsigned 8⟩, ⟨"vendor_id", .text 7⟩,
  ⟨"callsign", .text 7⟩, ⟨"to_bow", .unsigned 9⟩, ⟨"to_stern", .unsigned 9⟩,
  ⟨"to_port", .unsigned 6⟩, ⟨"to_starboard", .unsigned 6⟩, ⟨"spare", .spare 6⟩]

instance : WireRecord StaticDataReportPartB where
  layout := StaticDataReportPartB.layout
  head r :=
    (r.messageType, r.repeatIndicator, r.mmsi, r.partNumber, r.shipType, r.vendorId, r.callsign,
      r.toBow, r.toStern, r.toPort, r.toStarboard, r.spare, ())
  ofHead
    | (messageType, repeatIndicator, mmsi, partNumber, shipType, vendorId, callsign, toBow, toStern,
      toPort, toStarboard, spare, ()) => {
        messageType, repeatIndicator, mmsi, partNumber, shipType, vendorId, callsign, toBow,
        toStern, toPort, toStarboard, spare }
  blank := {}
  toHeader r := r.toHeader

/-- Report of an aid to navigation (21). The name may be extended; the message is completed to whole
bytes. -/
structure AidToNavigationReport extends Header where
  messageType := 21
  aidType : Int := 0
  name : String := ""
  positionAccuracy : Bool := false
  position : Position .fine := {}
  toBow : Int := 0
  toStern : Int := 0
  toPort : Int := 0
  toStarboard : Int := 0
  epfd : Int := 0
  second : Int := 60
  offPosition : Bool := false
  regional : Int := 0
  raim : Bool := false
  virtualAid : Bool := false
  assigned : Bool := false
  spare : Int := 0
  nameExtension : String := ""
deriving DecidableEq, Repr

/-- The head of the record on the wire. -/
@[reducible] def AidToNavigationReport.layout : Layout := .withHeader [
  ⟨"aid_type", .unsigned 5⟩, ⟨"name", .text 20⟩, ⟨"position_accuracy", .flag⟩,
  ⟨"position", .position .fine⟩, ⟨"to_bow", .unsigned 9⟩, ⟨"to_stern", .unsigned 9⟩,
  ⟨"to_port", .unsigned 6⟩, ⟨"to_starboard", .unsigned 6⟩, ⟨"epfd", .unsigned 4⟩,
  ⟨"second", .unsigned 6⟩, ⟨"off_position", .flag⟩, ⟨"regional", .unsigned 8⟩, ⟨"raim", .flag⟩,
  ⟨"virtual_aid", .flag⟩, ⟨"assigned", .flag⟩, ⟨"spare", .spare 1⟩]

/-- The greatest number of characters of a name extension. -/
def AidToNavigationReport.maxExtension : Nat := 14

instance : WireRecord AidToNavigationReport where
  layout := AidToNavigationReport.layout
  head r :=
    (r.messageType, r.repeatIndicator, r.mmsi, r.aidType, r.name, r.positionAccuracy, r.position,
      r.toBow, r.toStern, r.toPort, r.toStarboard, r.epfd, r.second, r.offPosition, r.regional,
      r.raim, r.virtualAid, r.assigned, r.spare, ())
  ofHead
    | (messageType, repeatIndicator, mmsi, aidType, name, positionAccuracy, position, toBow,
      toStern, toPort, toStarboard, epfd, second, offPosition, regional, raim, virtualAid, assigned,
      spare, ()) => {
        messageType, repeatIndicator, mmsi, aidType, name, positionAccuracy, position, toBow,
        toStern, toPort, toStarboard, epfd, second, offPosition, regional, raim, virtualAid,
        assigned, spare }
  blank := {}
  toHeader r := r.toHeader
  readTail r := do
    let count := min ((← Read.bitsRemaining) / 6) AidToNavigationReport.maxExtension
    let extension ← Read.text count
    return { r with nameExtension := String.ofList (SixBit.stripPadding extension) }
  encodeTail r := do
    let bits ← SixBit.encode (r.nameExtension.toList.take AidToNavigationReport.maxExtension)
    let length := (Layout.width AidToNavigationReport.layout) + bits.length
    return bits ++ Bits.zeros (fillBits 8 length)
  tailFields r := [("name_extension", .text r.nameExtension)]
  replaceTail fields r :=
    { r with nameExtension := fields.text "name_extension" r.nameExtension }

end AisStation
