import AisStation.Config.Section
import AisStation.Gateway.Basic
import AisStation.Relay.Config

/-!
Components from their sections.

A component takes the settings that it knows from its section and keeps its defaults for the others.
The settings are taken as they stand; whether they are in range is the business of the schema.
-/

namespace AisStation

open Config

/-- The gateway that a section describes. -/
def GatewayConfig.ofConfig (value : Json) : Except ShapeError GatewayConfig := do
  let s ← Section.ofJson value
  return {
    validateInbound := s.flag "validate_inbound" true
    validateOutbound := s.flag "validate_outbound" true
    acceptVdo := s.flag "accept_vdo" true
    talker := s.text "talker" "AI"
    channel := s.text "channel" "A" }

/-- Why a value describes no component. -/
inductive ComponentError
  | shape (why : ShapeError)
  | setting (name : String) (why : IntegerError)
  /-- The value cannot be searched for sections. -/
  | noSections
deriving DecidableEq, Repr

/-- An integer setting of a component. -/
def ComponentError.integer (s : Section) (name : String) (default : Int) :
    Except ComponentError Int :=
  (s.integer name default).mapError (.setting name)

/-- The relay that a section describes. -/
def RelayConfig.ofConfig (value : Json) : Except ComponentError RelayConfig := do
  let s ← (Section.ofJson value).mapError .shape
  let port ← ComponentError.integer s "port" 8090
  let maxClients ← ComponentError.integer s "max_clients" 1000
  let maxLineBytes ← ComponentError.integer s "max_line_bytes" 1024
  return {
    enabled := s.flag "enabled" true
    host := s.text "host" "0.0.0.0"
    port, maxClients, maxLineBytes }

/-- A gateway with its counters at zero, as a section describes it. -/
def Gateway.ofConfig (value : Json) : Except ShapeError Gateway := do
  return { config := ← GatewayConfig.ofConfig value }

/-- Does a text hold a word? -/
def holdsWord (word : List Char) : List Char → Bool
  | [] => word.isEmpty
  | c :: cs => word.isPrefixOf (c :: cs) || holdsWord word cs

/-- The name of the relay's section. -/
def RelayConfig.sectionName : String := "relay"

/-- The relay section and the codec section of a value. A value without a relay section is the relay
section itself. -/
def RelayConfig.sections : Json → Except ComponentError (Json × Json)
  | .null => .ok (.null, .null)
  | .object members =>
    match members.lookup sectionName with
    | some relay => .ok (relay, (members.lookup "codec").getD .null)
    | none => .ok (.object members, .null)
  | .list items =>
    let namesSection := fun item => match item with
      | Json.text s => s == sectionName
      | _ => false
    if items.any namesSection then .error .noSections else .ok (.list items, .null)
  | .text s =>
    if holdsWord sectionName.toList s.toList then .error .noSections else .ok (.text s, .null)
  | _ => .error .noSections

end AisStation
