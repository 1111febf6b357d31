import AisStation.Config.Reading
import AisStation.Gateway.Basic
import AisStation.Relay.Config

/-!
The schema of a configuration.

A configuration is an object with a member `aislink`, which has the sections `system`, `codec` and
`relay`. Checking reads every setting and finds all violations in the order of the schema; a setting
or section that is absent has its default, and members that the schema does not know are ignored,
those beside `aislink` are kept.
-/

namespace AisStation.Config

/-- A setting or section that violates the schema. -/
structure Violation where
  path : List String
  fault : Fault
deriving DecidableEq, Repr

/-- What a check finds. -/
inductive Checked (α : Type)
  | valid (a : α)
  | invalid (violations : List Violation)
deriving Repr

namespace Checked

/-- A value, or a fault at a path. -/
def ofExcept {α : Type} (path : List String) : Except Fault α → Checked α
  | .ok a => valid a
  | .error fault => invalid [⟨path, fault⟩]

/-- Changes a value. -/
def map {α β : Type} (f : α → β) : Checked α → Checked β
  | valid a => valid (f a)
  | invalid violations => invalid violations

/-- Applies the result of one check to that of another; the violations of both count. -/
def ap {α β : Type} (f : Checked (α → β)) (a : Checked α) : Checked β :=
  match f, a with
  | valid f, valid a => valid (f a)
  | valid _, invalid violations => invalid violations
  | invalid violations, valid _ => invalid violations
  | invalid violations, invalid violations' => invalid (violations ++ violations')

end Checked

/-- Settings that concern the station as a whole. -/
structure SystemConfig where
  name : String := "AISLINK"
  version : String := "0.1.0"
  logLevel : LogLevel := .info
  validateConfig : Bool := false
  logFile : Option String := none
  logJson : Bool := false
deriving DecidableEq, Repr

/-- A configuration that satisfies the schema. -/
structure StationConfig where
  system : SystemConfig := {}
  codec : GatewayConfig := {}
  relay : RelayConfig := {}
  /-- The members beside the station's own. -/
  others : List (String × Json) := []
deriving Repr

/-- A section that is being checked: where it stands and what it holds. -/
structure Scope where
  path : List String
  members : List (String × Json)

/-- Reads a setting of a section. -/
def Scope.setting {α : Type} (scope : Scope) (name : String) (default : α) (read : Reading α) :
    Checked α :=
  match scope.members.lookup name with
  | none => .valid default
  | some value => .ofExcept (scope.path ++ [name]) (read value)

/-- Checks an object at a path. -/
def checkObject {α : Type} (path : List String) (check : Scope → Checked α) : Json → Checked α
  | .object members => check ⟨path, members⟩
  | _ => .invalid [⟨path, .modelType⟩]

/-- Checks a section. -/
def Scope.nested {α : Type} (scope : Scope) (name : String) (default : α)
    (check : Scope → Checked α) : Checked α :=
  match scope.members.lookup name with
  | none => .valid default
  | some value => checkObject (scope.path ++ [name]) check value

/-- Checks the settings of the station as a whole. -/
def SystemConfig.check (s : Scope) : Checked SystemConfig :=
  (((((s.setting "name" "AISLINK" Reading.text).map SystemConfig.mk
    |>.ap (s.setting "version" "0.1.0" Reading.text))
    |>.ap (s.setting "log_level" .info Reading.logLevel))
    |>.ap (s.setting "validate_config" false Reading.flag))
    |>.ap (s.setting "log_file" none Reading.optionalText))
    |>.ap (s.setting "log_json" false Reading.flag)

/-- Checks the settings of the gateway. -/
def checkCodec (s : Scope) : Checked GatewayConfig :=
  ((((s.setting "validate_inbound" true Reading.flag).map GatewayConfig.mk
    |>.ap (s.setting "validate_outbound" true Reading.flag))
    |>.ap (s.setting "accept_vdo" true Reading.flag))
    |>.ap (s.setting "talker" "AI" (Reading.textOfLength 2 2)))
    |>.ap (s.setting "channel" "A" (Reading.textOfLength 0 1))

/-- Checks the settings of the relay. -/
def checkRelay (s : Scope) : Checked RelayConfig :=
  ((((s.setting "enabled" true Reading.flag).map RelayConfig.mk
    |>.ap (s.setting "host" "0.0.0.0" Reading.text))
    |>.ap (s.setting "port" 8090 (Reading.integerWithin 0 65535)))
    |>.ap (s.setting "max_clients" 1000 (Reading.integerAbove 0)))
    |>.ap (s.setting "max_line_bytes" 1024 (Reading.integerFrom 82))

/-- The name of the station's own member. -/
def stationName : String := "aislink"

/-- Checks the station's own member, beside which there are `others`. -/
def checkStation (others : List (String × Json)) (s : Scope) : Checked StationConfig :=
  ((s.nested "system" {} SystemConfig.check).map
      (fun system codec relay => ({ system, codec, relay, others } : StationConfig))
    |>.ap (s.nested "codec" {} checkCodec))
    |>.ap (s.nested "relay" {} checkRelay)

/-- Checks a configuration. -/
def check : Json → Checked StationConfig :=
  checkObject [] fun scope =>
    match scope.members.lookup stationName with
    | none => .invalid [⟨[stationName], .missing⟩]
    | some value =>
      checkObject [stationName]
        (checkStation (scope.members.filter fun (name, _) => name ≠ stationName)) value

/-- The settings of the station as a whole, written out. -/
def SystemConfig.toJson (c : SystemConfig) : Json :=
  .object [("name", .text c.name), ("version", .text c.version),
    ("log_level", .text c.logLevel.name), ("validate_config", .bool c.validateConfig),
    ("log_file", (c.logFile.map .text).getD .null), ("log_json", .bool c.logJson)]

/-- The settings of a gateway, written out. -/
def codecJson (c : GatewayConfig) : Json :=
  .object [("validate_inbound", .bool c.validateInbound),
    ("validate_outbound", .bool c.validateOutbound), ("accept_vdo", .bool c.acceptVdo),
    ("talker", .text c.talker), ("channel", .text c.channel)]

/-- The settings of a relay, written out. -/
def relayJson (c : RelayConfig) : Json :=
  .object [("enabled", .bool c.enabled), ("host", .text c.host), ("port", .int c.port),
    ("max_clients", .int c.maxClients), ("max_line_bytes", .int c.maxLineBytes)]

/-- A configuration with every setting written out. -/
def StationConfig.toJson (c : StationConfig) : Json :=
  .object ((stationName, .object [("system", c.system.toJson), ("codec", codecJson c.codec),
    ("relay", relayJson c.relay)]) :: c.others)

end AisStation.Config
