import AisStation.CommandLine.Option
import AisStation.Json.Basic
import AisStation.Logging
import AisStation.Text.Integer

/-!
The arguments of the command line.

Options that concern every command come first, then the name of a command and its own arguments.
Arguments are taken from left to right; a request for help or a wrong value ends that at once,
unknown options and surplus operands are reported at the end.
-/

namespace AisStation.CommandLine

/-- What is to be done. -/
inductive Command
  /-- Decode the sentences of a file, or of the standard input. -/
  | decode (file : Option String) (validate : Bool)
  /-- Run the relay, with some of its settings given. -/
  | relay (host port maxClients : Option Json)
deriving Repr

/-- The options that concern every command. -/
structure GlobalOptions where
  /-- The base file of the configuration; there is none if the option has no value. -/
  config : Option String := some "config/default.yaml"
  logLevel : Option LogLevel := none
  validateConfig : Bool := false
  logFile : Option String := none
  logJson : Bool := false
deriving DecidableEq, Repr

/-- A command line. -/
structure Arguments where
  options : GlobalOptions
  command : Command
deriving Repr

/-- Asks for help. -/
def helpOption : OptionSpec := ⟨.help, ["-h", "--help"], false⟩

/-- The options that concern every command. -/
def globalSpecs : List OptionSpec := [
  helpOption, ⟨.config, ["--config", "-c"], true⟩, ⟨.logLevel, ["--log-level"], true⟩,
  ⟨.validateConfig, ["--validate-config"], false⟩, ⟨.logFile, ["--log-file"], true⟩,
  ⟨.logJson, ["--log-json"], false⟩]

/-- The options of decoding. -/
def decodeSpecs : List OptionSpec := [helpOption, ⟨.noValidate, ["--no-validate"], false⟩]

/-- The options of the relay. -/
def relaySpecs : List OptionSpec := [
  helpOption, ⟨.host, ["--host"], true⟩, ⟨.port, ["--port"], true⟩,
  ⟨.maxClients, ["--max-clients"], true⟩]

/-- A text on the command line as a setting; no value counts as an empty list. -/
def textSetting : Option String → Json
  | some s => .text s
  | none => .list []

/-- An integer on the command line as a setting. -/
def integerSetting : Option String → Except Halt Json
  | some s => match Text.integer? s with
    | some n => .ok (.int n)
    | none => .error .usage
  | none => .ok (.list [])

/-! ## Decoding -/

/-- Whether a file can still be named. -/
inductive FileSlot
  /-- No file was named. -/
  | vacant
  /-- The last argument named a file. -/
  | filled (file : String)
  /-- A file was named before. -/
  | closed (file : String)
deriving DecidableEq, Repr

namespace FileSlot

/-- The file that was named. -/
def file? : FileSlot → Option String
  | vacant => none
  | filled file | closed file => some file

/-- The slot after another argument. -/
def close : FileSlot → FileSlot
  | vacant => vacant
  | filled file | closed file => closed file

end FileSlot

/-- The arguments of decoding, from left to right. -/
def decodeArguments (slot : FileSlot) (validate unexpected : Bool) :
    List Item → Except Halt Command
  | [] => if unexpected then .error .usage else .ok (.decode slot.file? validate)
  | .options given :: items =>
    if given.any (·.1 = .help) then .error .help
    else decodeArguments slot.close false unexpected items
  | .unknown :: items => decodeArguments slot.close validate true items
  | .separator :: items =>
    match slot with
    | .closed _ => decodeArguments slot validate true items
    | _ => decodeArguments slot.close validate unexpected items
  | .operand text _ :: items =>
    match slot with
    | .vacant => decodeArguments (.filled text) validate unexpected items
    | _ => decodeArguments slot validate true items
  | .fault :: _ => .error .usage

/-! ## The relay -/

/-- The settings of a relay on the command line. -/
structure RelayOptions where
  host : Option Json := none
  port : Option Json := none
  maxClients : Option Json := none
deriving Repr

/-- Takes an option of the relay. -/
def RelayOptions.take (o : RelayOptions) : Given → Except Halt RelayOptions
  | (.help, _) => .error .help
  | (.host, value?) => .ok { o with host := some (textSetting value?) }
  | (.port, value?) => do return { o with port := some (← integerSetting value?) }
  | (.maxClients, value?) => do return { o with maxClients := some (← integerSetting value?) }
  | _ => .error .usage

/-- The arguments of the relay, from left to right. -/
def relayArguments (o : RelayOptions) (unexpected : Bool) : List Item → Except Halt Command
  | [] => if unexpected then .error .usage else .ok (.relay o.host o.port o.maxClients)
  | .options given :: items => do
    let o ← given.foldlM RelayOptions.take o
    relayArguments o unexpected items
  | .fault :: _ => .error .usage
  | _ :: items => relayArguments o true items

/-- The command of a given name. -/
def commandOf (name : String) (arguments : List String) : Except Halt Command := do
  if name = "decode" then decodeArguments .vacant true false (← itemsOf decodeSpecs arguments)
  else if name = "relay" then relayArguments {} false (← itemsOf relaySpecs arguments)
  else throw .usage

/-! ## The whole line -/

/-- Takes an option that concerns every command. -/
def GlobalOptions.take (o : GlobalOptions) : Given → Except Halt GlobalOptions
  | (.help, _) => .error .help
  | (.config, value?) => .ok { o with config := value? }
  | (.logLevel, some value) =>
    match LogLevel.ofName? value with
    | some level => .ok { o with logLevel := some level }
    | none => .error .usage
  | (.logLevel, none) => .ok { o with logLevel := none }
  | (.validateConfig, _) => .ok { o with validateConfig := true }
  | (.logFile, value?) => .ok { o with logFile := value? }
  | (.logJson, _) => .ok { o with logJson := true }
  | _ => .error .usage

/-- All arguments, from left to right. -/
def globalArguments (o : GlobalOptions) (unexpected : Bool) : List Item → Except Halt Arguments
  | [] => .error .usage
  | .options given :: items => do
    let o ← given.foldlM GlobalOptions.take o
    globalArguments o unexpected items
  | .unknown :: items => globalArguments o true items
  | .operand name rest :: _ => do
    let command ← commandOf name rest
    if unexpected then .error .usage else .ok ⟨o, command⟩
  | _ => .error .usage

/-- Reads a command line. -/
def parse (arguments : List String) : Except Halt Arguments := do
  globalArguments {} false (← itemsOf globalSpecs arguments)

end AisStation.CommandLine
