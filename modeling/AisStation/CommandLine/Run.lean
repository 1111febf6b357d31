import AisStation.CommandLine.Arguments
import AisStation.Config.Store
import AisStation.Relay.Setup

/-!
Carrying out a command line.

The configuration is loaded, changed as the arguments say, and its sections set up logging and the
component that the command runs. Everything that a command reads is given beforehand, so that its
outcome is a value: what it writes, and its exit status.
-/

namespace AisStation.CommandLine

open Config

/-- Why a command breaks off. -/
inductive Failure
  /-- No base file is named for the configuration. -/
  | noBaseFile
  /-- The configuration has no station. -/
  | noStation
  /-- A value that has no members stands in place of a section. -/
  | scalarSection
  /-- A list stands in place of a section. -/
  | listSection
  /-- A value is still to be given. -/
  | missingValue
  /-- A number, a flag or nothing stands in place of the level of logging. -/
  | scalarLevel
  /-- An object or a list stands in place of the level of logging. -/
  | containerLevel
  | level (why : Logging.LevelError)
  /-- The log file is not named by a text. -/
  | logFileType
  /-- There is a file where a directory is needed. -/
  | fileExists
  | notADirectory
  | isADirectory
  | fileNotFound
  /-- The name of a file is too long. -/
  | overlong
  /-- A reference in the configuration has no value. -/
  | unresolved (why : ResolutionError)
  | update (why : TreeError)
  | setup (why : SetupError)
deriving DecidableEq, Repr

/-- The outcome of a command line. -/
inductive Outcome
  /-- The arguments were not carried out. -/
  | halted (why : Halt)
  /-- The command broke off. -/
  | failed (why : Failure)
  /-- The command came to its end. -/
  | finished (status : Nat) (output errors : List String)
  /-- The relay is to be run. -/
  | serving (relay : Relay)
deriving Repr

/-! ## Sections -/

/-- The station's own member of a configuration. -/
def station (config : Json) : Except Failure Found := do
  match Tree.child? (.member stationName) config with
  | none => throw .noStation
  | some value =>
    if Tree.isMissing value then throw .missingValue
    let found ← (Tree.settleAt config [.member stationName]).mapError .unresolved
    match found.value config with
    | .object _ => return found
    | .list _ => throw .listSection
    | _ => throw .scalarSection

/-- A section of the station, unless it is still to be given. -/
def stationSection (config : Json) (station : Found) (name : String) :
    Except Failure (Option Found) :=
  (Tree.given? config station name).mapError .unresolved

/-- A setting of a section. -/
def setting (config : Json) (section? : Option Found) (name : String) (default : Json) :
    Except Failure Json := do
  match section? with
  | none => return default
  | some found =>
    match found.value config with
    | .object _ =>
      match ← (Tree.given? config found name).mapError .unresolved with
      | some value => return value.value config
      | none => return default
    | .list _ => throw .listSection
    | _ => throw .scalarSection

/-! ## Logging -/

/-- The level of logging. -/
def logLevel (o : GlobalOptions) (config : Json) (system? : Option Found) :
    Except Failure String := do
  match o.logLevel with
  | some level => return level.name
  | none =>
    match ← setting config system? "log_level" (.text LogLevel.info.name) with
    | .text name => return name
    | value => throw (if value.isContainer then .containerLevel else .scalarLevel)

/-- The setting that names the log file. -/
def logFileSetting (o : GlobalOptions) (config : Json) (system? : Option Found) :
    Except Failure Json :=
  match o.logFile with
  | some file =>
    if file.isEmpty then setting config system? "log_file" .null else .ok (.text file)
  | none => setting config system? "log_file" .null

/-- Opens a log file: the tree with the file in it. -/
def openLogFile (files : FileTree) (file : String) : Except Failure FileTree :=
  let path := Path.ofString file
  match files.entry? path with
  | some .directory => .error .isADirectory
  | some (.file _) => .ok files
  | none =>
    if files.leadsThroughFile path then
      match files.entry? path.dropLast with
      | some (.file _) => .error .fileExists
      | _ => .error .notADirectory
    else if path.any FileTree.isOverlongStep then .error .overlong
    else .ok (files.write path "")

/-- Sets up logging; a named log file comes into being. -/
def setupLogging (o : GlobalOptions) (config : Json) (station : Found) (files : FileTree) :
    Except Failure FileTree := do
  let system? ← stationSection config station "system"
  let level ← logLevel o config system?
  let file ← logFileSetting o config system?
  if !o.logJson then
    let _ ← setting config system? "log_json" (.bool false)
  let _ ← (Logging.setup level false).mapError .level
  match file with
  | .null => return files
  | .text file => openLogFile files file
  | _ => throw .logFileType

/-! ## Commands -/

/-- The lines of a text. -/
def lines (cs : List Char) : List (List Char) :=
  match cs with
  | [] => [[]]
  | c :: cs =>
    if c = '\n' ∨ c = '\r' then [] :: lines cs
    else match lines cs with
      | [] => [[c]]
      | line :: rest => (c :: line) :: rest

/-- A text read as ASCII: every byte beyond ASCII becomes a replacement character. -/
def asciiText (s : String) : List Char :=
  s.toList.flatMap fun c =>
    if c.toNat < 128 then [c] else List.replicate c.utf8Size '\uFFFD'

/-- The text of a file of sentences. -/
def readSentences (files : FileTree) (file : String) : Except Failure (List Char) :=
  let path := Path.ofString file
  if file.isEmpty then .error .fileNotFound
  else match files.entry? path with
    | some .directory => .error .isADirectory
    | some (.file text) =>
      if file.toList.getLast? = some '/' then .error .notADirectory else .ok (asciiText text)
    | none =>
      .error (if files.isOverlong path then .overlong
        else if files.leadsThroughFile path then .notADirectory
        else .fileNotFound)

/-- Decodes the sentences of a file or of the standard input. -/
def runDecode (config : Json) (station : Found) (files : FileTree) (input : String)
    (file : Option String) : Except Failure Outcome := do
  let codec? ← stationSection config station "codec"
  let gateway ← (Gateway.ofTree config codec?).mapError .setup
  let text ← match file with
    | none => pure input.toList
    | some file => readSentences files file
  let (output, _) := gateway.summarize ((lines text).map String.ofList)
  return .finished 0 output []

/-- Runs the relay unless it is disabled. -/
def runRelay (config : Json) (station : Found) : Except Failure Outcome := do
  match ← (Relay.ofTree? config station).mapError .setup with
  | none => return .finished 1 [] []
  | some relay => return .serving relay

/-- Puts a value into the configuration, if there is one. -/
def overrideIfGiven (config : Json) (path : String) (value? : Option Json) :
    Except Failure Json :=
  match value? with
  | none => .ok config
  | some value => (Tree.override config path value).mapError .update

/-- The configuration with the changes that a command makes to it. -/
def overrideFor (command : Command) (config : Json) : Except Failure Json := do
  match command with
  | .decode _ validate =>
    overrideIfGiven config "aislink.codec.validate_inbound"
      (if validate then none else some (.bool false))
  | .relay host port maxClients =>
    let config ← overrideIfGiven config "aislink.relay.host" host
    let config ← overrideIfGiven config "aislink.relay.port" port
    overrideIfGiven config "aislink.relay.max_clients" maxClients

/-- Carries out a command under a configuration. -/
def runCommand (a : Arguments) (files : FileTree) (input : String) (config : Json) :
    Except Failure Outcome := do
  let config ← overrideFor a.command config
  let station ← station config
  let files ← setupLogging a.options config station files
  match a.command with
  | .decode file _ => runDecode config station files input file
  | .relay .. => runRelay config station

/-- Carries out a command line that was read. -/
def runArguments (a : Arguments) (files : FileTree) (input : String) : Outcome :=
  match a.options.config with
  | none => .failed .noBaseFile
  | some config =>
    match load Tree.library files (Path.ofString config) a.options.validateConfig with
    | .error (.notFound _) => .finished 1 [] [s!"Error: Config file not found: {config}"]
    | .error _ => .finished 1 [] ["Error: Config validation failed:"]
    | .ok tree =>
      match runCommand a files input tree with
      | .ok outcome => outcome
      | .error why => .failed why

/-- Carries out a command line. -/
def run (arguments : List String) (files : FileTree) (input : String) : Outcome :=
  match parse arguments with
  | .error why => .halted why
  | .ok a => runArguments a files input

end AisStation.CommandLine
