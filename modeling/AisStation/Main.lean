import AisStation.CommandLine.Run

/-!
The command line program.

Only what has to do with files and streams is here: it gathers the texts that a command may read,
carries the command out on them, and writes what it says.
-/

namespace AisStation.CommandLine

open Config

/-- The text of bytes; bytes that do not make up a text stand for characters one by one. -/
def textOfBytes (bytes : ByteArray) : String :=
  match String.fromUTF8? bytes with
  | some text => text
  | none => String.ofList (bytes.toList.map fun byte => Char.ofNat byte.toNat)

/-- The file at a path, if it can be read. -/
def readFile (path : String) : IO (List (Path × String)) := do
  try
    let bytes ← IO.FS.readBinFile path
    return [(Path.ofString path, textOfBytes bytes)]
  catch _ => return []

/-- The names in a directory. -/
def directoryNames (directory : String) : IO (List String) := do
  try
    let entries ← (← IO.FS.realPath directory).readDir
    return entries.toList.map (·.fileName)
  catch _ => return []

/-- The files of a directory that are laid over the base file. -/
def readDirectory (directory : Path) : IO (List (Path × String)) := do
  let names ← directoryNames directory.render
  let files ← (names.filter isOverride).mapM fun name => readFile (directory ++ [name]).render
  return files.flatten

/-- The files that a command line may read. -/
def gatherFiles (a : Arguments) : IO FileTree := do
  let base := Path.ofString (a.options.config.getD "")
  let overrides ← overrideDirectories.mapM fun name => readDirectory (base.dropLast ++ [name])
  let sentences ← match a.command with
    | .decode (some file) _ => readFile file
    | _ => pure []
  return ⟨(← readFile base.render) ++ overrides.flatten ++ sentences⟩

/-- The rest of a stream. -/
partial def readRest (stream : IO.FS.Stream) (before : ByteArray) : IO ByteArray := do
  let bytes ← stream.read 65536
  if bytes.isEmpty then return before else readRest stream (before ++ bytes)

/-- The standard input, if the command reads it. -/
def gatherInput : Command → IO String
  | .decode none _ => do return textOfBytes (← readRest (← IO.getStdin) ByteArray.empty)
  | _ => return ""

/-- How the program is called. -/
def usage : String :=
  "usage: aislink [-h] [--config CONFIG] [--log-level LEVEL] [--validate-config]\n" ++
  "               [--log-file FILE] [--log-json] decode [-h] [--no-validate] [FILE]\n" ++
  "       aislink [options] relay [-h] [--host HOST] [--port PORT] [--max-clients COUNT]"

/-- Writes an outcome and returns the exit status. -/
def report : Outcome → IO UInt32
  | .halted .help => do
    IO.println usage
    return 0
  | .halted .usage => do
    IO.eprintln usage
    return 2
  | .failed why => do
    IO.eprintln s!"aislink: {repr why}"
    return 1
  | .finished status output errors => do
    output.forM IO.println
    errors.forM IO.eprintln
    return .ofNat status
  | .serving relay => do
    IO.eprintln s!"aislink: there is no listener for {relay.config.host}:{relay.config.port}"
    return 1

/-- The program. -/
def program (arguments : List String) : IO UInt32 := do
  match parse arguments with
  | .error why => report (.halted why)
  | .ok a => report (runArguments a (← gatherFiles a) (← gatherInput a.command))

end AisStation.CommandLine

def main (arguments : List String) : IO UInt32 :=
  AisStation.CommandLine.program arguments
