import AisStation.Config.Files
import AisStation.Config.Library
import AisStation.Config.Schema

/-!
The configuration store.

Loading reads a base file, lays over it the files of the directories `codec` and `relay` beside it,
each in the order of names, and checks the result against the schema if that is asked for by the
caller or by the merged configuration itself. References count in the check for what they stand for
but are kept as they are. The store keeps the last configuration that was loaded, with the changes
made to it since; a request that fails leaves it as it was.
-/

namespace AisStation.Config

variable {Node Value Error : Type}

/-- Why a configuration cannot be loaded, changed or handed out. -/
inductive StoreError (Error : Type)
  /-- There is no base file. -/
  | notFound (path : Path)
  /-- The path of the base file is too long. -/
  | overlong
  /-- There is a directory where a file is expected. -/
  | isDirectory
  /-- An operation of the library fails. -/
  | library (why : Error)
  /-- The base file holds a list. -/
  | noObject
  /-- The configuration violates the schema. -/
  | violated (violations : List Violation)
  /-- No configuration was loaded. -/
  | notLoaded
deriving DecidableEq, Repr

/-- The wording of the errors that concern the store itself. -/
def StoreError.message? : StoreError Error → Option String
  | notFound path => some s!"Config not found: {path.render}"
  | notLoaded => some "Config not loaded yet. Call load() first."
  | _ => none

section Loading

variable (lib : Library Node Value Error) (files : FileTree)

/-- The node in the file at a path. -/
def readFile (path : Path) : Except (StoreError Error) Node :=
  match files.entry? path with
  | none => .error (if files.isOverlong path then .overlong else .notFound path)
  | some .directory => .error .isDirectory
  | some (.file text) => (lib.read text).mapError .library

/-- The directories whose files are laid over the base file. -/
def overrideDirectories : List String := ["codec", "relay"]

/-- Is the file laid over the base file? -/
def isOverride (name : String) : Bool :=
  ".yaml".toList.isSuffixOf name.toList

/-- The files that are laid over a base file, in order. -/
def overridePaths (path : Path) : List Path :=
  overrideDirectories.flatMap fun directory =>
    let directory := path.dropLast ++ [directory]
    ((files.names directory).filter isOverride).map fun name => directory ++ [name]

/-- Lays a file over a node. -/
def mergeFile (base : Node) (path : Path) : Except (StoreError Error) Node := do
  let layer ← readFile lib files path
  (lib.merge base layer).mapError .library

/-- The path of the setting that asks for a check. -/
def checkPath : String := s!"{stationName}.system.validate_config"

/-- Does a configuration ask for its check? -/
def asksForCheck (config : Node) : Except (StoreError Error) Bool := do
  match ← (lib.select config checkPath).mapError .library with
  | some value => return lib.isTruthy value
  | none => return false

/-- The base file with all files laid over it. -/
def merged (path : Path) : Except (StoreError Error) Node := do
  let base ← readFile lib files path
  if lib.isObject base then (overridePaths files path).foldlM (mergeFile lib files) base
  else throw .noObject

/-- The configuration with the given base file. -/
def load (path : Path) (validate : Bool) : Except (StoreError Error) Node := do
  let config ← merged lib files path
  let validate ← if validate then pure true else asksForCheck lib config
  if validate then
    let resolved ← (lib.resolve config).mapError .library
    match check resolved with
    | .valid _ => return config
    | .invalid violations => throw (.violated violations)
  else return config

end Loading

/-- A store: the path of its base file and the configuration that was loaded. -/
structure Store (Node : Type) where
  path : Path
  config? : Option Node := none
deriving Repr

/-- What a store is asked for. -/
inductive Request (Value : Type)
  /-- Load the files, with or without a check against the schema. -/
  | load (validate : Bool)
  /-- Put a value at the place that a dotted path names. -/
  | override (path : String) (value : Value)
  /-- Hand out the configuration. -/
  | read
deriving Repr

namespace Store

/-- What a request makes of the configuration. -/
def answer (lib : Library Node Value Error) (s : Store Node) (files : FileTree) :
    Request Value → Except (StoreError Error) Node
  | .load validate => load lib files s.path validate
  | .override path value =>
    match s.config? with
    | none => .error .notLoaded
    | some config => (lib.update config path value).mapError .library
  | .read =>
    match s.config? with
    | none => .error .notLoaded
    | some config => .ok config

/-- Carries out a request. -/
def perform (lib : Library Node Value Error) (s : Store Node) (files : FileTree)
    (request : Request Value) : Except (StoreError Error) Node × Store Node :=
  match s.answer lib files request with
  | .ok config => (.ok config, { s with config? := some config })
  | .error e => (.error e, s)

end Store

end AisStation.Config
