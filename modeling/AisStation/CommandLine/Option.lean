import AisStation.Text.Digit

/-!
Options among command-line arguments.

An argument that starts with a hyphen is an option. A long option may be cut short as long as one
option fits, its value may follow an equals sign, and the value of an option of one letter may
follow the letter. After the argument `--` nothing is an option, and neither is an argument that
looks like a negative number or holds a blank, unless it fits an option.
-/

namespace AisStation.CommandLine

/-- What an option is about. -/
inductive Topic
  | help
  | config
  | logLevel
  | validateConfig
  | logFile
  | logJson
  | noValidate
  | host
  | port
  | maxClients
deriving DecidableEq, Repr

/-- An option: its names and whether a value goes with it. -/
structure OptionSpec where
  topic : Topic
  names : List String
  takesValue : Bool
deriving DecidableEq, Repr

/-- Why the command line is not carried out. -/
inductive Halt
  /-- Help was asked for. -/
  | help
  /-- The arguments are wrong. -/
  | usage
deriving DecidableEq, Repr

/-- The exit status that goes with a halt. -/
def Halt.status : Halt → Nat
  | help => 0
  | usage => 2

/-- What an argument is. -/
inductive Argument
  /-- An option under one of its names, with what is attached to it if anything is. -/
  | option (spec : OptionSpec) (name : List Char) (attached : Option (List Char))
  /-- An option that nobody knows. -/
  | unknown
  /-- The argument after which nothing is an option. -/
  | separator
  /-- Anything else. -/
  | operand
deriving DecidableEq, Repr

/-- All options under each of their names. -/
def namedOptions (specs : List OptionSpec) : List (List Char × OptionSpec) :=
  specs.flatMap fun spec => spec.names.map fun name => (name.toList, spec)

/-- Splits at the first equals sign. -/
def splitEquals (cs : List Char) : List Char × Option (List Char) :=
  (cs.takeWhile (· ≠ '='), (cs.dropWhile (· ≠ '=')).tail?)

/-- The options that an argument of two hyphens may be short for. -/
def longCandidates (specs : List OptionSpec) (cs : List Char) : List Argument :=
  let (start, attached) := splitEquals cs
  ((namedOptions specs).filter fun (name, _) => start.isPrefixOf name).map
    fun (name, spec) => .option spec name attached

/-- The options that an argument of one hyphen may stand for. -/
def shortCandidates (specs : List OptionSpec) (cs : List Char) : List Argument :=
  (namedOptions specs).filterMap fun (name, spec) =>
    if name = cs.take 2 then some (.option spec name (some (cs.drop 2)))
    else if cs.isPrefixOf name then some (.option spec name none)
    else none

/-- The options that an argument may stand for although it is not their name. -/
def candidates (specs : List OptionSpec) : List Char → List Argument
  | '-' :: '-' :: cs => longCandidates specs ('-' :: '-' :: cs)
  | cs => shortCandidates specs cs

/-- Does the argument look like a negative number? A line break at the end does not count. -/
def looksNegative : List Char → Bool
  | '-' :: cs =>
    let cs := if cs.getLast? = some '\n' then cs.dropLast else cs
    let isDigit := fun c => (Text.decimalDigit? c).isSome
    match cs.dropWhile isDigit with
    | [] => !cs.isEmpty
    | '.' :: places => !places.isEmpty && places.all isDigit
    | _ => false
  | _ => false

/-- What an argument is before the separator; an argument that may be short for several options is
wrong. -/
def classify (specs : List OptionSpec) (argument : String) : Except Halt Argument :=
  match argument.toList with
  | '-' :: '-' :: [] => .ok .separator
  | '-' :: c :: rest =>
    let cs := '-' :: c :: rest
    let named := namedOptions specs
    match named.lookup cs, splitEquals cs with
    | some spec, _ => .ok (.option spec cs none)
    | none, (_, none) => ofCandidates cs
    | none, (start, attached) =>
      match named.lookup start with
      | some spec => .ok (.option spec start attached)
      | none => ofCandidates cs
  | _ => .ok .operand
where
  /-- The only option that fits, or no option at all. -/
  ofCandidates (cs : List Char) : Except Halt Argument :=
    match candidates specs cs with
    | [] => .ok (if looksNegative cs || cs.contains ' ' then .operand else .unknown)
    | [argument] => .ok argument
    | _ => .error .usage

/-- What the arguments of a command line are. -/
def classifyAll (specs : List OptionSpec) : List String → Except Halt (List (String × Argument))
  | [] => .ok []
  | argument :: arguments => do
    let found ← classify specs argument
    match found with
    | .separator => return (argument, found) :: arguments.map fun text => (text, .operand)
    | _ => return (argument, found) :: (← classifyAll specs arguments)

/-- An option that was given, with its value if it takes one and has one. -/
abbrev Given := Topic × Option String

/-- The value that is attached to an option. Two hyphens do not count as one. -/
def attachedValue (cs : List Char) : Option String :=
  if cs = ['-', '-'] then none else some (String.ofList cs)

/-- What one argument gives: options with their values, and perhaps an option that still needs its
value. -/
structure Cluster where
  given : List Given
  needsValue : Option Topic := none
deriving DecidableEq, Repr

/-- What an option gives to which nothing is attached. -/
def clusterAlone (spec : OptionSpec) : Cluster :=
  if spec.takesValue then { given := [], needsValue := some spec.topic }
  else { given := [(spec.topic, none)] }

/-- What an option gives to which something is attached: that is its value, or, if the option has
none and a name of one letter, further such names. -/
def clusterJoined (specs : List OptionSpec) (spec : OptionSpec) (name : List Char) :
    List Char → Except Halt Cluster
  | [] => if spec.takesValue then .ok { given := [(spec.topic, some "")] } else .error .usage
  | c :: rest =>
    if spec.takesValue then .ok { given := [(spec.topic, attachedValue (c :: rest))] }
    else if name.take 2 = ['-', '-'] then .error .usage
    else match (namedOptions specs).lookup ['-', c] with
      | none => .error .usage
      | some next => do
        let cluster ←
          if rest.isEmpty then pure (clusterAlone next)
          else clusterJoined specs next ['-', c] rest
        return { cluster with given := (spec.topic, none) :: cluster.given }

/-- What an argument gives. -/
def clusterOf (specs : List OptionSpec) (spec : OptionSpec) (name : List Char) :
    Option (List Char) → Except Halt Cluster
  | some cs => clusterJoined specs spec name cs
  | none => .ok (clusterAlone spec)

/-- What is found on a command line, in order. -/
inductive Item
  /-- Options, with their values. -/
  | options (given : List Given)
  /-- An option that nobody knows. -/
  | unknown
  /-- The argument after which nothing is an option. -/
  | separator
  /-- An operand, and all arguments after it. -/
  | operand (text : String) (rest : List String)
  /-- Something wrong, after which nothing counts. -/
  | fault
deriving DecidableEq, Repr

/-- The items of a command line. The value of an option may be the argument after it. -/
def items (specs : List OptionSpec) : List (String × Argument) → List Item
  | [] => []
  | (_, .option spec name attached) :: arguments =>
    match clusterOf specs spec name attached with
    | .error _ => [.fault]
    | .ok cluster =>
      match cluster.needsValue with
      | none => .options cluster.given :: items specs arguments
      | some topic =>
        match arguments with
        | (value, .operand) :: arguments =>
          .options (cluster.given ++ [(topic, some value)]) :: items specs arguments
        | _ => [.fault]
  | (_, .unknown) :: arguments => .unknown :: items specs arguments
  | (_, .separator) :: arguments => .separator :: items specs arguments
  | (text, .operand) :: arguments =>
    .operand text (arguments.map (·.1)) :: items specs arguments

/-- The items that the texts of a command line make up. -/
def itemsOf (specs : List OptionSpec) (arguments : List String) : Except Halt (List Item) := do
  return items specs (← classifyAll specs arguments)

end AisStation.CommandLine
