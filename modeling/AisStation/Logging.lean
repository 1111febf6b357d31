/-!
Levels and destinations of log records.

A level is given by its name in any case; an unknown name stands for the informational level.
Records always go to the console, and to a file if one is named.
-/

namespace AisStation

/-- The levels that a configuration may choose. -/
inductive LogLevel
  | debug
  | info
  | warning
  | error
deriving DecidableEq, Repr, Inhabited

namespace LogLevel

/-- All levels. -/
def all : List LogLevel := [debug, info, warning, error]

/-- The name of a level. -/
def name : LogLevel → String
  | debug => "DEBUG"
  | info => "INFO"
  | warning => "WARNING"
  | error => "ERROR"

/-- The level of a given name. -/
def ofName? (name : String) : Option LogLevel :=
  all.find? (·.name == name)

end LogLevel

namespace Logging

/-- The least severity that is logged if the level is unknown. -/
def defaultSeverity : Nat := 20

/-- The severities under their names. -/
def severities : List (String × Nat) := [
  ("NOTSET", 0), ("DEBUG", 10), ("INFO", 20), ("WARN", 30), ("WARNING", 30), ("ERROR", 40),
  ("CRITICAL", 50), ("FATAL", 50)]

/-- A name that denotes the layout of records and hence no severity. -/
def layoutName : String := "BASIC_FORMAT"

/-- Why there is no logging at a level. -/
inductive LevelError
  /-- The name denotes the layout of records. -/
  | namesLayout
deriving DecidableEq, Repr

/-- The wording of a level error. -/
def LevelError.message : LevelError → String
  | namesLayout => "Unknown level: '%(levelname)s:%(name)s:%(message)s'"

/-- The capital of a letter that has one among the letters A to Z. -/
def capital (c : Char) : Char :=
  if c = 'ı' then 'I' else if c = 'ſ' then 'S' else c.toUpper

/-- The severity of a level given by name. -/
def severity (level : String) : Except LevelError Nat :=
  let name := String.ofList (level.toList.map capital)
  if name = layoutName then .error .namesLayout
  else .ok ((severities.lookup name).getD defaultSeverity)

/-- Where records go. -/
inductive Destination
  | console
  | file
deriving DecidableEq, Repr

/-- What is logged, and where to. -/
structure Setup where
  severity : Nat
  destinations : List Destination
deriving DecidableEq, Repr

/-- The least severity that is logged of the event loop. -/
def eventLoopSeverity : Nat := 30

/-- Logging at a level, also to a file if there is one. -/
def setup (level : String) (toFile : Bool) : Except LevelError Setup := do
  let severity ← severity level
  return ⟨severity, if toFile then [.console, .file] else [.console]⟩

end Logging

end AisStation
