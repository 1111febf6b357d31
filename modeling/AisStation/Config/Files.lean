import AisStation.Text.Blank

/-!
Trees of files.

A path is a list of steps; single points and empty steps do not count. A tree holds texts at paths,
and every proper initial part of the path of a text is a directory.
-/

namespace AisStation.Config

/-- The steps of a path. An absolute path starts with the step `/`, or `//` if it has just two
slashes in front. -/
abbrev Path := List String

namespace Path

/-- The steps between the slashes of a text. -/
def pieces : List Char → List (List Char)
  | [] => [[]]
  | c :: cs =>
    if c = '/' then [] :: pieces cs
    else match pieces cs with
      | [] => [[c]]
      | piece :: rest => (c :: piece) :: rest

/-- The step that an absolute path starts with. -/
def root? (cs : List Char) : Option String :=
  match (cs.takeWhile (· = '/')).length with
  | 0 => none
  | 2 => some "//"
  | _ => some "/"

/-- The path that a text describes. -/
def ofString (s : String) : Path :=
  let cs := s.toList
  let steps := (pieces cs).filter fun step => step ≠ [] && step ≠ ['.']
  (root? cs).toList ++ steps.map String.ofList

/-- The text of a path. -/
def render : Path → String
  | [] => "."
  | "/" :: steps => "/" ++ "/".intercalate steps
  | "//" :: steps => "//" ++ "/".intercalate steps
  | steps => "/".intercalate steps

end Path

/-- A tree of files. -/
structure FileTree where
  /-- The texts at their paths. -/
  files : List (Path × String)
deriving Repr

namespace FileTree

/-- What there is at a path. -/
inductive Entry
  | file (text : String)
  | directory
deriving DecidableEq, Repr

/-- Does the path lead to a directory around all files? -/
def isAround (p : Path) : Bool :=
  p.all (· = "..") || p = ["/"] || p = ["//"]

/-- Is there a directory at a path with steps back only at its front? -/
def isDirectory (t : FileTree) (p : Path) : Bool :=
  isAround p || t.files.any fun (path, _) => p.isPrefixOf path && p.length < path.length

/-- Where a step leads. A step back leads out of a directory that exists; at the root it leads
nowhere else. -/
def stepTo? (t : FileTree) (p : Path) (step : String) : Option Path :=
  if step ≠ ".." || p.all (· = "..") then some (p ++ [step])
  else if isAround p then some p
  else if t.isDirectory p then some p.dropLast
  else none

/-- The path with steps back only at its front. -/
def locate? (t : FileTree) (p : Path) : Option Path :=
  p.foldlM t.stepTo? []

/-- What there is at a path. -/
def entry? (t : FileTree) (p : Path) : Option Entry := do
  let p ← t.locate? p
  match t.files.lookup p with
  | some text => some (.file text)
  | none => if t.isDirectory p then some .directory else none

/-- The greatest number of bytes in a step of a path. -/
def maxStepBytes : Nat := 255

/-- The greatest number of bytes in a path. -/
def maxPathBytes : Nat := 4095

/-- Is the step too long? -/
def isOverlongStep (step : String) : Bool :=
  maxStepBytes < step.utf8ByteSize

/-- Is the path too long, or is there a step that is too long in a directory that exists? -/
def isOverlong (t : FileTree) (p : Path) : Bool :=
  maxPathBytes < p.render.utf8ByteSize ||
    (List.range p.length).any fun i =>
      p[i]?.any isOverlongStep && t.entry? (p.take i) = some .directory

/-- Does the path lead through a file? -/
def leadsThroughFile (t : FileTree) (p : Path) : Bool :=
  match t.locate? p with
  | some p => t.files.any fun (path, _) => path.isPrefixOf p && path.length < p.length
  | none => false

/-- The names in a directory, in order. -/
def names (t : FileTree) (p : Path) : List String :=
  match t.locate? p with
  | some p =>
    let steps := t.files.filterMap fun (path, _) =>
      if p.isPrefixOf path then path[p.length]? else none
    steps.eraseDups.mergeSort fun a b => decide (a ≤ b)
  | none => []

/-- The tree with a text at a path. -/
def write (t : FileTree) (p : Path) (text : String) : FileTree :=
  ⟨(p, text) :: t.files.filter fun (path, _) => path ≠ p⟩

end FileTree

end AisStation.Config
