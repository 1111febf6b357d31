import AisStation.Config.Tree

/-!
What a store of configurations needs of trees.

The texts of files are read as nodes, which are objects or lists, and nodes are laid over each other,
searched, changed and resolved. A store goes by these operations and by nothing else. Each of them
may fail for reasons of its own, and none changes what it is given.

The operations on trees of JSON values make up one such library.
-/

namespace AisStation.Config

/-- The operations that a store of configurations is built on. -/
structure Library (Node Value Error : Type) where
  /-- The node in the text of a file. -/
  read : String → Except Error Node
  /-- Is the node an object, and not a list? -/
  isObject : Node → Bool
  /-- Lays the second node over the first. -/
  merge : Node → Node → Except Error Node
  /-- The value that a dotted path leads to, if there is one. -/
  select : Node → String → Except Error (Option Value)
  /-- Does a value count as true? -/
  isTruthy : Value → Bool
  /-- The node with a value put at the place that a dotted path names. -/
  update : Node → String → Value → Except Error Node
  /-- What the node holds when all references in it are resolved. -/
  resolve : Node → Except Error Json

/-- Why an operation on trees of JSON values fails. -/
inductive LibraryError
  /-- The text of a file cannot be read. -/
  | document (why : DocumentError)
  /-- A text in a file does not follow the grammar of templates. -/
  | malformedTemplate
  /-- There are an object and a list in the same place. -/
  | mergeConflict
  /-- The path leads into a list by a key that is no number. -/
  | listOnPath
  /-- A reference has no value. -/
  | unresolved (why : ResolutionError)
  /-- The tree cannot be changed. -/
  | update (why : TreeError)
deriving DecidableEq, Repr

namespace Tree

/-- The tree in the text of a file. -/
def read (text : String) : Except LibraryError Json := do
  let tree ← (Document.tree text).mapError .document
  if isWellFormed tree then return tree else throw .malformedTemplate

/-- The value that a dotted path leads to, if there is one. -/
def valueAt? (tree : Json) (path : String) : Except LibraryError (Option Json) := do
  match ← (select tree (KeyPath.keys path)).mapError .unresolved with
  | .found found => return some (found.value tree)
  | .noIndex => throw .listOnPath
  | _ => return none

/-- The tree with a value put at the place that a dotted path names. -/
def override (tree : Json) (path : String) (value : Json) : Except TreeError Json :=
  update value (KeyPath.keys path) tree

/-- The library of the operations on trees of JSON values. -/
def library : Library Json Json LibraryError where
  read := read
  isObject := Json.isObject
  merge := fun base layer => (merge base layer).mapError fun _ => .mergeConflict
  select := valueAt?
  isTruthy := Json.isTruthy
  update := fun tree path value => (override tree path value).mapError .update
  resolve := fun tree => (resolve tree).mapError .unresolved

end Tree

end AisStation.Config
