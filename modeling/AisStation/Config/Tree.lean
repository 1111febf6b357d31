import AisStation.Config.Resolution

/-!
Changing trees of configuration.

Merging lays one tree over another: objects are merged member by member, and for everything else the
later value counts, except that an object and a list do not merge and that a value which is still to
be given changes nothing. A text that stands for a container in the tree gives way to a copy of the
container before something is laid over it. An update puts one value at the place that a path of
keys names; on the way it goes through texts that stand for containers.
-/

namespace AisStation.Config

/-- Why a tree cannot be changed. -/
inductive TreeError
  /-- An object and a list do not merge. -/
  | mergeConflict
  /-- The path has no keys. -/
  | noKey
  /-- A key into a list is no number. -/
  | indexType
  /-- The last key leads into a list and is no number. -/
  | indexValue
  /-- A list has no item of the given number. -/
  | indexRange
  /-- A text in the new value does not follow the grammar of templates. -/
  | malformedTemplate
deriving DecidableEq, Repr

namespace Tree

/-! ## Merging -/

/-- The container at another place that a text in the tree stands for. -/
def referredContainer? (place : Place) (tree : Json) : Option Json := do
  let text ← at? place tree
  if Template.isTemplate text then
    match settleAt tree place with
    | .ok found => if (found.value tree).isContainer then some (found.value tree) else none
    | .error _ => none
  else none

/-- Puts a copy of the container that a text stands for in the place of the text. -/
def expandAt (place : Place) (tree : Json) : Json :=
  match referredContainer? place tree with
  | some value => putAt value place tree
  | none => tree

mutual

/-- Lays a value over the one at a place. -/
def mergeAt (layer : Json) (place : Place) (tree : Json) : Except TreeError Json :=
  match layer with
  | .object members =>
    match at? place tree with
    | some (.object _) => mergeMembersAt members place tree
    | some (.list _) => .error .mergeConflict
    | _ => .ok (putAt (.object members) place tree)
  | .list items =>
    match at? place tree with
    | some (.object _) => .error .mergeConflict
    | _ => .ok (putAt (.list items) place tree)
  | value =>
    if isMissing value && (at? place tree).isSome then .ok tree else .ok (putAt value place tree)
termination_by structural layer

/-- Lays members over those of the object at a place. -/
def mergeMembersAt (members : List (String × Json)) (place : Place) (tree : Json) :
    Except TreeError Json :=
  match members with
  | [] => .ok tree
  | (name, value) :: members => do
    let inner := place ++ [.member name]
    let tree ← mergeAt value inner (expandAt inner tree)
    mergeMembersAt members place tree
termination_by structural members

end

/-- Lays a tree over another. -/
def merge (base layer : Json) : Except TreeError Json :=
  mergeAt layer [] base

/-! ## Updates -/

mutual

/-- Do all texts with references follow the grammar of templates? -/
def isWellFormed : Json → Bool
  | .text s => !Template.holdsOpening s.toList || (Template.ofString? s).isSome
  | .list items => areWellFormed items
  | .object members => membersAreWellFormed members
  | _ => true

/-- Do all texts in the items follow the grammar? -/
def areWellFormed : List Json → Bool
  | [] => true
  | item :: items => isWellFormed item && areWellFormed items

/-- Do all texts in the members follow the grammar? -/
def membersAreWellFormed : List (String × Json) → Bool
  | [] => true
  | (_, value) :: members => isWellFormed value && membersAreWellFormed members

end

/-- The place of the container in the tree that a value stands for. -/
def containerPlace? (place : Place) (tree : Json) : Option Place :=
  match at? place tree with
  | none => none
  | some _ => match settleAt tree place with
    | .ok (.inTree place) =>
      if (at? place tree).any (·.isContainer) then some place else none
    | _ => none

/-- Goes by one key into the container at a place: the tree and the place of the container that the
key leads to. What is no container becomes an object without members. -/
def enter (tree : Json) (place : Place) (key : String) : Except TreeError (Json × Place) := do
  let step ← match at? place tree with
    | some (.list items) =>
      match Text.integer? key with
      | none => throw .indexType
      | some n => match index? items.length n with
        | none => throw .indexRange
        | some i => pure (.item i)
    | _ => pure (.member key)
  let inner := place ++ [step]
  match containerPlace? inner tree with
  | some target => return (tree, target)
  | none => return (putAt (.object []) inner tree, inner)

/-- The step that the last key of a path names in the container at a place. -/
def lastStep (tree : Json) (place : Place) (key : String) : Except TreeError Step :=
  match at? place tree with
  | some (.list items) =>
    match Text.integer? key with
    | none => .error .indexValue
    | some n => match index? items.length n with
      | none => .error .indexRange
      | some i => .ok (.item i)
  | _ => .ok (.member key)

/-- Puts a value at a place: containers are merged, anything else replaces what was there. -/
def put (value : Json) (place : Place) (tree : Json) : Except TreeError Json :=
  if !isWellFormed value then .error .malformedTemplate
  else if value.isContainer && (at? place tree).any (·.isContainer) then mergeAt value place tree
  else .ok (putAt value place tree)

/-- Follows the keys of a path from the container at a place, and puts a value at the last. -/
def updateFrom (value : Json) (place : Place) (tree : Json) : List String → Except TreeError Json
  | [] => .error .noKey
  | [key] => do
    let step ← lastStep tree place key
    put value (place ++ [step]) tree
  | key :: keys => do
    let (tree, inner) ← enter tree place key
    updateFrom value inner tree keys

/-- Puts a value at the place that a path of keys names. -/
def update (value : Json) (keys : List String) (tree : Json) : Except TreeError Json :=
  updateFrom value [] tree keys

end Tree

end AisStation.Config
