import AisStation.Json.Basic

/-!
Places in a tree.

A tree of configuration is a JSON value. A place names one of the values inside of it by the steps
that lead there, from the outside in.
-/

namespace AisStation.Config

/-- A step into a container. -/
inductive Step
  /-- The member of an object. -/
  | member (name : String)
  /-- The item of a list. -/
  | item (index : Nat)
deriving DecidableEq, Repr

/-- A place in a tree. -/
abbrev Place := List Step

namespace Tree

/-- Does the value stand for one that is still to be given? -/
def isMissing : Json → Bool
  | .text s => s == "???"
  | _ => false

/-- The value that a step leads to. -/
def child? : Step → Json → Option Json
  | .member name, .object members => members.lookup name
  | .item i, .list items => items[i]?
  | _, _ => none

/-- The container with a value where a step leads to: a member is added if there is none of its
name, and an item is replaced. -/
def setChild (value : Json) : Step → Json → Json
  | .member name, .object members => .object (Json.setMember name value members)
  | .item i, .list items => .list (items.set i value)
  | _, tree => tree

/-- The value at a place. -/
def at? : Place → Json → Option Json
  | [], tree => some tree
  | step :: place, tree => do at? place (← child? step tree)

/-- The tree with a value at a place in a container that exists. -/
def putAt (value : Json) : Place → Json → Json
  | [], _ => value
  | step :: place, tree => setChild (putAt value place ((child? step tree).getD .null)) step tree

end Tree

end AisStation.Config
