import AisStation.Config.Document
import AisStation.Config.KeyPath
import AisStation.Config.Place
import AisStation.Config.Template.Reader
import AisStation.Json.Display
import AisStation.Text.Integer

/-!
Resolving references.

A text that is a single reference stands for the value that the reference leads to, in its place in
the tree; any other template stands for the text that its pieces make up. A path without points at
the front starts from the whole tree, one point stands for the container that holds the text, and
each further point for the container around it. References may lead to texts with references and may
stand inside of others; resolving keeps a trail of the places that it is at, and a reference that
leads back to one of them has no value.
-/

namespace AisStation.Config

/-- Why a reference has no value. -/
inductive ResolutionError
  /-- The text does not follow the grammar of templates. -/
  | malformed
  /-- There is nothing where the reference leads. -/
  | absent
  /-- The value is still to be given. -/
  | missing
  /-- There is no function of the given name. -/
  | unknownFunction
  /-- The path or the arguments make no sense where they are used. -/
  | unresolvable
  /-- The reference leads back to itself. -/
  | endless
deriving DecidableEq, Repr

/-- What a reference leads to. -/
inductive Found
  /-- A value in the tree. -/
  | inTree (place : Place)
  /-- A value that was made of others. -/
  | made (value : Json)
deriving Repr

namespace Found

/-- The value, with its references as they stand. -/
def value (tree : Json) : Found → Json
  | inTree place => (Tree.at? place tree).getD .null
  | made value => value

/-- What a step leads to. -/
def child (step : Step) : Found → Found
  | inTree place => inTree (place ++ [step])
  | made value => made ((Tree.child? step value).getD .null)

end Found

/-- Where a path leads. -/
inductive Destination
  /-- To a value. -/
  | found (f : Found)
  /-- To no value. -/
  | nowhere
  /-- To a value that is still to be given, or through one. -/
  | missing
  /-- Through a value that is no container. -/
  | noContainer
  /-- Into a list by a key that is no number. -/
  | noIndex
deriving Repr

namespace Tree

/-- The index that a number names in a list of some length; negative numbers count from the end. -/
def index? (length : Nat) (n : Int) : Option Nat :=
  let n := if n < 0 then n + length else n
  if 0 ≤ n ∧ n < length then some n.toNat else none

/-- The step from a value that a key names. -/
def stepFor (key : String) : Json → Except Destination Step
  | .object members =>
    if (members.lookup key).isSome then .ok (.member key) else .error .nowhere
  | .list items =>
    match Text.integer? key with
    | none => .error .noIndex
    | some n => match index? items.length n with
      | some i => .ok (.item i)
      | none => .error .nowhere
  | _ => .error .noContainer

/-- The container where a path from `here` starts, and the path that is left. -/
def origin? (here : Place) (path : String) : Option (Place × String) :=
  let points := path.toList.takeWhile (· = '.')
  let rest := String.ofList (path.toList.dropWhile (· = '.'))
  if points.isEmpty then some ([], rest)
  else if points.length ≤ here.length + 1 then
    some (here.take (here.length + 1 - points.length), rest)
  else none

/-- The text that a plain text stands for: backslashes keep the mark of missing values from being
one, and one of them is dropped. -/
def plainText (s : String) : String :=
  match s.toList with
  | '\\' :: cs => if cs.dropWhile (· = '\\') = "???".toList then String.ofList cs else s
  | _ => s

/-- The names of all functions. -/
def functionNames : List String :=
  ["oc.create", "oc.decode", "oc.deprecated", "oc.dict.keys", "oc.dict.values", "oc.env",
    "oc.select"]

mutual

/-- What a value stands for. -/
def settle (tree : Json) : Nat → List Place → Found → Except ResolutionError Found
  | 0, _, _ => .error .endless
  | _ + 1, _, .made value => .ok (.made value)
  | fuel + 1, trail, .inTree place =>
    match at? place tree with
    | some (.text s) =>
      if !Template.holdsOpening s.toList then .ok (.inTree place)
      else if trail.contains place then .error .endless
      else
        match Template.ofString? s with
        | some pieces => evaluate tree fuel (place :: trail) place.dropLast pieces
        | none => .error .malformed
    | _ => .ok (.inTree place)

/-- Follows keys from a container. -/
def follow (tree : Json) :
    Nat → List Place → Found → List String → Except ResolutionError Destination
  | _, _, found, [] => .ok (.found found)
  | 0, _, _, _ => .error .endless
  | fuel + 1, trail, found, key :: keys =>
    match stepFor key (found.value tree) with
    | .error destination => .ok destination
    | .ok step =>
      let next := found.child step
      if isMissing (next.value tree) then .ok .missing
      else do
        let next ← settle tree fuel trail next
        follow tree fuel trail next keys

/-- What a template in the container `here` stands for. -/
def evaluate (tree : Json) : Nat → List Place → Place → Template → Except ResolutionError Found
  | 0, _, _, _ => .error .endless
  | fuel + 1, trail, here, [.reference r] => refer tree fuel trail here r
  | fuel + 1, trail, here, pieces => do
    let s ← textOf tree fuel trail here pieces
    return .made (.text s)

/-- The text that the pieces of a template make up. -/
def textOf (tree : Json) : Nat → List Place → Place → Template → Except ResolutionError String
  | 0, _, _, _ => .error .endless
  | fuel + 1, trail, here, pieces => do
    let texts ← pieces.mapM fun piece => match piece with
      | .plain cs => pure cs
      | .reference r => do
        let found ← refer tree fuel trail here r
        pure (found.value tree).display.toList
    return String.ofList texts.flatten

/-- The path or the name that pieces make up; a reference in it has to stand for a text. -/
def pathOf (tree : Json) : Nat → List Place → Place → Template → Except ResolutionError String
  | 0, _, _, _ => .error .endless
  | fuel + 1, trail, here, pieces => do
    let texts ← pieces.mapM fun piece => match piece with
      | .plain cs => pure cs
      | .reference r => do
        let found ← refer tree fuel trail here r
        match found.value tree with
        | .text s => pure s.toList
        | _ => throw .unresolvable
    return String.ofList texts.flatten

/-- What a reference in the container `here` leads to. -/
def refer (tree : Json) : Nat → List Place → Place → Reference → Except ResolutionError Found
  | 0, _, _, _ => .error .endless
  | fuel + 1, trail, here, .place pieces => do
    let path ← pathOf tree fuel trail here pieces
    match ← lookUp tree fuel trail here path with
    | .found found => return found
    | .nowhere => throw .absent
    | .missing => throw .missing
    | .noContainer | .noIndex => throw .unresolvable
  | fuel + 1, trail, here, .call pieces arguments => do
    let name ← pathOf tree fuel trail here pieces
    let values ← arguments.mapM (argument tree fuel trail here)
    call tree fuel trail here name values

/-- Where a path in the container `here` leads. -/
def lookUp (tree : Json) :
    Nat → List Place → Place → String → Except ResolutionError Destination
  | 0, _, _, _ => .error .endless
  | fuel + 1, trail, here, path =>
    match origin? here path with
    | none => .ok .nowhere
    | some (start, rest) =>
      if rest.isEmpty then .ok (.found (.inTree start))
      else match KeyPath.keys rest with
        | [] => .error .unresolvable
        | keys => follow tree fuel trail (.inTree start) keys

/-- The value of an argument. -/
def argument (tree : Json) : Nat → List Place → Place → Expression → Except ResolutionError Json
  | 0, _, _, _ => .error .endless
  | _ + 1, _, _, .constant value => .ok value
  | fuel + 1, trail, here, .text pieces => do
    let found ← evaluate tree fuel trail here pieces
    contents tree fuel trail found
  | fuel + 1, trail, here, .quoted pieces => do
    let s ← textOf tree fuel trail here pieces
    return .text s
  | fuel + 1, trail, here, .list items => do
    let values ← items.mapM (argument tree fuel trail here)
    return .list values
  | fuel + 1, trail, here, .object members => do
    let members ← members.foldlM (fun (built : List (String × Json)) (name, e) => do
      let value ← argument tree fuel trail here e
      return Json.setMember name value built) []
    return .object members

/-- The value with all references in it resolved. -/
def contents (tree : Json) : Nat → List Place → Found → Except ResolutionError Json
  | 0, _, _ => .error .endless
  | _ + 1, _, .made value => .ok value
  | fuel + 1, trail, .inTree place => do
    if trail.contains place then throw .endless
    let inside := fun step => do
      let found ← settle tree fuel (place :: trail) (.inTree (place ++ [step]))
      contents tree fuel (place :: trail) found
    match at? place tree with
    | some (.object members) =>
      let members ← members.mapM fun (name, _) => do return (name, ← inside (.member name))
      return .object members
    | some (.list items) =>
      let items ← (List.range items.length).mapM fun i => inside (.item i)
      return .list items
    | some (.text s) => return .text (plainText s)
    | some value => return value
    | none => return .null

/-- The value of a function. -/
def call (tree : Json) :
    Nat → List Place → Place → String → List Json → Except ResolutionError Found
  | 0, _, _, _, _ => .error .endless
  | fuel + 1, trail, here, name, values =>
    match name, values with
    | "oc.create", [.object members] => .ok (.made (.object members))
    | "oc.create", [.list items] => .ok (.made (.list items))
    | "oc.create", [.text s] => (Document.quotedTree s).mapError (fun _ => .unresolvable)
      |>.map .made
    | "oc.decode", [.null] => .ok (.made .null)
    | "oc.decode", [.text s] =>
      match Template.expressionOf? s with
      | some (.text pieces) => evaluate tree fuel trail here pieces
      | some e => .made <$> argument tree fuel trail here e
      | none => .error .unresolvable
    | "oc.deprecated", .text path :: _ => do
      match ← lookUp tree fuel trail here path with
      | .found found => return found
      | _ => throw .unresolvable
    | "oc.dict.keys", [.text path] => do
      match ← lookUp tree fuel trail here path with
      | .found found => match found.value tree with
        | .object members => return .made (.list (members.map fun (name, _) => .text name))
        | _ => throw .unresolvable
      | _ => throw .unresolvable
    | "oc.dict.values", [.text path] => do
      match ← lookUp tree fuel trail here path with
      | .found found => match ← contents tree fuel trail found with
        | .object members => return .made (.list (members.map (·.2)))
        | _ => throw .unresolvable
      | _ => throw .unresolvable
    | "oc.env", [.text _, .null] => .ok (.made .null)
    | "oc.env", [.text _, value] => .ok (.made (.text value.display))
    | "oc.select", .text path :: values => do
      match ← lookUp tree fuel trail here path, values with
      | .found found, [] | .found found, [_] => return found
      | .noIndex, _ => throw .unresolvable
      | _, [] => return .made .null
      | _, [value] => return .made value
      | _, _ => throw .unresolvable
    | name, _ => .error (if functionNames.contains name then .unresolvable else .unknownFunction)

end

/-! ## Whole trees -/

mutual

/-- A measure of the size of a tree: its values and the characters of its texts. -/
def size : Json → Nat
  | .text s => s.length + 1
  | .list items => itemsSize items + 1
  | .object members => membersSize members + 1
  | _ => 1

/-- The size of the items of a list. -/
def itemsSize : List Json → Nat
  | [] => 0
  | item :: items => size item + itemsSize items

/-- The size of the members of an object. -/
def membersSize : List (String × Json) → Nat
  | [] => 0
  | (_, value) :: members => size value + membersSize members

end

/-- A depth that no reference needs that does not lead back to itself. -/
def depthBound (tree : Json) : Nat :=
  8 * size tree + 64

/-- What the value at a place stands for. -/
def settleAt (tree : Json) (place : Place) : Except ResolutionError Found :=
  settle tree (depthBound tree) [] (.inTree place)

/-- The member of a container that was found, unless it is still to be given. -/
def given? (tree : Json) (container : Found) (name : String) :
    Except ResolutionError (Option Found) :=
  match child? (.member name) (container.value tree) with
  | none => .ok none
  | some value =>
    if isMissing value then .ok none
    else some <$> settle tree (depthBound tree) [] (container.child (.member name))

/-- Where keys lead from the whole tree. -/
def select (tree : Json) (keys : List String) : Except ResolutionError Destination :=
  follow tree (depthBound tree) [] (.inTree []) keys

/-- What is found in a tree, with all references in it resolved. -/
def resolveFound (tree : Json) (found : Found) : Except ResolutionError Json :=
  contents tree (depthBound tree) [] found

/-- The tree with all references in it resolved. -/
def resolve (tree : Json) : Except ResolutionError Json :=
  resolveFound tree (.inTree [])

end Tree

end AisStation.Config
