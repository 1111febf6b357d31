/-!
Paths of keys.

A path names a place in a tree by keys that are set off by points or stand in brackets. Points at
the front set off empty keys. A backslash before a point or a bracket makes it part of a key.
-/

namespace AisStation.Config.KeyPath

/-- Can the character be made part of a key by a backslash? -/
def isSpecial (c : Char) : Bool :=
  c = '.' || c = '[' || c = ']'

/-- A key up to the first character that satisfies `stop`, and what follows it. -/
def key (stop : Char → Bool) : List Char → List Char × List Char
  | [] => ([], [])
  | '\\' :: c :: cs =>
    if isSpecial c then
      let (chars, rest) := key stop cs
      (c :: chars, rest)
    else
      let (chars, rest) := key stop (c :: cs)
      ('\\' :: chars, rest)
  | c :: cs =>
    if stop c then ([], c :: cs)
    else
      let (chars, rest) := key stop cs
      (c :: chars, rest)

/-- A key that no brackets enclose. -/
def bareKey : List Char → List Char × List Char :=
  key fun c => c = '.' || c = '['

/-- A key up to a closing bracket on the same line, and what follows the bracket. -/
def bracketed? (cs : List Char) : Option (List Char × List Char) :=
  match key (fun c => c = ']' || c = '\n') cs with
  | (inside, ']' :: rest) => some (inside, rest)
  | _ => none

/-- The keys of a path after its first; `fuel` bounds the number of characters. What no point or
bracket sets off is skipped. -/
def laterKeys : Nat → List Char → List (List Char)
  | 0, _ => []
  | _, [] => []
  | fuel + 1, '.' :: cs =>
    let (first, rest) := bareKey cs
    first :: laterKeys fuel rest
  | fuel + 1, '[' :: cs =>
    match bracketed? cs with
    | some (inside, rest) => inside :: laterKeys fuel rest
    | none => laterKeys fuel cs
  | fuel + 1, _ :: cs => laterKeys fuel cs

/-- The keys of a path. -/
def keys (path : String) : List String :=
  let cs := path.toList
  let points := cs.takeWhile (· = '.')
  let (first, rest) := bareKey (cs.dropWhile (· = '.'))
  let opening := if first.isEmpty && rest.head? = some '[' then [] else [first]
  (points.map (fun _ => []) ++ opening ++ laterKeys cs.length rest).map String.ofList

end AisStation.Config.KeyPath
