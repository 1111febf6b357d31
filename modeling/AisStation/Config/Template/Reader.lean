import AisStation.Config.Template.Basic
import AisStation.Json.Parse

/-!
Reading templates.

Each function reads one phrase from the front of a list of characters and returns what is left. In
front of a reference two backslashes stand for one, and an odd one makes the opening of the
reference plain text; elsewhere in a text a backslash is itself. Bare arguments that spell a number,
a flag or nothing denote it; other arguments are texts. The number of characters bounds the
recursion.
-/

namespace AisStation.Config.Template

/-- Is the character a space or a tab? -/
def isBlank (c : Char) : Bool :=
  c = ' ' || c = '\t'

/-- Drops blanks. -/
def skipBlanks (cs : List Char) : List Char :=
  cs.dropWhile isBlank

/-- Puts plain characters in front of a template. -/
def consPlain (cs : List Char) : Template → Template
  | .plain more :: pieces => .plain (cs ++ more) :: pieces
  | pieces => if cs.isEmpty then pieces else .plain cs :: pieces

/-! ## Constants -/

/-- Digits, before each of which one separator may stand. -/
def moreDigits : List Char → List Char × List Char
  | '_' :: c :: cs =>
    if Json.isDigit c then
      let (digits, rest) := moreDigits cs
      (c :: digits, rest)
    else ([], '_' :: c :: cs)
  | c :: cs =>
    if Json.isDigit c then
      let (digits, rest) := moreDigits cs
      (c :: digits, rest)
    else ([], c :: cs)
  | [] => ([], [])

/-- Digits and single separators between them. -/
def digitRun : List Char → List Char × List Char
  | '_' :: cs => ([], '_' :: cs)
  | cs => moreDigits cs

/-- The digits of an integer without a leading zero, if there are any. -/
def wholeRun : List Char → List Char × List Char
  | '0' :: cs => (['0'], cs)
  | cs => digitRun cs

/-- The exponent at the end of a number. -/
def exponent? : List Char → Option Int
  | [] => some 0
  | c :: cs =>
    if c = 'e' ∨ c = 'E' then
      let (negative, cs) := match cs with
        | '-' :: cs => (true, cs)
        | '+' :: cs => (false, cs)
        | cs => (false, cs)
      match digitRun cs with
      | ([], _) => none
      | (digits, []) =>
        let n : Int := Json.digitsValue digits
        some (if negative then -n else n)
      | _ => none
    else none

/-- A number without its sign. -/
def unsigned? (negative : Bool) (cs : List Char) : Option Json :=
  match wholeRun cs with
  | (whole, '.' :: cs) =>
    let (places, cs) := digitRun cs
    if whole.isEmpty && places.isEmpty then none
    else do
      let exponent ← exponent? cs
      some (.real (Json.decimal negative (whole ++ places) (exponent - places.length)))
  | ([], _) =>
    match cs.map Char.toLower with
    | ['i', 'n', 'f'] => some (.real (.infinite negative))
    | ['n', 'a', 'n'] => some (.real .nan)
    | _ => none
  | (whole, []) =>
    let n : Int := Json.digitsValue whole
    some (.int (if negative then -n else n))
  | (whole, cs) => do
    let exponent ← exponent? cs
    some (.real (Json.decimal negative whole exponent))

/-- The constant that a bare argument spells, if it spells one. -/
def constant? (cs : List Char) : Option Json :=
  match String.ofList (cs.map Char.toLower) with
  | "null" => some .null
  | "true" => some (.bool true)
  | "false" => some (.bool false)
  | _ => match cs with
    | '-' :: cs => unsigned? true cs
    | '+' :: cs => unsigned? false cs
    | cs => unsigned? false cs

/-- What a bare argument denotes. -/
def bare (pieces : Template) : Expression :=
  match pieces with
  | [.plain cs] => match constant? cs with
    | some value => .constant value
    | none => .text pieces
  | _ => .text pieces

/-- The name of a member, which holds no references. -/
def memberName? : Template → Option String
  | [.plain cs] => match constant? cs with
    | some (.int n) => some (toString n)
    | some (.real x) => some x.text
    | some (.bool b) => some (if b then "true" else "false")
    | some .null => some "null"
    | _ => some (String.ofList cs)
  | _ => none

/-! ## Characters -/

/-- Can the character stand in a key of a path? -/
def isKeyChar (c : Char) : Bool :=
  !("\\\x7b\x7d()[]:. \t'\x22".toList.contains c)

/-- Can the character stand first in the name of a function? -/
def isNameStart (c : Char) : Bool :=
  ('a' ≤ c && c ≤ 'z') || ('A' ≤ c && c ≤ 'Z') || c = '_'

/-- Can the character stand in a bare argument? -/
def isBareChar (c : Char) : Bool :=
  isNameStart c || Json.isDigit c || "/-+.$%*@?|:\\ \t".toList.contains c

/-- Does a backslash before the character stand for the character in a bare argument? -/
def isEscapable (c : Char) : Bool :=
  "\\()[]\x7b\x7d:=, \t".toList.contains c

/-- Does the piece belong to the name of a function? -/
def isNamePiece : Piece → Bool
  | .reference _ => true
  | .plain ['.'] => true
  | .plain (c :: cs) => isNameStart c && cs.all fun c => isNameStart c || Json.isDigit c
  | .plain [] => false

/-! ## Phrases -/

mutual

/-- The pieces of a text, up to the closing quotation mark if there is one. -/
def text? : Nat → Option Char → List Char → Option (Template × List Char)
  | 0, _, _ => none
  | fuel + 1, quote?, cs =>
    let slashes := cs.takeWhile (· = '\\')
    let half := List.replicate (slashes.length / 2) '\\'
    let isPlain := slashes.length % 2 = 1
    match cs.dropWhile (· = '\\') with
    | [] => if quote?.isSome then none else some (consPlain slashes [], [])
    | '$' :: '\x7b' :: cs =>
      if isPlain then do
        let (pieces, cs) ← text? fuel quote? cs
        some (consPlain (half ++ ['$', '\x7b']) pieces, cs)
      else do
        let (r, cs) ← reference? fuel cs
        let (pieces, cs) ← text? fuel quote? cs
        some (consPlain half (.reference r :: pieces), cs)
    | c :: cs =>
      if quote? = some c then
        if isPlain then do
          let (pieces, cs) ← text? fuel quote? cs
          some (consPlain (half ++ [c]) pieces, cs)
        else some (consPlain half [], cs)
      else do
        let (pieces, cs) ← text? fuel quote? cs
        some (consPlain (slashes ++ [c]) pieces, cs)

/-- A key of a path. -/
def key? : Nat → List Char → Option (Piece × List Char)
  | 0, _ => none
  | fuel + 1, '$' :: '\x7b' :: cs => do
    let (r, cs) ← reference? fuel cs
    some (.reference r, cs)
  | _ + 1, cs =>
    match cs.takeWhile isKeyChar with
    | [] => none
    | name => some (.plain name, cs.dropWhile isKeyChar)

/-- The keys of a path that points or brackets set off. -/
def laterKeys? : Nat → List Char → Option (Template × List Char)
  | 0, _ => none
  | fuel + 1, '.' :: cs => do
    let (name, cs) ← key? fuel cs
    let (path, cs) ← laterKeys? fuel cs
    some (.plain ['.'] :: name :: path, cs)
  | fuel + 1, '[' :: cs => do
    let (name, cs) ← key? fuel cs
    match cs with
    | ']' :: cs =>
      let (path, cs) ← laterKeys? fuel cs
      some (.plain ['['] :: name :: .plain [']'] :: path, cs)
    | _ => none
  | _ + 1, cs => some ([], cs)

/-- The keys of a path. -/
def path? : Nat → List Char → Option (Template × List Char)
  | 0, _ => none
  | fuel + 1, '[' :: cs => laterKeys? fuel ('[' :: cs)
  | fuel + 1, cs => do
    let (name, cs) ← key? fuel cs
    let (path, cs) ← laterKeys? fuel cs
    some (name :: path, cs)

/-- A reference, after its opening. -/
def reference? : Nat → List Char → Option (Reference × List Char)
  | 0, _ => none
  | fuel + 1, cs => do
    let cs := skipBlanks cs
    let points := cs.takeWhile (· = '.')
    let (path, cs) ← path? fuel (cs.dropWhile (· = '.'))
    match skipBlanks cs with
    | '\x7d' :: cs => some (.place (.plain points :: path), cs)
    | ':' :: cs =>
      if points.isEmpty && path.all isNamePiece then
        let (arguments, cs) ← arguments? fuel '\x7d' (skipBlanks cs)
        some (.call path arguments, cs)
      else none
    | _ => none

/-- Arguments up to a closing character; there may be none. -/
def arguments? : Nat → Char → List Char → Option (List Expression × List Char)
  | 0, _, _ => none
  | fuel + 1, close, cs =>
    if cs.head? = some close then some ([], cs.drop 1) else items? fuel close cs

/-- One argument or more, up to a closing character; an argument left out is an empty text. -/
def items? : Nat → Char → List Char → Option (List Expression × List Char)
  | 0, _, _ => none
  | fuel + 1, close, cs => do
    let (item, cs) ←
      if cs.head? = some ',' ∨ cs.head? = some close then some (.quoted [], cs)
      else expression? fuel cs
    match skipBlanks cs with
    | c :: cs =>
      if c = close then some ([item], cs)
      else if c = ',' then do
        let (items, cs) ← items? fuel close (skipBlanks cs)
        some (item :: items, cs)
      else none
    | [] => none

/-- An argument. -/
def expression? : Nat → List Char → Option (Expression × List Char)
  | 0, _ => none
  | fuel + 1, cs =>
    match cs with
    | '\'' :: cs => do
      let (pieces, cs) ← text? fuel (some '\'') cs
      some (.quoted pieces, cs)
    | '\x22' :: cs => do
      let (pieces, cs) ← text? fuel (some '\x22') cs
      some (.quoted pieces, cs)
    | '[' :: cs => do
      let (items, cs) ← arguments? fuel ']' (skipBlanks cs)
      some (.list items, cs)
    | '\x7b' :: cs =>
      match skipBlanks cs with
      | '\x7d' :: cs => some (.object [], cs)
      | cs => do
        let (members, cs) ← members? fuel cs
        some (.object members, cs)
    | cs => do
      let (pieces, cs) ← bare? fuel false cs
      if pieces.isEmpty then none else some (bare pieces, cs)

/-- A bare argument: what a comma, a closing brace or bracket ends, and a colon in the name of a
member. Blanks before that do not count. -/
def bare? : Nat → Bool → List Char → Option (Template × List Char)
  | 0, _, _ => none
  | fuel + 1, isName, cs =>
    let ends := match skipBlanks cs with
      | c :: _ => c = ',' || c = '\x7d' || c = ']' || (c = ':' && isName)
      | [] => false
    if ends then some ([], skipBlanks cs)
    else match cs with
      | [] => some ([], [])
      | '$' :: '\x7b' :: cs => do
        let (r, cs) ← reference? fuel cs
        let (pieces, cs) ← bare? fuel isName cs
        some (.reference r :: pieces, cs)
      | '\\' :: c :: cs =>
        if isEscapable c then do
          let (pieces, cs) ← bare? fuel isName cs
          some (consPlain [c] pieces, cs)
        else do
          let (pieces, cs) ← bare? fuel isName (c :: cs)
          some (consPlain ['\\'] pieces, cs)
      | c :: cs =>
        if isBareChar c then do
          let (pieces, cs) ← bare? fuel isName cs
          some (consPlain [c] pieces, cs)
        else none

/-- The members of an object, up to its closing brace. -/
def members? : Nat → List Char → Option (List (String × Expression) × List Char)
  | 0, _ => none
  | fuel + 1, cs => do
    let (pieces, cs) ← bare? fuel true cs
    let name ← memberName? pieces
    match cs with
    | ':' :: cs =>
      let (value, cs) ← expression? fuel (skipBlanks cs)
      match skipBlanks cs with
      | '\x7d' :: cs => some ([(name, value)], cs)
      | ',' :: cs =>
        let (members, cs) ← members? fuel (skipBlanks cs)
        some ((name, value) :: members, cs)
      | _ => none
    | _ => none

end

/-- A bound on the depth of the phrases in a text. -/
def depthBound (cs : List Char) : Nat :=
  4 * cs.length + 8

/-- The template that a text is. -/
def ofString? (s : String) : Option Template :=
  (text? (depthBound s.toList) none s.toList).map (·.1)

/-- The argument that a text is. -/
def expressionOf? (s : String) : Option Expression :=
  match expression? (depthBound s.toList) s.toList with
  | some (e, []) => some e
  | _ => none

end Template

end AisStation.Config
