import AisStation.Json.Parse
import AisStation.Text.Blank
import AisStation.Text.Integer

/-!
Reading documents.

A document holds one JSON value. Its texts may go on over several lines: blanks around a line break
do not count, and a break is read as a space, or as line breaks if there are several in a row. The
separators U+2028 and U+2029 break lines as well but are kept. A name in an object has to end on the
line on which it starts, not too far behind its start, and stands there once. Tabs are found in texts
only, and no number has more digits than can be read.

An escape in a text writes one unit of 16 bits, and two of them do not make up one character. So the
units that come in pairs are no characters, and documents with them are refused.
-/

namespace AisStation.Config

/-- Why a text is no document. -/
inductive DocumentError
  /-- There is a control character. -/
  | unprintable
  /-- A line of a text separates documents. -/
  | separator
  /-- There is a tab outside of all texts. -/
  | tab
  /-- An escape writes half of a pair of units, which is no character. -/
  | halfPair
  /-- An object has two members of one name. -/
  | repeatedName
  /-- A number has too many digits. -/
  | overlongNumber
  /-- The text holds no value, or a name in it is too long. -/
  | malformed
  /-- The text holds a number or a flag. -/
  | scalar
  /-- The text inside of the text holds a number or a flag. -/
  | noContainer
deriving DecidableEq, Repr

namespace Document

/-- Can the character stand in a document? -/
def isPrintable (c : Char) : Bool :=
  let n := c.toNat
  n == 9 || n == 10 || n == 13 || (32 ≤ n && n ≤ 126) || n == 0x85 ||
    (0xA0 ≤ n && n ≠ 0xFFFE && n ≠ 0xFFFF)

/-- Does the character break lines? -/
def isBreak (c : Char) : Bool :=
  c == '\n' || c == '\u0085' || c == '\u2028' || c == '\u2029'

/-- Is the character a space or a tab? -/
def isBlank (c : Char) : Bool :=
  c == ' ' || c == '\t'

/-- Do the characters at the start of a line separate documents? -/
def isSeparator (cs : List Char) : Bool :=
  (cs.take 3 == "---".toList || cs.take 3 == "...".toList) &&
    match cs[3]? with
    | some c => isBlank c || isBreak c
    | none => true

/-- What a line break in a text stands for, written as in JSON. -/
def breakText (c : Char) : List Char :=
  if c == '\u2028' || c == '\u2029' then [c] else ['\\', 'n']

/-- What a row of line breaks in a text stands for, written as in JSON. -/
def foldBreaks (first : Char) (later : List Char) : List Char :=
  if first == '\u2028' || first == '\u2029' then first :: later.flatMap breakText
  else if later.isEmpty then [' ']
  else later.flatMap breakText

/-- How far a quoted text that is being read goes: the number of its characters, and whether its
line was left. -/
structure Extent where
  count : Nat := 1
  leftLine : Bool := false
deriving DecidableEq, Repr

/-- The extent with one more character. -/
def Extent.add (e : Extent) (c : Char) : Extent :=
  ⟨e.count + 1, e.leftLine || isBreak c⟩

/-- The greatest distance from the start of a name to the colon behind it. -/
def maxNameExtent : Nat := 1024

/-- What is being read. -/
inductive Scan
  /-- What is no quoted text. -/
  | outside
  /-- A quoted text. -/
  | inside (e : Extent)
  /-- Blanks in a quoted text. -/
  | blanks (e : Extent) (cs : List Char)
  /-- Line breaks in a quoted text. -/
  | breaks (e : Extent) (first : Char) (later : List Char)
  /-- The character after a backslash. -/
  | escaped (e : Extent)
  /-- What follows a quoted text. -/
  | behind (e : Extent)
deriving DecidableEq, Repr

/-- What is being read after a character inside of a quoted text. -/
def Scan.afterInside (e : Extent) (c : Char) : Scan :=
  if c == '\x22' then .behind e
  else if c == '\\' then .escaped e
  else .inside e

/-- Do the digits behind an escape write half of a pair of units? -/
def writesHalf (cs : List Char) : Bool :=
  match Json.unit? cs with
  | some (n, _) => Json.isHighUnit n || Json.isLowUnit n
  | none => false

/-- Writes each text of a document on one line, from the characters that are left; `written` holds
the last characters first. -/
def joinLines (scan : Scan) (written : List Char) : List Char → Except DocumentError (List Char)
  | [] => .ok written.reverse
  | c :: cs =>
    let write := fun (texts : List Char) => texts.reverse ++ written
    match scan with
    | .outside =>
      if c == '\t' then .error .tab
      else joinLines (if c == '\x22' then .inside {} else .outside) (c :: written) cs
    | .escaped e =>
      if c == 'u' && writesHalf cs then .error .halfPair
      else joinLines (.inside (e.add c)) (c :: written) cs
    | .behind e =>
      if c == '\t' then .error .tab
      else if c == ':' && (maxNameExtent < e.count || e.leftLine) then .error .malformed
      else
        let scan := if c == ' ' || isBreak c then .behind (e.add c) else .outside
        joinLines scan (c :: written) cs
    | .inside e =>
      if isBreak c then
        if isSeparator cs then .error .separator
        else joinLines (.breaks (e.add c) c []) written cs
      else if isBlank c then joinLines (.blanks (e.add c) [c]) written cs
      else joinLines (Scan.afterInside (e.add c) c) (c :: written) cs
    | .blanks e blanks =>
      if isBreak c then
        if isSeparator cs then .error .separator
        else joinLines (.breaks (e.add c) c []) written cs
      else if isBlank c then joinLines (.blanks (e.add c) (blanks ++ [c])) written cs
      else joinLines (Scan.afterInside (e.add c) c) (c :: write blanks) cs
    | .breaks e first later =>
      if isBreak c then
        if isSeparator cs then .error .separator
        else joinLines (.breaks (e.add c) first (later ++ [c])) written cs
      else if isBlank c then joinLines (.breaks (e.add c) first later) written cs
      else joinLines (Scan.afterInside (e.add c) c) (c :: write (foldBreaks first later)) cs

/-- Does a name stand in front of two members? -/
def repeatsName : List (String × Json) → Bool
  | [] => false
  | (name, _) :: members => (members.lookup name).isSome || repeatsName members

mutual

/-- Checks what a document holds, once it is read to its end: the names in each object, and the
lengths of numbers. -/
def checkValue : Json → Except DocumentError Unit
  | .int n => if Text.IsWritable n then .ok () else .error .overlongNumber
  | .list items => checkItems items
  | .object members => do
    if repeatsName members then throw .repeatedName
    checkMembers members
  | _ => .ok ()

/-- Checks the items of a list. -/
def checkItems : List Json → Except DocumentError Unit
  | [] => .ok ()
  | item :: items => do
    checkValue item
    checkItems items

/-- Checks the values of members. -/
def checkMembers : List (String × Json) → Except DocumentError Unit
  | [] => .ok ()
  | (_, value) :: members => do
    checkValue value
    checkMembers members

end

/-- The value in a text, if it can be read. A text of spaces and line breaks holds nothing. -/
def value? (s : String) : Except DocumentError (Option Json) := do
  if !s.toList.all isPrintable then throw .unprintable
  else if s.toList.all (fun c => c == ' ' || c == '\r' || isBreak c) then return some .null
  else
    let cs ← joinLines .outside [] s.toList
    match Json.parse? (String.ofList cs) with
    | none => return none
    | some value =>
      checkValue value
      return some value

/-- The tree in a text that was found in place of a tree. A word is read as a name without value. -/
def quotedTree (s : String) : Except DocumentError Json := do
  match ← value? s with
  | some .null => return .object []
  | some (.text name) => return .object [(name, .null)]
  | some value => if value.isContainer then return value else throw .noContainer
  | none => return .object [(String.ofList (Text.trim s.toList), .null)]

/-- The tree in a text. A text without any value holds an object without members. -/
def tree (s : String) : Except DocumentError Json := do
  match ← value? s with
  | some .null => return .object []
  | some (.text inner) => quotedTree inner
  | some value => if value.isContainer then return value else throw .scalar
  | none => throw .malformed

end Document

end AisStation.Config
