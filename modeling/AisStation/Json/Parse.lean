import AisStation.Json.Basic

/-!
Reading JSON text.

The reader follows the grammar of JSON: each function reads one phrase from the front of a list of
characters and returns what is left. A numeral without fraction and exponent is an integer of any
size, any other the nearest number in double precision. The members of an object are kept as they
stand, also those of one name. The depth of a phrase is bounded by the number of characters, which
bounds the recursion.
-/

namespace AisStation.Json

/-- A reader of one phrase. -/
abbrev Phrase (α : Type) := List Char → Option (α × List Char)

/-- The white space of JSON. -/
def isSpace (c : Char) : Bool :=
  c == ' ' || c == '\n' || c == '\r' || c == '\t'

/-- Drops white space. -/
def skipSpace (cs : List Char) : List Char :=
  cs.dropWhile isSpace

/-! ## Texts -/

/-- The value of a hexadecimal digit. -/
def hexDigit? (c : Char) : Option Nat :=
  if '0' ≤ c ∧ c ≤ '9' then some (c.toNat - 48)
  else if 'a' ≤ c ∧ c ≤ 'f' then some (c.toNat - 87)
  else if 'A' ≤ c ∧ c ≤ 'F' then some (c.toNat - 55)
  else none

/-- A 16-bit unit in four hexadecimal digits. -/
def unit? : Phrase Nat
  | a :: b :: c :: d :: cs => do
    let n ← [a, b, c, d].foldlM (fun n digit => (16 * n + ·) <$> hexDigit? digit) 0
    some (n, cs)
  | _ => none

/-- Does the unit open a pair of units? -/
def isHighUnit (n : Nat) : Bool :=
  0xD800 ≤ n && n < 0xDC00

/-- Does the unit close a pair of units? -/
def isLowUnit (n : Nat) : Bool :=
  0xDC00 ≤ n && n < 0xE000

/-- The character of a unit that belongs to no pair. -/
def unitChar (n : Nat) : Char :=
  if isHighUnit n || isLowUnit n then '\uFFFD' else Char.ofNat n

/-- The character after a backslash and the letter u, written by its unit or its pair of units. -/
def escapedUnit? : Phrase Char := fun cs => do
  let (high, cs) ← unit? cs
  match cs with
  | '\\' :: 'u' :: more =>
    match unit? more with
    | some (low, rest) =>
      if isHighUnit high && isLowUnit low then
        some (Char.ofNat (0x10000 + (high - 0xD800) * 0x400 + (low - 0xDC00)), rest)
      else some (unitChar high, cs)
    | none => some (unitChar high, cs)
  | _ => some (unitChar high, cs)

/-- The character that a backslash and one letter stand for. -/
def escaped? (c : Char) : Option Char :=
  match c with
  | '\x22' => some '\x22'
  | '\\' => some '\\'
  | '/' => some '/'
  | 'b' => some '\x08'
  | 'f' => some '\x0c'
  | 'n' => some '\n'
  | 'r' => some '\r'
  | 't' => some '\t'
  | _ => none

/-- The characters up to the closing quotation mark. -/
def textChars? : Nat → Phrase (List Char)
  | 0, _ => none
  | fuel + 1, cs =>
    match cs with
    | [] => none
    | '\x22' :: cs => some ([], cs)
    | '\\' :: 'u' :: cs => do
      let (c, cs) ← escapedUnit? cs
      let (chars, cs) ← textChars? fuel cs
      some (c :: chars, cs)
    | '\\' :: c :: cs => do
      let c ← escaped? c
      let (chars, cs) ← textChars? fuel cs
      some (c :: chars, cs)
    | c :: cs =>
      if c.toNat < 32 || c == '\\' then none
      else do
        let (chars, cs) ← textChars? fuel cs
        some (c :: chars, cs)

/-- A text after its opening quotation mark. -/
def text? : Phrase String := fun cs => do
  let (chars, cs) ← textChars? (cs.length + 1) cs
  some (String.ofList chars, cs)

/-! ## Numbers -/

/-- Is the character a digit? -/
def isDigit (c : Char) : Bool :=
  '0' ≤ c && c ≤ '9'

/-- The number that digits denote. -/
def digitsValue (digits : List Char) : Nat :=
  digits.foldl (fun n c => 10 * n + (c.toNat - 48)) 0

/-- One or more digits. -/
def digits? : Phrase (List Char) := fun cs =>
  match cs.takeWhile isDigit with
  | [] => none
  | digits => some (digits, cs.dropWhile isDigit)

/-- The digits of an integer part, which has no leading zero. -/
def integerPart? : Phrase (List Char)
  | '0' :: cs => some (['0'], cs)
  | cs => digits? cs

/-- A fraction, if there is one. -/
def fraction? : Phrase (Option (List Char))
  | '.' :: cs => do
    let (digits, cs) ← digits? cs
    some (some digits, cs)
  | cs => some (none, cs)

/-- An exponent, if there is one. -/
def exponent? : Phrase (Option Int)
  | c :: cs =>
    if c == 'e' || c == 'E' then
      match cs with
      | '-' :: cs => do
        let (digits, cs) ← digits? cs
        some (some (-(digitsValue digits : Int)), cs)
      | '+' :: cs => do
        let (digits, cs) ← digits? cs
        some (some (digitsValue digits), cs)
      | cs => do
        let (digits, cs) ← digits? cs
        some (some (digitsValue digits), cs)
    else some (none, c :: cs)
  | [] => some (none, [])

/-- The number nearest to `± digits * 10 ^ exponent`. Exponents beyond every number in double
precision are settled by size alone. -/
def decimal (negative : Bool) (digits : List Char) (exponent : Int) : Binary64 :=
  let digits := digits.dropWhile (· == '0')
  if digits.isEmpty || digits.length + exponent < -400 then .ofDecimal negative 0 0
  else if 400 < exponent + digits.length then .infinite negative
  else .ofDecimal negative (digitsValue digits) exponent

/-- A number without its sign. -/
def unsigned? (negative : Bool) : Phrase Json := fun cs => do
  let (whole, cs) ← integerPart? cs
  let (fraction, cs) ← fraction? cs
  let (exponent, cs) ← exponent? cs
  match fraction, exponent with
  | none, none =>
    let n : Int := digitsValue whole
    some (int (if negative then -n else n), cs)
  | _, _ =>
    let places := fraction.getD []
    some (real (decimal negative (whole ++ places) (exponent.getD 0 - places.length)), cs)

/-- A number. -/
def number? : Phrase Json
  | '-' :: cs => unsigned? true cs
  | cs => unsigned? false cs

/-! ## Values -/

mutual

/-- A value. -/
def value? : Nat → Phrase Json
  | 0, _ => none
  | fuel + 1, cs =>
    match skipSpace cs with
    | 'n' :: 'u' :: 'l' :: 'l' :: cs => some (null, cs)
    | 't' :: 'r' :: 'u' :: 'e' :: cs => some (bool true, cs)
    | 'f' :: 'a' :: 'l' :: 's' :: 'e' :: cs => some (bool false, cs)
    | '\x22' :: cs => do
      let (s, cs) ← text? cs
      some (text s, cs)
    | '[' :: cs =>
      match skipSpace cs with
      | ']' :: cs => some (list [], cs)
      | cs => do
        let (items, cs) ← items? fuel cs
        some (list items, cs)
    | '\x7b' :: cs =>
      match skipSpace cs with
      | '\x7d' :: cs => some (object [], cs)
      | cs => do
        let (members, cs) ← members? fuel cs
        some (object members, cs)
    | cs => number? cs

/-- The items of a list up to its closing bracket. -/
def items? : Nat → Phrase (List Json)
  | 0, _ => none
  | fuel + 1, cs => do
    let (item, cs) ← value? fuel cs
    match skipSpace cs with
    | ',' :: cs =>
      let (items, cs) ← items? fuel cs
      some (item :: items, cs)
    | ']' :: cs => some ([item], cs)
    | _ => none

/-- The members of an object up to its closing brace. -/
def members? : Nat → Phrase (List (String × Json))
  | 0, _ => none
  | fuel + 1, cs =>
    match skipSpace cs with
    | '\x22' :: cs => do
      let (name, cs) ← text? cs
      match skipSpace cs with
      | ':' :: cs =>
        let (value, cs) ← value? fuel cs
        match skipSpace cs with
        | ',' :: cs =>
          let (members, cs) ← members? fuel cs
          some ((name, value) :: members, cs)
        | '\x7d' :: cs => some ([(name, value)], cs)
        | _ => none
      | _ => none
    | _ => none

end

/-- The value that a text denotes; white space around it is allowed. -/
def parse? (s : String) : Option Json :=
  let cs := s.toList
  match value? (2 * cs.length + 1) cs with
  | some (value, rest) => if (skipSpace rest).isEmpty then some value else none
  | none => none

end AisStation.Json
