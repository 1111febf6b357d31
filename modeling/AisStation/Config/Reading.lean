import AisStation.Json.Basic
import AisStation.Logging
import AisStation.Text.Blank

/-!
Readings of a single setting.

A reading takes a value that denotes a text, a flag or an integer, and names what is wrong with any
other. Flags may be given by the usual words and by 0 and 1, integers by numerals and by numbers
without a fraction; texts have no other form.
-/

namespace AisStation.Config

-- Powers are those of core, also where Mathlib offers others. A numeral as an exponent needs its type
-- for that.
attribute [local instance (high)] instPowNat

/-- What is wrong with a value. -/
inductive Fault
  | missing
  | modelType
  | stringType
  | stringTooShort
  | stringTooLong
  | literalError
  | boolType
  | boolParsing
  | intType
  | intParsing
  | intParsingSize
  | intFromFloat
  | finiteNumber
  | greaterThan
  | greaterThanEqual
  | lessThanEqual
deriving DecidableEq, Repr

/-- The name of a fault. -/
def Fault.name : Fault → String
  | missing => "missing"
  | modelType => "model_type"
  | stringType => "string_type"
  | stringTooShort => "string_too_short"
  | stringTooLong => "string_too_long"
  | literalError => "literal_error"
  | boolType => "bool_type"
  | boolParsing => "bool_parsing"
  | intType => "int_type"
  | intParsing => "int_parsing"
  | intParsingSize => "int_parsing_size"
  | intFromFloat => "int_from_float"
  | finiteNumber => "finite_number"
  | greaterThan => "greater_than"
  | greaterThanEqual => "greater_than_equal"
  | lessThanEqual => "less_than_equal"

/-- A reading of a value. -/
abbrev Reading (α : Type) := Json → Except Fault α

namespace Reading

/-! ## Texts -/

/-- A text. -/
def text : Reading String
  | .text s => .ok s
  | _ => .error .stringType

/-- A text with a number of characters in the given range. -/
def textOfLength (least most : Nat) : Reading String := fun value => do
  let s ← text value
  if s.length < least then .error .stringTooShort
  else if most < s.length then .error .stringTooLong
  else .ok s

/-- A text, or nothing. -/
def optionalText : Reading (Option String)
  | .null => .ok none
  | value => some <$> text value

/-- The name of a level. -/
def logLevel : Reading LogLevel
  | .text s => match LogLevel.ofName? s with
    | some level => .ok level
    | none => .error .literalError
  | _ => .error .literalError

/-! ## Integers -/

/-- The greatest number of digits of a numeral. -/
def maxDigits : Nat := 4300

/-- White space around a numeral. -/
def isMargin (c : Char) : Bool :=
  Text.isBlank c && !(28 ≤ c.toNat && c.toNat ≤ 31)

/-- Drops the sign of a positive numeral, which no other sign may follow. -/
def dropPlus? : List Char → Option (List Char)
  | '+' :: '-' :: _ => none
  | '+' :: cs => some cs
  | cs => some cs

/-- Can the character come first in a numeral without leading zeros? -/
def isLeading (c : Char) : Bool :=
  ('1' ≤ c && c ≤ '9') || c = '-'

/-- Drops zeros, and separators among them, while more of the numeral follows; the character before
a point or the end is kept. -/
def dropZeros? : Char → List Char → Option (List Char)
  | last, [] => some [last]
  | last, c :: cs =>
    if c = '0' ∨ c = '_' then dropZeros? c cs
    else if isLeading c then some (c :: cs)
    else if c = '.' then some (last :: c :: cs)
    else none

/-- Drops the leading zeros of a numeral, before its sign. -/
def dropLeadingZeros? : List Char → Option (List Char)
  | '0' :: cs => dropZeros? '0' cs
  | c :: cs => if isLeading c then some (c :: cs) else none
  | [] => none

/-- Drops the leading zeros of a numeral, before and after its sign. -/
def dropSignedZeros? (cs : List Char) : Option (List Char) := do
  match ← dropLeadingZeros? cs with
  | '-' :: cs => return '-' :: (← dropLeadingZeros? cs)
  | cs => return cs

/-- Drops a point and the zeros after it, if there are any and nothing else follows. -/
def dropFraction (cs : List Char) : List Char :=
  match cs.dropWhile (· ≠ '.') with
  | _ :: '0' :: places => if places.all (· = '0') then cs.takeWhile (· ≠ '.') else cs
  | _ => cs

/-- Is there a pair of separators side by side? -/
def hasDoubleSeparator : List Char → Bool
  | '_' :: '_' :: _ => true
  | _ :: cs => hasDoubleSeparator cs
  | [] => false

/-- Drops separators, if every one of them stands alone between other characters. -/
def dropSeparators (cs : List Char) : List Char :=
  if cs.head? = some '_' ∨ cs.getLast? = some '_' ∨ hasDoubleSeparator cs then cs
  else cs.filter (· ≠ '_')

/-- The plain form of a numeral: without white space, leading sign and zeros, fraction and
separators. -/
def plainNumeral? (cs : List Char) : Option (List Char) := do
  let cs := Text.dropTailWhile isMargin (cs.dropWhile isMargin)
  let cs ← dropPlus? cs
  let cs ← dropSignedZeros? cs
  return dropSeparators (dropFraction cs)

/-- What a plain numeral denotes. -/
inductive Numeral
  | value (n : Int)
  | tooLong
  | noNumeral
deriving DecidableEq, Repr

/-- The number of a plain unsigned numeral, which has no leading zero. Too many digits are too many
whatever follows them. -/
def unsignedNumeral (negative : Bool) (digits : List Char) : Numeral :=
  let isDigit := fun c : Char => '0' ≤ c && c ≤ '9'
  if digits.head? = some '0' && digits.length ≠ 1 then .noNumeral
  else if maxDigits < (digits.takeWhile isDigit).length then .tooLong
  else if digits.isEmpty || !digits.all isDigit then .noNumeral
  else
    let n : Int := digits.foldl (fun n c => 10 * n + (c.toNat - 48)) (0 : Nat)
    .value (if negative then -n else n)

/-- The number of a plain numeral. -/
def plainNumeral : List Char → Numeral
  | '-' :: cs => unsignedNumeral true cs
  | cs => unsignedNumeral false cs

/-- The number of a numeral. -/
def numeral (s : String) : Except Fault Int :=
  match plainNumeral s.toList with
  | .value n => .ok n
  | .tooLong => .error .intParsingSize
  | .noNumeral => match (plainNumeral? s.toList).map plainNumeral with
    | some (.value n) => .ok n
    | some .tooLong => .error .intParsingSize
    | _ => .error .intParsing

/-- Is the integer within 64 bits? -/
def isWord (n : Int) : Bool :=
  -2 ^ (63 : Nat) ≤ n && n < 2 ^ (63 : Nat)

/-- The integer of a number without a fraction. -/
def whole : Binary64 → Except Fault Int
  | x@(.finite _ significand exponent) =>
    if significand % 2 ^ (-exponent).toNat ≠ 0 then .error .intFromFloat
    else match x.truncate with
      | .ok n => if isWord n && n ≠ -2 ^ (63 : Nat) then .ok n else .error .intParsingSize
      | .error _ => .error .finiteNumber
  | _ => .error .finiteNumber

/-- An integer. -/
def integer : Reading Int
  | .int n => .ok n
  | .bool b => .ok b.toInt
  | .real x => whole x
  | .text s => numeral s
  | _ => .error .intType

/-- An integer from `least` to `most`. -/
def integerWithin (least most : Int) : Reading Int := fun value => do
  let n ← integer value
  if most < n then .error .lessThanEqual
  else if n < least then .error .greaterThanEqual
  else .ok n

/-- An integer of at least `least`. -/
def integerFrom (least : Int) : Reading Int := fun value => do
  let n ← integer value
  if n < least then .error .greaterThanEqual else .ok n

/-- An integer greater than `bound`. -/
def integerAbove (bound : Int) : Reading Int := fun value => do
  let n ← integer value
  if n ≤ bound then .error .greaterThan else .ok n

/-! ## Flags -/

/-- Words for false. -/
def falseWords : List String := ["0", "f", "n", "no", "off", "false"]

/-- Words for true. -/
def trueWords : List String := ["1", "t", "y", "on", "yes", "true"]

/-- A flag given by a word, in letters of either case. -/
def flagWord (s : String) : Except Fault Bool :=
  let word := String.ofList (s.toList.map Char.toLower)
  if falseWords.contains word then .ok false
  else if trueWords.contains word then .ok true
  else .error .boolParsing

/-- A flag given by 0 or 1. -/
def flagNumber (n : Int) : Except Fault Bool :=
  if n = 0 then .ok false else if n = 1 then .ok true else .error .boolParsing

/-- A flag. -/
def flag : Reading Bool
  | .bool b => .ok b
  | .text s => flagWord s
  | .int n => if isWord n then flagNumber n else .error .boolType
  | .real x => match whole x with
    | .ok n => flagNumber n
    | .error _ => .error .boolType
  | _ => .error .boolType

end Reading

end AisStation.Config
