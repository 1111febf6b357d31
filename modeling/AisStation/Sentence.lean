import AisStation.SixBit.Armor
import AisStation.Text.Integer

/-!
Sentences: one line of text that frames a payload.

A sentence is `!` and a body, then `*` and two hexadecimal digits: the exclusive or of the
characters of the body. The body has seven fields between commas: address, number of fragments,
number of this fragment, sequential identifier, channel, payload and fill bits. Parsing names the
first thing that is wrong; blanks around a sentence are ignored.
-/

namespace AisStation

/-- Why a line is no sentence, or a sentence cannot be built. -/
inductive SentenceError
  | notEncapsulated (start : List Char)
  | notAscii (start : List Char)
  | missingChecksum
  | malformedChecksum (given : List Char)
  | checksumMismatch (given computed : List Char)
  | fieldCount (count : Nat)
  | unsupportedAddress (address : List Char)
  | notNumeric (line : List Char)
  | fragmentOutside (number count : Int)
  | fillBitsOutside (fillBits : Int)
  | fillBitsOfNothing
  | unsupportedKind (kind : List Char)
deriving DecidableEq, Repr

/-- The wording of the fault. -/
def SentenceError.message : SentenceError → String
  | notEncapsulated start => s!"Not an encapsulation sentence: {Text.quote start}"
  | notAscii start => s!"Non-ASCII characters in {Text.quote start}"
  | missingChecksum => "Missing checksum"
  | malformedChecksum given => s!"Malformed checksum {Text.quote given}"
  | checksumMismatch given computed =>
    s!"Checksum mismatch: got {Text.quote given}, computed {String.ofList computed}"
  | fieldCount count => s!"Expected 7 fields, got {count}"
  | unsupportedAddress address => s!"Unsupported sentence address {Text.quote address}"
  | notNumeric line => s!"Non-numeric field in {Text.quote line}"
  | fragmentOutside number count => s!"Fragment {number} of {count}"
  | fillBitsOutside fillBits => s!"Fill bits {fillBits} out of range [0, 5]"
  | fillBitsOfNothing => "Fill bits on an empty payload"
  | unsupportedKind kind => s!"Unsupported sentence kind {Text.quote kind}"

/-- The kinds of sentences. -/
inductive SentenceKind
  /-- A report of another station. -/
  | vdm
  /-- A report of the receiving station itself. -/
  | vdo
deriving DecidableEq, Repr

namespace SentenceKind

/-- The three letters of a kind. -/
def text : SentenceKind → List Char
  | vdm => ['V', 'D', 'M']
  | vdo => ['V', 'D', 'O']

/-- The kind with a given text. -/
def ofText? (cs : List Char) : Option SentenceKind :=
  if cs = text vdm then some vdm else if cs = text vdo then some vdo else none

end SentenceKind

/-- A parsed sentence. -/
structure Sentence where
  talker : String
  kind : SentenceKind
  fragmentCount : Int
  fragmentNumber : Int
  sequenceId : Option Int
  channel : String
  payload : String
  fillBits : Int
deriving DecidableEq, Repr

namespace Sentence

/-- The declared length of the payload. -/
def bitLength (s : Sentence) : Int :=
  6 * s.payload.length - s.fillBits

/-- Is the sentence a part of a longer message? -/
def isFragmented (s : Sentence) : Bool :=
  1 < s.fragmentCount

/-- Does the receiving station report itself? -/
def isOwnShip (s : Sentence) : Bool :=
  s.kind == .vdo

/-- The exclusive or of the characters. -/
def checksum (body : List Char) : Nat :=
  body.foldl (fun sum c => sum ^^^ c.toNat) 0

/-- A number in upper-case hexadecimal digits, at least two. -/
def checksumText (n : Nat) : List Char :=
  let digits := (Nat.toDigits 16 n).map Char.toUpper
  if digits.length < 2 then '0' :: digits else digits

/-- A hexadecimal digit of either case. -/
def isHexDigit (c : Char) : Bool :=
  ('0' ≤ c && c ≤ '9') || ('A' ≤ c && c ≤ 'F') || ('a' ≤ c && c ≤ 'f')

/-- The pieces between the occurrences of a mark. -/
def splitAt (mark : Char) : List Char → List (List Char)
  | [] => [[]]
  | c :: cs =>
    if c = mark then [] :: splitAt mark cs
    else match splitAt mark cs with
      | [] => [[c]]
      | piece :: pieces => (c :: piece) :: pieces

/-- An integer field that may be empty. -/
def optionalInteger? (cs : List Char) : Option (Option Int) :=
  if cs.isEmpty then some none else (Text.integer? (String.ofList cs)).map some

/-- The four numeric fields, if all of them are numeric. -/
def numericFields? (count number sequence fill : List Char) :
    Option (Int × Int × Option Int × Int) := do
  let count ← Text.integer? (String.ofList count)
  let number ← Text.integer? (String.ofList number)
  let sequence ← optionalInteger? sequence
  let fill ← optionalInteger? fill
  return (count, number, sequence, fill.getD 0)

/-- Talker and kind of an address of five characters. -/
def address? (address : List Char) : Option (List Char × SentenceKind) :=
  match address with
  | [a, b, c, d, e] => (SentenceKind.ofText? [c, d, e]).map fun kind => ([a, b], kind)
  | _ => none

/-- The sentence with the given seven fields; `line` is what is shown of a sentence with a field
that is not numeric. -/
def ofFields (line : List Char) : List (List Char) → Except SentenceError Sentence
  | [address, count, number, sequence, channel, payload, fill] =>
    match address? address with
    | none => .error (.unsupportedAddress address)
    | some (talker, kind) => match numericFields? count number sequence fill with
      | none => .error (.notNumeric line)
      | some (fragmentCount, fragmentNumber, sequenceId, fillBits) =>
        if ¬(1 ≤ fragmentNumber ∧ fragmentNumber ≤ fragmentCount) then
          .error (.fragmentOutside fragmentNumber fragmentCount)
        else if ¬(0 ≤ fillBits ∧ fillBits ≤ 5) then .error (.fillBitsOutside fillBits)
        else if fillBits ≠ 0 ∧ payload = [] then .error .fillBitsOfNothing
        else .ok {
          talker := String.ofList talker, kind, fragmentCount, fragmentNumber, sequenceId
          channel := String.ofList channel, payload := String.ofList payload, fillBits }
  | fields => .error (.fieldCount fields.length)

/-- Checks the text after the asterisk against the body. -/
def checkChecksum (body given : List Char) : Except SentenceError Unit :=
  if ¬(given.length = 2 ∧ given.all isHexDigit) then .error (.malformedChecksum given)
  else
    let computed := checksumText (checksum body)
    if given.map Char.toUpper ≠ computed then .error (.checksumMismatch given computed)
    else .ok ()

/-- How much of a line an error shows. -/
def shownLength : Nat := 16

/-- Parses a sentence without blanks around it. -/
def parseTrimmed (line : List Char) : Except SentenceError Sentence :=
  match line with
  | '!' :: text =>
    if !Text.isAscii line then .error (.notAscii (line.take shownLength))
    else
      let body := text.takeWhile (· ≠ '*')
      match text.dropWhile (· ≠ '*') with
      | [] => .error .missingChecksum
      | _ :: given => do
        checkChecksum body given
        ofFields line (splitAt ',' body)
  | _ => .error (.notEncapsulated (line.take shownLength))

/-- Parses a line. -/
def parse (line : String) : Except SentenceError Sentence :=
  parseTrimmed (Text.trim line.toList)

/-- The sentence of a body. -/
def frame (body : List Char) : String :=
  String.ofList ('!' :: body ++ '*' :: checksumText (checksum body))

/-- The body of a sentence that carries a whole payload. -/
def bodyOf (payload : Payload) (channel talker : String) (kind : SentenceKind) : List Char :=
  talker.toList ++ kind.text ++ ",1,1,,".toList ++ channel.toList ++ ',' :: payload.text.toList ++
    ',' :: (toString payload.fillBits).toList

/-- The sentence that carries a whole payload. -/
def build (payload : Payload) (channel talker : String) (kind : SentenceKind) : String :=
  frame (bodyOf payload channel talker kind)

/-- The sentence of a kind given by its text. -/
def buildNamed (payload : Payload) (channel talker kind : String) :
    Except SentenceError String :=
  match SentenceKind.ofText? kind.toList with
  | some kind => .ok (build payload channel talker kind)
  | none => .error (.unsupportedKind kind.toList)

end Sentence

end AisStation
