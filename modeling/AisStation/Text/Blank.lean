/-!
Blank characters and trimming.

The blanks are the white space of the Unicode standard together with the four information
separators. A list of characters is trimmed by dropping blanks from its two ends.
-/

namespace AisStation.Text

/-- White space, or one of the separators U+001C to U+001F. -/
def isBlank (c : Char) : Bool :=
  let n := c.toNat
  (9 ≤ n && n ≤ 13) || (28 ≤ n && n ≤ 32) || n == 0x85 || n == 0xA0 || n == 0x1680 ||
    (0x2000 ≤ n && n ≤ 0x200A) || n == 0x2028 || n == 0x2029 || n == 0x202F || n == 0x205F ||
    n == 0x3000

/-- A blank of ASCII text: tab, the line separators up to carriage return, or space. -/
def isAsciiBlank (c : Char) : Bool :=
  (9 ≤ c.toNat && c.toNat ≤ 13) || c.toNat == 32

/-- Every character is ASCII. -/
def isAscii (cs : List Char) : Bool :=
  cs.all (·.toNat < 128)

/-- Drops the longest suffix whose elements all satisfy `p`. -/
def dropTailWhile {α : Type} (p : α → Bool) (xs : List α) : List α :=
  (xs.reverse.dropWhile p).reverse

/-- Drops blanks from the end. -/
def trimRight (cs : List Char) : List Char :=
  dropTailWhile isBlank cs

/-- Drops blanks from both ends. -/
def trim (cs : List Char) : List Char :=
  trimRight (cs.dropWhile isBlank)

/-- Nothing but blanks. -/
def isBlankLine (s : String) : Bool :=
  s.toList.all isBlank

end AisStation.Text
