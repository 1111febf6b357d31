import AisStation.Number.Binary64

/-!
The shortest decimal text of a number.

Among the decimals that round to a given number, those with the fewest significant digits are
considered, and of these the nearest is taken, the one with an even last digit at a tie. With `p`
the place of the decimal point counted from the first digit, the text is positional for `-4 < p ≤
16`; elsewhere it has an exponent of at least two digits. A positional text always has a point.
-/

namespace AisStation

/-- Significant digits as a number, and the power of ten of the last of them. -/
structure Decimal where
  digits : Nat
  exponent : Int
deriving DecidableEq, Repr

namespace Decimal

-- Powers are those of core, also where Mathlib offers others. A numeral as an exponent needs its type
-- for that.
attribute [local instance (high)] instPowNat

/-- The number of decimal digits. -/
def places (n : Nat) : Nat :=
  (Nat.toDigits 10 n).length

/-- The power of ten of the first significant digit of `num / den`, for ratios above `10 ^ -400`. -/
def leadingExponent (num den : Nat) : Int :=
  (places (num * 10 ^ (400 : Nat) / den) : Int) - 401

/-- The ends, in quarters of a unit, of the interval of reals that round to a significand, and
whether the ends belong to it. Below a power of two the spacing halves. -/
def roundingInterval (significand : Nat) (exponent : Int) : Nat × Nat × Bool :=
  let narrow := significand = 2 ^ (52 : Nat) ∧ exponent ≠ Binary64.leastExponent
  (4 * significand - (if narrow then 1 else 2), 4 * significand + 2, significand % 2 == 0)

/-- Does `d` round to `significand * 2 ^ exponent`? -/
def roundsTo (significand : Nat) (exponent : Int) (d : Decimal) : Bool :=
  let (low, high, closed) := roundingInterval significand exponent
  let unit := 2 ^ (exponent - 2).toNat * 10 ^ (-d.exponent).toNat
  let value := d.digits * 10 ^ d.exponent.toNat * 2 ^ (2 - exponent).toNat
  if closed then low * unit ≤ value && value ≤ high * unit
  else low * unit < value && value < high * unit

/-- The decimal of `n` significant digits that is nearest to `num / den` among its two neighbours
that satisfy `p`. -/
def nearest? (num den : Nat) (p : Decimal → Bool) (n : Nat) : Option Decimal :=
  let exponent := leadingExponent num den - n + 1
  let a := num * 10 ^ (-exponent).toNat
  let b := den * 10 ^ exponent.toNat
  let below : Decimal := ⟨a / b, exponent⟩
  let above : Decimal := ⟨a / b + 1, exponent⟩
  match p below, p above with
  | true, true => some (if roundRatio a b = below.digits then below else above)
  | true, false => some below
  | false, true => some above
  | false, false => none

/-- Seventeen digits always suffice. -/
def maxDigits : Nat := 17

/-- The shortest decimal that rounds to `significand * 2 ^ exponent`. -/
def shortest (significand : Nat) (exponent : Int) : Decimal :=
  let num := significand * 2 ^ exponent.toNat
  let den := 2 ^ (-exponent).toNat
  ((List.range maxDigits).findSome? fun n =>
    nearest? num den (roundsTo significand exponent) (n + 1)).getD ⟨significand, exponent⟩

/-- The significant digits, without zeros at the end. -/
def significantDigits (d : Decimal) : List Char :=
  let cs := (Nat.toDigits 10 d.digits).reverse.dropWhile (· = '0')
  if cs.isEmpty then ['0'] else cs.reverse

/-- The place of the decimal point, counted from the first digit. -/
def point (d : Decimal) : Int :=
  places d.digits + d.exponent

/-- The exponent part, of at least two digits. -/
def exponentText (e : Int) : List Char :=
  let digits := Nat.toDigits 10 e.natAbs
  'e' :: (if e < 0 then '-' else '+') :: (if digits.length < 2 then '0' :: digits else digits)

/-- The text of a positive decimal. -/
def text (d : Decimal) : List Char :=
  let cs := d.significantDigits
  let p := d.point
  if p ≤ -4 ∨ 16 < p then
    cs.take 1 ++ (if cs.length = 1 then [] else '.' :: cs.drop 1) ++ exponentText (p - 1)
  else if p ≤ 0 then '0' :: '.' :: List.replicate (-p).toNat '0' ++ cs
  else
    let whole := p.toNat
    if cs.length ≤ whole then cs ++ List.replicate (whole - cs.length) '0' ++ ['.', '0']
    else cs.take whole ++ '.' :: cs.drop whole

end Decimal

/-- The shortest text that reads back as the same number. -/
def Binary64.text : Binary64 → String
  | .nan => "nan"
  | .infinite negative => if negative then "-inf" else "inf"
  | .finite negative significand exponent =>
    let magnitude :=
      if significand = 0 then ['0', '.', '0'] else (Decimal.shortest significand exponent).text
    String.ofList (if negative then '-' :: magnitude else magnitude)

end AisStation
