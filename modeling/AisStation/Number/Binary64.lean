/-!
Numbers in double precision.

A finite number is a sign, a significand below `2 ^ 53` and a power of two; it is kept in the one
form in which the significand has 53 bits unless the exponent is the least one. All arithmetic is
exact on integers and rounds once, to nearest, a tie going to the even significand.
-/

namespace AisStation

/-- Why an exact number has no counterpart in the other kind of number. -/
inductive NumberError
  /-- The integer lies beyond the greatest finite number. -/
  | integerTooLarge
  /-- There is no integer near something that is not a number. -/
  | roundOfNan
  /-- There is no integer near infinity. -/
  | roundOfInfinity
  /-- The square lies beyond the greatest finite number. -/
  | squareTooLarge
deriving DecidableEq, Repr

/-- The wording of a number error. -/
def NumberError.message : NumberError → String
  | .integerTooLarge => "int too large to convert to float"
  | .roundOfNan => "cannot convert float NaN to integer"
  | .roundOfInfinity => "cannot convert float infinity to integer"
  | .squareTooLarge => "(34, 'Numerical result out of range')"

/-- The integer nearest to `num / den`, the even one of two. -/
def roundRatio (num den : Nat) : Nat :=
  let floor := num / den
  let rest := 2 * (num % den)
  if rest < den then floor
  else if den < rest then floor + 1
  else if floor % 2 = 0 then floor else floor + 1

/-- A number in double precision. -/
inductive Binary64
  /-- The number `± significand * 2 ^ exponent`. -/
  | finite (negative : Bool) (significand : Nat) (exponent : Int)
  | infinite (negative : Bool)
  | nan
deriving DecidableEq, Repr

namespace Binary64

-- Powers are those of core, also where Mathlib offers others. A numeral as an exponent needs its type
-- for that.
attribute [local instance (high)] instPowNat

/-- The exponent of the smallest positive number. -/
def leastExponent : Int := -1074

/-- The exponent of the greatest finite number. -/
def greatestExponent : Int := 971

/-- Numerator and denominator of `num / den / 2 ^ exponent`. -/
def scaleDown (num den : Nat) (exponent : Int) : Nat × Nat :=
  (num * 2 ^ (-exponent).toNat, den * 2 ^ exponent.toNat)

/-- The exponent at which the ratio `num / den` has its 53 significant bits, or the least one. -/
def ratioExponent (num den : Nat) : Int :=
  let low := max ((num.log2 : Int) - den.log2 - 53) leastExponent
  let (a, b) := scaleDown num den low
  if 2 ^ (53 : Nat) ≤ a / b then low + 1 else low

/-- The number nearest to `± num / den`. -/
def ofRatio (negative : Bool) (num den : Nat) : Binary64 :=
  if num = 0 then finite negative 0 leastExponent
  else
    let exponent := ratioExponent num den
    let (a, b) := scaleDown num den exponent
    let rounded := roundRatio a b
    let (significand, exponent) :=
      if rounded = 2 ^ (53 : Nat) then (2 ^ (52 : Nat), exponent + 1) else (rounded, exponent)
    if greatestExponent < exponent then infinite negative
    else finite negative significand exponent

/-- The number nearest to `± significand * 2 ^ exponent`. -/
def ofScaled (negative : Bool) (significand : Nat) (exponent : Int) : Binary64 :=
  ofRatio negative (significand * 2 ^ exponent.toNat) (2 ^ (-exponent).toNat)

/-- The number nearest to an integer that is not too large. -/
def ofInt (n : Int) : Except NumberError Binary64 :=
  match ofRatio (n < 0) n.natAbs 1 with
  | infinite _ => .error .integerTooLarge
  | x => .ok x

/-- The number nearest to `± digits * 10 ^ exponent`. -/
def ofDecimal (negative : Bool) (digits : Nat) (exponent : Int) : Binary64 :=
  ofRatio negative (digits * 10 ^ exponent.toNat) (10 ^ (-exponent).toNat)

/-- The number with a given encoding in 64 bits. -/
def ofBits (bits : UInt64) : Binary64 :=
  let n := bits.toNat
  let negative := n / 2 ^ (63 : Nat) == 1
  let field : Nat := n / 2 ^ (52 : Nat) % 2 ^ (11 : Nat)
  let fraction : Nat := n % 2 ^ (52 : Nat)
  if field = 2047 then (if fraction = 0 then infinite negative else nan)
  else if field = 0 then finite negative fraction leastExponent
  else finite negative (2 ^ (52 : Nat) + fraction) ((field : Int) - 1075)

/-- The encoding in 64 bits. -/
def toBits : Binary64 → UInt64
  | nan => 0x7ff8000000000000
  | infinite negative => .ofNat ((2 ^ (63 : Nat) * negative.toNat) + 2047 * 2 ^ (52 : Nat))
  | finite negative significand exponent =>
    let sign := 2 ^ (63 : Nat) * negative.toNat
    if significand < 2 ^ (52 : Nat) then .ofNat (sign + significand)
    else .ofNat (sign + (exponent + 1075).toNat * 2 ^ (52 : Nat) + (significand - 2 ^ (52 : Nat)))

/-- The number of opposite sign. -/
def neg : Binary64 → Binary64
  | finite negative significand exponent => finite (!negative) significand exponent
  | infinite negative => infinite (!negative)
  | nan => nan

/-- The product, rounded. -/
def mul : Binary64 → Binary64 → Binary64
  | finite s m e, finite s' m' e' => ofScaled (s != s') (m * m') (e + e')
  | infinite s, finite s' m' _ => if m' = 0 then nan else infinite (s != s')
  | finite s m _, infinite s' => if m = 0 then nan else infinite (s != s')
  | infinite s, infinite s' => infinite (s != s')
  | nan, _ | _, nan => nan

/-- The quotient, rounded. -/
def div : Binary64 → Binary64 → Binary64
  | finite s m e, finite s' m' e' =>
    if m' = 0 then (if m = 0 then nan else infinite (s != s'))
    else ofRatio (s != s') (m * 2 ^ (e - e').toNat) (m' * 2 ^ (e' - e).toNat)
  | infinite s, finite s' _ _ => infinite (s != s')
  | finite s _ _, infinite s' => finite (s != s') 0 leastExponent
  | infinite _, infinite _ => nan
  | nan, _ | _, nan => nan

/-- The integer nearest to a finite number, the even one of two. -/
def round : Binary64 → Except NumberError Int
  | nan => .error .roundOfNan
  | infinite _ => .error .roundOfInfinity
  | finite negative significand exponent =>
    let n := roundRatio (significand * 2 ^ exponent.toNat) (2 ^ (-exponent).toNat)
    .ok (if negative then -n else n)

/-- The integer part of a finite number, toward zero. -/
def truncate : Binary64 → Except NumberError Int
  | nan => .error .roundOfNan
  | infinite _ => .error .roundOfInfinity
  | finite negative significand exponent =>
    let n := significand * 2 ^ exponent.toNat / 2 ^ (-exponent).toNat
    .ok (if negative then -n else n)

/-- Is the number zero, of either sign? -/
def isZero : Binary64 → Bool
  | finite _ significand _ => significand == 0
  | _ => false

end Binary64

end AisStation
