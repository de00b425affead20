/-!
# Binary floating point

Floating point numbers of 64 bits, as exact values: a sign, a mantissa below 2 ^ 53 and a power
of two of at least -1074. A ratio is rounded to the nearest such number; of two that are equally
near, the one with the even mantissa counts.
-/

namespace EventAtlas

/-- A floating point number of 64 bits. -/
inductive Binary64 where
  /-- The number `mantissa * 2 ^ exponent`, with a sign that zero has too. -/
  | finite (negative : Bool) (mantissa : Nat) (exponent : Int)
  | infinite (negative : Bool)
  | nan
deriving DecidableEq, Repr

namespace Binary64

/-- A power of two. -/
def twoTo (exponent : Nat) : Nat := Nat.pow 2 exponent

/-- A power of ten. -/
def tenTo (exponent : Nat) : Nat := Nat.pow 10 exponent

/-- The number of bits of a mantissa. -/
def precision : Nat := 53

/-- The least power of two. -/
def minExponent : Int := -1074

/-- The largest power of two. -/
def maxExponent : Int := 971

/-- Zero. -/
def zero (negative : Bool) : Binary64 :=
  .finite negative 0 minExponent

/-- The quotient of two numbers, rounded to the nearest one; halves go to the even one. -/
def roundDiv (numerator denominator : Nat) : Nat :=
  let quotient := numerator / denominator
  let rest := 2 * (numerator % denominator)
  if rest < denominator ∨ (rest = denominator ∧ quotient % 2 = 0) then quotient
  else quotient + 1

/-- A ratio divided by a power of two, as a ratio. -/
def scaled (numerator denominator : Nat) (exponent : Int) : Nat × Nat :=
  if 0 ≤ exponent then (numerator, denominator * twoTo exponent.toNat)
  else (numerator * twoTo (-exponent).toNat, denominator)

/-- The power of two with which the mantissa of a ratio has all its bits, as far as powers of
two go. -/
def exponentOf (numerator denominator : Nat) : Int :=
  let guess : Int := (numerator.log2 : Int) - denominator.log2 - precision
  let (top, bottom) := scaled numerator denominator guess
  let shift : Int :=
    if top / bottom < twoTo (precision - 1) then -1
    else if twoTo precision ≤ top / bottom then 1
    else 0
  max minExponent (guess + shift)

/-- The number nearest to a ratio. -/
def ofRatio (negative : Bool) (numerator denominator : Nat) : Binary64 :=
  if numerator = 0 then zero negative
  else
    let exponent := exponentOf numerator denominator
    let (top, bottom) := scaled numerator denominator exponent
    let mantissa := roundDiv top bottom
    let (mantissa, exponent) :=
      if mantissa = twoTo precision then (twoTo (precision - 1), exponent + 1)
      else (mantissa, exponent)
    if maxExponent < exponent then .infinite negative else .finite negative mantissa exponent

/-- Decimal exponents beyond which a number is infinite or zero. -/
def decimalBound : Int := 400

/-- The number nearest to `digits * 10 ^ exponent`. -/
def ofDecimal (negative : Bool) (digits : Nat) (exponent : Int) : Binary64 :=
  let size : Int := (Nat.toDigits 10 digits).length + exponent
  if digits = 0 ∨ size < -decimalBound then zero negative
  else if decimalBound < size then .infinite negative
  else if 0 ≤ exponent then ofRatio negative (digits * tenTo exponent.toNat) 1
  else ofRatio negative digits (tenTo (-exponent).toNat)

/-- Whether a number is zero. -/
def isZero : Binary64 → Bool
  | .finite _ mantissa _ => mantissa = 0
  | _ => false

/-- The number with the other sign. -/
def neg : Binary64 → Binary64
  | .finite negative mantissa exponent => .finite (!negative) mantissa exponent
  | .infinite negative => .infinite (!negative)
  | .nan => .nan

/-- The mantissa with its sign. -/
def signed (negative : Bool) (mantissa : Nat) : Int :=
  if negative then -(mantissa : Int) else mantissa

/-- The number nearest to a signed mantissa times a power of two. -/
def ofScaled (mantissa exponent : Int) : Binary64 :=
  if 0 ≤ exponent then ofRatio (mantissa < 0) (mantissa.natAbs * twoTo exponent.toNat) 1
  else ofRatio (mantissa < 0) mantissa.natAbs (twoTo (-exponent).toNat)

/-- The sum, rounded. -/
def add : Binary64 → Binary64 → Binary64
  | .finite n m e, .finite n' m' e' =>
    let least := min e e'
    if m = 0 ∧ m' = 0 then zero (n && n')
    else
      ofScaled (signed n m * twoTo (e - least).toNat + signed n' m' * twoTo (e' - least).toNat) least
  | .nan, _ | _, .nan => .nan
  | .infinite n, .infinite n' => if n = n' then .infinite n else .nan
  | .infinite n, _ => .infinite n
  | _, .infinite n => .infinite n

/-- The product with a whole number, rounded. -/
def scale (number : Binary64) (factor : Nat) : Binary64 :=
  match number with
  | .finite negative mantissa exponent =>
    if mantissa * factor = 0 then zero negative
    else ofScaled (signed negative (mantissa * factor)) exponent
  | .infinite negative => if factor = 0 then .nan else .infinite negative
  | .nan => .nan

/-- The whole number that a number is, if it is one. -/
def toInt? : Binary64 → Option Int
  | .finite negative mantissa exponent =>
    if 0 ≤ exponent then some (signed negative (mantissa * twoTo exponent.toNat))
    else if mantissa % twoTo (-exponent).toNat = 0 then
      some (signed negative (mantissa / twoTo (-exponent).toNat))
    else none
  | _ => none

end Binary64

end EventAtlas
