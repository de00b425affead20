import EventAtlas.Number.Binary64

/-!
# Shortest decimals

A floating point number is written with the fewest digits that are read back as the same
number. Among the decimals with that many digits the nearest one is taken, and of two that are
equally near the one with the even last digit. Numbers from 0.0001 up to 10 ^ 16 are written
with a point, others with an exponent.
-/

namespace EventAtlas.Binary64

/-- A ratio of two natural numbers. -/
structure Ratio where
  top : Nat
  bottom : Nat
deriving DecidableEq, Repr

namespace Ratio

/-- Whether a ratio is at most another one. -/
def le (left right : Ratio) : Bool :=
  left.top * right.bottom ≤ right.top * left.bottom

/-- Whether a ratio is less than another one. -/
def lt (left right : Ratio) : Bool :=
  left.top * right.bottom < right.top * left.bottom

/-- The ratio `count * 10 ^ power`. -/
def ofDecimal (count : Nat) (power : Int) : Ratio :=
  if 0 ≤ power then ⟨count * tenTo power.toNat, 1⟩ else ⟨count, tenTo (-power).toNat⟩

/-- The ratio `count * 2 ^ power`. -/
def ofBinary (count : Nat) (power : Int) : Ratio :=
  if 0 ≤ power then ⟨count * twoTo power.toNat, 1⟩ else ⟨count, twoTo (-power).toNat⟩

end Ratio

/-- The numbers that are rounded to one floating point number: its exact value, the ends, and
whether the ends are rounded to it as well. -/
structure Interval where
  value : Ratio
  low : Ratio
  high : Ratio
  closed : Bool
deriving DecidableEq, Repr

/-- The interval of a mantissa and a power of two. Below a power of two the numbers lie twice as
dense. -/
def Interval.of (mantissa : Nat) (exponent : Int) : Interval :=
  let below := if mantissa = twoTo (precision - 1) ∧ minExponent < exponent then 1 else 2
  { value := .ofBinary (4 * mantissa) (exponent - 2)
    low := .ofBinary (4 * mantissa - below) (exponent - 2)
    high := .ofBinary (4 * mantissa + 2) (exponent - 2)
    closed := mantissa % 2 = 0 }

/-- Whether a ratio lies in an interval. -/
def Interval.holds (interval : Interval) (ratio : Ratio) : Bool :=
  if interval.closed then interval.low.le ratio && ratio.le interval.high
  else interval.low.lt ratio && ratio.lt interval.high

/-- A decimal: its digits and the power of ten of its last digit. -/
structure Decimal where
  count : Nat
  power : Int
deriving DecidableEq, Repr

/-- The decimals next to the value of an interval on the grid of a power of ten that lie in the
interval, the better one first. -/
def candidates (interval : Interval) (power : Int) : List Decimal :=
  let step := Ratio.ofDecimal 1 power
  let top := interval.value.top * step.bottom
  let bottom := interval.value.bottom * step.top
  let count := top / bottom
  let rest := 2 * (top % bottom)
  let nearest := if rest < bottom ∨ (rest = bottom ∧ count % 2 = 0)
    then [count, count + 1] else [count + 1, count]
  (nearest.map fun count => Decimal.mk count power).filter fun decimal =>
    interval.holds (.ofDecimal decimal.count decimal.power)

/-- The power of ten above a ratio: the least one that is larger, searched for upwards. -/
def powerAbove (ratio : Ratio) : (fuel : Nat) → Int → Int
  | 0, power => power
  | fuel + 1, power =>
    if ratio.lt (.ofDecimal 1 power) then power else powerAbove ratio fuel (power + 1)

/-- The number of digits that is always enough. -/
def maxDigits : Nat := 17

/-- The shortest decimal of a mantissa, which is not zero, and a power of two. -/
def shortest (mantissa : Nat) (exponent : Int) : Decimal :=
  let interval := Interval.of mantissa exponent
  let above := powerAbove interval.value 700 (-330)
  let found := (List.range maxDigits).findSome? fun (count : Nat) =>
    (candidates interval (above - ((count : Int) + 1))).head?
  found.getD ⟨0, 0⟩

/-- The digits of a number without the zeros at its end, and how many zeros there were. -/
def splitZeros (count : Nat) : List Char × Nat :=
  let digits := Nat.toDigits 10 count
  let zeros := (digits.reverse.takeWhile (· == '0')).length
  (digits.take (digits.length - zeros), zeros)

/-- The digits of an exponent, which are at least two. -/
def exponentText (exponent : Int) : List Char :=
  let digits := Nat.toDigits 10 exponent.natAbs
  (if exponent < 0 then '-' else '+') :: (List.replicate (2 - digits.length) '0' ++ digits)

/-- Digits with a point behind the first `place` ones, or in front of them with zeros between. -/
def pointed (digits : List Char) (place : Int) : List Char :=
  if place ≤ 0 then '0' :: '.' :: (List.replicate (-place).toNat '0' ++ digits)
  else
    let whole := digits.take place.toNat
    let filled := whole ++ List.replicate (place.toNat - whole.length) '0'
    match digits.drop place.toNat with
    | [] => filled ++ ['.', '0']
    | fraction => filled ++ '.' :: fraction

/-- The text of digits whose point stands behind the first `place` ones. -/
def layOut (digits : List Char) (place : Int) : List Char :=
  if -4 < place ∧ place ≤ 16 then pointed digits place
  else match digits with
    | first :: [] => first :: 'e' :: exponentText (place - 1)
    | first :: others => first :: '.' :: (others ++ 'e' :: exponentText (place - 1))
    | [] => []

/-- The text of a floating point number. -/
def toText : Binary64 → String
  | .nan => "nan"
  | .infinite negative => if negative then "-inf" else "inf"
  | .finite negative mantissa exponent =>
    let digits := if mantissa = 0 then "0.0".toList
      else
        let decimal := shortest mantissa exponent
        let (digits, zeros) := splitZeros decimal.count
        layOut digits (digits.length + zeros + decimal.power)
    String.ofList (if negative then '-' :: digits else digits)

end EventAtlas.Binary64
