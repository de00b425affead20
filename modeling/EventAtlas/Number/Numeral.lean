import EventAtlas.Number.Binary64
import EventAtlas.Text.Blank
import EventAtlas.Text.Digit
import EventAtlas.Text.Lower

/-!
# Numerals

Reading numbers from texts that hold nothing else. Blanks around a number are passed over, and
the digits of all scripts count.
-/

namespace EventAtlas.Numeral

/-- A text without blanks at its ends, and with ASCII digits for all digits. -/
def plain (text : List Char) : List Char :=
  (Text.trim text).map Text.asciiDigit

/-- Splits a sign off; tells whether it is negative. -/
def splitSign : List Char → Bool × List Char
  | '-' :: rest => (true, rest)
  | '+' :: rest => (false, rest)
  | text => (false, text)

/-- The value of a digit, if it is one in a base. -/
def digit? (base : Nat) (c : Char) : Option Nat :=
  let value :=
    if c.isDigit then c.toNat - '0'.toNat
    else if 'a' ≤ c.toLower && c.toLower ≤ 'z' then c.toLower.toNat - 'a'.toNat + 10
    else base
  if value < base then some value else none

/-- The number that digits make, of which there has to be one at least. -/
def number? (base : Nat) : List Char → Option Nat
  | [] => none
  | digits => digits.foldlM (fun value c => (digit? base c).map (value * base + ·)) 0

/-- The letter that follows a zero in front of the digits of a base. -/
def baseLetter? : Nat → Option Char
  | 2 => some 'b'
  | 8 => some 'o'
  | 16 => some 'x'
  | _ => none

/-- Digits without the mark of their base in front. -/
def withoutBase (base : Nat) (digits : List Char) : List Char :=
  match digits with
  | '0' :: letter :: rest => if baseLetter? base = some letter.toLower then rest else digits
  | _ => digits

/-- The most digits that a whole number may have in base ten. -/
def maxDecimalDigits : Nat := 4300

/-- Reads a whole number in a base. -/
def int? (base : Nat) (text : List Char) : Option Int :=
  let (negative, digits) := splitSign (plain text)
  if base = 10 ∧ maxDecimalDigits < digits.length then none
  else (number? base (withoutBase base digits)).map fun value =>
    if negative then -(value : Int) else value

/-- Reads an exponent, which may be left out. -/
def exponent? : List Char → Option Int
  | [] => some 0
  | letter :: rest =>
    if letter = 'e' then
      let (negative, digits) := splitSign rest
      (number? 10 digits).map fun value => if negative then -(value : Int) else value
    else none

/-- Reads digits with a point and an exponent, both of which may be left out. -/
def decimal? (negative : Bool) (text : List Char) : Option Binary64 := do
  let whole := text.takeWhile Char.isDigit
  let rest := text.dropWhile Char.isDigit
  let (fraction, rest) := match rest with
    | '.' :: rest => (rest.takeWhile Char.isDigit, rest.dropWhile Char.isDigit)
    | rest => ([], rest)
  let digits ← number? 10 (whole ++ fraction)
  let exponent ← exponent? rest
  return .ofDecimal negative digits (exponent - fraction.length)

/-- Reads a floating point number in small letters. -/
def float? (text : List Char) : Option Binary64 :=
  let (negative, rest) := splitSign (plain text)
  if rest = "inf".toList ∨ rest = "infinity".toList then some (.infinite negative)
  else if rest = "nan".toList then some .nan
  else decimal? negative rest

end EventAtlas.Numeral
