/-!
# Timestamps

A timestamp is a date, or a date with a time of day and possibly a distance from universal
time. The month and the day of a date may be written with one digit only if a time follows or
a tag says that the text is a timestamp.
-/

namespace EventAtlas.Yaml

/-- The digits of a timestamp as they are written. -/
structure TimestampText where
  year : Nat
  month : Nat
  day : Nat
  /-- Whether month and day have two digits each. -/
  full : Bool
  time : Option (Nat × Nat × Nat × List Char)
  /-- The sign, the hours and the minutes of the distance from universal time. -/
  zone : Option (Bool × Nat × Nat)
deriving DecidableEq, Repr

/-- A day of the calendar. -/
structure Date where
  year : Nat
  month : Nat
  day : Nat
deriving DecidableEq, Repr

/-- A time of a day, with its distance from universal time in minutes if that is known. -/
structure Moment where
  date : Date
  hour : Nat
  minute : Nat
  second : Nat
  microsecond : Nat
  offset : Option Int
deriving DecidableEq, Repr

namespace TimestampText

/-- The number that digits make. -/
def number (digits : List Char) : Nat :=
  digits.foldl (fun value digit => value * 10 + (digit.toNat - '0'.toNat)) 0

/-- Reads a number of a given count of digits. -/
def readDigits (count : Nat) (text : List Char) : Option (Nat × List Char) :=
  let digits := text.take count
  if digits.length = count ∧ digits.all Char.isDigit then some (number digits, text.drop count)
  else none

/-- Reads a number of two digits, or else of one; says whether there are two. -/
def readShort (text : List Char) : Option ((Nat × Bool) × List Char) :=
  match readDigits 2 text with
  | some (value, rest) => some ((value, true), rest)
  | none => (readDigits 1 text).map fun (value, rest) => ((value, false), rest)

/-- Reads one given character. -/
def readChar (c : Char) : List Char → Option (List Char)
  | first :: rest => if first = c then some rest else none
  | [] => none

/-- A space or a tab. -/
def isGap (c : Char) : Bool :=
  c == ' ' || c == '\t'

/-- Reads what separates a time from its date. -/
def readSeparator : List Char → Option (List Char)
  | c :: rest =>
    if c = 'T' ∨ c = 't' then some rest
    else if isGap c then some (rest.dropWhile isGap)
    else none
  | [] => none

/-- Reads a time of day. -/
def readTime (text : List Char) : Option ((Nat × Nat × Nat × List Char) × List Char) := do
  let ((hour, _), text) ← readShort text
  let (minute, text) ← readDigits 2 (← readChar ':' text)
  let (second, text) ← readDigits 2 (← readChar ':' text)
  match text with
  | '.' :: text =>
    some ((hour, minute, second, text.takeWhile Char.isDigit), text.dropWhile Char.isDigit)
  | text => some ((hour, minute, second, []), text)

/-- Reads the distance from universal time, which fills the rest of a text. -/
def readZone (text : List Char) : Option (Option (Bool × Nat × Nat)) :=
  match text.dropWhile isGap with
  | [] => if text = [] then some none else none
  | ['Z'] => some (some (false, 0, 0))
  | sign :: rest =>
    if sign = '+' ∨ sign = '-' then do
      let ((hours, _), rest) ← readShort rest
      match rest with
      | [] => some (some (sign = '-', hours, 0))
      | rest =>
        let (minutes, rest) ← readDigits 2 (← readChar ':' rest)
        if rest = [] then some (some (sign = '-', hours, minutes)) else none
    else none

/-- Reads a timestamp that fills a text. -/
def read (text : List Char) : Option TimestampText := do
  let (year, text) ← readDigits 4 text
  let ((month, fullMonth), text) ← readShort (← readChar '-' text)
  let ((day, fullDay), text) ← readShort (← readChar '-' text)
  let full := fullMonth && fullDay
  if text = [] then some ⟨year, month, day, full, none, none⟩
  else
    let (time, text) ← readTime (← readSeparator text)
    let zone ← readZone text
    some ⟨year, month, day, full, some time, zone⟩

/-- Whether a plain text with these digits is a timestamp. -/
def isPlain (text : TimestampText) : Bool :=
  text.full || text.time.isSome

/-- Whether a year has a day more than others. -/
def isLeap (year : Nat) : Bool :=
  year % 4 = 0 && (year % 100 ≠ 0 || year % 400 = 0)

/-- The number of days of a month. -/
def daysIn (year month : Nat) : Nat :=
  if month = 2 then (if isLeap year then 29 else 28)
  else if month = 4 ∨ month = 6 ∨ month = 9 ∨ month = 11 then 30
  else 31

/-- The day, if the calendar has it. -/
def date? (text : TimestampText) : Option Date :=
  if 1 ≤ text.year ∧ 1 ≤ text.month ∧ text.month ≤ 12 ∧ 1 ≤ text.day ∧
      text.day ≤ daysIn text.year text.month then
    some ⟨text.year, text.month, text.day⟩
  else none

/-- The number of millionths that the digits behind a point make. -/
def microseconds (fraction : List Char) : Nat :=
  let digits := fraction.take 6
  number (digits ++ List.replicate (6 - digits.length) '0')

/-- The distance from universal time in minutes, which is less than a day. -/
def offset? (zone : Bool × Nat × Nat) : Option Int :=
  let (west, hours, minutes) := zone
  let distance := hours * 60 + minutes
  if distance < 24 * 60 then some (if west then -(distance : Int) else distance) else none

/-- The date or the moment, if the calendar and the clock have it. -/
def value? (text : TimestampText) : Option (Date ⊕ Moment) := do
  let date ← text.date?
  match text.time with
  | none => some (.inl date)
  | some (hour, minute, second, fraction) =>
    let offset ← match text.zone with
      | none => some none
      | some zone => (offset? zone).map some
    if hour < 24 ∧ minute < 60 ∧ second < 60 then
      some (.inr ⟨date, hour, minute, second, microseconds fraction, offset⟩)
    else none

end TimestampText

end EventAtlas.Yaml
