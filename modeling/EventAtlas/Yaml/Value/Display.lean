import EventAtlas.Number.Shortest
import EventAtlas.Text.Quoted
import EventAtlas.Yaml.Value

/-!
# Showing values

How a value stands in a text. By itself a text is shown as it is; inside a collection it is
quoted, and dates are spelled out there.
-/

namespace EventAtlas.Yaml

/-- A number with at least as many digits as `width`. -/
def paddedNumber (width value : Nat) : String :=
  let digits := Nat.toDigits 10 value
  String.ofList (List.replicate (width - digits.length) '0' ++ digits)

/-- A date as year, month and day. -/
def Date.text (date : Date) : String :=
  paddedNumber 4 date.year ++ "-" ++ paddedNumber 2 date.month ++ "-" ++ paddedNumber 2 date.day

/-- A distance from universal time. -/
def offsetText (offset : Int) : String :=
  (if offset < 0 then "-" else "+") ++ paddedNumber 2 (offset.natAbs / 60) ++ ":" ++
    paddedNumber 2 (offset.natAbs % 60)

/-- A moment as date and time of day. -/
def Moment.text (moment : Moment) : String :=
  moment.date.text ++ " " ++ paddedNumber 2 moment.hour ++ ":" ++ paddedNumber 2 moment.minute ++
    ":" ++ paddedNumber 2 moment.second ++
    (if moment.microsecond = 0 then "" else "." ++ paddedNumber 6 moment.microsecond) ++
    ((moment.offset.map offsetText).getD "")

namespace Value

/-- Items with commas between them. -/
def listed (items : List String) : String :=
  ", ".intercalate items

/-- A date, spelled out. -/
def spelledDate (date : Date) : String :=
  "datetime.date(" ++ listed [toString date.year, toString date.month, toString date.day] ++ ")"

/-- The length of a distance from universal time, in whole days and seconds that are left. -/
def spelledOffset (offset : Int) : String :=
  let seconds := offset * 60
  if offset = 0 then "datetime.timezone.utc"
  else if offset < 0 then
    "datetime.timezone(datetime.timedelta(days=-1, seconds=" ++ toString (seconds + 86400) ++ "))"
  else "datetime.timezone(datetime.timedelta(seconds=" ++ toString seconds ++ "))"

/-- A moment, spelled out. Seconds and their parts are left out where they are zero. -/
def spelledMoment (moment : Moment) : String :=
  let parts := [moment.date.year, moment.date.month, moment.date.day, moment.hour, moment.minute]
  let fine :=
    if moment.microsecond ≠ 0 then [moment.second, moment.microsecond]
    else if moment.second ≠ 0 then [moment.second]
    else []
  "datetime.datetime(" ++
    listed ((parts ++ fine).map toString ++
      (moment.offset.map fun offset => "tzinfo=" ++ spelledOffset offset).toList) ++ ")"

/-- How a byte is written between the given quotes. -/
def byteText (quote : Char) (byte : UInt8) : List Char :=
  let c := Char.ofNat byte.toNat
  if c = quote ∨ c = '\\' then ['\\', c]
  else if c = '\n' then "\\n".toList
  else if c = '\r' then "\\r".toList
  else if c = '\t' then "\\t".toList
  else if 0x20 ≤ byte ∧ byte < 0x7f then [c]
  else '\\' :: 'x' :: Text.hexPadded 2 byte.toNat

/-- Bytes in quotes. -/
def spelledBytes (content : Text.Bytes) : String :=
  let quote := Text.quoteFor (content.map fun byte => Char.ofNat byte.toNat)
  String.ofList ('b' :: quote :: content.flatMap (byteText quote) ++ [quote])

mutual

/-- A value inside a collection. -/
def spelled : Value → String
  | .null => "None"
  | .bool value => if value then "True" else "False"
  | .int value => toString value
  | .float value => value.toText
  | .text value => Text.quoted value
  | .bytes content => spelledBytes content
  | .date day => spelledDate day
  | .moment time => spelledMoment time
  | .list items => "[" ++ listed (spelledItems items) ++ "]"
  | .pair first second => "(" ++ spelled first ++ ", " ++ spelled second ++ ")"
  | .table entries => "\x7b" ++ listed (spelledEntries entries) ++ "\x7d"
  | .set [] => "set()"
  | .set items => "\x7b" ++ listed (spelledItems items) ++ "\x7d"
  | .loop => "[...]"

/-- The values of a collection. -/
def spelledItems : List Value → List String
  | [] => []
  | item :: rest => spelled item :: spelledItems rest

/-- The keys and values of a table. -/
def spelledEntries : List (Value × Value) → List String
  | [] => []
  | (key, value) :: rest => (spelled key ++ ": " ++ spelled value) :: spelledEntries rest

end

/-- A value by itself. -/
def shown : Value → String
  | .text value => value
  | .date day => day.text
  | .moment time => time.text
  | value => spelled value

end Value

end EventAtlas.Yaml
