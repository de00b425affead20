import EventAtlas.Number.Binary64
import EventAtlas.Text.Utf8
import EventAtlas.Yaml.Timestamp

/-!
# Values

What a YAML text stands for. Tables find their values by key. Keys of different kinds can be
the same: numbers are told apart only by their size, and the truth values are the numbers one
and zero. A key that is entered again replaces the value and keeps the place and the form of
the first.
-/

namespace EventAtlas.Yaml

/-- A value. -/
inductive Value where
  | null
  | bool (value : Bool)
  | int (value : Int)
  | float (value : Binary64)
  | text (value : String)
  | bytes (content : Text.Bytes)
  | date (date : Date)
  | moment (moment : Moment)
  | list (items : List Value)
  /-- An entry of a list of pairs. -/
  | pair (first second : Value)
  | table (entries : List (Value × Value))
  | set (items : List Value)
  /-- A collection that holds this place itself. -/
  | loop
deriving Inhabited

namespace Value

/-- What tells a key from others. -/
inductive Key where
  | null
  | whole (value : Int)
  | float (value : Binary64)
  | text (value : String)
  | bytes (content : Text.Bytes)
  | date (date : Date)
  | moment (moment : Moment)
deriving DecidableEq

/-- The key that a value is. Collections are none. -/
def key? : Value → Option Key
  | .null => some .null
  | .bool value => some (.whole (if value then 1 else 0))
  | .int value => some (.whole value)
  | .float value =>
    match value.toInt? with
    | some whole => some (.whole whole)
    | none => some (.float value)
  | .text value => some (.text value)
  | .bytes content => some (.bytes content)
  | .date day => some (.date day)
  | .moment time => some (.moment time)
  | .list _ | .pair _ _ | .table _ | .set _ | .loop => none

/-- Enters a value under a key. -/
def putEntry (entries : List (Value × Value)) (key value : Value) : List (Value × Value) :=
  match entries with
  | [] => [(key, value)]
  | (first, kept) :: rest =>
    if first.key? = key.key? then (first, value) :: rest
    else (first, kept) :: putEntry rest key value

/-- The entries that remain when pairs are entered one after the other. -/
def entriesOf (pairs : List (Value × Value)) : List (Value × Value) :=
  pairs.foldl (fun entries pair => putEntry entries pair.1 pair.2) []

/-- The value under a name. -/
def lookup (entries : List (Value × Value)) (name : String) : Option Value :=
  (entries.find? fun entry => entry.1.key? = some (.text name)).map Prod.snd

/-- Whether a value counts as something: not nothing, not false, not zero and not empty. -/
def isSomething : Value → Bool
  | .null => false
  | .bool value => value
  | .int value => value ≠ 0
  | .float value => !value.isZero
  | .text value => value ≠ ""
  | .bytes content => content ≠ []
  | .list items | .set items => !items.isEmpty
  | .table entries => !entries.isEmpty
  | .date _ | .moment _ | .pair _ _ | .loop => true

end Value

end EventAtlas.Yaml
