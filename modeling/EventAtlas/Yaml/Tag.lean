import EventAtlas.Text.Field

/-!
# Tags

A tag says what kind of value a node is. A plain scalar without a tag has one by its form:
words for nothing and for truth values, numbers in several notations, dates, and two signs that
matter only as keys. Any other scalar is a text.
-/

namespace EventAtlas.Yaml

/-- The kinds of values, and tags that no value has. -/
inductive Tag where
  | null
  | bool
  | int
  | float
  | binary
  | timestamp
  | omap
  | pairs
  | set
  | str
  | seq
  | map
  /-- As a key: the pairs of the value are taken over. -/
  | merge
  /-- As a key: the value that a mapping stands for. -/
  | value
  | other (name : String)
deriving DecidableEq, Repr

namespace Tag

/-- What the names of the standard tags start with. -/
def standardStart : String := "tag:yaml.org,2002:"

/-- The standard tags by name. -/
def standard : List (String × Tag) :=
  [("null", .null), ("bool", .bool), ("int", .int), ("float", .float), ("binary", .binary),
    ("timestamp", .timestamp), ("omap", .omap), ("pairs", .pairs), ("set", .set), ("str", .str),
    ("seq", .seq), ("map", .map), ("merge", .merge), ("value", .value)]

/-- The tag of a name. -/
def ofName (name : String) : Tag :=
  match standard.find? fun entry => standardStart ++ entry.1 = name with
  | some (_, tag) => tag
  | none => .other name

/-- The name of a tag. -/
def name : Tag → String
  | .other name => name
  | tag =>
    match standard.find? fun entry => entry.2 = tag with
    | some (name, _) => standardStart ++ name
    | none => standardStart

/-- Whether values with the tag are collections. -/
def isCollection : Tag → Bool
  | .seq | .map | .omap | .pairs | .set => true
  | _ => false

/-- The words for truth values. -/
def boolWords : List String :=
  ["yes", "Yes", "YES", "no", "No", "NO", "true", "True", "TRUE", "false", "False", "FALSE",
    "on", "On", "ON", "off", "Off", "OFF"]

/-- The words for nothing. -/
def nullWords : List String :=
  ["~", "null", "Null", "NULL"]

/-- The signs that start something else than a plain scalar. -/
def signWords : List String := ["!", "&", "*"]

/-- The tag of a sign that stands alone. No value has it. -/
def signName : String := standardStart ++ "yaml"

/-- A digit or an underscore. -/
def isDigitOrGap (c : Char) : Bool :=
  c.isDigit || c == '_'

/-- A text without a sign in front. -/
def unsigned : List Char → List Char
  | '+' :: rest | '-' :: rest => rest
  | text => text

/-- A digit in octal or an underscore. -/
def isOctalOrGap (c : Char) : Bool :=
  ('0' ≤ c && c ≤ '7') || c == '_'

/-- A digit in hexadecimal or an underscore. -/
def isHexOrGap (c : Char) : Bool :=
  isDigitOrGap c || ('a' ≤ c && c ≤ 'f') || ('A' ≤ c && c ≤ 'F')

/-- Whether a text is one or two digits that make a number below sixty. -/
def isSexagesimalDigits : List Char → Bool
  | [c] => c.isDigit
  | [tens, ones] => '0' ≤ tens && tens ≤ '5' && ones.isDigit
  | _ => false

/-- Whether a text starts with a digit and goes on with digits and underscores. -/
def isDigits : List Char → Bool
  | c :: rest => c.isDigit && rest.all isDigitOrGap
  | [] => false

/-- Whether a text starts with a digit other than zero and goes on with digits and
underscores. -/
def isLeadingDigits (text : List Char) : Bool :=
  isDigits text && text.head? ≠ some '0'

/-- Whether a text has the form of a whole number: in binary, octal, decimal, hexadecimal, or in
base sixty with colons. -/
def isInt (text : List Char) : Bool :=
  match unsigned text with
  | ['0'] => true
  | '0' :: 'b' :: digits => digits ≠ [] && digits.all fun c => c == '0' || c == '1' || c == '_'
  | '0' :: 'x' :: digits => digits ≠ [] && digits.all isHexOrGap
  | '0' :: digits => digits.all isOctalOrGap
  | digits =>
    match Text.fields ':' digits with
    | first :: others => isLeadingDigits first && others.all isSexagesimalDigits
    | [] => false

/-- Whether a text is empty or an exponent: a letter, a sign and digits. -/
def isExponent : List Char → Bool
  | [] => true
  | letter :: sign :: digits =>
    (letter == 'e' || letter == 'E') && (sign == '+' || sign == '-') &&
      digits ≠ [] && digits.all Char.isDigit
  | _ => false

/-- Whether a text is a run of digits and underscores with an exponent, both of which may be
left out. -/
def isFraction (text : List Char) : Bool :=
  isExponent (text.dropWhile isDigitOrGap)

/-- Whether a text without a sign has the form of a number in base sixty with a fraction. -/
def isSexagesimalFloat (text : List Char) : Bool :=
  match Text.fields ':' text with
  | first :: second :: others =>
    let middle := (second :: others).dropLast
    let last := (second :: others).getLast?.getD []
    match last.dropWhile (· != '.') with
    | '.' :: fraction =>
      isDigits first && middle.all isSexagesimalDigits &&
        isSexagesimalDigits (last.takeWhile (· != '.')) && fraction.all isDigitOrGap
    | _ => false
  | _ => false

/-- Whether a text has the form of a number with a point. A number that starts with its point
has no sign. -/
def isFloat (text : List Char) : Bool :=
  let digits := unsigned text
  let whole := digits.takeWhile (· != '.')
  match digits.dropWhile (· != '.') with
  | '.' :: fraction =>
    (isDigits whole && isFraction fraction) ||
      (text.head? = some '.' && fraction.head?.any Char.isDigit && isFraction fraction) ||
      (whole = [] && ["inf", "Inf", "INF"].contains (String.ofList fraction)) ||
      (text.head? = some '.' && ["nan", "NaN", "NAN"].contains (String.ofList fraction)) ||
      isSexagesimalFloat digits
  | _ => false

end Tag

end EventAtlas.Yaml
