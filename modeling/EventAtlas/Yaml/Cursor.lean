/-!
# Reading YAML text

Which characters a YAML text may hold and which of them separate its parts. A cursor is a place
in a text: what follows, and the line and column that have been reached. Going on never makes
what follows longer.
-/

namespace EventAtlas.Yaml

/-- A character that a text may hold. -/
def isPrintable (c : Char) : Bool :=
  c == '\t' || c == '\n' || c == '\r' || (' ' ≤ c && c ≤ '~') || c == '\x85' ||
    ('\xa0' ≤ c && c ≤ '\ufffd') || 0x10000 ≤ c.toNat

/-- A character that ends a line. -/
def isBreak (c : Char) : Bool :=
  c == '\n' || c == '\x85' || c == '\u2028' || c == '\u2029'

/-- A space or a tab. -/
def isBlank (c : Char) : Bool :=
  c == ' ' || c == '\t'

/-- A letter or a digit of ASCII, a hyphen, or an underscore. -/
def isWordChar (c : Char) : Bool :=
  c.isAlphanum || c == '-' || c == '_'

/-- A digit in hexadecimal. -/
def isHexDigit (c : Char) : Bool :=
  c.isDigit || ('a' ≤ c && c ≤ 'f') || ('A' ≤ c && c ≤ 'F')

/-- The value of a digit in hexadecimal. -/
def hexValue (c : Char) : Nat :=
  if c.isDigit then c.toNat - '0'.toNat
  else if 'a' ≤ c then c.toNat - 'a'.toNat + 10
  else c.toNat - 'A'.toNat + 10

/-- The number that digits make in a base. -/
def numberOf (base : Nat) (digits : List Char) : Nat :=
  digits.foldl (fun value digit => value * base + hexValue digit) 0

/-- What a line break stands for in a scalar. -/
def breakText (c : Char) : Char :=
  if c = '\x85' then '\n' else c

/-- Whether a text is at its end or goes on with a character that `accepts` takes. -/
def endsBefore (accepts : Char → Bool) : List Char → Bool
  | [] => true
  | c :: _ => accepts c

/-- Whether a text is at its end or goes on with a blank or a line break. -/
def endsWord (text : List Char) : Bool :=
  endsBefore (fun c => isBlank c || isBreak c) text

/-- Whether a text is at its end or goes on with a line break. -/
def endsLine (text : List Char) : Bool :=
  endsBefore isBreak text

/-- Whether a text is at its end or goes on with a space or a line break. A tab is not enough. -/
def endsPart (text : List Char) : Bool :=
  endsBefore (fun c => c == ' ' || isBreak c) text

/-- Whether a text starts with the mark that begins a document. -/
def startsDocument : List Char → Bool
  | '-' :: '-' :: '-' :: rest => endsWord rest
  | _ => false

/-- Whether a text starts with the mark that ends a document. -/
def endsDocument : List Char → Bool
  | '.' :: '.' :: '.' :: rest => endsWord rest
  | _ => false

/-- Whether a text starts with a mark between documents. -/
def separatesDocuments (text : List Char) : Bool :=
  startsDocument text || endsDocument text

/-- A place in a text. -/
structure Cursor where
  rest : List Char
  index : Nat
  line : Nat
  column : Nat
deriving DecidableEq, Repr

namespace Cursor

/-- The place at the front of a text. -/
def start (text : List Char) : Cursor where
  rest := text
  index := 0
  line := 0
  column := 0

/-- The place after the next character. A byte order mark takes no column. -/
def next (cursor : Cursor) : Cursor :=
  match cursor.rest with
  | [] => cursor
  | c :: rest =>
    if isBreak c then ⟨rest, cursor.index + 1, cursor.line + 1, 0⟩
    else if c = '\ufeff' then ⟨rest, cursor.index + 1, cursor.line, cursor.column⟩
    else ⟨rest, cursor.index + 1, cursor.line, cursor.column + 1⟩

/-- The place after a number of characters. -/
def skip : Nat → Cursor → Cursor
  | 0, cursor => cursor
  | count + 1, cursor => skip count cursor.next

/-- The characters at a place that `accepts` takes, and the place after them. -/
def takeWhile (accepts : Char → Bool) (cursor : Cursor) : List Char × Cursor :=
  let run := cursor.rest.takeWhile accepts
  (run, cursor.skip run.length)

/-- The place after the spaces at a place. -/
def skipSpaces (cursor : Cursor) : Cursor :=
  (cursor.takeWhile (· == ' ')).2

/-- The place after a comment, if one starts here. -/
def skipComment (cursor : Cursor) : Cursor :=
  match cursor.rest with
  | '#' :: _ => (cursor.takeWhile (!isBreak ·)).2
  | _ => cursor

/-- The place after the line break at a place, if there is one. -/
def afterBreak? (cursor : Cursor) : Option (Char × Cursor) :=
  match cursor.rest with
  | c :: _ => if isBreak c then some (breakText c, cursor.next) else none
  | [] => none

/-- What is left to read gets shorter unless nothing is left. -/
theorem length_next_lt {cursor : Cursor} (more : cursor.rest ≠ []) :
    cursor.next.rest.length < cursor.rest.length := by
  unfold next
  split
  · contradiction
  · rename_i found
    rw [found]
    split
    · simp
    · split <;> simp

end Cursor

end EventAtlas.Yaml
