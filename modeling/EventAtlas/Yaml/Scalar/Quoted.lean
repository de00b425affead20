import EventAtlas.Yaml.Cursor
import EventAtlas.Yaml.Fault
import EventAtlas.Yaml.Scalar.Plain

/-!
# Quoted scalars

A text in single quotes writes a quote twice and has no escapes. A text in double quotes has
escapes that begin with a backslash; a backslash at the end of a line joins the next line to
it. In both, line breaks are folded as in plain scalars.
-/

namespace EventAtlas.Yaml.Scalar

/-- The characters that a backslash and one character stand for. -/
def simpleEscapes : List (Char × Char) :=
  [('0', '\x00'), ('a', '\x07'), ('b', '\x08'), ('t', '\t'), ('\t', '\t'), ('n', '\n'),
    ('v', '\x0b'), ('f', '\x0c'), ('r', '\r'), ('e', '\x1b'), (' ', ' '), ('"', '"'),
    ('\\', '\\'), ('/', '/'), ('N', '\x85'), ('_', '\xa0'), ('L', '\u2028'), ('P', '\u2029')]

/-- The number of digits that follow the letter of an escape by number. -/
def escapeDigits : Char → Option Nat
  | 'x' => some 2
  | 'u' => some 4
  | 'U' => some 8
  | _ => none

/-- The lines after a line break that hold nothing, and the place where the next one starts. -/
def quotedBreaks (cursor : Cursor) : Except Fault (List Char × Cursor) :=
  if separatesDocuments cursor.rest then .error .unclosedQuote
  else
    let (_, after) := cursor.takeWhile isBlank
    match after.afterBreak? with
    | none => .ok ([], after)
    | some (found, after) =>
      if after.rest.length < cursor.rest.length then do
        let (others, after) ← quotedBreaks after
        return (found :: others, after)
      else .ok ([], after)
termination_by cursor.rest.length

/-- Reads the blanks and line breaks between two words of a quoted text. -/
def quotedGap (cursor : Cursor) : Except Fault (List Char × Cursor) := do
  let (blanks, after) := cursor.takeWhile isBlank
  match after.afterBreak? with
  | none => return (blanks, after)
  | some (first, after) =>
    let (others, after) ← quotedBreaks after
    return (foldBreaks first others, after)

/-- The largest number that is looked up among the characters. -/
def maxEscape : Nat := 0x7fffffff

/-- The character of a code unit: two units may make one character together, so the second one
is looked for as well. Gives the character and the number of characters read. -/
def escapedChar (letter : Char) (count : Nat) (digits rest : List Char) :
    Except Fault (Char × Nat) :=
  let code := numberOf 16 digits
  if maxEscape < code then .error .hugeEscape
  else if 0x10ffff < code then .error .badEscape
  else if 0xd800 ≤ code ∧ code < 0xdc00 then
    let second := (rest.drop 2).take count
    let low := numberOf 16 second
    if rest.take 2 = ['\\', letter] ∧ second.length = count ∧ second.all isHexDigit ∧
        0xdc00 ≤ low ∧ low < 0xe000 then
      .ok (Char.ofNat (0x10000 + (code - 0xd800) * 1024 + (low - 0xdc00)), 2 * count + 2)
    else .ok ('\ufffd', count)
  else if 0xdc00 ≤ code ∧ code < 0xe000 then .ok ('\ufffd', count)
  else .ok (Char.ofNat code, count)

/-- Reads an escape after its backslash. -/
def readEscape (cursor : Cursor) : Except Fault (List Char × Cursor) :=
  match cursor.rest with
  | [] => .error .badEscape
  | letter :: rest =>
    match simpleEscapes.lookup letter with
    | some c => .ok ([c], cursor.next)
    | none =>
      match escapeDigits letter with
      | some count =>
        let digits := rest.take count
        if digits.length = count ∧ digits.all isHexDigit then do
          let (c, length) ← escapedChar letter count digits (rest.drop count)
          return ([c], cursor.skip (length + 1))
        else .error .badEscape
      | none => if isBreak letter then quotedBreaks cursor.next else .error .badEscape

/-- Reads a quoted text from after its opening quote. -/
def readQuoted (quote : Char) (cursor : Cursor) : Except Fault (List Char × Cursor) := do
  match cursor.rest with
  | [] => .error .unclosedQuote
  | c :: rest =>
    let (chunk, after) ←
      if c = quote then
        if quote = '\'' ∧ rest.head? = some '\'' then .ok (some ['\''], cursor.skip 2)
        else .ok (none, cursor.next)
      else if c = '\\' ∧ quote = '"' then
        (readEscape cursor.next).map fun (text, after) => (some text, after)
      else if isBlank c || isBreak c then
        (quotedGap cursor).map fun (text, after) => (some text, after)
      else .ok (some [c], cursor.next)
    match chunk with
    | none => return ([], after)
    | some chunk =>
      if after.rest.length < cursor.rest.length then
        let (others, after) ← readQuoted quote after
        return (chunk ++ others, after)
      else .error .unclosedQuote
termination_by cursor.rest.length

end EventAtlas.Yaml.Scalar
