import EventAtlas.Text.Reader
import EventAtlas.Xml.Account
import EventAtlas.Xml.Name

/-!
# Tokens of a document

Everything after the document type is a sequence of tokens: character data, references to
entities, and tags. Comments and instructions are checked and dropped. Each token comes with the
stretch of the text that it was read from. Reading a token always shortens the text.
-/

namespace EventAtlas.Xml

/-- A piece of a quoted value. -/
inductive ValuePiece where
  /-- A character as it stands. -/
  | char (c : Char)
  /-- A character that is written as a reference to its number. -/
  | reference (c : Char)
  /-- A character that is written as a reference to the name it has in every document. -/
  | predefined (c : Char)
  /-- A reference to an entity. -/
  | entity (name : String)
deriving DecidableEq, Repr

/-- An attribute as a tag gives it: the pieces of its value, the value as it stands there, and
the number of characters that follow the value. -/
structure GivenAttribute where
  name : String
  pieces : List (ValuePiece × Span)
  value : List Char
  left : Nat
deriving DecidableEq, Repr

/-- A token of the content of a document. -/
inductive Token where
  /-- Character data; `blank` says that it is white space written as such. -/
  | data (blank : Bool)
  /-- A reference to a character by the name it has in every document. -/
  | predefined
  /-- A reference to an entity. -/
  | entity (name : String)
  /-- A start tag, or with `closed` the tag of an element without content. -/
  | start (name : String) (attributes : List GivenAttribute) (closed : Bool)
  /-- An end tag. -/
  | stop (name : String)
deriving DecidableEq, Repr

namespace Token

/-- Reads a name without a prefix. -/
def readName (text : List Char) : Except Fault (List Char × List Char) :=
  match text with
  | c :: rest =>
    if isNameStart c then .ok (c :: rest.takeWhile isNameChar, rest.dropWhile isNameChar)
    else .error .badMarkup
  | [] => .error .badMarkup

/-- Reads a name, which may have one prefix. -/
def readQualifiedName (text : List Char) : Except Fault (String × List Char) := do
  let (first, rest) ← readName text
  match rest with
  | ':' :: rest =>
    let (second, rest) ← readName rest
    match rest with
    | ':' :: _ => .error .badMarkup
    | _ => return (String.ofList (first ++ ':' :: second), rest)
  | _ => return (String.ofList first, rest)

/-- Whether a number is that of a character which a reference may mean. -/
def isReferable (code : Nat) : Bool :=
  code.isValidChar && isDocumentChar (Char.ofNat code)

/-- The value of a digit in hexadecimal. -/
def hexValue (c : Char) : Nat :=
  if c.isDigit then c.toNat - '0'.toNat
  else if 'a' ≤ c then c.toNat - 'a'.toNat + 10
  else c.toNat - 'A'.toNat + 10

/-- Whether a character is a digit in hexadecimal. -/
def isHexDigit (c : Char) : Bool :=
  c.isDigit || ('a' ≤ c && c ≤ 'f') || ('A' ≤ c && c ≤ 'F')

/-- The number that digits make in a base. -/
def number (base : Nat) (digits : List Char) : Nat :=
  digits.foldl (fun value digit => value * base + hexValue digit) 0

/-- Reads the digits and the semicolon of a character reference. -/
def readCode (base : Nat) (isDigit : Char → Bool) (text : List Char) :
    Except Fault (Char × List Char) :=
  match Text.run? isDigit text with
  | some (digits, ';' :: rest) =>
    if isReferable (number base digits) then .ok (Char.ofNat (number base digits), rest)
    else .error .badReference
  | _ => .error .badMarkup

/-- The characters that have a name in every document. -/
def predefinedNames : List (String × Char) :=
  [("lt", '<'), ("gt", '>'), ("amp", '&'), ("quot", '"'), ("apos", '\'')]

/-- Reads a reference after its ampersand. -/
def readReference (text : List Char) : Except Fault (ValuePiece × List Char) :=
  match text with
  | '#' :: 'x' :: rest => do
    let (c, rest) ← readCode 16 isHexDigit rest
    return (.reference c, rest)
  | '#' :: rest => do
    let (c, rest) ← readCode 10 Char.isDigit rest
    return (.reference c, rest)
  | text => do
    let (name, rest) ← readName text
    match rest with
    | ';' :: rest =>
      let name := String.ofList name
      match predefinedNames.lookup name with
      | some c => return (.predefined c, rest)
      | none => return (.entity name, rest)
    | _ => .error .badMarkup

/-- The pieces of the text of a value. -/
def pieces (text : List Char) : Except Fault (List (ValuePiece × Span)) :=
  match text with
  | [] => .ok []
  | '<' :: _ => .error .badMarkup
  | '&' :: rest => do
    let (piece, after) ← readReference rest
    if after.length < rest.length then
      return (piece, ⟨rest.length + 1, after.length⟩) :: (← pieces after)
    else .error .badMarkup
  | c :: rest => do return (.char c, ⟨rest.length + 1, rest.length⟩) :: (← pieces rest)
termination_by text.length

/-- A text without the spaces it starts with. -/
def skipSpace (text : List Char) : List Char :=
  text.dropWhile isSpace

/-- Reads an attribute: a name, an equals sign and a quoted value. -/
def readAttribute (text : List Char) : Except Fault (GivenAttribute × List Char) := do
  let (name, text) ← readQualifiedName text
  match skipSpace text with
  | '=' :: text =>
    match skipSpace text with
    | quote :: text =>
      if quote = '"' ∨ quote = '\'' then
        match text.dropWhile (· != quote) with
        | _ :: rest =>
          let value := text.takeWhile (· != quote)
          let pieces ← pieces value
          return ({ name, pieces, value, left := rest.length + 1 }, rest)
        | [] => .error .badMarkup
      else .error .badMarkup
    | [] => .error .badMarkup
  | _ => .error .badMarkup

/-- Reads the attributes and the end of a tag. White space stands before each attribute. -/
def readAttributes (text : List Char) :
    Except Fault ((List GivenAttribute × Bool) × List Char) :=
  match skipSpace text with
  | '>' :: rest => .ok (([], false), rest)
  | '/' :: '>' :: rest => .ok (([], true), rest)
  | inside =>
    if inside.length = text.length then .error .badMarkup
    else do
      let (given, rest) ← readAttribute inside
      if rest.length < text.length then
        let ((others, closed), rest) ← readAttributes rest
        return ((given :: others, closed), rest)
      else .error .badMarkup
termination_by text.length

/-- The text after a comment, from after its opening. Two hyphens end it. -/
def afterComment : List Char → Except Fault (List Char)
  | '-' :: '-' :: '>' :: rest => .ok rest
  | '-' :: '-' :: _ => .error .badMarkup
  | _ :: rest => afterComment rest
  | [] => .error .badMarkup

/-- The text after the end mark of an instruction. -/
def afterInstructionEnd : List Char → Except Fault (List Char)
  | '?' :: '>' :: rest => .ok rest
  | _ :: rest => afterInstructionEnd rest
  | [] => .error .badMarkup

/-- The text after an instruction, from after its opening. No instruction is named `xml`. -/
def afterInstruction (text : List Char) : Except Fault (List Char) := do
  let (target, rest) ← readName text
  if target.map Char.toLower = "xml".toList then .error .badMarkup
  else match rest with
    | '?' :: '>' :: rest => .ok rest
    | c :: rest => if isSpace c then afterInstructionEnd rest else .error .badMarkup
    | [] => .error .badMarkup

/-- The text after a section of unparsed characters, from after its opening. -/
def afterSection : List Char → Except Fault (List Char)
  | ']' :: ']' :: '>' :: rest => .ok rest
  | _ :: rest => afterSection rest
  | [] => .error .badMarkup

/-- Whether the end mark of a section stands in a text. -/
def hasSectionEnd : List Char → Bool
  | ']' :: ']' :: '>' :: _ => true
  | _ :: rest => hasSectionEnd rest
  | [] => false

/-- Whether character data goes on with a character in the same line. -/
def isLineData (c : Char) : Bool :=
  c != '<' && c != '&' && c != '\n'

/-- Reads character data up to the next markup or line end. A line end is read alone. -/
def readData (text : List Char) : Except Fault (Token × List Char) :=
  match text with
  | '\n' :: rest => .ok (.data true, rest)
  | text =>
    let data := text.takeWhile isLineData
    if hasSectionEnd data then .error .badMarkup
    else .ok (.data (data.all isSpace), text.dropWhile isLineData)

/-- Reads an end tag after its opening. -/
def readStop (text : List Char) : Except Fault (Token × List Char) := do
  let (name, rest) ← readQualifiedName text
  match skipSpace rest with
  | '>' :: rest => return (.stop name, rest)
  | _ => .error .badMarkup

/-- Reads a start tag after its opening. -/
def readStart (text : List Char) : Except Fault (Token × List Char) := do
  let (name, rest) ← readQualifiedName text
  let ((attributes, closed), rest) ← readAttributes rest
  return (.start name attributes closed, rest)

/-- Reads a reference as a token. -/
def readReferenceToken (text : List Char) : Except Fault (Token × List Char) := do
  match ← readReference text with
  | (.entity name, rest) => return (.entity name, rest)
  | (.predefined _, rest) => return (.predefined, rest)
  | (_, rest) => return (.data false, rest)

/-- Reads the next token of a text that is not empty; none for a comment or an instruction. -/
def readNext (text : List Char) : Except Fault (Option Token × List Char) := do
  match text with
  | '<' :: '!' :: '-' :: '-' :: rest => return (none, ← afterComment rest)
  | '<' :: '?' :: rest => return (none, ← afterInstruction rest)
  | '<' :: '!' :: '[' :: 'C' :: 'D' :: 'A' :: 'T' :: 'A' :: '[' :: rest =>
    return (some (.data false), ← afterSection rest)
  | '<' :: '/' :: rest =>
    let (token, rest) ← readStop rest
    return (some token, rest)
  | '<' :: rest =>
    let (token, rest) ← readStart rest
    return (some token, rest)
  | '&' :: rest =>
    let (token, rest) ← readReferenceToken rest
    return (some token, rest)
  | text =>
    let (token, rest) ← readData text
    return (some token, rest)

/-- The tokens of a text; none stands for a comment or an instruction. -/
def all (text : List Char) : Except Fault (List (Option Token × Span)) :=
  if text = [] then .ok []
  else do
    let (token, rest) ← readNext text
    if rest.length < text.length then
      return (token, ⟨text.length, rest.length⟩) :: (← all rest)
    else .error .badMarkup
termination_by text.length

end Token

end EventAtlas.Xml
