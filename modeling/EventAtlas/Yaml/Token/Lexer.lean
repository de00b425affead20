import EventAtlas.Yaml.Scalar.Block
import EventAtlas.Yaml.Scalar.Quoted
import EventAtlas.Yaml.Token.Property

/-!
# Cutting YAML text into tokens

Outside brackets, blocks start and end where the indentation changes. A key that is not marked
as one is known only by the colon after it: each place where a key may have started is
remembered, and when the colon comes the marks for it are put in there. A key has to end on the
line on which it starts.
-/

namespace EventAtlas.Yaml

/-- A place where a key may have started: how many tokens come before it, whether it has to be
a key, and where it is in the text. -/
structure PossibleKey where
  flow : Nat
  number : Nat
  required : Bool
  place : Cursor
deriving DecidableEq, Repr

/-- The state of cutting a text into tokens. -/
structure Lexer where
  cursor : Cursor
  /-- How many brackets are open. -/
  flow : Nat
  /-- The columns of the blocks around, the innermost first. -/
  indents : List Nat
  /-- Whether a key may start here. -/
  keyAllowed : Bool
  /-- The places where a key may have started, at most one for each level of brackets. -/
  keys : List PossibleKey
  /-- The tokens so far, the latest first. -/
  reversed : List Token
  /-- Whether the end of the text has been reached. -/
  finished : Bool

namespace Lexer

/-- The longest distance between the start of a key and its colon. -/
def maxKeyLength : Nat := 1024

/-- The state at the front of a text. -/
def start (text : List Char) : Lexer where
  cursor := .start text
  flow := 0
  indents := []
  keyAllowed := true
  keys := []
  reversed := []
  finished := false

/-- Whether the place is outside all brackets. -/
def inBlock (lexer : Lexer) : Bool :=
  lexer.flow = 0

/-- The least column at which something inside the innermost block may stand. -/
def floor (lexer : Lexer) : Nat :=
  match lexer.indents with
  | [] => 0
  | indent :: _ => indent + 1

/-- Adds a token and goes on to a place. -/
def push (lexer : Lexer) (token : Token) (cursor : Cursor) : Lexer :=
  { lexer with cursor := cursor, reversed := token :: lexer.reversed }

/-- Adds a token that takes some characters. -/
def pushMark (lexer : Lexer) (token : Token) (length : Nat) : Lexer :=
  lexer.push token (lexer.cursor.skip length)

/-- Puts a token in behind the first `number` tokens. -/
def putAt (lexer : Lexer) (number : Nat) (token : Token) : Lexer :=
  { lexer with
    reversed := lexer.reversed.insertIdx (lexer.reversed.length - number) token }

/-- The place after spaces, comments and line breaks. A key may start on a new line outside
brackets. -/
def toNextToken (lexer : Lexer) : Lexer :=
  let cursor := lexer.cursor.skipSpaces.skipComment
  match cursor.afterBreak? with
  | none => { lexer with cursor := cursor }
  | some (_, after) =>
    if after.rest.length < lexer.cursor.rest.length then
      toNextToken { lexer with cursor := after, keyAllowed := lexer.keyAllowed || lexer.inBlock }
    else { lexer with cursor := cursor }
termination_by lexer.cursor.rest.length

/-- Whether the colon for a possible key can no longer come. -/
def isStale (lexer : Lexer) (key : PossibleKey) : Bool :=
  key.place.line ≠ lexer.cursor.line ||
    maxKeyLength < lexer.cursor.index - key.place.index

/-- Drops the possible keys that satisfy a condition. None of them may be required. -/
def dropKeys (lexer : Lexer) (drops : PossibleKey → Bool) : Except Fault Lexer :=
  if lexer.keys.any fun key => drops key && key.required then .error .missingColon
  else .ok { lexer with keys := lexer.keys.filter (!drops ·) }

/-- Drops the possible keys whose colon can no longer come. -/
def dropStaleKeys (lexer : Lexer) : Except Fault Lexer :=
  lexer.dropKeys lexer.isStale

/-- Drops the possible key inside the innermost brackets. -/
def dropKey (lexer : Lexer) : Except Fault Lexer :=
  lexer.dropKeys (·.flow = lexer.flow)

/-- Remembers that a key may start here. It has to be one if it stands at the front of an entry
of a block. -/
def saveKey (lexer : Lexer) : Except Fault Lexer := do
  if !lexer.keyAllowed then return lexer
  let lexer ← lexer.dropKey
  let key : PossibleKey :=
    { flow := lexer.flow
      number := lexer.reversed.length
      required := lexer.inBlock && lexer.indents.head? = some lexer.cursor.column
      place := lexer.cursor }
  return { lexer with keys := key :: lexer.keys }

/-- Ends the blocks that are indented further than a column; brackets do not look at columns. -/
def unwind (lexer : Lexer) (column : Nat) : Lexer :=
  if lexer.inBlock then
    let ended := lexer.indents.takeWhile (column < ·)
    { lexer with
      indents := lexer.indents.drop ended.length
      reversed := List.replicate ended.length Token.blockEnd ++ lexer.reversed }
  else lexer

/-- Ends all blocks. -/
def unwindAll (lexer : Lexer) : Lexer :=
  if lexer.inBlock then
    { lexer with
      indents := []
      reversed := List.replicate lexer.indents.length Token.blockEnd ++ lexer.reversed }
  else lexer

/-- Starts a block at a column if that is further than the one around it. -/
def indentTo (lexer : Lexer) (column : Nat) : Option Lexer :=
  if lexer.floor ≤ column then some { lexer with indents := column :: lexer.indents } else none

/-- Starts a block here, if it is indented further than the one around it. -/
def startBlock (lexer : Lexer) (token : Token) : Lexer :=
  match lexer.indentTo lexer.cursor.column with
  | some indented => { indented with reversed := token :: indented.reversed }
  | none => lexer

/-- Ends the text. -/
def finish (lexer : Lexer) : Except Fault Lexer := do
  let lexer ← lexer.unwindAll.dropKey
  return { lexer with reversed := .streamEnd :: lexer.reversed, finished := true }

/-- A directive. -/
def addDirective (lexer : Lexer) : Except Fault Lexer := do
  let lexer ← lexer.unwindAll.dropKey
  let (directive, after) ← Token.readDirective lexer.cursor.next
  return { lexer with keyAllowed := false }.push (.directive directive) after

/-- A mark between documents. -/
def addDocumentMark (lexer : Lexer) (token : Token) : Except Fault Lexer := do
  let lexer ← lexer.unwindAll.dropKey
  return { lexer with keyAllowed := false }.pushMark token 3

/-- An opening bracket, which may start a key and after which a key may start. -/
def addFlowStart (lexer : Lexer) (token : Token) : Except Fault Lexer := do
  let lexer ← lexer.saveKey
  return { lexer with flow := lexer.flow + 1, keyAllowed := true }.pushMark token 1

/-- A closing bracket. -/
def addFlowEnd (lexer : Lexer) (token : Token) : Except Fault Lexer := do
  if lexer.inBlock then throw .badStructure
  let lexer ← lexer.dropKey
  return { lexer with flow := lexer.flow - 1, keyAllowed := false }.pushMark token 1

/-- A comma. -/
def addComma (lexer : Lexer) : Except Fault Lexer := do
  let lexer ← lexer.dropKey
  return { lexer with keyAllowed := true }.pushMark .comma 1

/-- The hyphen of an entry. -/
def addEntry (lexer : Lexer) : Except Fault Lexer := do
  if lexer.inBlock && !lexer.keyAllowed then throw .misplaced
  let lexer := if lexer.inBlock then lexer.startBlock .blockSequenceStart else lexer
  let lexer ← lexer.dropKey
  return { lexer with keyAllowed := true }.pushMark .entry 1

/-- The question mark of a key. -/
def addKey (lexer : Lexer) : Except Fault Lexer := do
  if lexer.inBlock && !lexer.keyAllowed then throw .misplaced
  let lexer := if lexer.inBlock then lexer.startBlock .blockMappingStart else lexer
  let lexer ← lexer.dropKey
  return { lexer with keyAllowed := lexer.inBlock }.pushMark .key 1

/-- Puts in the marks of a key whose colon has come. -/
def markKey (lexer : Lexer) (key : PossibleKey) : Lexer :=
  let lexer := { lexer with keys := lexer.keys.filter (·.flow ≠ lexer.flow) }.putAt key.number .key
  if lexer.inBlock then
    match lexer.indentTo key.place.column with
    | some indented => indented.putAt key.number .blockMappingStart
    | none => lexer
  else lexer

/-- The colon of a value. -/
def addValue (lexer : Lexer) : Except Fault Lexer := do
  match lexer.keys.find? (·.flow = lexer.flow) with
  | some key => return { lexer.markKey key with keyAllowed := false }.pushMark .value 1
  | none =>
    if lexer.inBlock && !lexer.keyAllowed then throw .misplaced
    let lexer := if lexer.inBlock then lexer.startBlock .blockMappingStart else lexer
    let lexer ← { lexer with keyAllowed := lexer.inBlock }.dropKey
    return lexer.pushMark .value 1

/-- An alias or an anchor. -/
def addAnchor (lexer : Lexer) (token : String → Token) : Except Fault Lexer := do
  let lexer ← lexer.saveKey
  let (name, after) ← Token.readAnchorName lexer.cursor.next
  return { lexer with keyAllowed := false }.push (token name) after

/-- A tag. -/
def addTag (lexer : Lexer) : Except Fault Lexer := do
  let lexer ← lexer.saveKey
  let (tag, after) ← Token.readTag lexer.cursor
  return { lexer with keyAllowed := false }.push (.tag tag) after

/-- A block of text. A key may start after it. -/
def addBlock (lexer : Lexer) (folded : Bool) : Except Fault Lexer := do
  let lexer ← { lexer with keyAllowed := true }.dropKey
  let (text, after) ← Scalar.readBlock folded lexer.floor lexer.cursor.next
  return lexer.push (.scalar text false) after

/-- A quoted text. -/
def addQuoted (lexer : Lexer) (quote : Char) : Except Fault Lexer := do
  let lexer ← lexer.saveKey
  let (text, after) ← Scalar.readQuoted quote lexer.cursor.next
  return { lexer with keyAllowed := false }.push (.scalar text false) after

/-- A plain text. A key may start after it if it ends with its line. -/
def addPlain (lexer : Lexer) : Except Fault Lexer := do
  let lexer ← lexer.saveKey
  let plain := Scalar.readPlain (!lexer.inBlock) lexer.floor lexer.cursor
  return { lexer with keyAllowed := plain.ended }.push (.scalar plain.text true) plain.after

/-- Whether a plain text may start with a character that other things can start with too. -/
def startsPlain (lexer : Lexer) (c : Char) (rest : List Char) : Bool :=
  if isBlank c || isBreak c then false
  else if c = '-' then !endsWord rest
  else if c = '?' ∨ c = ':' then lexer.inBlock && !endsWord rest
  else !",[]\x7b\x7d#&*!|>'\"%@\x60".toList.contains c

/-- Adds the next token of a text whose next character is `c`. -/
def addNext (lexer : Lexer) (c : Char) (rest : List Char) : Except Fault Lexer :=
  let atMargin := lexer.cursor.column = 0
  if c = '%' ∧ atMargin then lexer.addDirective
  else if startsDocument (c :: rest) ∧ atMargin then lexer.addDocumentMark .documentStart
  else if endsDocument (c :: rest) ∧ atMargin then lexer.addDocumentMark .documentEnd
  else if c = '[' then lexer.addFlowStart .flowSequenceStart
  else if c = '\x7b' then lexer.addFlowStart .flowMappingStart
  else if c = ']' then lexer.addFlowEnd .flowSequenceEnd
  else if c = '\x7d' then lexer.addFlowEnd .flowMappingEnd
  else if c = ',' then lexer.addComma
  else if c = '-' ∧ endsWord rest then lexer.addEntry
  else if c = '?' ∧ (!lexer.inBlock || endsWord rest) then lexer.addKey
  else if c = ':' ∧ (!lexer.inBlock || endsWord rest) then lexer.addValue
  else if c = '*' then lexer.addAnchor .alias
  else if c = '&' then lexer.addAnchor .anchor
  else if c = '!' then lexer.addTag
  else if c = '|' ∧ lexer.inBlock then lexer.addBlock false
  else if c = '>' ∧ lexer.inBlock then lexer.addBlock true
  else if c = '\'' ∨ c = '"' then lexer.addQuoted c
  else if lexer.startsPlain c rest then lexer.addPlain
  else .error .strayCharacter

/-- Adds the next token, with the ends of blocks before it. -/
def step (lexer : Lexer) : Except Fault Lexer := do
  let lexer ← lexer.toNextToken.dropStaleKeys
  match lexer.cursor.rest with
  | [] => lexer.finish
  | c :: rest => (lexer.unwind lexer.cursor.column).addNext c rest

/-- The tokens of what is left of a text, after those that were found. -/
def run (lexer : Lexer) : Except Fault (List Token) :=
  match lexer.step with
  | .error fault => .error fault
  | .ok next =>
    if next.finished then .ok next.reversed.reverse
    else if next.cursor.rest.length < lexer.cursor.rest.length then next.run
    else .error .strayCharacter
termination_by lexer.cursor.rest.length

end Lexer

/-- The tokens of a text. A byte order mark at its front is passed over. -/
def Token.ofText (text : List Char) : Except Fault (List Token) :=
  let lexer := Lexer.start text
  match text with
  | '\ufeff' :: _ => { lexer with cursor := lexer.cursor.next }.run
  | _ => lexer.run

end EventAtlas.Yaml
