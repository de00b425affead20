import EventAtlas.Number.Total
import EventAtlas.Text.Newline
import EventAtlas.Xml.Declaration
import EventAtlas.Xml.Element
import EventAtlas.Xml.Encoding

/-!
# Documents

A document is a sequence of bytes: a declaration, which is optional, an optional document
type, and one element, with comments, instructions and white space between them. Reading it
gives the element.
-/

namespace EventAtlas.Xml

/-- Why bytes are not read as a document. -/
inductive Refusal where
  /-- The document is not well formed. -/
  | illFormed (fault : Fault)
  /-- The declared encoding cannot be followed. -/
  | encoding (fault : EncodingFault)
deriving DecidableEq, Repr

namespace Document

/-- The text at the front of a sequence of characters, up to what makes no character. -/
def readable : List (Option Char) → List Char
  | some c :: rest => c :: readable rest
  | _ => []

/-- The text of a sequence of characters, if a document may hold all of them. -/
def documentText? (units : List (Option Char)) : Option (List Char) :=
  units.mapM fun c => c.filter isDocumentChar

/-- The encoding of a document: the declared one, if it can be followed. -/
def encodingFor (detected : Encoding) (declared : Option String) : Except Refusal Encoding :=
  match declared with
  | none => .ok detected
  | some name =>
    match Encoding.choose detected name with
    | .go encoding => .ok encoding
    | .contradicted => .error (.illFormed .badDeclaration)
    | .refused fault => .error (.encoding fault)

/-- The numbers of bytes that the characters of a text take when every line end counts as one
character. -/
def widths (encoding : Encoding) : List Char → List Nat
  | [] => []
  | '\r' :: '\n' :: rest => (encoding.width '\r' + encoding.width '\n') :: widths encoding rest
  | c :: rest => encoding.width c :: widths encoding rest

/-- The gauge of the text that ends a document of a number of bytes. -/
def gaugeOf (encoding : Encoding) (length : Nat) (text : List Char) : Gauge :=
  let widths := widths encoding text
  .ofWidths true (length - total widths) widths

/-- A document as it is read after its declaration: its text, whether it stands alone, and how its
bytes are counted. -/
structure Decoded where
  text : List Char
  standalone : Bool
  gauge : Gauge

/-- Decodes the text of a document after its declaration. -/
def decode (bytes : Text.Bytes) : Except Refusal Decoded := do
  let (detected, body) := Encoding.detect bytes
  let declaration ← (Declaration.read (readable (detected.decode body))).mapError .illFormed
  let (declared, standalone, length) := match declaration with
    | none => (none, false, 0)
    | some (declaration, length) => (declaration.encoding, declaration.standalone, length)
  let encoding ← encodingFor detected declared
  match documentText? (encoding.decode (body.drop (length * detected.unitBytes))) with
  | some text =>
    return {
      text := Text.unifyLineEnds text
      standalone
      gauge := gaugeOf encoding bytes.length text }
  | none => throw (.illFormed .badCharacter)

/-- The text after white space, comments and instructions. -/
def afterMisc (text : List Char) : Except Fault (List Char) :=
  match text with
  | '<' :: '!' :: '-' :: '-' :: rest => do
    let after ← Token.afterComment rest
    if after.length ≤ rest.length then afterMisc after else .error .badMarkup
  | '<' :: '?' :: rest => do
    let after ← Token.afterInstruction rest
    if after.length ≤ rest.length then afterMisc after else .error .badMarkup
  | c :: rest => if isSpace c then afterMisc rest else .ok (c :: rest)
  | [] => .ok []
termination_by text.length

/-- Reads the document type, if there is one. -/
def readDoctype (standalone : Bool) (gauge : Gauge) (text : List Char) :
    Expansion (Doctype × List Char) := do
  match Text.afterWord? "<!DOCTYPE".toList text with
  | none => return (.none, text)
  | some rest =>
    if rest.head?.all isSpace then
      let (marks, rest) ← Mark.all .outside rest
      return (← Doctype.ofMarks standalone gauge marks, rest)
    else throw .badDoctype

/-- The element of a decoded document. -/
def readElement (document : Decoded) : Expansion Element := do
  let text ← afterMisc document.text
  let (doctype, rest) ← readDoctype document.standalone document.gauge text
  Expansion.readTo (document.gauge.place rest.length)
  let parts ← Part.ofTokens doctype doctype.entities.depth document.gauge (← Token.all rest)
  Element.ofParts parts

/-- The outermost element of the document in a sequence of bytes. -/
def parse (bytes : Text.Bytes) : Except Refusal Element := do
  let document ← decode bytes
  match (readElement document).run { read := 0, added := 0 } with
  | .ok (element, _) => return element
  | .error fault => throw (.illFormed fault)

end Document

end EventAtlas.Xml
