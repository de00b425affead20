import EventAtlas.Text.Reader
import EventAtlas.Xml.Fault
import EventAtlas.Xml.Name

/-!
# The declaration at the front of a document

A document may start with a declaration of its version, its encoding, and whether it stands
alone, in this order. The version has to be there; its value is not looked at.
-/

namespace EventAtlas.Xml

/-- The declaration of a document. -/
structure Declaration where
  encoding : Option String
  standalone : Bool
deriving DecidableEq, Repr

namespace Declaration

/-- A character of a value in the declaration. -/
def isValueChar (c : Char) : Bool :=
  c.isAlphanum || c == '.' || c == '-' || c == '_'

/-- A character of a name in the declaration. -/
def isItemChar (c : Char) : Bool :=
  c.toNat < 128 && c != '=' && !isSpace c

/-- A text without the spaces it starts with. -/
def skipSpace (text : List Char) : List Char :=
  text.dropWhile isSpace

/-- Reads a quoted value. -/
def readValue : Text.Reader (List Char) := fun text =>
  match text with
  | quote :: text =>
    if quote = '"' ∨ quote = '\'' then do
      let rest ← Text.after? (· == quote) (text.dropWhile isValueChar)
      some (text.takeWhile isValueChar, rest)
    else none
  | [] => none

/-- Reads the next item: a space, a name, an equals sign and a quoted value. -/
def readItem : Text.Reader (List Char × List Char) := fun text => do
  let text ← Text.after? isSpace text
  let (name, text) ← Text.run? isItemChar (skipSpace text)
  let text ← Text.after? (· == '=') (skipSpace text)
  let (value, rest) ← readValue (skipSpace text)
  some ((name, value), rest)

/-- Reads the items of a declaration, which fill a text up to spaces at its end. -/
def items? (text : List Char) : Option (List (List Char × List Char)) :=
  if skipSpace text = [] then some []
  else match readItem text with
    | none => none
    | some (item, rest) =>
      if rest.length < text.length then (items? rest).map (item :: ·) else none
termination_by text.length

/-- Whether a name can be the name of an encoding. -/
def isEncodingName : List Char → Bool
  | first :: _ => first.isAlpha
  | [] => false

/-- The answer to whether a document stands alone. -/
def standalone? (value : List Char) : Option Bool :=
  if value = "yes".toList then some true
  else if value = "no".toList then some false
  else none

/-- The declaration that items make. -/
def ofItems? : List (List Char × List Char) → Option Declaration
  | (first, _) :: others =>
    if first ≠ "version".toList then none
    else match others with
      | [] => some ⟨none, false⟩
      | [(name, value)] =>
        if name = "encoding".toList then
          if isEncodingName value then some ⟨some (String.ofList value), false⟩ else none
        else if name = "standalone".toList then (standalone? value).map (⟨none, ·⟩)
        else none
      | [(name, value), (last, answer)] =>
        if name = "encoding".toList ∧ isEncodingName value ∧ last = "standalone".toList then
          (standalone? answer).map (⟨some (String.ofList value), ·⟩)
        else none
      | _ => none
  | [] => none

/-- The text up to the end of an instruction, and the text after it. -/
def splitInstruction : List Char → Option (List Char × List Char)
  | '?' :: '>' :: rest => some ([], rest)
  | c :: rest => (splitInstruction rest).map fun (inside, rest) => (c :: inside, rest)
  | [] => none

/-- The declaration that a document starts with, and the length of its text. A document
without one has none. -/
def read (text : List Char) : Except Fault (Option (Declaration × Nat)) :=
  match Text.afterWord? "<?xml".toList text with
  | none => .ok none
  | some inside =>
    match inside with
    | c :: _ =>
      if isNameChar c ∨ c = ':' then .ok none
      else match splitInstruction inside with
        | none => .error .badDeclaration
        | some (body, rest) =>
          match (items? body).bind ofItems? with
          | some declaration => .ok (some (declaration, text.length - rest.length))
          | none => .error .badDeclaration
    | [] => .error .badDeclaration

end Declaration

end EventAtlas.Xml
