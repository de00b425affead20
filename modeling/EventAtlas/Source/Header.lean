import EventAtlas.ClassId
import EventAtlas.Text.Reader
import EventAtlas.Text.Word

/-!
# Class headers

A source file stands for a class when it declares exactly one namespace and exactly one class,
each at the beginning of a line up to blanks. Files with several classes, and traits and
interfaces, stand for none.
-/

namespace EventAtlas.Source

/-- A character of a namespace name. -/
def isNamespaceChar (c : Char) : Bool :=
  c != ';' && c != '{' && !Text.isBlank c

/-- Reads a namespace declaration: its name, up to the semicolon or brace that ends it. -/
def readNamespace : Text.Reader (List Char) := fun text => do
  let text ← Text.afterWord? "namespace".toList (Text.trimLeft text)
  let text ← Text.afterBlanks? text
  let (name, text) ← Text.run? isNamespaceChar text
  let rest ← Text.after? (fun c => c == ';' || c == '{') (Text.trimLeft text)
  some (name, rest)

/-- The words that may stand before `class`. -/
def classModifiers : List String := ["abstract", "final", "readonly"]

/-- The rest of a text that starts with a class modifier, after the blanks that follow it. -/
def afterModifier? (text : List Char) : Option (List Char) :=
  classModifiers.findSome? fun word =>
    (Text.afterWord? word.toList text).bind Text.afterBlanks?

/-- A text without the class modifiers it starts with. -/
def afterModifiers (text : List Char) : List Char :=
  match afterModifier? text with
  | some rest => if rest.length < text.length then afterModifiers rest else rest
  | none => text
termination_by text.length

/-- Reads a class declaration: its name. -/
def readClass : Text.Reader (List Char) := fun text => do
  let text := afterModifiers (Text.trimLeft text)
  let text ← Text.afterWord? "class".toList text
  let text ← Text.afterBlanks? text
  Text.run? Text.isWord text

/-- The names of the namespaces that a source text declares. -/
def namespaces (source : String) : List String :=
  (Text.findAllAtLineStarts readNamespace source.toList).map String.ofList

/-- The names of the classes that a source text declares. -/
def classes (source : String) : List String :=
  (Text.findAllAtLineStarts readClass source.toList).map String.ofList

/-- The class that a source text stands for. -/
def classId? (source : String) : Option ClassId :=
  match namespaces source, classes source with
  | [space], [name] => some (ClassId.qualify (ClassId.canonical space) name)
  | _, _ => none

/-- The namespace that a source text declares first, in canonical form. -/
def namespace? (source : String) : Option ClassId :=
  (namespaces source).head?.map ClassId.canonical

end EventAtlas.Source
