import EventAtlas.ClassId
import EventAtlas.Roster
import EventAtlas.Text.Reader
import EventAtlas.Text.Word

/-!
# Imports

A source file may import a class, `use Vendor\Model\Config as Settings;`, and then refer to it
by the alias, or without one by the last segment of its name.
-/

namespace EventAtlas.Source

/-- A character of an imported name. -/
def isImportChar (c : Char) : Bool :=
  Text.isLetterAnyCase c || c.isDigit || c == '_' || c == ClassId.separator

/-- Reads the alias of an import. -/
def readAlias : Text.Reader (List Char) := fun text => do
  let text ← Text.afterBlanks? text
  let text ← Text.afterKeyword? "as".toList text
  let text ← Text.afterBlanks? text
  Text.run? Text.isWord text

/-- Reads an import: the name as written and the alias, if there is one. Keywords count in any
case. -/
def readImport : Text.Reader (List Char × Option (List Char)) := fun text => do
  let text ← Text.afterKeyword? "use".toList (Text.trimLeft text)
  let text ← Text.afterBlanks? text
  let (name, text) ← Text.run? isImportChar text
  let (given, text) :=
    match readAlias text with
    | some (given, text) => (some given, text)
    | none => (none, text)
  let rest ← Text.after? (· == ';') (Text.trimLeft text)
  some ((name, given), rest)

/-- The alias of an import and the class it stands for. -/
def importEntry (name : List Char) (given : Option (List Char)) : String × ClassId :=
  let id := ClassId.canonical (String.ofList name)
  match given with
  | some given => (String.ofList given, id)
  | none => (id.shortName, id)

/-- The imports of a source text by alias. A later import of an alias replaces an earlier
one. -/
def imports (source : String) : Roster String ClassId :=
  .ofList ((Text.findAllAtLineStarts readImport source.toList).map fun found =>
    importEntry found.1 found.2)

end EventAtlas.Source
