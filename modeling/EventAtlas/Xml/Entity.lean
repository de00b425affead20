import EventAtlas.Roster
import EventAtlas.Xml.Declared

/-!
# Entities

An entity stands for a text, which may refer to further entities. Expanding goes as deep as
there are entities: a chain of references that is longer leads back to where it has been. What
an expansion adds to the document is counted.
-/

namespace EventAtlas.Xml

/-- The general entities of a document. -/
structure Entities where
  declared : Roster String EntityValue
  /-- Whether entities may be declared somewhere that is not read. A value then drops a
  reference to an entity that is not known. -/
  partly : Bool

namespace Entities

/-- No entity is declared. -/
def empty : Entities where
  declared := .empty
  partly := false

/-- Adds the declaration of an entity. Of several declarations the first counts. -/
def declare (entities : Entities) (name : String) (value : EntityValue) : Entities :=
  if (entities.declared.get? name).isSome then entities
  else { entities with declared := entities.declared.put name value }

/-- How deep references can be nested. -/
def depth (entities : Entities) : Nat :=
  entities.declared.size

/-- The characters that pieces of a value make, with white space written as spaces. The value is
counted if there is a gauge for it. -/
def expandValue (entities : Entities) (depth : Nat) (gauge : Option Gauge)
    (pieces : List (ValuePiece × Span)) : Expansion (List Char) := do
  return (← pieces.mapM (expandPiece depth gauge)).flatten
where
  /-- The characters that one piece makes. -/
  expandPiece : (depth : Nat) → Option Gauge → ValuePiece × Span → Expansion (List Char)
    | depth, gauge, (piece, span) => do
      gauge.forM (·.count span)
      match piece with
      | .char c => return [if isSpace c then ' ' else c]
      | .reference c => return [c]
      | .predefined c =>
        Expansion.countNamed
        return [c]
      | .entity name =>
        match entities.declared.get? name with
        | some (.text text) =>
          match depth with
          | 0 => throw (.recursiveEntity name)
          | depth + 1 =>
            let pieces ← Token.pieces text
            return (← pieces.mapM (expandPiece depth (some (.ofText text)))).flatten
        | some .outside => throw (.noEntityText name)
        | none => if entities.partly then return [] else throw (.noEntityText name)

/-- A text without the spaces around it, where each run of spaces inside is one space. -/
def collapse (text : List Char) : List Char :=
  [' '].intercalate ((text.splitOn ' ').filter (· ≠ []))

/-- The value of an attribute. One that is not kept as written has no spaces to spare. -/
def value (entities : Entities) (verbatim : Bool) (gauge : Option Gauge)
    (pieces : List (ValuePiece × Span)) : Expansion String := do
  let text ← entities.expandValue entities.depth gauge pieces
  return String.ofList (if verbatim then text else collapse text)

end Entities

end EventAtlas.Xml
