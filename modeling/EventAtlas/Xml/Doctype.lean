import EventAtlas.Xml.Entity

/-!
# Document types

A document type gives the entities of a document and rules for the attributes of its elements.
Its declarations are taken in order, so the value that a rule gives can use only the entities
that are declared before it.
-/

namespace EventAtlas.Xml

/-- A rule for an attribute of an element: whether its value is kept as written, and the value
it has when it is not given. -/
structure AttributeRule where
  element : String
  name : String
  verbatim : Bool
  default : Option String
deriving DecidableEq, Repr

/-- What the document type of a document says. -/
structure Doctype where
  entities : Entities
  rules : List AttributeRule

namespace Doctype

/-- The document type of a document without one. -/
def none : Doctype where
  entities := .empty
  rules := []

/-- The first rule for an attribute of an element. -/
def rule? (doctype : Doctype) (element name : String) : Option AttributeRule :=
  doctype.rules.find? fun rule => rule.element = element ∧ rule.name = name

/-- Whether the value of an attribute is kept as written. -/
def isVerbatim (doctype : Doctype) (element name : String) : Bool :=
  (doctype.rule? element name).all (·.verbatim)

/-- The attributes that an element has although only `given` ones are written. -/
def defaults (doctype : Doctype) (element : String) (given : List String) :
    List (String × String) :=
  let names := (doctype.rules.filter (·.element = element)).map (·.name)
  (names.eraseDups.filter (!given.contains ·)).filterMap fun name =>
    ((doctype.rule? element name).bind (·.default)).map (name, ·)

/-- Adds a declaration of a document with a gauge. The value that a rule gives is looked at when
the document has been read up to its end. -/
def add (standalone : Bool) (gauge : Gauge) (doctype : Doctype) : Declared → Expansion Doctype
  | .parameter =>
    return { doctype with entities := { doctype.entities with partly := !standalone } }
  | .entity name value =>
    return { doctype with entities := doctype.entities.declare name value }
  | .rule element name verbatim default => do
    let default ← default.mapM fun (pieces, left) => do
      Expansion.readTo (gauge.place left)
      doctype.entities.value verbatim Option.none pieces
    return { doctype with rules := doctype.rules ++ [{ element, name, verbatim, default }] }

/-- The document type that declarations make. -/
def ofDeclared (standalone : Bool) (gauge : Gauge) (outside : Bool) (declared : List Declared) :
    Expansion Doctype :=
  declared.foldlM (add standalone gauge)
    { entities := { Entities.empty with partly := outside && !standalone }
      rules := [] }

/-- Puts the marks of a document type together, from after its opening. -/
def ofMarks (standalone : Bool) (gauge : Gauge) : List Mark → Expansion Doctype
  | .name _ _ :: marks => do
    let (outside, marks) ← match marks with
      | .name _ _ :: _ =>
        let (_, rest) ← Declared.readExternal marks
        pure (true, rest)
      | marks => pure (false, marks)
    match marks with
    | [.closing] => ofDeclared standalone gauge outside []
    | .openSubset :: marks =>
      match ← Declared.readSubset standalone true marks with
      | (declared, [.closing]) => ofDeclared standalone gauge outside declared
      | _ => throw .badDoctype
    | _ => throw .badDoctype
  | _ => throw .badDoctype

end Doctype

end EventAtlas.Xml
