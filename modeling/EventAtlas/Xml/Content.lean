import EventAtlas.Xml.Doctype

/-!
# Content of documents

The content of a document is a sequence of parts: character data, starts and ends of elements.
It is what the tokens of the document make once entities are replaced by their texts and the
values of attributes are known. The text of an entity ends each element that it starts.
-/

namespace EventAtlas.Xml

/-- A part of the content of a document. -/
inductive Part where
  /-- Character data; `blank` says that it is white space written as such. -/
  | data (blank : Bool)
  | start (name : String) (attributes : List (String × String))
  | stop (name : String)
deriving DecidableEq, Repr

namespace Part

/-- How many elements are open after tokens, given how many were open before; none if more are
ended than were started. -/
def levelAfter : Nat → List Token → Option Nat
  | level, [] => some level
  | level, .start _ _ false :: rest => levelAfter (level + 1) rest
  | 0, .stop _ :: _ => none
  | level + 1, .stop _ :: rest => levelAfter level rest
  | level, _ :: rest => levelAfter level rest

/-- Whether the value of an attribute is taken over without another look at it: it has no
references in it, and its white space is single spaces inside it. -/
def isSettled (value : List Char) : Bool :=
  value.all (fun c => c == ' ' || !isSpace c && c != '&') &&
    value.head? != some ' ' && value.getLast? != some ' ' &&
    (value.zip value.tail).all (· != (' ', ' '))

/-- The attributes of a tag: those that are given and those that have a value anyway. The values
that a start tag gives are counted a second time where they are looked at again. -/
def attributesOf (doctype : Doctype) (gauge : Gauge) (element : String) (closed : Bool)
    (given : List GivenAttribute) : Expansion (List (String × String)) := do
  let values ← given.mapM fun written => do
    let again := if closed || isSettled written.value then none
      else some (gauge.ofPart written.left)
    let verbatim := doctype.isVerbatim element written.name
    return (written.name, ← doctype.entities.value verbatim again written.pieces)
  return values ++ doctype.defaults element (given.map (·.name))

/-- The parts that tokens of a text with a gauge make. A reference to an entity counts as data
itself. -/
def ofTokens (doctype : Doctype) (depth : Nat) (gauge : Gauge)
    (tokens : List (Option Token × Span)) : Expansion (List Part) := do
  return (← tokens.mapM (ofToken depth gauge)).flatten
where
  /-- The parts that one token makes. -/
  ofToken : (depth : Nat) → Gauge → Option Token × Span → Expansion (List Part)
    | depth, gauge, (token, span) => do
      gauge.count span
      match token with
      | none => return []
      | some (.data blank) => return [.data blank]
      | some (.stop name) => return [.stop name]
      | some (.start name given closed) =>
        let opened := Part.start name (← attributesOf doctype gauge name closed given)
        return if closed then [opened, .stop name] else [opened]
      | some .predefined =>
        Expansion.countNamed
        return [.data false]
      | some (.entity name) =>
        match doctype.entities.declared.get? name with
        | some (.text text) =>
          match depth with
          | 0 => throw (.recursiveEntity name)
          | depth + 1 =>
            let tokens ← Token.all text
            if levelAfter 0 (tokens.filterMap Prod.fst) ≠ some 0 then throw .mismatchedTag
            return .data false :: (← tokens.mapM (ofToken depth (.ofText text))).flatten
        | _ => throw (.noEntityText name)

end Part

end EventAtlas.Xml
