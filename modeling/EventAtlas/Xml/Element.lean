import EventAtlas.Xml.Content
import EventAtlas.Xml.Namespace

/-!
# Elements

An element has a name, attributes and child elements. A sequence of parts makes one element if
its starts and ends match and nothing but white space stands outside.
-/

namespace EventAtlas.Xml

/-- An element of a document, with expanded names. -/
structure Element where
  name : String
  attributes : List (String × String)
  children : List Element

namespace Element

/-- The value of an attribute. -/
def attribute? (element : Element) (name : String) : Option String :=
  element.attributes.lookup name

/-- The children of a name, in order. -/
def childrenNamed (element : Element) (name : String) : List Element :=
  element.children.filter (·.name = name)

/-- An element that is still open: its name as written, the bindings around it, and its
children so far, the latest first. -/
structure Open where
  written : String
  around : Bindings
  inside : Bindings
  name : String
  attributes : List (String × String)
  reversed : List Element

/-- The element that an open one becomes at its end. -/
def Open.close (element : Open) : Element where
  name := element.name
  attributes := element.attributes
  children := element.reversed.reverse

/-- What has been put together: the open elements, the innermost first, and the outermost
element once it is complete. -/
structure Assembly where
  opened : List Open
  complete : Option Element

namespace Assembly

/-- Nothing has been read. -/
def start : Assembly where
  opened := []
  complete := none

/-- The bindings that hold inside the innermost open element. -/
def bindings (assembly : Assembly) : Bindings :=
  (assembly.opened.head?.map (·.inside)).getD .initial

/-- The first name that stands twice in a list. -/
def repeated? : List String → Option String
  | [] => none
  | name :: rest => if rest.contains name then some name else repeated? rest

/-- The attributes of an element with expanded names, without those that bind prefixes. No two
may have one name, as written or expanded. -/
def expandAttributes (bindings : Bindings) (given : List (String × String)) :
    Except Fault (List (String × String)) := do
  let kept := given.filter fun (name, _) => (Bindings.boundBy? name).isNone
  let expanded ← kept.mapM fun (name, value) => do
    return (← bindings.attributeName name, value)
  match repeated? (given.map Prod.fst), repeated? (expanded.map Prod.fst) with
  | none, none => return expanded
  | some name, _ => throw (.duplicateAttribute name)
  | none, some name => throw (.duplicateAttribute name)

/-- Opens an element. -/
def openElement (assembly : Assembly) (name : String) (given : List (String × String)) :
    Except Fault Assembly := do
  if assembly.opened.isEmpty && assembly.complete.isSome then throw .badOutermost
  let around := assembly.bindings
  let inside ← around.extend given
  let opened : Open :=
    { written := name
      around := around
      inside := inside
      name := ← inside.elementName name
      attributes := ← expandAttributes inside given
      reversed := [] }
  return { assembly with opened := opened :: assembly.opened }

/-- Closes the innermost open element. -/
def closeElement (assembly : Assembly) (name : String) : Except Fault Assembly :=
  match assembly.opened with
  | [] => .error .mismatchedTag
  | element :: outer =>
    if element.written ≠ name then .error .mismatchedTag
    else match outer with
      | [] => .ok { opened := [], complete := some element.close }
      | parent :: rest =>
        .ok { assembly with
          opened := { parent with reversed := element.close :: parent.reversed } :: rest }

/-- Adds a part. -/
def add (assembly : Assembly) : Part → Except Fault Assembly
  | .data blank =>
    if assembly.opened.isEmpty && !blank then .error .badOutermost else .ok assembly
  | .start name given => assembly.openElement name given
  | .stop name => assembly.closeElement name

end Assembly

/-- The element that parts make. -/
def ofParts (parts : List Part) : Except Fault Element := do
  let assembly ← parts.foldlM Assembly.add .start
  match assembly.opened, assembly.complete with
  | [], some element => return element
  | _ :: _, _ => throw .mismatchedTag
  | [], none => throw .badOutermost

end Element

end EventAtlas.Xml
