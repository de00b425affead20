import EventAtlas.Xml.Fault

/-!
# Namespaces

A name may have a prefix, which is bound to a namespace by an attribute of the element or of
one around it. Names are told apart by their namespaces and not by their prefixes. A name in a
namespace is written with the namespace in braces before it.
-/

namespace EventAtlas.Xml

/-- The namespaces of prefixes, the innermost binding first. The empty prefix stands for names
of elements without one, and the empty namespace for none. -/
abbrev Bindings := List (String × String)

namespace Bindings

/-- The namespace of the prefix that needs no binding. -/
def xmlNamespace : String := "http://www.w3.org/XML/1998/namespace"

/-- The namespace of the attributes that bind prefixes. -/
def bindingNamespace : String := "http://www.w3.org/2000/xmlns/"

/-- The bindings at the front of a document. -/
def initial : Bindings := [("xml", xmlNamespace)]

/-- The prefix of a name, which may be empty, and the name without it. -/
def splitName (name : String) : String × String :=
  match name.toList.dropWhile (· != ':') with
  | _ :: base => (String.ofList (name.toList.takeWhile (· != ':')), String.ofList base)
  | [] => ("", name)

/-- The prefix that an attribute binds, if it binds one. -/
def boundBy? (name : String) : Option String :=
  if name = "xmlns" then some ""
  else
    let (qualifier, base) := splitName name
    if qualifier = "xmlns" then some base else none

/-- Whether a prefix may be bound to a namespace. The reserved names go together only with
each other, and only the empty prefix may lose its namespace. -/
def mayBind (qualifier space : String) : Bool :=
  !(qualifier != "" && space == "") && qualifier != "xmlns" && space != bindingNamespace &&
    (qualifier == "xml") == (space == xmlNamespace) && !space.toList.contains '}'

/-- Adds the bindings that attributes make. -/
def extend (bindings : Bindings) (attributes : List (String × String)) : Except Fault Bindings :=
  attributes.foldlM (fun bindings (name, value) =>
    match boundBy? name with
    | some qualifier =>
      if mayBind qualifier value then .ok ((qualifier, value) :: bindings)
      else .error .badNamespace
    | none => .ok bindings) bindings

/-- A name in a namespace. -/
def expandedName (space base : String) : String :=
  if space = "" then base else "\x7b" ++ space ++ "\x7d" ++ base

/-- The expanded name of an element. -/
def elementName (bindings : Bindings) (name : String) : Except Fault String :=
  let (qualifier, base) := splitName name
  match bindings.lookup qualifier with
  | some space => .ok (expandedName space base)
  | none => if qualifier = "" then .ok base else .error .badNamespace

/-- The expanded name of an attribute. Without a prefix it is in no namespace. -/
def attributeName (bindings : Bindings) (name : String) : Except Fault String :=
  let (qualifier, base) := splitName name
  if qualifier = "" then .ok base
  else match bindings.lookup qualifier with
    | some space => .ok (expandedName space base)
    | none => .error .badNamespace

end Bindings

end EventAtlas.Xml
