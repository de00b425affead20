import EventAtlas.Diagram.Dot
import EventAtlas.Diagram.Mermaid
import EventAtlas.Roster

/-!
# Diagrams

A diagram is a format together with a style. Formats are found by name in a register; further
names may be registered for them.
-/

namespace EventAtlas

/-- The languages in which a flow graph can be written. -/
inductive Diagram.Format where
  | mermaid
  | dot
deriving DecidableEq, Repr

/-- A format and a style. -/
structure Diagram where
  format : Diagram.Format
  style : Diagram.Style
deriving DecidableEq, Repr

namespace Diagram

/-- The name of a format, which also marks blocks of it in a document. -/
def Format.name : Format → String
  | .mermaid => "mermaid"
  | .dot => "dot"

/-- The text of a graph in the diagram's format and style. -/
def render (diagram : Diagram) (graph : Flow.Graph) : Except Failure String :=
  match diagram.format with
  | .mermaid => Mermaid.render diagram.style graph
  | .dot => Dot.render diagram.style graph

/-- The text of the flow graph of the observers. -/
def generate (diagram : Diagram) (observers : Observers) : Except Failure String :=
  diagram.render (.ofObservers observers)

/-- The diagram of a report for which none is chosen. -/
def standard : Diagram where
  format := .mermaid
  style := .plain

/-- The formats by name. -/
abbrev Register := Roster String Format

namespace Register

/-- The formats under their own names. -/
def builtIn : Register :=
  .ofList [("mermaid", .mermaid), ("dot", .dot)]

/-- The format of a name. The failure lists the names there are. -/
def find (register : Register) (name : String) : Except Failure Format :=
  match register.get? name with
  | some format => .ok format
  | none => .error (.unknownDiagram name register.keys)

/-- The diagram of a format and a style. -/
def select (register : Register) (name : String) (style : Style) : Except Failure Diagram := do
  let format ← register.find name
  return { format, style }

end Register

end Diagram

end EventAtlas
