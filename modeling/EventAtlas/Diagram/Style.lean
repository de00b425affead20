import EventAtlas.Failure
import EventAtlas.Flow.Graph

/-!
# Diagram styles

A style may give a colour and a shape to each kind of node and a font to the whole diagram.
Whatever it leaves open keeps the default of the format. A table of colours or shapes that is
no table is noticed only when a diagram looks into it.
-/

namespace EventAtlas.Diagram

/-- A table from the names of node kinds to values, as a user wrote it. -/
inductive StyleTable where
  /-- Values by name. -/
  | entries (values : List (String × String))
  /-- Something that is not a table. -/
  | notTable
deriving DecidableEq, Repr

namespace StyleTable

/-- The table that leaves everything open. -/
def none : StyleTable := .entries []

/-- The value for a kind of node, or the default if the table leaves it open. `setting` is
what the table is called. -/
def pick (table : StyleTable) (setting : String) (kind : Flow.NodeKind) (default : String) :
    Except Failure String :=
  match table with
  | .entries values => .ok ((values.lookup kind.name).getD default)
  | .notTable => .error (.stylesNotTable setting)

end StyleTable

/-- How a diagram is to look. -/
structure Style where
  colors : StyleTable
  shapes : StyleTable
  font : String
deriving DecidableEq, Repr

/-- The font of a diagram for which none is chosen. -/
def defaultFont : String := "Arial"

/-- The style that leaves everything open. -/
def Style.plain : Style where
  colors := .none
  shapes := .none
  font := defaultFont

end EventAtlas.Diagram
