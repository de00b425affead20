import EventAtlas.Diagram.Style

/-!
# Graphviz diagrams

The flow graph as a digraph drawn from left to right. Labels are quoted strings, in which a
backslash stands before each quotation mark and each backslash.
-/

namespace EventAtlas.Diagram.Dot

/-- How a character is written inside a quoted string. -/
def quoteChar (c : Char) : List Char :=
  if c = '\\' ∨ c = '"' then ['\\', c] else [c]

/-- How a text is written inside a quoted string. -/
def quote (text : String) : String :=
  String.ofList (text.toList.flatMap quoteChar)

/-- The colour that fills a node. -/
def defaultColor : Flow.NodeKind → String
  | .event => "#e0e0e0"
  | .observer => "#ffcc80"
  | .api => "#a5d6a7"

/-- The outline of a node. -/
def defaultShape : Flow.NodeKind → String
  | .event => "ellipse"
  | .observer => "box"
  | .api => "note"

/-- The lines before the nodes. -/
def header (font : String) : List String :=
  ["digraph CheckoutFlow \x7b",
    "    graph [fontname=\"" ++ font ++ "\"];",
    "    rankdir=LR;",
    "    node [style=\"filled,rounded\", fontname=\"" ++ font ++ "\", fontsize=10];",
    "    edge [arrowsize=0.8, fontname=\"" ++ font ++ "\"];",
    ""]

/-- The line of a node with the given colour and shape. -/
def nodeLine (node : Flow.Node) (color shape : String) : String :=
  "    \"" ++ node.id ++ "\" [label=\"" ++ quote node.label ++ "\", fillcolor=\"" ++ color ++
    "\", shape=" ++ shape ++ ", class=\"kind-" ++ node.kind.name ++ "\"];"

/-- The line of a node in a style. -/
def styledNodeLine (style : Style) (node : Flow.Node) : Except Failure String := do
  let color ← style.colors.pick "colors" node.kind (defaultColor node.kind)
  let shape ← style.shapes.pick "shapes" node.kind (defaultShape node.kind)
  return nodeLine node color shape

/-- The line of an edge. -/
def edgeLine (edge : Flow.Edge) : String :=
  "    \"" ++ edge.source ++ "\" -> \"" ++ edge.target ++ "\";"

/-- The lines of the diagram. -/
def lines (style : Style) (graph : Flow.Graph) : Except Failure (List String) := do
  let nodes ← graph.nodes.mapM (styledNodeLine style)
  return header style.font ++ nodes ++ [""] ++ graph.edges.map edgeLine ++ ["\x7d"]

/-- The text of the diagram. -/
def render (style : Style) (graph : Flow.Graph) : Except Failure String := do
  return Text.join "\n" (← lines style graph) ++ "\n"

end EventAtlas.Diagram.Dot
