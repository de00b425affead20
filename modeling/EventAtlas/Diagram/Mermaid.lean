import EventAtlas.Diagram.Style

/-!
# Mermaid diagrams

The flow graph as a flowchart drawn from top to bottom, with one style class for each kind of
node. Only the colour that fills a node can be chosen.
-/

namespace EventAtlas.Diagram.Mermaid

/-- How a character is written inside a label. -/
def escapeChar (c : Char) : List Char :=
  if c = '"' then "#quot;".toList else [c]

/-- How a text is written inside a label. -/
def escape (text : String) : String :=
  String.ofList (text.toList.flatMap escapeChar)

/-- The colour that fills a node. -/
def defaultFill : Flow.NodeKind → String
  | .event => "#eef6ff"
  | .observer => "#fef3c7"
  | .api => "#ecfdf5"

/-- The colour of the outline of a node. -/
def stroke : Flow.NodeKind → String
  | .event => "#3b82f6"
  | .observer => "#f59e0b"
  | .api => "#10b981"

/-- What stands inside a node: observers by their name, events and endpoints as code under a
heading. -/
def content (node : Flow.Node) : String :=
  match node.kind with
  | .event => "Magento event:<br/><code>" ++ escape node.label ++ "</code>"
  | .observer => escape node.label
  | .api => "Mollie API:<br/><code>" ++ escape node.label ++ "</code>"

/-- The line of a node. -/
def nodeLine (node : Flow.Node) : String :=
  "  " ++ node.id ++ "([\"" ++ content node ++ "\"]):::" ++ node.kind.name

/-- The line of an edge. -/
def edgeLine (edge : Flow.Edge) : String :=
  "  " ++ edge.source ++ " --> " ++ edge.target

/-- The line of the style class of a kind of node. -/
def classLine (kind : Flow.NodeKind) (fill : String) : String :=
  "classDef " ++ kind.name ++ " fill:" ++ fill ++ ",stroke:" ++ stroke kind ++ ",color:#111;"

/-- The line of the style class of a kind of node in a style. -/
def styledClassLine (style : Style) (kind : Flow.NodeKind) : Except Failure String := do
  let fill ← style.colors.pick "colors" kind (defaultFill kind)
  return classLine kind fill

/-- The lines of the diagram. -/
def lines (style : Style) (graph : Flow.Graph) : Except Failure (List String) := do
  let classes ← Flow.NodeKind.all.mapM (styledClassLine style)
  return "flowchart TD" :: graph.nodes.map nodeLine ++ graph.edges.map edgeLine ++ classes

/-- The text of the diagram. -/
def render (style : Style) (graph : Flow.Graph) : Except Failure String := do
  return Text.join "\n" (← lines style graph) ++ "\n"

end EventAtlas.Diagram.Mermaid
