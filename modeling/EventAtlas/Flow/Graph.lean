import EventAtlas.Flow.NodeId
import EventAtlas.Observer

/-!
# The flow graph

The graph joins events to the observers that react to them and observers to the endpoints
attributed to them. Observers are visited by increasing identifier, their events in order of
registration and their endpoints in increasing order, so equal observers give equal graphs.
-/

namespace EventAtlas.Flow

/-- The kinds of node. -/
inductive NodeKind where
  | event
  | observer
  | api
deriving DecidableEq, Repr

namespace NodeKind

/-- The name of a kind, as diagrams and styles use it. -/
def name : NodeKind → String
  | .event => "event"
  | .observer => "observer"
  | .api => "api"

/-- All kinds, in the order in which diagrams declare them. -/
def all : List NodeKind := [.event, .observer, .api]

end NodeKind

/-- A node of the graph. -/
structure Node where
  id : String
  kind : NodeKind
  label : String
deriving DecidableEq, Repr

/-- An edge, by the identifiers of the nodes it joins. -/
structure Edge where
  source : String
  target : String
deriving DecidableEq, Repr

/-- Nodes and edges in the order in which they were first declared. -/
structure Graph where
  nodes : List Node
  edges : List Edge
deriving DecidableEq, Repr

namespace Graph

/-- The graph without nodes. -/
def empty : Graph where
  nodes := []
  edges := []

/-- Declares an edge unless it is there. -/
def addEdge (graph : Graph) (edge : Edge) : Graph :=
  if edge ∈ graph.edges then graph else { graph with edges := graph.edges ++ [edge] }

/-- Declares a node unless its identifier is there. -/
def addNode (graph : Graph) (node : Node) : Graph :=
  if node.id ∈ graph.nodes.map (·.id) then graph
  else { graph with nodes := graph.nodes ++ [node] }

/-- A graph under construction, with the identifiers given out for it. -/
structure Draft where
  ids : NodeIds
  graph : Graph

namespace Draft

/-- The start of the construction. -/
def empty : Draft where
  ids := .empty
  graph := .empty

/-- Declares the node of a label; gives its identifier. -/
def node (draft : Draft) (kind : NodeKind) (label : String) : String × Draft :=
  let (id, ids) := draft.ids.request kind.name label
  (id, { ids := ids, graph := draft.graph.addNode ⟨id, kind, label⟩ })

/-- Declares the edge from an event to an observer, and the event. -/
def event (observerId : String) (draft : Draft) (event : String) : Draft :=
  let (id, draft) := draft.node .event event
  { draft with graph := draft.graph.addEdge ⟨id, observerId⟩ }

/-- Declares the edge from an observer to an endpoint, and the endpoint. -/
def endpoint (observerId : String) (draft : Draft) (endpoint : String) : Draft :=
  let (id, draft) := draft.node .api endpoint
  { draft with graph := draft.graph.addEdge ⟨observerId, id⟩ }

/-- Declares an observer with its events and endpoints. -/
def observer (draft : Draft) (entry : String × Observer) : Draft :=
  let (id, draft) := draft.node .observer entry.1
  let draft := entry.2.events.foldl (event id) draft
  entry.2.endpoints.sorted.foldl (endpoint id) draft

end Draft

/-- The flow graph of the observers. -/
def ofObservers (observers : Observers) : Graph :=
  (observers.sorted.foldl Draft.observer .empty).graph

end Graph

end EventAtlas.Flow
