import EventAtlas.Flow.Graph
import EventAtlas.Proofs.FirstOccurrence
import EventAtlas.Proofs.Flow.NodeId
import EventAtlas.Proofs.Roster

/-!
# What the flow graph tells

A node stands for a label of a kind. The graph is built by declaring labels and edges between
them; its nodes and edges are those declared, in order of first declaration. Both are told apart
by identifiers only, so this rests on the identifiers being distinct. It follows that the nodes
and edges say exactly which observer reacts to which event and which endpoint is attributed to it.
-/

namespace EventAtlas

namespace Flow

/-- What a node stands for. -/
abbrev Entity : Type := NodeKind × String

/-- The names of kinds tell them apart. -/
theorem NodeKind.name_injective : Function.Injective NodeKind.name := by
  intro left right same
  cases left <;> cases right <;> first | rfl | exact absurd same (by decide)

namespace Node

/-- What the node stands for. -/
def entity (node : Node) : Entity :=
  (node.kind, node.label)

/-- The identifier of the node as it was given out. -/
def assignment (node : Node) : (String × String) × String :=
  ((node.kind.name, node.label), node.id)

end Node

namespace Graph

/-- What an identifier stands for. -/
def entity? (graph : Graph) (id : String) : Option Entity :=
  (graph.nodes.find? (·.id = id)).map Node.entity

/-- What the ends of an edge stand for. -/
def ends (graph : Graph) (edge : Edge) : Option Entity × Option Entity :=
  (graph.entity? edge.source, graph.entity? edge.target)

/-- The ends of an edge that joins what is known. -/
def known (relation : Entity × Entity) : Option Entity × Option Entity :=
  (some relation.1, some relation.2)

/-- Different relations have different ends. -/
theorem known_injective : Function.Injective known := by
  rintro ⟨source, target⟩ ⟨source', target'⟩ same
  simpa [known] using same

/-- What an identifier stands for comes from a node of that identifier. -/
theorem exists_node_of_entity? {graph : Graph} {id : String} {entity : Entity}
    (held : graph.entity? id = some entity) :
    ∃ node ∈ graph.nodes, node.id = id ∧ node.entity = entity := by
  obtain ⟨node, found, rfl⟩ := Option.map_eq_some_iff.1 held
  exact ⟨node, List.mem_of_find?_eq_some found, by simpa using List.find?_some found, rfl⟩

/-- If identifiers are distinct, that of a node stands for what the node stands for. -/
theorem entity?_of_mem {graph : Graph} (distinct : (graph.nodes.map (·.id)).Nodup) {node : Node}
    (member : node ∈ graph.nodes) : graph.entity? node.id = some node.entity := by
  have present : (graph.nodes.find? (·.id = node.id)).isSome :=
    List.find?_isSome.2 ⟨node, member, by simp⟩
  obtain ⟨other, found⟩ := Option.isSome_iff_exists.1 present
  have same : other = node :=
    List.inj_on_of_nodup_map distinct (List.mem_of_find?_eq_some found) member
      (by simpa using List.find?_some found)
  rw [entity?, found, same, Option.map_some]

/-- If the nodes stand for different things, so do their identifiers. -/
theorem entity?_injective {graph : Graph} (distinct : (graph.nodes.map Node.entity).Nodup)
    {left right : String} {entity : Entity} (heldLeft : graph.entity? left = some entity)
    (heldRight : graph.entity? right = some entity) : left = right := by
  obtain ⟨node, member, rfl, stands⟩ := exists_node_of_entity? heldLeft
  obtain ⟨other, member', rfl, stands'⟩ := exists_node_of_entity? heldRight
  rw [List.inj_on_of_nodup_map distinct member member' (stands.trans stands'.symm)]

/-- A node with a new identifier comes last. -/
theorem addNode_of_fresh {graph : Graph} {node : Node}
    (fresh : node.id ∉ graph.nodes.map (·.id)) :
    graph.addNode node = { graph with nodes := graph.nodes ++ [node] } :=
  if_neg fresh

/-- Declaring a node leaves alone what known identifiers stand for. -/
theorem entity?_addNode {graph : Graph} {id : String} {entity : Entity} (node : Node)
    (held : graph.entity? id = some entity) : (graph.addNode node).entity? id = some entity := by
  obtain ⟨first, found, rfl⟩ := Option.map_eq_some_iff.1 held
  unfold addNode
  split
  · exact held
  · simp [entity?, List.find?_append, found]

/-- Declaring a node adds no edge. -/
@[simp] theorem edges_addNode (graph : Graph) (node : Node) :
    (graph.addNode node).edges = graph.edges := by
  unfold addNode
  split <;> rfl

/-- Declaring an edge adds no node. -/
@[simp] theorem nodes_addEdge (graph : Graph) (edge : Edge) :
    (graph.addEdge edge).nodes = graph.nodes := by
  unfold addEdge
  split <;> rfl

/-- Declaring an edge leaves alone what identifiers stand for. -/
@[simp] theorem entity?_addEdge (graph : Graph) (edge : Edge) :
    (graph.addEdge edge).entity? = graph.entity? := by
  funext id
  rw [entity?, nodes_addEdge, entity?]

namespace Draft

/-- A graph under construction shows what was declared for it: its nodes stand for the declared
entities and its edges for the declared relations, each in order of first declaration. -/
structure Shows (draft : Draft) (entities : List Entity) (relations : List (Entity × Entity)) :
    Prop where
  /-- Every identifier that was given out is that of a node. -/
  assigned : draft.ids.assigned = draft.graph.nodes.map Node.assignment
  distinct : draft.ids.Distinct
  nodes : draft.graph.nodes.map Node.entity = entities.eraseDups
  edges : draft.graph.edges.map draft.graph.ends = relations.eraseDups.map known

variable {draft : Draft} {entities : List Entity} {relations : List (Entity × Entity)}

/-- At the start nothing is declared. -/
theorem Shows.empty : Shows .empty [] [] where
  assigned := rfl
  distinct := .empty
  nodes := rfl
  edges := rfl

/-- The identifiers of the nodes are those given out. -/
theorem Shows.used_eq (shown : draft.Shows entities relations) :
    draft.ids.used = draft.graph.nodes.map (·.id) := by
  rw [NodeIds.used, shown.assigned, List.map_map]
  rfl

/-- The identifiers of the nodes are distinct. -/
theorem Shows.ids_nodup (shown : draft.Shows entities relations) :
    (draft.graph.nodes.map (·.id)).Nodup :=
  shown.used_eq ▸ shown.distinct.used_nodup

/-- The nodes stand for different entities. -/
theorem Shows.entities_nodup (shown : draft.Shows entities relations) :
    (draft.graph.nodes.map Node.entity).Nodup :=
  shown.nodes ▸ nodup_eraseDups entities

/-- The ends of every edge are known, and related as declared. -/
theorem Shows.exists_relation (shown : draft.Shows entities relations) {edge : Edge}
    (member : edge ∈ draft.graph.edges) :
    ∃ relation ∈ relations, draft.graph.ends edge = known relation := by
  have held : draft.graph.ends edge ∈ relations.eraseDups.map known :=
    shown.edges ▸ List.mem_map_of_mem member
  obtain ⟨relation, declared, ends⟩ := List.mem_map.1 held
  exact ⟨relation, List.mem_eraseDups.1 declared, ends.symm⟩

/-- Every declared relation has an edge. -/
theorem Shows.exists_edge (shown : draft.Shows entities relations) {relation : Entity × Entity}
    (declared : relation ∈ relations) :
    ∃ edge ∈ draft.graph.edges, draft.graph.ends edge = known relation := by
  have held : known relation ∈ draft.graph.edges.map draft.graph.ends :=
    shown.edges ▸ List.mem_map_of_mem (List.mem_eraseDups.2 declared)
  exact List.mem_map.1 held

/-- Edges between the same known ends are the same. -/
theorem Shows.edge_unique (shown : draft.Shows entities relations) {left right : Edge}
    {relation : Entity × Entity} (heldLeft : draft.graph.ends left = known relation)
    (heldRight : draft.graph.ends right = known relation) : left = right := by
  obtain ⟨leftSource, leftTarget⟩ := Prod.mk.inj heldLeft
  obtain ⟨rightSource, rightTarget⟩ := Prod.mk.inj heldRight
  have sources := entity?_injective shown.entities_nodup leftSource rightSource
  have targets := entity?_injective shown.entities_nodup leftTarget rightTarget
  cases left
  cases right
  simp only at sources targets
  rw [sources, targets]

/-- A label that has an identifier has a node. -/
theorem Shows.exists_node (shown : draft.Shows entities relations) {kind : NodeKind}
    {label id : String} (held : draft.ids.assigned.lookup (kind.name, label) = some id) :
    ⟨id, kind, label⟩ ∈ draft.graph.nodes := by
  obtain ⟨before, after, split, -⟩ := List.lookup_eq_some_iff.1 held
  have given : ((kind.name, label), id) ∈ draft.graph.nodes.map Node.assignment := by
    rw [← shown.assigned, split]
    simp
  obtain ⟨⟨_, kind', _⟩, member, same⟩ := List.mem_map.1 given
  simp only [Node.assignment, Prod.mk.injEq] at same
  obtain ⟨⟨kinds, rfl⟩, rfl⟩ := same
  rwa [NodeKind.name_injective kinds] at member

/-- What a node stands for is declared. -/
theorem Shows.mem_entities (shown : draft.Shows entities relations) {node : Node}
    (member : node ∈ draft.graph.nodes) : node.entity ∈ entities := by
  rw [← List.mem_eraseDups, ← shown.nodes]
  exact List.mem_map_of_mem member

/-- A label of a kind that has no identifier is not declared. -/
theorem Shows.not_mem_entities (shown : draft.Shows entities relations) {kind : NodeKind}
    {label : String} (absent : draft.ids.assigned.lookup (kind.name, label) = none) :
    (kind, label) ∉ entities := by
  intro declared
  rw [← List.mem_eraseDups, ← shown.nodes] at declared
  obtain ⟨node, member, stands⟩ := List.mem_map.1 declared
  obtain ⟨rfl, rfl⟩ := Prod.mk.inj stands
  have entry : node.assignment ∈ draft.ids.assigned :=
    shown.assigned ▸ List.mem_map_of_mem member
  simpa [Node.assignment] using List.lookup_eq_none_iff.1 absent _ entry

/-- Giving a new identifier to a label that has none, and declaring its node, shows the label. -/
theorem Shows.give (shown : draft.Shows entities relations) {kind : NodeKind} {label id : String}
    (absent : draft.ids.assigned.lookup (kind.name, label) = none) (fresh : id ∉ draft.ids.used) :
    Shows
      { ids := ⟨draft.ids.assigned ++ [((kind.name, label), id)]⟩
        graph := { draft.graph with nodes := draft.graph.nodes ++ [⟨id, kind, label⟩] } }
      (entities ++ [(kind, label)]) relations := by
  have new : id ∉ draft.graph.nodes.map (·.id) := shown.used_eq ▸ fresh
  have added : draft.graph.addNode ⟨id, kind, label⟩ = _ := addNode_of_fresh new
  refine ⟨?_, shown.distinct.give absent fresh, ?_, ?_⟩
  · simp [shown.assigned, Node.assignment]
  · simp [eraseDups_concat, shown.not_mem_entities absent, shown.nodes, Node.entity]
  · rw [← shown.edges, ← added, edges_addNode]
    apply List.map_congr_left
    intro edge member
    -- The ends of an edge are known, and what is known stays.
    obtain ⟨relation, -, ends⟩ := shown.exists_relation member
    obtain ⟨source, target⟩ := Prod.mk.inj ends
    rw [ends, Graph.ends, entity?_addNode _ source, entity?_addNode _ target, known]

/-- Declaring a label shows it, and the identifier stands for it. -/
theorem Shows.node (shown : draft.Shows entities relations) (kind : NodeKind) (label : String) :
    (draft.node kind label).2.Shows (entities ++ [(kind, label)]) relations ∧
      (draft.node kind label).2.graph.entity? (draft.node kind label).1 = some (kind, label) := by
  unfold Draft.node
  rcases draft.ids.request_cases kind.name label with
    ⟨id, held, request⟩ | ⟨id, absent, free, request⟩
  · have member := shown.exists_node held
    have kept : draft.graph.addNode ⟨id, kind, label⟩ = draft.graph :=
      if_pos (List.mem_map_of_mem (f := Node.id) member)
    have declared : (kind, label) ∈ entities := shown.mem_entities member
    simp only [request, kept]
    refine ⟨{ shown with nodes := ?_ }, entity?_of_mem shown.ids_nodup member⟩
    rw [eraseDups_concat, if_pos declared, shown.nodes]
  · have after := shown.give absent free.not_used
    have last : (⟨id, kind, label⟩ : Node) ∈ draft.graph.nodes ++ [⟨id, kind, label⟩] := by simp
    rw [request]
    dsimp only
    rw [addNode_of_fresh (shown.used_eq ▸ free.not_used)]
    exact ⟨after, entity?_of_mem after.ids_nodup last⟩

/-- What is known stays known when a label is declared. -/
theorem entity?_node {id : String} {entity : Entity}
    (held : draft.graph.entity? id = some entity) (kind : NodeKind) (label : String) :
    (draft.node kind label).2.graph.entity? id = some entity :=
  entity?_addNode _ held

/-- Declaring an edge between known ends shows their relation. -/
theorem Shows.addEdge (shown : draft.Shows entities relations) {edge : Edge}
    {source target : Entity} (heldSource : draft.graph.entity? edge.source = some source)
    (heldTarget : draft.graph.entity? edge.target = some target) :
    Shows { draft with graph := draft.graph.addEdge edge } entities
      (relations ++ [(source, target)]) := by
  have ends : draft.graph.ends edge = known (source, target) := by
    rw [Graph.ends, heldSource, heldTarget, known]
  have declared_iff : edge ∈ draft.graph.edges ↔ (source, target) ∈ relations := by
    constructor
    · intro member
      obtain ⟨relation, declared, same⟩ := shown.exists_relation member
      exact known_injective (ends.symm.trans same) ▸ declared
    · intro declared
      obtain ⟨other, member, same⟩ := shown.exists_edge declared
      exact shown.edge_unique same ends ▸ member
  refine { assigned := ?_, distinct := shown.distinct, nodes := ?_, edges := ?_ }
  · rw [nodes_addEdge]
    exact shown.assigned
  · rw [nodes_addEdge]
    exact shown.nodes
  · have same : (draft.graph.addEdge edge).ends = draft.graph.ends := by
      funext other
      simp [Graph.ends]
    rw [same, eraseDups_concat, Graph.addEdge]
    by_cases declared : edge ∈ draft.graph.edges
    · rw [if_pos declared, if_pos (declared_iff.1 declared), shown.edges]
    · rw [if_neg declared, if_neg (mt declared_iff.2 declared), List.map_append, shown.edges,
        List.map_append, List.map_singleton, ends, List.map_singleton]

/-- Declarations for one known identifier after the other show all of them, if each shows its own
and keeps the identifier known. -/
theorem Shows.foldl {id : String} {owner : Entity} {step : Draft → String → Draft}
    {entity : String → Entity} {relation : String → Entity × Entity}
    (each : ∀ {draft entities relations}, Shows draft entities relations →
      draft.graph.entity? id = some owner → ∀ name,
        (step draft name).Shows (entities ++ [entity name]) (relations ++ [relation name]) ∧
          (step draft name).graph.entity? id = some owner)
    (names : List String) (shown : draft.Shows entities relations)
    (held : draft.graph.entity? id = some owner) :
    (names.foldl step draft).Shows (entities ++ names.map entity)
        (relations ++ names.map relation) ∧
      (names.foldl step draft).graph.entity? id = some owner := by
  induction names generalizing draft entities relations with
  | nil => simpa using ⟨shown, held⟩
  | cons name rest ih =>
    obtain ⟨shown, held⟩ := each shown held name
    simpa using ih shown held

/-- Declaring an event shows it and that the observer reacts to it. -/
theorem Shows.event {observerId observer : String} (shown : draft.Shows entities relations)
    (held : draft.graph.entity? observerId = some (.observer, observer)) (event : String) :
    (Draft.event observerId draft event).Shows (entities ++ [(.event, event)])
        (relations ++ [((.event, event), (.observer, observer))]) ∧
      (Draft.event observerId draft event).graph.entity? observerId =
        some (.observer, observer) := by
  obtain ⟨declared, stands⟩ := shown.node .event event
  have kept := entity?_node held .event event
  exact ⟨declared.addEdge stands kept, by simpa [Draft.event] using kept⟩

/-- Declaring an endpoint shows it and that it is attributed to the observer. -/
theorem Shows.endpoint {observerId observer : String} (shown : draft.Shows entities relations)
    (held : draft.graph.entity? observerId = some (.observer, observer)) (endpoint : String) :
    (Draft.endpoint observerId draft endpoint).Shows (entities ++ [(.api, endpoint)])
        (relations ++ [((.observer, observer), (.api, endpoint))]) ∧
      (Draft.endpoint observerId draft endpoint).graph.entity? observerId =
        some (.observer, observer) := by
  obtain ⟨declared, stands⟩ := shown.node .api endpoint
  have kept := entity?_node held .api endpoint
  exact ⟨declared.addEdge kept stands, by simpa [Draft.endpoint] using kept⟩

end Draft

/-- What an observer under a key is declared with, in order. -/
def entitiesOf (entry : String × Observer) : List Entity :=
  (.observer, entry.1) ::
    (entry.2.events.map ((.event, ·)) ++ entry.2.endpoints.sorted.map ((.api, ·)))

/-- The relations that an observer under a key is declared with, in order. -/
def relationsOf (entry : String × Observer) : List (Entity × Entity) :=
  entry.2.events.map (fun event => ((.event, event), (.observer, entry.1))) ++
    entry.2.endpoints.sorted.map (fun endpoint => ((.observer, entry.1), (.api, endpoint)))

namespace Draft

variable {draft : Draft} {entities : List Entity} {relations : List (Entity × Entity)}

/-- Declaring an observer shows it with its events and endpoints. -/
theorem Shows.observer (shown : draft.Shows entities relations) (entry : String × Observer) :
    (draft.observer entry).Shows (entities ++ entitiesOf entry)
      (relations ++ relationsOf entry) := by
  obtain ⟨shown, held⟩ := shown.node .observer entry.1
  obtain ⟨shown, held⟩ := Shows.foldl Shows.event entry.2.events shown held
  obtain ⟨shown, -⟩ := Shows.foldl Shows.endpoint entry.2.endpoints.sorted shown held
  simpa [Draft.observer, entitiesOf, relationsOf] using shown

/-- Declaring observers one after the other shows all of them. -/
theorem Shows.observers (entries : List (String × Observer))
    (shown : draft.Shows entities relations) :
    (entries.foldl Draft.observer draft).Shows (entities ++ entries.flatMap entitiesOf)
      (relations ++ entries.flatMap relationsOf) := by
  induction entries generalizing draft entities relations with
  | nil => simpa using shown
  | cons entry rest ih => simpa using ih (shown.observer entry)

end Draft

/-- The graph of the observers shows what each of them is declared with, by increasing keys. -/
theorem shows_sorted (observers : Observers) :
    (observers.sorted.foldl Draft.observer .empty).Shows
      (observers.sorted.flatMap entitiesOf) (observers.sorted.flatMap relationsOf) := by
  simpa using Draft.Shows.observers observers.sorted .empty

/-- What occurs among the observers: their keys, their events and their endpoints. -/
inductive Occurs (observers : Observers) : Entity → Prop where
  | observer {key : String} {record : Observer} (entered : (key, record) ∈ observers.entries) :
      Occurs observers (.observer, key)
  | event {key event : String} {record : Observer} (entered : (key, record) ∈ observers.entries)
      (reacts : event ∈ record.events) : Occurs observers (.event, event)
  | api {key endpoint : String} {record : Observer} (entered : (key, record) ∈ observers.entries)
      (attributed : endpoint ∈ record.endpoints) : Occurs observers (.api, endpoint)

/-- What flows among the observers: from events to those that react to them and from these to the
endpoints attributed to them. -/
inductive Flows (observers : Observers) : Entity → Entity → Prop where
  | event {key event : String} {record : Observer} (entered : (key, record) ∈ observers.entries)
      (reacts : event ∈ record.events) : Flows observers (.event, event) (.observer, key)
  | api {key endpoint : String} {record : Observer} (entered : (key, record) ∈ observers.entries)
      (attributed : endpoint ∈ record.endpoints) :
      Flows observers (.observer, key) (.api, endpoint)

/-- What is declared is what occurs among the observers. -/
theorem mem_entities_iff {observers : Observers} {entity : Entity} :
    entity ∈ observers.sorted.flatMap entitiesOf ↔ Occurs observers entity := by
  simp only [List.mem_flatMap, Roster.mem_sorted, entitiesOf, List.mem_cons, List.mem_append,
    List.mem_map, NameSet.mem_sorted]
  constructor
  · rintro ⟨⟨key, record⟩, entered, rfl | ⟨event, reacts, rfl⟩ | ⟨endpoint, attributed, rfl⟩⟩
    · exact .observer entered
    · exact .event entered reacts
    · exact .api entered attributed
  · rintro (entered | ⟨entered, reacts⟩ | ⟨entered, attributed⟩)
    · exact ⟨_, entered, .inl rfl⟩
    · exact ⟨_, entered, .inr (.inl ⟨_, reacts, rfl⟩)⟩
    · exact ⟨_, entered, .inr (.inr ⟨_, attributed, rfl⟩)⟩

/-- The declared relations are what flows among the observers. -/
theorem mem_relations_iff {observers : Observers} {source target : Entity} :
    (source, target) ∈ observers.sorted.flatMap relationsOf ↔ Flows observers source target := by
  simp only [List.mem_flatMap, Roster.mem_sorted, relationsOf, List.mem_append, List.mem_map,
    NameSet.mem_sorted]
  constructor
  · rintro ⟨⟨key, record⟩, entered, ⟨event, reacts, same⟩ | ⟨endpoint, attributed, same⟩⟩
    · obtain ⟨rfl, rfl⟩ := Prod.mk.inj same
      exact .event entered reacts
    · obtain ⟨rfl, rfl⟩ := Prod.mk.inj same
      exact .api entered attributed
  · rintro (⟨entered, reacts⟩ | ⟨entered, attributed⟩)
    · exact ⟨_, entered, .inl ⟨_, reacts, rfl⟩⟩
    · exact ⟨_, entered, .inr ⟨_, attributed, rfl⟩⟩

/-- The observers are declared by increasing keys. -/
theorem declared_observers_lt (observers : Observers) :
    ((observers.sorted.flatMap entitiesOf).filter (·.1 = .observer)).Pairwise (·.2 < ·.2) := by
  have only : (fun entry => (entitiesOf entry).filter (·.1 = .observer)) =
      fun entry => [(.observer, entry.1)] := by
    funext entry
    simp [entitiesOf, List.filter_map]
  rw [List.filter_flatMap, only, ← List.map_eq_flatMap, List.pairwise_map]
  exact List.pairwise_map.1 observers.sorted_keys_lt

/-- A graph that tells exactly what occurs and what flows among the observers. -/
structure Tells (graph : Graph) (observers : Observers) : Prop where
  ids_nodup : (graph.nodes.map (·.id)).Nodup
  /-- No two nodes stand for the same label of the same kind. -/
  entities_nodup : (graph.nodes.map Node.entity).Nodup
  entity_iff : ∀ entity, entity ∈ graph.nodes.map Node.entity ↔ Occurs observers entity
  edges_nodup : graph.edges.Nodup
  /-- Every edge joins two nodes. -/
  joined : ∀ edge ∈ graph.edges,
    edge.source ∈ graph.nodes.map (·.id) ∧ edge.target ∈ graph.nodes.map (·.id)
  /-- No two edges join the same entities. -/
  ends_nodup : (graph.edges.map graph.ends).Nodup
  relation_iff : ∀ source target,
    (some source, some target) ∈ graph.edges.map graph.ends ↔ Flows observers source target
  /-- The observers stand in increasing order of their keys. -/
  observers_lt : ((graph.nodes.filter (·.kind = .observer)).map (·.label)).Pairwise (· < ·)

/-- The flow graph tells exactly what occurs and what flows among the observers. -/
theorem ofObservers_tells (observers : Observers) : (ofObservers observers).Tells observers := by
  have shown := shows_sorted observers
  have relations_nodup : ((ofObservers observers).edges.map (ofObservers observers).ends).Nodup :=
    shown.edges ▸ (nodup_eraseDups _).map known_injective
  refine
    { ids_nodup := shown.ids_nodup
      entities_nodup := shown.entities_nodup
      entity_iff := fun entity => ?_
      edges_nodup := relations_nodup.of_map
      joined := fun edge member => ?_
      ends_nodup := relations_nodup
      relation_iff := fun source target => ?_
      observers_lt := ?_ }
  · rw [ofObservers, shown.nodes, List.mem_eraseDups, mem_entities_iff]
  · obtain ⟨relation, -, ends⟩ := shown.exists_relation member
    obtain ⟨source, target⟩ := Prod.mk.inj ends
    obtain ⟨first, isFirst, firstId, -⟩ := exists_node_of_entity? source
    obtain ⟨last, isLast, lastId, -⟩ := exists_node_of_entity? target
    exact ⟨firstId ▸ List.mem_map_of_mem isFirst, lastId ▸ List.mem_map_of_mem isLast⟩
  · change known (source, target) ∈ _ ↔ _
    rw [ofObservers, shown.edges, List.mem_map_of_injective known_injective, List.mem_eraseDups,
      mem_relations_iff]
  · have labels : ((ofObservers observers).nodes.filter (·.kind = .observer)).map (·.label) =
        ((observers.sorted.flatMap entitiesOf).eraseDups.filter (·.1 = .observer)).map (·.2) := by
      rw [← shown.nodes, List.filter_map, List.map_map]
      rfl
    rw [labels, List.pairwise_map]
    exact (declared_observers_lt observers).sublist ((eraseDups_sublist _).filter _)

end Graph

end Flow

end EventAtlas
