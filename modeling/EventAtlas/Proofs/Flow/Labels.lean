import EventAtlas.Proofs.Flow.Graph

/-!
# The flow graph by its labels

Read without its identifiers, the flow graph is a list of labels for each kind of node and a list
of reactions, the events and observers that its edges join. None of these lists has a repetition,
so their lengths count what occurs among the observers.
-/

namespace EventAtlas.Flow.Graph

/-- The labels of the nodes of a kind, in order of declaration. -/
def labels (graph : Graph) (kind : NodeKind) : List String :=
  (graph.nodes.filter (·.kind = kind)).map (·.label)

/-- The event and the observer at the ends of an edge, if it joins an event to an observer. -/
def reaction? : Option Entity × Option Entity → Option (String × ClassId)
  | (some (.event, event), some (.observer, observer)) => some (event, observer)
  | _ => none

/-- The events with the observers that react to them, as the edges join them. -/
def reactions (graph : Graph) : List (String × ClassId) :=
  (graph.edges.map graph.ends).filterMap reaction?

/-- Ends that join an event to an observer are known. -/
theorem reaction?_eq_some_iff {ends : Option Entity × Option Entity}
    {reaction : String × ClassId} : reaction? ends = some reaction ↔
      ends = known ((.event, reaction.1), (.observer, reaction.2)) := by
  obtain ⟨event, observer⟩ := reaction
  unfold reaction? known
  split
  · simp
  · next other =>
    simp only [reduceCtorEq, false_iff]
    exact other event observer

variable {observers : Observers} {kind : NodeKind}

/-- The labels of a kind are those of the entities of the kind. -/
theorem labels_eq (graph : Graph) (kind : NodeKind) :
    graph.labels kind = ((graph.nodes.map Node.entity).filter (·.1 = kind)).map (·.2) := by
  rw [labels, List.filter_map, List.map_map]
  rfl

/-- The labels of a kind are what occurs of the kind. -/
theorem mem_labels_iff {label : String} :
    label ∈ (ofObservers observers).labels kind ↔ Occurs observers (kind, label) := by
  rw [labels_eq, ofObservers, (shows_sorted observers).nodes, ← mem_entities_iff]
  simp

/-- No kind has two nodes with the same label. -/
theorem labels_nodup : ((ofObservers observers).labels kind).Nodup := by
  rw [labels_eq]
  refine ((shows_sorted observers).entities_nodup.filter _).map_on ?_
  intro left inLeft right inRight same
  have kindLeft : left.1 = kind := of_decide_eq_true (List.mem_filter.1 inLeft).2
  have kindRight : right.1 = kind := of_decide_eq_true (List.mem_filter.1 inRight).2
  exact Prod.ext (kindLeft.trans kindRight.symm) same

/-- The reactions are what flows from events to observers. -/
theorem mem_reactions_iff {event : String} {observer : ClassId} :
    (event, observer) ∈ (ofObservers observers).reactions ↔
      Flows observers (.event, event) (.observer, observer) := by
  rw [reactions, ofObservers, (shows_sorted observers).edges, List.mem_filterMap,
    ← mem_relations_iff]
  constructor
  · rintro ⟨_, declared, joins⟩
    rw [reaction?_eq_some_iff.1 joins, List.mem_map_of_injective known_injective] at declared
    exact List.mem_eraseDups.1 declared
  · intro declared
    exact ⟨_, List.mem_map_of_mem (List.mem_eraseDups.2 declared), rfl⟩

/-- No reaction is told twice. -/
theorem reactions_nodup : (ofObservers observers).reactions.Nodup := by
  have ends_nodup : ((ofObservers observers).edges.map (ofObservers observers).ends).Nodup := by
    rw [ofObservers, (shows_sorted observers).edges]
    exact (nodup_eraseDups _).map known_injective
  refine ends_nodup.filterMap fun left right reaction joinsLeft joinsRight => ?_
  rw [Option.mem_def, reaction?_eq_some_iff] at joinsLeft joinsRight
  exact joinsLeft.trans joinsRight.symm

/-- An event occurs when some observer reacts to it. -/
theorem occurs_event_iff {event : String} : Occurs observers (.event, event) ↔
    ∃ entry ∈ observers.entries, event ∈ entry.2.events := by
  constructor
  · rintro (_ | ⟨entered, reacts⟩ | _)
    exact ⟨_, entered, reacts⟩
  · rintro ⟨_, entered, reacts⟩
    exact .event entered reacts

/-- An observer occurs when it is listed. -/
theorem occurs_observer_iff {key : String} :
    Occurs observers (.observer, key) ↔ key ∈ observers.keys := by
  constructor
  · rintro (entered | _ | _)
    exact List.mem_map_of_mem entered
  · intro listed
    obtain ⟨_, entered, rfl⟩ := List.mem_map.1 listed
    exact .observer entered

/-- An endpoint occurs when it is attributed to some observer. -/
theorem occurs_api_iff {endpoint : String} : Occurs observers (.api, endpoint) ↔
    ∃ entry ∈ observers.entries, endpoint ∈ entry.2.endpoints := by
  constructor
  · rintro (_ | _ | ⟨entered, attributed⟩)
    exact ⟨_, entered, attributed⟩
  · rintro ⟨_, entered, attributed⟩
    exact .api entered attributed

/-- An event flows to an observer that reacts to it. -/
theorem flows_event_iff {event : String} {observer : ClassId} :
    Flows observers (.event, event) (.observer, observer) ↔
      ∃ record, (observer, record) ∈ observers.entries ∧ event ∈ record.events := by
  constructor
  · rintro (⟨entered, reacts⟩ | _)
    exact ⟨_, entered, reacts⟩
  · rintro ⟨_, entered, reacts⟩
    exact .event entered reacts

end EventAtlas.Flow.Graph
