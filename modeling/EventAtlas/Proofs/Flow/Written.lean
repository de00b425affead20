import EventAtlas.Proofs.Flow.Request

/-!
# How the identifiers of a flow graph are written

Whatever identifier a graph under construction has given out was a candidate for some label, so it
is not empty and made of small letters, digits and underscores. Nodes have such identifiers only,
and edges join nodes.
-/

namespace EventAtlas

/-- The nodes of a graph have identifiers that are written as identifiers are, and its edges join
such identifiers. -/
structure Flow.Graph.Written (graph : Flow.Graph) : Prop where
  nodes : ∀ node ∈ graph.nodes, Flow.NodeIds.Written node.id
  edges : ∀ edge ∈ graph.edges,
    Flow.NodeIds.Written edge.source ∧ Flow.NodeIds.Written edge.target

namespace Flow

/-- All identifiers that were given out are written as identifiers are. -/
def NodeIds.AllWritten (ids : NodeIds) : Prop :=
  ∀ id ∈ ids.used, Written id

/-- One more request gives out no other identifiers than such. -/
theorem NodeIds.AllWritten.request {ids : NodeIds} (written : ids.AllWritten) (kind : NodeKind)
    (label : String) : (ids.request kind.name label).2.AllWritten := by
  rcases ids.request_cases kind.name label with
    ⟨id, -, request⟩ | ⟨id, -, free, request⟩
  · rw [request]
    exact written
  · rw [request]
    intro other member
    obtain ⟨n, -, rfl, -⟩ := free.first
    simp only [used, List.map_append, List.map_cons, List.map_nil, List.mem_append,
      List.mem_singleton] at member
    rcases member with before | rfl
    · exact written other before
    · exact (written_base kind label).candidate n

namespace Graph

variable {draft : Draft}

/-- Steps that each request one label give out no other identifiers than such. -/
theorem Draft.allWritten_foldl (kind : NodeKind) {step : Draft → String → Draft}
    (requests : ∀ draft label, (step draft label).ids = (draft.ids.request kind.name label).2)
    (labels : List String) (written : draft.ids.AllWritten) :
    (labels.foldl step draft).ids.AllWritten := by
  induction labels generalizing draft with
  | nil => exact written
  | cons label rest ih =>
    apply ih
    rw [requests]
    exact written.request kind label

/-- Declaring an observer gives out no other identifiers than such. -/
theorem Draft.allWritten_observer (written : draft.ids.AllWritten) (entry : String × Observer) :
    (draft.observer entry).ids.AllWritten := by
  have declared : (draft.node .observer entry.1).2.ids.AllWritten :=
    written.request .observer entry.1
  have reacting : (entry.2.events.foldl (event (draft.node .observer entry.1).1)
      (draft.node .observer entry.1).2).ids.AllWritten :=
    allWritten_foldl .event (fun _ _ => rfl) entry.2.events declared
  exact allWritten_foldl .api (fun _ _ => rfl) entry.2.endpoints.sorted reacting

/-- Declaring observers one after the other gives out no other identifiers than such. -/
theorem Draft.allWritten_observers (entries : List (String × Observer))
    (written : draft.ids.AllWritten) : (entries.foldl observer draft).ids.AllWritten := by
  induction entries generalizing draft with
  | nil => exact written
  | cons entry rest ih => exact ih (allWritten_observer written entry)

/-- The flow graph of the observers has such identifiers only. -/
theorem written_ofObservers (observers : Observers) : (ofObservers observers).Written := by
  have shown := shows_sorted observers
  have given : (observers.sorted.foldl Draft.observer .empty).ids.AllWritten :=
    Draft.allWritten_observers observers.sorted fun _ member => by cases member
  have nodes : ∀ node ∈ (ofObservers observers).nodes, NodeIds.Written node.id := by
    intro node member
    apply given
    rw [shown.used_eq]
    exact List.mem_map_of_mem (f := Node.id) member
  refine ⟨nodes, fun edge member => ?_⟩
  obtain ⟨relation, -, ends⟩ := shown.exists_relation member
  obtain ⟨source, target⟩ := Prod.mk.inj ends
  obtain ⟨first, isFirst, firstId, -⟩ := exists_node_of_entity? source
  obtain ⟨last, isLast, lastId, -⟩ := exists_node_of_entity? target
  exact ⟨firstId ▸ nodes first isFirst, lastId ▸ nodes last isLast⟩

end Graph

end Flow

end EventAtlas
