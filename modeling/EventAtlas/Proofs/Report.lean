import EventAtlas.Proofs.NameSet
import EventAtlas.Proofs.Roster
import EventAtlas.Report
import EventAtlas.Report.Catalog
import Mathlib.Data.List.Nodup
import Mathlib.Data.List.Pairwise

/-!
# What the tables of a report list

The events are listed with the observers that react to them, each event and each of its observers
once. The catalog lists every endpoint once, however many classes show it.
-/

namespace EventAtlas.Report

/-! ### Events -/

section Events

variable {observers : Observers}

/-- The events of all observers are those that some observer reacts to. -/
theorem mem_eventNames {event : String} : event ∈ Coverage.eventNames observers ↔
    ∃ entry ∈ observers.entries, event ∈ entry.2.events := by
  rw [Coverage.eventNames, Roster.values, NameSet.mem_ofList, List.flatMap_map]
  exact List.mem_flatMap

/-- The observers of an event are those that react to it. -/
theorem mem_observersOf {event : String} {observer : ClassId} :
    observer ∈ observersOf observers event ↔
      ∃ record, (observer, record) ∈ observers.entries ∧ event ∈ record.events := by
  simp [observersOf]

/-- The listed events are those of all observers, in increasing order. -/
theorem keys_byEvent (observers : Observers) :
    (byEvent observers).map Prod.fst = (Coverage.eventNames observers).sorted := by
  rw [byEvent, List.map_map]
  exact List.map_id _

/-- There are as many of them. -/
theorem length_byEvent (observers : Observers) :
    (byEvent observers).length = (Coverage.eventNames observers).size := by
  rw [byEvent, List.length_map, NameSet.length_sorted]

/-- The events with the observers listed for them, one pair after the other. -/
def reactionsByEvent (observers : Observers) : List (String × ClassId) :=
  (byEvent observers).flatMap fun group => group.2.map (group.1, ·)

/-- An observer is listed for an event when it reacts to it. -/
theorem mem_reactionsByEvent {event : String} {observer : ClassId} :
    (event, observer) ∈ reactionsByEvent observers ↔
      ∃ record, (observer, record) ∈ observers.entries ∧ event ∈ record.events := by
  simp only [reactionsByEvent, byEvent, List.flatMap_map, List.mem_flatMap, List.mem_map,
    NameSet.mem_sorted, mem_observersOf, Prod.mk.injEq]
  constructor
  · rintro ⟨_, -, _, listed, rfl, rfl⟩
    exact listed
  · rintro ⟨record, entered, reacts⟩
    exact ⟨event, mem_eventNames.2 ⟨_, entered, reacts⟩, observer, ⟨record, entered, reacts⟩,
      rfl, rfl⟩

/-- No observer is listed twice for an event. -/
theorem reactionsByEvent_nodup (observers : Observers) : (reactionsByEvent observers).Nodup := by
  rw [reactionsByEvent, byEvent, List.flatMap_map, List.nodup_flatMap]
  constructor
  · intro event _
    exact (nodup_of_lt (NameSet.sorted_lt _)).map fun _ _ same => (Prod.mk.inj same).2
  · refine (NameSet.sorted_lt _).imp fun {left right} less => ?_
    rintro ⟨event, observer⟩ inLeft inRight
    obtain ⟨_, -, sameLeft⟩ := List.mem_map.1 inLeft
    obtain ⟨_, -, sameRight⟩ := List.mem_map.1 inRight
    exact Std.ne_of_lt less
      ((Prod.mk.inj sameLeft).1.trans (Prod.mk.inj sameRight).1.symm)

end Events

/-! ### Endpoints -/

section Endpoints

variable {index : ApiIndex}

/-- The catalog has the endpoints of all classes. -/
theorem mem_catalogEndpoints {endpoint : String} : endpoint ∈ catalogEndpoints index ↔
    ∃ id found, index.get? id = some found ∧ endpoint ∈ found.endpoints := by
  rw [catalogEndpoints, NameSet.mem_ofList, Roster.values, List.flatMap_map]
  simp only [List.mem_flatMap, Prod.exists, NameSet.mem_names, Roster.get?_eq_some_iff]

/-- The counted endpoints are those of the classes, one class after the other. -/
theorem total_endpoints (index : ApiIndex) :
    total (index.values.map (·.endpoints.size)) =
      (index.values.flatMap (·.endpoints.names)).length :=
  List.length_flatMap.symm

/-- The catalog has at most as many endpoints as the classes together. -/
theorem size_catalogEndpoints_le (index : ApiIndex) :
    (catalogEndpoints index).size ≤ total (index.values.map (·.endpoints.size)) := by
  rw [catalogEndpoints, NameSet.size_ofList, total_endpoints]
  exact (eraseDups_sublist _).length_le

/-- The catalog has as many endpoints as the classes together exactly when no two classes share
an endpoint. -/
theorem size_catalogEndpoints_eq_iff :
    (catalogEndpoints index).size = total (index.values.map (·.endpoints.size)) ↔
      ∀ id found other found', index.get? id = some found → index.get? other = some found' →
        ∀ endpoint, endpoint ∈ found.endpoints → endpoint ∈ found'.endpoints → id = other := by
  rw [catalogEndpoints, NameSet.size_ofList, total_endpoints, length_eraseDups_eq_iff,
    List.nodup_flatMap, Roster.values, List.pairwise_map]
  constructor
  · rintro ⟨-, apart⟩ id found other found' held held' endpoint shown shown'
    by_contra differs
    have symmetric : Std.Symm fun left right : ClassId × ApiClass =>
        List.Disjoint left.2.endpoints.names right.2.endpoints.names :=
      ⟨fun _ _ => List.disjoint_symm⟩
    exact apart.forall (Roster.get?_eq_some_iff.1 held) (Roster.get?_eq_some_iff.1 held')
      (fun same => differs (congrArg Prod.fst same)) shown shown'
  · intro once
    refine ⟨fun found _ => found.endpoints.nodup, ?_⟩
    refine index.distinct.of_map.pairwise_of_forall_ne ?_
    rintro ⟨id, found⟩ held ⟨other, found'⟩ held' differs endpoint shown shown'
    have same := once id found other found' (Roster.get?_eq_some_iff.2 held)
      (Roster.get?_eq_some_iff.2 held') endpoint shown shown'
    subst same
    -- Under one identifier stands one class.
    have again := (Roster.get?_eq_some_iff.2 held).symm.trans (Roster.get?_eq_some_iff.2 held')
    exact differs (congrArg (Prod.mk id) (Option.some.inj again))

end Endpoints

end EventAtlas.Report
