import EventAtlas.Proofs.Result
import EventAtlas.Proofs.Roster.Map
import EventAtlas.Report
import EventAtlas.Report.Catalog
import Mathlib.Data.List.Forall2
import Mathlib.Data.List.Flatten

/-!
# What a report tells of paths

The sources of classes are told nowhere in a report. The source of an observer only counts as there
or not there, except for the link to it. So other paths in their place give the same report, as long
as the links are the same.
-/

namespace EventAtlas

/-- The class with another path in place of its source. -/
def ApiClass.mapSource (change : Path → Path) (found : ApiClass) : ApiClass :=
  { found with source := change found.source }

/-- The observer with another path in place of its source. -/
def Observer.mapSource (change : Path → Path) (observer : Observer) : Observer :=
  { observer with source := observer.source.map change }

/-- The classes with other paths in place of their sources. -/
def ApiIndex.mapSources (change : Path → Path) (index : ApiIndex) : ApiIndex :=
  index.mapValues (ApiClass.mapSource change)

/-- The observers with other paths in place of their sources. -/
def Observers.mapSources (change : Path → Path) (observers : Observers) : Observers :=
  observers.mapValues (Observer.mapSource change)

/-- The report on a module at another path, with other paths in place of all sources. -/
def Report.mapSources (change : Path → Path) (moduleDir : Option Path) (report : Report) : Report :=
  { report with
    index := ApiIndex.mapSources change report.index
    observers := Observers.mapSources change report.observers
    moduleDir := moduleDir }

variable {change : Path → Path} {moduleDir : Option Path}

/-- The flow graph has no paths in it. -/
theorem Flow.Graph.ofObservers_mapSources (observers : Observers) :
    ofObservers (observers.mapSources change) = ofObservers observers := by
  rw [ofObservers, ofObservers, Observers.mapSources, Roster.sorted_mapValues, List.foldl_map]
  rfl

namespace Coverage

theorem eventNames_mapSources (observers : Observers) :
    eventNames (observers.mapSources change) = eventNames observers := by
  rw [eventNames, eventNames, Observers.mapSources, Roster.values_mapValues, List.flatMap_map]
  rfl

/-- No path counts for the headlines. -/
theorem compute_mapSources (index : ApiIndex) (observers : Observers) :
    compute (index.mapSources change) (observers.mapSources change) = compute index observers := by
  rw [compute, compute, eventNames_mapSources, Observers.mapSources, ApiIndex.mapSources,
    Roster.size_mapValues, Roster.size_mapValues, Roster.values_mapValues, List.map_map]
  rfl

end Coverage

namespace Gap

/-- Gaps depend on which sources are there, whatever their paths are. -/
theorem detect_mapSources (index : ApiIndex) (observers : Observers) :
    detect (index.mapSources change) (observers.mapSources change) = detect index observers := by
  have source (observer : Observer) :
      (observer.mapSource change).source.isNone = observer.source.isNone ∧
        (observer.mapSource change).source.isSome = observer.source.isSome := by
    simp [Observer.mapSource]
  have missing : missingSources (observers.mapSources change) = missingSources observers := by
    simp only [missingSources, Observers.mapSources, Roster.sorted_mapValues, List.filter_map,
      List.map_map, Function.comp_def, (source _).1]
  have unattributed : unattributedObservers (observers.mapSources change) =
      unattributedObservers observers := by
    simp only [unattributedObservers, Observers.mapSources, Roster.sorted_mapValues,
      List.filter_map, List.map_map, Function.comp_def, (source _).2]
    rfl
  have reached (id : ClassId) : isReached (observers.mapSources change) id =
      isReached observers id := by
    simp only [isReached, declaredServices, Observers.mapSources, Roster.values_mapValues,
      List.any_map, List.flatMap_map]
    rfl
  have unreached : unreachedClasses (index.mapSources change) (observers.mapSources change) =
      unreachedClasses index observers := by
    simp only [unreachedClasses, ApiIndex.mapSources, Roster.keys_mapValues, reached]
  unfold detect
  refine List.flatMap_congr fun kind _ => ?_
  cases kind <;> simp only [ofKind, subjects, missing, unattributed, unreached]

end Gap

namespace Report

/-- The catalog has no paths in it. -/
theorem catalog_mapSources (index : ApiIndex) :
    catalog (index.mapSources change) = catalog index := by
  have endpoints : catalogEndpoints (index.mapSources change) = catalogEndpoints index := by
    rw [catalogEndpoints, catalogEndpoints, ApiIndex.mapSources, Roster.values_mapValues,
      List.flatMap_map]
    rfl
  rw [catalog, catalog, catalogRows, catalogRows, endpoints]

theorem byEvent_mapSources (observers : Observers) :
    byEvent (observers.mapSources change) = byEvent observers := by
  have reacting (event : String) :
      observersOf (observers.mapSources change) event = observersOf observers event := by
    simp only [observersOf, Observers.mapSources, Roster.mapValues, List.filter_map, List.map_map]
    rfl
  simp only [byEvent, Coverage.eventNames_mapSources, reacting]

/-- A report has the same text with other paths that give the same links to observers. -/
theorem build_mapSources {report : Report}
    (links : ∀ entry ∈ report.observers.entries,
      (report.mapSources change moduleDir).observerLink (entry.2.mapSource change) =
        report.observerLink entry.2) (coverage : Option Coverage) :
    (report.mapSources change moduleDir).build coverage = report.build coverage := by
  have events : (report.mapSources change moduleDir).eventSection = report.eventSection := by
    simp only [eventSection, mapSources, byEvent_mapSources]
  have diagram : (report.mapSources change moduleDir).diagramSection = report.diagramSection := by
    simp only [diagramSection, Diagram.generate, mapSources, Flow.Graph.ofObservers_mapSources]
  have observers : (report.mapSources change moduleDir).observerSection =
      report.observerSection := by
    have pairs : List.Forall₂ (fun entry other : String × Observer =>
        other ∈ report.observers.entries ∧ entry = (other.1, other.2.mapSource change))
        (report.mapSources change moduleDir).observers.sorted report.observers.sorted := by
      rw [mapSources, Observers.mapSources, Roster.sorted_mapValues, List.forall₂_map_left_iff,
        List.forall₂_same]
      exact fun entry member => ⟨Roster.mem_sorted.1 member, rfl⟩
    rw [observerSection, observerSection, mapM_congr_of_forall₂ pairs]
    rintro _ entry ⟨member, rfl⟩
    rw [links entry member]
    rfl
  have gaps : (report.mapSources change moduleDir).gapSection = report.gapSection := by
    simp only [gapSection, mapSources, Gap.detect_mapSources]
  have counted : Coverage.compute (report.mapSources change moduleDir).index
      (report.mapSources change moduleDir).observers =
        .compute report.index report.observers := Coverage.compute_mapSources ..
  simp only [build, render, counted, events, diagram, observers, gaps]

end Report

end EventAtlas
