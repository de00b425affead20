import EventAtlas.Analysis
import EventAtlas.Proofs.Flow.Labels
import EventAtlas.Proofs.Report
import EventAtlas.Proofs.Survey.Attribution

/-!
# The views of an analysis agree

The headline counts, the table of events, the flow graph and the catalog are made from the
registrations, the observers and the index, each in its own way. They agree because the observers
react to just those events for which they are registered, and because whatever is attributed to
them stands in the index.
-/

namespace EventAtlas

/-- Analysing succeeds when indexing, finding registrations and resolving observers do; the counts
are made from what they give. -/
theorem Survey.analyze_eq_ok_iff {workspace : Workspace} {survey : Survey} {analysis : Analysis} :
    (survey.analyze workspace).result = .ok analysis ↔
      ∃ indexing, (survey.buildIndex workspace).result = .ok indexing ∧
        analysis.index = indexing.index ∧
        (survey.findLinks workspace).result = .ok analysis.links ∧
        (Observers.resolve workspace analysis.index survey.verbose analysis.links).result =
          .ok analysis.observers ∧
        analysis.coverage = .compute analysis.index analysis.observers := by
  constructor
  · intro analyzed
    obtain ⟨indexing, built, analyzed⟩ := Trace.result_bind_eq_ok_iff.1 analyzed
    obtain ⟨_, -, analyzed⟩ := Trace.result_bind_eq_ok_iff.1 analyzed
    obtain ⟨links, found, analyzed⟩ := Trace.result_bind_eq_ok_iff.1 analyzed
    obtain ⟨_, -, analyzed⟩ := Trace.result_bind_eq_ok_iff.1 analyzed
    obtain ⟨observers, resolved, analyzed⟩ := Trace.result_bind_eq_ok_iff.1 analyzed
    obtain ⟨_, -, analyzed⟩ := Trace.result_bind_eq_ok_iff.1 analyzed
    cases analyzed
    exact ⟨indexing, built, rfl, found, resolved, rfl⟩
  · obtain ⟨index, links, observers, coverage⟩ := analysis
    rintro ⟨indexing, built, rfl, found, resolved, covered⟩
    dsimp only at covered
    subst covered
    refine Trace.result_bind_eq_ok_iff.2 ⟨indexing, built, ?_⟩
    refine Trace.result_bind_eq_ok_iff.2 ⟨(), rfl, ?_⟩
    refine Trace.result_bind_eq_ok_iff.2 ⟨links, found, ?_⟩
    refine Trace.result_bind_eq_ok_iff.2 ⟨(), rfl, ?_⟩
    refine Trace.result_bind_eq_ok_iff.2 ⟨observers, resolved, ?_⟩
    exact Trace.result_bind_eq_ok_iff.2 ⟨(), rfl, rfl⟩

/-- A module whose source files are listed, whose registrations are found and whose observers can be
resolved is analysed. -/
theorem Survey.exists_analysis {workspace : Workspace} {survey : Survey} {files : List Path}
    {links : List Link} (listed : survey.sourceFiles workspace = .ok files)
    (found : (survey.findLinks workspace).result = .ok links)
    (checkable : Observers.Checkable workspace links) :
    ∃ analysis, (survey.analyze workspace).result = .ok analysis ∧ analysis.links = links := by
  obtain ⟨indexing, built⟩ : ∃ indexing, (survey.buildIndex workspace).result = .ok indexing := by
    rw [buildIndex, result_buildIndexOnto, listed]
    exact ⟨_, rfl⟩
  obtain ⟨observers, resolved⟩ : ∃ observers,
      (Observers.resolve workspace indexing.index survey.verbose links).result = .ok observers :=
    ⟨_, Observers.result_resolve checkable survey.verbose⟩
  exact ⟨⟨indexing.index, links, observers, .compute indexing.index observers⟩,
    analyze_eq_ok_iff.2 ⟨_, built, rfl, found, resolved, rfl⟩, rfl⟩

namespace Analysis

/-- The flow graph that an analysis is drawn as. -/
abbrev graph (analysis : Analysis) : Flow.Graph :=
  .ofObservers analysis.observers

/-- The independent views of an analysis tell the same. -/
structure ViewsAgree (analysis : Analysis) : Prop where
  events_registered :
    analysis.coverage.events = (analysis.links.map (·.event)).eraseDups.length
  events_listed : analysis.coverage.events = (Report.byEvent analysis.observers).length
  /-- The keys of the table of events are distinct. -/
  events_increase : ((Report.byEvent analysis.observers).map Prod.fst).Pairwise (· < ·)
  events_drawn : analysis.coverage.events = (analysis.graph.labels .event).length
  observers_registered :
    analysis.coverage.observers = (analysis.links.map (·.observer)).eraseDups.length
  observers_drawn : analysis.coverage.observers = (analysis.graph.labels .observer).length
  apiClasses_indexed : analysis.coverage.apiClasses = analysis.index.size
  /-- The edges from events to observers are the pairs of the table of events. -/
  reactions_listed :
    analysis.graph.reactions.Perm (Report.reactionsByEvent analysis.observers)
  endpoints_indexed : ∀ endpoint ∈ analysis.graph.labels .api,
    ∃ id found, analysis.index.get? id = some found ∧ endpoint ∈ found.endpoints
  catalog_le : (Report.catalogEndpoints analysis.index).size ≤ analysis.coverage.endpoints
  /-- The catalog is as long as the headline says exactly when no classes share an endpoint. -/
  catalog_eq_iff :
    (Report.catalogEndpoints analysis.index).size = analysis.coverage.endpoints ↔
      ∀ id found other found', analysis.index.get? id = some found →
        analysis.index.get? other = some found' →
          ∀ endpoint, endpoint ∈ found.endpoints → endpoint ∈ found'.endpoints → id = other

/-- The events that are counted are those of the event nodes. -/
theorem size_eventNames_eq_labels (observers : Observers) :
    (Coverage.eventNames observers).size =
      ((Flow.Graph.ofObservers observers).labels .event).length :=
  NameSet.size_eq_length Flow.Graph.labels_nodup fun event => by
    rw [Flow.Graph.mem_labels_iff, Flow.Graph.occurs_event_iff, Report.mem_eventNames]

/-- The observers that are counted are those of the observer nodes. -/
theorem size_eq_labels (observers : Observers) :
    observers.size = ((Flow.Graph.ofObservers observers).labels .observer).length := by
  rw [Roster.size_eq_length_keys]
  refine ((List.perm_ext_iff_of_nodup observers.nodup_keys Flow.Graph.labels_nodup).2
    fun id => ?_).length_eq
  rw [Flow.Graph.mem_labels_iff, Flow.Graph.occurs_observer_iff]

/-- The edges from events to observers are the pairs of the table of events. -/
theorem reactions_perm (observers : Observers) :
    (Flow.Graph.ofObservers observers).reactions.Perm (Report.reactionsByEvent observers) := by
  refine (List.perm_ext_iff_of_nodup Flow.Graph.reactions_nodup
    (Report.reactionsByEvent_nodup observers)).2 ?_
  rintro ⟨event, observer⟩
  rw [Flow.Graph.mem_reactions_iff, Flow.Graph.flows_event_iff, Report.mem_reactionsByEvent]

section Resolved

variable {workspace : Workspace} {index : ApiIndex} {verbose : Bool} {links : List Link}
  {observers : Observers}

/-- The events of resolved observers are those that are registered. -/
theorem size_eventNames_of_resolve
    (resolved : (Observers.resolve workspace index verbose links).result = .ok observers) :
    (Coverage.eventNames observers).size = (links.map (·.event)).eraseDups.length := by
  obtain ⟨-, rfl⟩ := Observers.resolve_eq_ok_iff.1 resolved
  refine NameSet.size_eq_length (nodup_eraseDups _) fun event => ?_
  rw [List.mem_eraseDups, List.mem_map, Report.mem_eventNames]
  constructor
  · rintro ⟨link, member, rfl⟩
    obtain ⟨observer, entered, reacts⟩ :=
      Observers.reacts_gather_take_iff.2 ⟨link, member, rfl, rfl⟩
    exact ⟨_, entered, reacts⟩
  · rintro ⟨_, entered, reacts⟩
    obtain ⟨link, member, -, same⟩ := Observers.reacts_gather_take_iff.1 ⟨_, entered, reacts⟩
    exact ⟨link, member, same⟩

/-- The resolved observers are those that are registered. -/
theorem size_of_resolve
    (resolved : (Observers.resolve workspace index verbose links).result = .ok observers) :
    observers.size = (links.map (·.observer)).eraseDups.length := by
  obtain ⟨-, rfl⟩ := Observers.resolve_eq_ok_iff.1 resolved
  rw [Roster.size_eq_length_keys, Roster.keys_gather_empty]

/-- On a sound index, every endpoint in the graph of resolved observers is indexed. -/
theorem indexed_of_mem_labels (sound : Sound index)
    (resolved : (Observers.resolve workspace index verbose links).result = .ok observers)
    {endpoint : String} (drawn : endpoint ∈ (Flow.Graph.ofObservers observers).labels .api) :
    ∃ id found, index.get? id = some found ∧ endpoint ∈ found.endpoints := by
  obtain ⟨-, rfl⟩ := Observers.resolve_eq_ok_iff.1 resolved
  rw [Flow.Graph.mem_labels_iff, Flow.Graph.occurs_api_iff] at drawn
  obtain ⟨⟨id, observer⟩, entered, attributed⟩ := drawn
  obtain ⟨-, rfl⟩ := Observers.get?_gather_take.1 (Roster.get?_eq_some_iff.2 entered)
  obtain ⟨other, -, found, held, shown⟩ :=
    ((Observers.attributed_record sound links id).endpoints endpoint).1 attributed
  exact ⟨other, found, held, shown⟩

end Resolved

section Analyzed

variable {workspace : Workspace} {survey : Survey} {analysis : Analysis}

/-- The observers of an analysis react to the events for which they are registered. -/
theorem reacts_iff (analyzed : (survey.analyze workspace).result = .ok analysis) {event : String}
    {id : ClassId} :
    (∃ observer, (id, observer) ∈ analysis.observers.entries ∧ event ∈ observer.events) ↔
      ∃ link ∈ analysis.links, link.observer = id ∧ link.event = event := by
  obtain ⟨_, -, -, -, resolved, -⟩ := Survey.analyze_eq_ok_iff.1 analyzed
  rw [(Observers.resolve_eq_ok_iff.1 resolved).2]
  exact Observers.reacts_gather_take_iff

/-- The observers of an analysis are the records of those that are registered. -/
theorem mem_observers_iff (analyzed : (survey.analyze workspace).result = .ok analysis)
    {id : ClassId} {observer : Observer} :
    (id, observer) ∈ analysis.observers.entries ↔
      (∃ link ∈ analysis.links, link.observer = id) ∧ observer =
        Observers.record workspace analysis.index id (Observers.own analysis.links id) := by
  obtain ⟨_, -, -, -, resolved, -⟩ := Survey.analyze_eq_ok_iff.1 analyzed
  rw [← Roster.get?_eq_some_iff, (Observers.resolve_eq_ok_iff.1 resolved).2]
  exact Observers.get?_gather_take

end Analyzed

end Analysis

/-! ### A configured module

The module also holds its observer and a configuration, which registers the observer for two
events, and for one of them an observer that is missing. -/

namespace Shop

/-- The configuration. -/
def eventsText : String :=
  "<config><event name='placed'><observer instance='Placed'/><observer instance='Gone'/></event>" ++
    "<event name='paid'><observer instance='Placed'/></event></config>"

/-- The module with the observer and the configuration. -/
def configured : Workspace where
  tree :=
    { entries := [(["lib"], .directory),
        (["lib", "Client.php"], .file (Text.Utf8.encode clientText)),
        (["lib", "Placed.php"], .file (Text.Utf8.encode placedText)),
        (["lib", "events.xml"], .file (Text.Utf8.encode eventsText))]
      distinct := by simp }
  current := []

/-- The registrations in the configuration. -/
def registrations : List Link :=
  [("placed", "Placed"), ("placed", "Gone"), ("paid", "Placed")].map fun (event, observer) =>
    { event := event
      observer := observer
      source := some (.ofString ("lib/" ++ observer ++ ".php"))
      config := some (.ofString "lib/events.xml") }

theorem childNames_configured :
    configured.tree.childNames ["lib"] = ["Client.php", "Placed.php", "events.xml"] := by
  decide +kernel

theorem sourceFiles_configured : survey.sourceFiles configured =
    .ok [.ofString "lib/Client.php", .ofString "lib/Placed.php"] := by
  have found : Survey.search configured (.ofString "lib") pattern =
      .ok [.ofString "lib/Client.php", .ofString "lib/Placed.php"] :=
    search_wild _ rfl rfl rfl childNames_configured (by cbv) (by decide +kernel)
  rw [sourceFiles_of_search found]
  rfl

theorem findLinks_configured : (survey.findLinks configured).result = .ok registrations := by
  have found : Survey.search configured (.ofString "lib") [.wild [.many]] =
      .ok [.ofString "lib/Client.php", .ofString "lib/Placed.php", .ofString "lib/events.xml"] :=
    search_wild _ rfl rfl rfl childNames_configured (by cbv) (by decide +kernel)
  have configs : survey.configFiles configured = .ok [.ofString "lib/events.xml"] := by
    rw [configFiles_of_search found]
    rfl
  have read : (survey.fileLinks configured (.ofString "lib/events.xml")).result =
      .ok registrations :=
    eq_ok_of_toOption (by decide +kernel)
  refine Trace.result_bind_eq_ok_iff.2 ⟨_, configs, ?_⟩
  refine Trace.result_bind_eq_ok_iff.2 ⟨[registrations], ?_, rfl⟩
  exact Trace.result_bind_eq_ok_iff.2 ⟨registrations, read, rfl⟩

theorem checkable_configured : Observers.Checkable configured registrations := by
  intro link member path pointed
  simp only [registrations, List.map_cons, List.map_nil, List.mem_cons, List.not_mem_nil,
    or_false] at member
  rcases member with rfl | rfl | rfl <;> cases pointed
  · exact ⟨true, by decide +kernel⟩
  · exact ⟨false, by decide +kernel⟩
  · exact ⟨true, by decide +kernel⟩

/-- The configured module can be analysed. -/
theorem analyze_configured : ∃ analysis, (survey.analyze configured).result = .ok analysis ∧
    analysis.links = registrations :=
  Survey.exists_analysis sourceFiles_configured findLinks_configured checkable_configured

end Shop

namespace Analysis

/-- Whenever a module is analysed, the views of the analysis agree. -/
theorem views_agree {workspace : Workspace} {survey : Survey} {analysis : Analysis}
    (analyzed : (survey.analyze workspace).result = .ok analysis) : analysis.ViewsAgree := by
  obtain ⟨index, links, observers, coverage⟩ := analysis
  obtain ⟨indexing, built, indexed, -, resolved, covered⟩ := Survey.analyze_eq_ok_iff.1 analyzed
  dsimp only at indexed resolved covered
  subst indexed covered
  exact
    { events_registered := size_eventNames_of_resolve resolved
      events_listed := (Report.length_byEvent observers).symm
      events_increase := by
        rw [Report.keys_byEvent]
        exact NameSet.sorted_lt _
      events_drawn := size_eventNames_eq_labels observers
      observers_registered := size_of_resolve resolved
      observers_drawn := size_eq_labels observers
      apiClasses_indexed := rfl
      reactions_listed := reactions_perm observers
      endpoints_indexed := fun _ => indexed_of_mem_labels (sound_of_buildIndex built) resolved
      catalog_le := Report.size_catalogEndpoints_le _
      catalog_eq_iff := Report.size_catalogEndpoints_eq_iff }

theorem views_agree_configured :
    ∃ analysis, (Shop.survey.analyze Shop.configured).result = .ok analysis ∧
      analysis.ViewsAgree ∧ analysis.coverage.events = 2 ∧ analysis.coverage.observers = 2 := by
  obtain ⟨analysis, analyzed, registered⟩ := Shop.analyze_configured
  have agree := views_agree analyzed
  refine ⟨analysis, analyzed, agree, ?_, ?_⟩
  · rw [agree.events_registered, registered]
    rfl
  · rw [agree.observers_registered, registered]
    rfl

end Analysis

end EventAtlas
