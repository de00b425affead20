import EventAtlas.Proofs.Api.Plain
import EventAtlas.Proofs.ClassId
import EventAtlas.Proofs.Documentation
import EventAtlas.Proofs.Gap
import EventAtlas.Proofs.Report.Row
import EventAtlas.Proofs.Survey.Resolvable

/-!
# The tables of a report

What a source shows is plain, and so is the link to it where the extension and the address are
plain. What is left are the events and the observers, which come from configurations as they are,
and the identifiers of classes. So each table of a report has its rows and columns exactly if these
are plain.
-/

namespace EventAtlas

open Text

/-! ### Links to sources -/

namespace Path

/-- A path of plain parts is written plainly. -/
theorem plain_toString {path : Path} (plain : ∀ part ∈ path.parts, Plain part) :
    Plain path.toString := by
  unfold toString
  split
  · decide +kernel
  · have anchor : Plain path.anchor.text := by cases path.anchor <;> decide +kernel
    exact anchor.append (plain_join (by decide +kernel) plain)

/-- The parts of a plain text are plain. -/
theorem plain_of_mem_parts {written part : String} (plain : Plain written)
    (member : part ∈ (ofString written).parts) : Plain part := by
  obtain ⟨field, kept, rfl⟩ := List.mem_map.1 member
  exact plain_ofList fun c inside =>
    plain c (mem_of_mem_fields (List.mem_filter.1 kept).1 inside)

/-- What is left of a joined path below its front are parts of its tail. -/
theorem mem_parts_of_relativeTo?_join {base tail file : Path}
    (below : (base.join tail).relativeTo? base = some file) {part : String}
    (member : part ∈ file.parts) : part ∈ tail.parts := by
  unfold relativeTo? at below
  split at below
  · cases below
    dsimp only at member
    unfold join at member
    split at member
    · exact List.mem_of_mem_drop member
    · simpa using member
  · cases below

end Path

/-- The source of a plain observer is expected below the module under plain names. -/
theorem Link.plain_of_relativeTo?_candidatePath {moduleDir file : Path} {extension : String}
    {id : ClassId} (plain : Plain id) (plainExtension : Plain extension)
    (below : (candidatePath moduleDir extension id).relativeTo? moduleDir = some file) :
    Plain file.toString := by
  refine Path.plain_toString fun part member => ?_
  refine Path.plain_of_mem_parts ?_ (Path.mem_parts_of_relativeTo?_join below member)
  refine Plain.append (plain_ofList fun c inside => ?_) plainExtension
  obtain ⟨d, canonical, rfl⟩ := List.mem_map.1 inside
  rw [ClassId.canonical, String.toList_ofList] at canonical
  split
  · decide
  · exact plain d (ClassId.mem_of_mem_canonicalChars canonical)

namespace SourceAddress

/-- The address can stand in a row. -/
def IsPlain : SourceAddress → Prop
  | .none => True
  | .url text => Plain text
  | .notText => False

/-- A plain address is a text, or there is none. -/
theorem IsPlain.ne_notText {address : SourceAddress} (plain : address.IsPlain) :
    address ≠ .notText := by
  rintro rfl
  exact plain

/-- A plain address stays plain without the slashes at its end. -/
theorem plain_trimmed {text : String} (plain : Plain text) : Plain (trimmed text) :=
  plain_ofList fun c member => plain c ((List.rdropWhile_prefix _ _).subset member)

end SourceAddress

namespace Report

/-- An observer with a plain identifier whose source is expected where the identifier leads is
linked plainly. -/
theorem plain_of_mem_linkTexts {report : Report} {observer : Observer} {moduleDir : Path}
    {extension : String} (inside : report.moduleDir = some moduleDir)
    (plainAddress : report.address.IsPlain) (plainExtension : Plain extension)
    (expected : ∀ source, observer.source = some source →
      source = Link.candidatePath moduleDir extension observer.id)
    (plain : Plain observer.id) {text : String} (member : text ∈ report.linkTexts observer) :
    Plain text := by
  unfold linkTexts at member
  split at member
  · next file url linked address =>
    rw [address] at plainAddress
    obtain ⟨source, given, below⟩ := Option.bind_eq_some_iff.1 linked
    rw [inside, Option.bind_some, expected source given] at below
    simp only [List.mem_cons, List.not_mem_nil, or_false] at member
    rcases member with rfl | rfl | rfl
    · exact plain
    · exact SourceAddress.plain_trimmed plainAddress
    · exact Link.plain_of_relativeTo?_candidatePath plain plainExtension below
  · rw [List.mem_singleton.1 member]
    exact plain

end Report

/-! ### What an index shows -/

/-- Everything that a class shows of its use of the service is plain. -/
theorem ApiClass.ReadFrom.plain {path : Path} {source : String} {found : ApiClass}
    (read : ReadFrom path source found) :
    (∀ endpoint ∈ found.endpoints, Plain endpoint) ∧ ∀ call ∈ found.sdkCalls, Plain call := by
  rw [read.endpoints, read.sdkCalls]
  exact ⟨fun _ shown => Endpoint.plain_of_mem_detect shown, fun _ shown => plain_of_mem_callsOf shown⟩

namespace Observers

variable {workspace : Workspace} {index : ApiIndex} {links : List Link} {id : ClassId}

/-- The types that a source declares are plain. -/
theorem plain_of_mem_declaredTypes {source declared : String}
    (member : declared ∈ Observer.declaredTypes source) : Plain declared := by
  unfold Observer.declaredTypes at member
  split at member
  · exact Source.plain_of_mem_parameterTypes member
  · cases member

/-- The services of a record are plain. -/
theorem plain_of_mem_services {service : String}
    (member : service ∈ (record workspace index id links).services) : Plain service := by
  rw [record_services] at member
  obtain ⟨source, -, declared⟩ := List.mem_flatMap.1 member
  exact plain_of_mem_declaredTypes declared

/-- What a record is credited with is plain if the index shows only what is plain. -/
theorem plain_of_mem_record {view : Observer → NameSet} {part : ApiClass → String → Prop}
    (credited : Observer.Credited view part)
    (plain : ∀ name found, index.get? name = some found → ∀ text, part found text → Plain text)
    {text : String} (member : text ∈ view (record workspace index id links)) : Plain text := by
  obtain ⟨source, -, found, ⟨declared, -, matched⟩, shown⟩ := (mem_record credited).1 member
  obtain ⟨name, -, held⟩ := get?_of_find? matched
  exact plain name found held text shown

/-- The source of a record is one that a registration expects. -/
theorem exists_of_source_record {path : Path}
    (given : (record workspace index id links).source = some path) :
    ∃ link ∈ links, link.source = some path := by
  rw [record_source, Option.map_eq_some_iff] at given
  obtain ⟨source, last, rfl⟩ := given
  obtain ⟨link, member, given⟩ := List.mem_filterMap.1 (List.mem_of_getLast? last)
  obtain ⟨path, pointed, given⟩ := Option.bind_eq_some_iff.1 given
  split at given
  · cases given
    exact ⟨link, member, pointed⟩
  · cases given

end Observers

/-! ### The tables of an analysis -/

/-- The events and observers of registrations are plain. -/
def PlainLinks (links : List Link) : Prop :=
  ∀ link ∈ links, Plain link.event ∧ Plain link.observer

instance (links : List Link) : Decidable (PlainLinks links) :=
  inferInstanceAs (Decidable (∀ link ∈ links, Plain link.event ∧ Plain link.observer))

namespace Analysis

variable {workspace : Workspace} {survey : Survey} {analysis : Analysis}

/-- The source of an observer of an analysis is expected where the observer's identifier leads. -/
theorem source_of_mem_observers (analyzed : (survey.analyze workspace).result = .ok analysis)
    {id : ClassId} {observer : Observer} (entered : (id, observer) ∈ analysis.observers.entries)
    {source : Path} (given : observer.source = some source) :
    source = Link.candidatePath survey.moduleDir survey.extension id := by
  obtain ⟨-, rfl⟩ := (mem_observers_iff analyzed).1 entered
  obtain ⟨_, -, -, found, -⟩ := Survey.analyze_eq_ok_iff.1 analyzed
  obtain ⟨link, own, pointed⟩ := Observers.exists_of_source_record given
  obtain ⟨member, same⟩ := List.mem_filter.1 own
  rw [Survey.source_of_findLinks found member, of_decide_eq_true same] at pointed
  exact (Option.some.inj pointed).symm

/-- Everything that the classes of an analysis show is plain. -/
theorem plain_of_index (analyzed : (survey.analyze workspace).result = .ok analysis)
    {id : ClassId} {found : ApiClass} (held : analysis.index.get? id = some found) :
    (∀ endpoint ∈ found.endpoints, Plain endpoint) ∧ ∀ call ∈ found.sdkCalls, Plain call := by
  obtain ⟨indexing, built, indexed, -⟩ := Survey.analyze_eq_ok_iff.1 analyzed
  obtain ⟨_, wins⟩ := firstWins_of_buildIndex built
  obtain ⟨_, _, read⟩ := exists_readFrom_of_firstWins wins (indexed ▸ held)
  exact read.plain

/-- The table of events shows the events and observers of the registrations and nothing else. -/
theorem plain_byEvent_iff (analyzed : (survey.analyze workspace).result = .ok analysis) :
    (∀ group ∈ Report.byEvent analysis.observers, ∀ text ∈ group.1 :: group.2, Plain text) ↔
      PlainLinks analysis.links := by
  simp only [Report.byEvent, List.forall_mem_map, List.forall_mem_cons, NameSet.mem_sorted]
  constructor
  · intro plain link member
    obtain ⟨record, entered, reacts⟩ := (reacts_iff analyzed).2 ⟨link, member, rfl, rfl⟩
    obtain ⟨event, observers⟩ := plain link.event (Report.mem_eventNames.2 ⟨_, entered, reacts⟩)
    exact ⟨event, observers _ (Report.mem_observersOf.2 ⟨record, entered, reacts⟩)⟩
  · intro plain event listed
    obtain ⟨⟨id, record⟩, entered, reacts⟩ := Report.mem_eventNames.1 listed
    obtain ⟨link, member, -, rfl⟩ := (reacts_iff analyzed).1 ⟨record, entered, reacts⟩
    refine ⟨(plain link member).1, fun observer reacts => ?_⟩
    obtain ⟨link, member, rfl, -⟩ := (reacts_iff analyzed).1 (Report.mem_observersOf.1 reacts)
    exact (plain link member).2

/-- The table of observers shows the events and observers of the registrations, and nothing else
that is not plain. -/
theorem plain_observerTexts_iff (analyzed : (survey.analyze workspace).result = .ok analysis)
    {report : Report} (inside : report.moduleDir = some survey.moduleDir)
    (plainExtension : Plain survey.extension) (plainAddress : report.address.IsPlain) :
    (∀ entry ∈ analysis.observers.entries, ∀ text ∈ report.observerTexts entry.2, Plain text) ↔
      PlainLinks analysis.links := by
  have id_eq {id : ClassId} {observer : Observer}
      (entered : (id, observer) ∈ analysis.observers.entries) : observer.id = id := by
    rw [((mem_observers_iff analyzed).1 entered).2]
    exact Observers.record_id
  simp only [Report.observerTexts, List.mem_append, NameSet.mem_sorted]
  constructor
  · intro plain link member
    obtain ⟨observer, entered, reacts⟩ := (reacts_iff analyzed).2 ⟨link, member, rfl, rfl⟩
    have id := plain _ entered _ (.inl (report.id_mem_linkTexts observer))
    rw [id_eq entered] at id
    exact ⟨plain _ entered _ (.inr (.inl reacts)), id⟩
  · rintro plain ⟨id, observer⟩ entered text (linked | event | service | endpoint | call)
    · refine Report.plain_of_mem_linkTexts inside plainAddress plainExtension ?_ ?_ linked
      · rw [id_eq entered]
        exact fun source given => source_of_mem_observers analyzed entered given
      · obtain ⟨link, member, rfl⟩ := ((mem_observers_iff analyzed).1 entered).1
        rw [id_eq entered]
        exact (plain link member).2
    · obtain ⟨link, member, -, rfl⟩ := (reacts_iff analyzed).1 ⟨observer, entered, event⟩
      exact (plain link member).1
    · obtain ⟨-, rfl⟩ := (mem_observers_iff analyzed).1 entered
      exact Observers.plain_of_mem_services service
    · obtain ⟨-, rfl⟩ := (mem_observers_iff analyzed).1 entered
      exact Observers.plain_of_mem_record Observer.credited_endpoints
        (fun _ _ held => (plain_of_index analyzed held).1) endpoint
    · obtain ⟨-, rfl⟩ := (mem_observers_iff analyzed).1 entered
      exact Observers.plain_of_mem_record Observer.credited_sdkCalls
        (fun _ _ held => (plain_of_index analyzed held).2) call

end Analysis

namespace Documentation

/-- Whenever a module with a plain extension and a plain address is analysed, the tables of events
and of observers have a row for each event and for each observer, with the bars between its cells
and no others, exactly if all registered events and observers are plain. The table of gaps is such a
table exactly if the subjects of all gaps are plain, which they are if the classes are plain too. -/
theorem tables_formed_iff {workspace : Workspace} {documentation : Documentation}
    {analysis : Analysis}
    (analyzed : (documentation.survey.analyze workspace).result = .ok analysis)
    (plainExtension : Plain documentation.survey.extension)
    (plainAddress : documentation.address.IsPlain) :
    let report := documentation.report analysis
    let gaps := Gap.detect analysis.index analysis.observers
    (Report.Tabular report.eventSection (analysis.links.map (·.event)).eraseDups.length 3 ↔
      PlainLinks analysis.links) ∧
    (∃ text, report.observerSection = .ok text ∧
      (Report.Tabular text (analysis.links.map (·.observer)).eraseDups.length 6 ↔
        PlainLinks analysis.links)) ∧
    (Report.Tabular report.gapSection gaps.length 4 ↔ ∀ gap ∈ gaps, Plain gap.subject) ∧
    (PlainLinks analysis.links → (∀ id ∈ analysis.index.keys, Plain id) →
      ∀ gap ∈ gaps, Plain gap.subject) := by
  intro report gaps
  obtain ⟨_, -, -, -, resolved, -⟩ := Survey.analyze_eq_ok_iff.1 analyzed
  refine ⟨?_, ?_, Report.tabular_gapSection_iff report, fun plain classes gap member => ?_⟩
  · rw [← Analysis.plain_byEvent_iff analyzed, ← Analysis.size_eventNames_of_resolve resolved,
      ← Report.length_byEvent]
    exact Report.tabular_eventSection_iff report
  · have plain : report.address.IsPlain := plainAddress
    obtain ⟨text, made, formed⟩ := Report.exists_tabular_observerSection_iff plain.ne_notText
    refine ⟨text, made, ?_⟩
    rw [← Analysis.plain_observerTexts_iff analyzed rfl plainExtension plain,
      ← Analysis.size_of_resolve resolved]
    exact formed
  · rcases Gap.mem_keys_of_mem_detect member with observer | indexed
    · obtain ⟨entry, entered, same⟩ := List.mem_map.1 observer
      obtain ⟨⟨link, registered, named⟩, -⟩ := (Analysis.mem_observers_iff analyzed).1 entered
      rw [← same, ← named]
      exact (plain link registered).2
    · exact classes _ indexed

theorem tables_formed_configured :
    ∃ analysis, (Shop.documentation.survey.analyze Shop.configured).result = .ok analysis ∧
      Report.Tabular (Shop.documentation.report analysis).eventSection 2 3 ∧
      ∃ text, (Shop.documentation.report analysis).observerSection = .ok text ∧
        Report.Tabular text 2 6 := by
  obtain ⟨analysis, analyzed, registered⟩ : ∃ analysis,
      (Shop.documentation.survey.analyze Shop.configured).result = .ok analysis ∧
        analysis.links = Shop.registrations := Shop.analyze_configured
  obtain ⟨events, ⟨text, made, observers⟩, -⟩ :=
    tables_formed_iff analyzed (by decide +kernel) trivial
  rw [registered] at events observers
  have plain : PlainLinks Shop.registrations := by decide +kernel
  exact ⟨analysis, analyzed, events.2 plain, text, made, observers.2 plain⟩

end Documentation

/-! ### An event with a bar in its name -/

namespace Shop

/-- A configuration that registers an observer for such an event. -/
def barContent : Text.Bytes :=
  Text.Utf8.encode "<config><event name='a|b'><observer instance='Placed'/></event></config>"

/-- The registration in it. -/
def barLink : Link :=
  survey.link (.ofString "lib/events.xml") "a|b" "Placed"

theorem sourceFiles_configuredWith (content : Text.Bytes) :
    survey.sourceFiles (configuredWith content) = .ok [.ofString "lib/Client.php"] := by
  have inside : (configuredWith content).tree.childNames ["lib"] =
      ["Client.php", "events.xml"] := rfl
  have found : Survey.search (configuredWith content) (.ofString "lib") pattern =
      .ok [.ofString "lib/Client.php"] :=
    search_wild _ rfl rfl rfl inside (by cbv) (by decide +kernel)
  rw [sourceFiles_of_search found]
  rfl

theorem findLinks_bar : (survey.findLinks (configuredWith barContent)).result = .ok [barLink] := by
  have shown : (Xml.Document.parse barContent).toOption.map Survey.registered =
      some [("a|b", [some "Placed"])] := by decide +kernel
  have named : Survey.named (some "Placed") = some "Placed" := by decide +kernel
  rw [findLinks_of_registered shown]
  simp [Survey.entryLinks, named, barLink]

theorem checkable_bar : Observers.Checkable (configuredWith barContent) [barLink] := by
  intro link member path pointed
  rw [List.mem_singleton.1 member] at pointed
  cases pointed
  exact ⟨false, by decide +kernel⟩

end Shop

/-- A bar in the name of the only event makes one more column in its row. -/
theorem Documentation.eventSection_bar :
    ∃ analysis, (Shop.survey.analyze (Shop.configuredWith Shop.barContent)).result =
        .ok analysis ∧ (analysis.links.map (·.event)).eraseDups = ["a|b"] ∧
      ¬ Report.Tabular (Shop.documentation.report analysis).eventSection 1 3 := by
  obtain ⟨analysis, analyzed, registered⟩ := Survey.exists_analysis
    (Shop.sourceFiles_configuredWith _) Shop.findLinks_bar Shop.checkable_bar
  obtain ⟨_, -, -, -, resolved, -⟩ := Survey.analyze_eq_ok_iff.1 analyzed
  have rows : (Report.byEvent analysis.observers).length = 1 := by
    rw [Report.length_byEvent, Analysis.size_eventNames_of_resolve resolved, registered]
    rfl
  refine ⟨analysis, analyzed, by rw [registered]; rfl, fun formed => ?_⟩
  rw [← rows] at formed
  have plain := (Report.tabular_eventSection_iff (Shop.documentation.report analysis)).1 formed
  have links := (Analysis.plain_byEvent_iff analyzed).1 plain
  rw [registered] at links
  exact absurd (links Shop.barLink (List.mem_singleton_self _)).1 (by decide +kernel)

end EventAtlas
