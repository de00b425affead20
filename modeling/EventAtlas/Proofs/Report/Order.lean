import EventAtlas.Proofs.Gap
import EventAtlas.Proofs.Report
import EventAtlas.Proofs.Roster.Agree

/-!
# Reports do not depend on orders

The classes, the observers, and the names in their sets may have been entered in any order. Two
reports whose rosters agree have the same text: every section goes through sorted names or sorted
entries, and above all the flow graph does so before it gives out identifiers, which depend on what
was asked for before. What is counted and what is listed as a gap depends on members alone.
-/

namespace EventAtlas

/-- Two classes are the same but for the order of the names in their sets. -/
structure ApiClass.Same (left right : ApiClass) : Prop where
  id : left.id = right.id
  source : left.source = right.source
  endpoints : ∀ name, name ∈ left.endpoints ↔ name ∈ right.endpoints
  sdkCalls : ∀ name, name ∈ left.sdkCalls ↔ name ∈ right.sdkCalls

/-- Two observers are the same but for the order of the names in their sets. -/
structure Observer.Same (left right : Observer) : Prop where
  id : left.id = right.id
  events : left.events = right.events
  services : left.services = right.services
  resolved : ∀ name, name ∈ left.resolved ↔ name ∈ right.resolved
  endpoints : ∀ name, name ∈ left.endpoints ↔ name ∈ right.endpoints
  sdkCalls : ∀ name, name ∈ left.sdkCalls ↔ name ∈ right.sdkCalls
  source : left.source = right.source

/-- Being the same has no direction. -/
theorem Observer.Same.symm {left right : Observer} (same : left.Same right) : right.Same left where
  id := same.id.symm
  events := same.events.symm
  services := same.services.symm
  resolved name := (same.resolved name).symm
  endpoints name := (same.endpoints name).symm
  sdkCalls name := (same.sdkCalls name).symm
  source := same.source.symm

/-- Two reports are the same but for the order of classes, observers and names in sets. -/
structure Report.Same (left right : Report) : Prop where
  index : left.index.Agree ApiClass.Same right.index
  observers : left.observers.Agree Observer.Same right.observers
  moduleDir : left.moduleDir = right.moduleDir
  address : left.address = right.address
  diagram : left.diagram = right.diagram

section Observers

variable {left right : Observers}

/-- Agreeing observers give the same flow graph. -/
theorem Flow.Graph.ofObservers_congr (agree : left.Agree Observer.Same right) :
    ofObservers left = ofObservers right := by
  -- Whatever the draft is, each pair of entries extends it in the same way.
  have step : ∀ draft draft' : Draft, draft = draft' → ∀ entry other : String × Observer,
      entry.1 = other.1 ∧ entry.2.Same other.2 → draft.observer entry = draft'.observer other := by
    rintro draft _ rfl ⟨id, observer⟩ ⟨_, observer'⟩ ⟨rfl, same⟩
    dsimp only at same
    simp only [Draft.observer, same.events, NameSet.sorted_congr same.endpoints]
  rw [ofObservers, ofObservers]
  exact congrArg Draft.graph
    (List.rel_foldl (fun draft draft' same entry other => step draft draft' same entry other) rfl
      agree.sorted)

/-- Agreeing observers react to the same events. -/
theorem Coverage.mem_eventNames_congr (agree : left.Agree Observer.Same right) (event : String) :
    event ∈ eventNames left ↔ event ∈ eventNames right := by
  simp only [Report.mem_eventNames, Prod.exists, ← Roster.get?_eq_some_iff]
  exact exists_congr (agree.get?_iff fun _ _ same => by rw [same.events])

/-- An event has the same observers among agreeing ones. -/
theorem Report.mem_observersOf_congr (agree : left.Agree Observer.Same right) (event : String)
    (id : ClassId) : id ∈ observersOf left event ↔ id ∈ observersOf right event := by
  simp only [Report.mem_observersOf, ← Roster.get?_eq_some_iff]
  exact agree.get?_iff (fun _ _ same => by rw [same.events]) id

/-- Agreeing observers are listed in the same way by event. -/
theorem Report.byEvent_congr (agree : left.Agree Observer.Same right) :
    byEvent left = byEvent right := by
  rw [byEvent, byEvent, NameSet.sorted_congr (Coverage.mem_eventNames_congr agree)]
  apply List.map_congr_left
  intro event _
  rw [NameSet.sorted_congr (Report.mem_observersOf_congr agree event)]

end Observers

namespace Gap

variable {index index' : ApiIndex} {left right : Observers}

/-- What an observer reaches is reached by an agreeing one. -/
theorem Reached.of_agree (agree : left.Agree Observer.Same right) {id : ClassId}
    (reached : Reached left id) : Reached right id := by
  cases reached with
  | resolved held member =>
    obtain ⟨_, found, same⟩ := agree.exists_of_get? held
    exact .resolved found ((same.resolved id).1 member)
  | named held declared full =>
    obtain ⟨_, found, same⟩ := agree.exists_of_get? held
    exact .named found (same.services ▸ declared) full
  | short held declared bare name =>
    obtain ⟨_, found, same⟩ := agree.exists_of_get? held
    exact .short found (same.services ▸ declared) bare name

/-- Agreeing observers and classes have the same gaps. -/
theorem detect_congr (classes : index.Agree ApiClass.Same index')
    (observers : left.Agree Observer.Same right) : detect index left = detect index' right := by
  have missing : missingSources left = missingSources right := by
    refine (missingSources_lt left).eq_of_mem_iff (missingSources_lt right) fun id => ?_
    rw [mem_missingSources, mem_missingSources]
    exact observers.get?_iff (fun _ _ same => by rw [same.source]) id
  have unattributed : unattributedObservers left = unattributedObservers right := by
    refine (unattributedObservers_lt left).eq_of_mem_iff (unattributedObservers_lt right)
      fun id => ?_
    rw [mem_unattributedObservers, mem_unattributedObservers]
    refine observers.get?_iff (fun _ _ same => ?_) id
    simp only [same.source, NameSet.isEmpty_iff, same.endpoints, same.sdkCalls]
  have unreached : unreachedClasses index left = unreachedClasses index' right := by
    refine (unreachedClasses_lt index left).eq_of_mem_iff (unreachedClasses_lt index' right)
      fun id => ?_
    rw [mem_unreachedClasses, mem_unreachedClasses, classes.same_keys]
    have reached : Reached left id ↔ Reached right id :=
      ⟨.of_agree observers, .of_agree (observers.symm Observer.Same.symm)⟩
    rw [reached]
  unfold detect
  apply List.flatMap_congr
  intro kind _
  cases kind <;> simp only [ofKind, subjects, missing, unattributed, unreached]

end Gap

section Index

variable {left right : ApiIndex}

/-- The total of what is counted of each class is that of the classes in sorted order. -/
theorem total_values_eq_sorted (index : ApiIndex) (count : ApiClass → Nat) :
    total (index.values.map count) = total (index.sorted.map fun entry => count entry.2) := by
  have perm : (index.values.map count).Perm (index.sorted.map fun entry => count entry.2) := by
    rw [Roster.values, List.map_map]
    exact (List.mergeSort_perm index.entries _).symm.map _
  exact perm.sum_nat

/-- Agreeing classes and observers give the same headline counts. -/
theorem Coverage.compute_congr {observers observers' : Observers}
    (classes : left.Agree ApiClass.Same right)
    (agree : observers.Agree Observer.Same observers') :
    compute left observers = compute right observers' := by
  have events : (eventNames observers).size = (eventNames observers').size :=
    NameSet.size_congr (mem_eventNames_congr agree)
  have counts : left.sorted.map (fun entry => entry.2.endpoints.size) =
      right.sorted.map fun entry => entry.2.endpoints.size := by
    rw [← List.forall₂_eq_eq_eq, List.forall₂_map_left_iff, List.forall₂_map_right_iff]
    exact classes.sorted.imp fun _ _ pair => NameSet.size_congr pair.2.endpoints
  simp only [compute, events, agree.size_eq, classes.size_eq,
    total_values_eq_sorted _ fun found => found.endpoints.size, counts]

/-- Agreeing classes give the same catalog. -/
theorem Report.catalog_congr (agree : left.Agree ApiClass.Same right) :
    catalog left = catalog right := by
  have endpoints (endpoint : String) :
      endpoint ∈ catalogEndpoints left ↔ endpoint ∈ catalogEndpoints right := by
    rw [mem_catalogEndpoints, mem_catalogEndpoints]
    exact exists_congr (agree.get?_iff fun _ _ same => same.endpoints endpoint)
  rw [catalog, catalog, catalogRows, catalogRows, NameSet.sorted_congr endpoints]

end Index

namespace Report

variable {left right : Report}

/-- The link to an observer is made from what is the same. -/
theorem observerLink_congr (same : left.Same right) {observer other : Observer}
    (entry : observer.Same other) : left.observerLink observer = right.observerLink other := by
  simp only [observerLink, entry.id, entry.source, same.moduleDir, same.address]

/-- The row of an observer is made from what is the same. -/
theorem observerRow_congr {observer other : Observer} (same : observer.Same other)
    (link : String) : observerRow link observer = observerRow link other := by
  simp only [observerRow, same.events, same.services, NameSet.sorted_congr same.endpoints,
    NameSet.sorted_congr same.sdkCalls]

/-- The sections with the observers are the same. -/
theorem observerSection_congr (same : left.Same right) :
    left.observerSection = right.observerSection := by
  have rows : (left.observers.sorted.mapM fun entry => do
        return observerRow (← left.observerLink entry.2) entry.2) =
      right.observers.sorted.mapM fun entry => do
        return observerRow (← right.observerLink entry.2) entry.2 := by
    refine mapM_congr_of_forall₂ same.observers.sorted fun entry other pair => ?_
    simp only [observerLink_congr same pair.2, observerRow_congr pair.2]
  rw [observerSection, observerSection, rows]

/-- The sections with the gaps are the same. -/
theorem gapSection_congr (same : left.Same right) : left.gapSection = right.gapSection := by
  rw [gapSection, gapSection, Gap.detect_congr same.index same.observers]

end Report

/-! ### Two orders of one report -/

namespace Shop

/-- A class with the given endpoints. -/
def ordersClass (endpoints : List String) : ApiClass where
  id := "Shop\\Orders"
  source := .ofString "lib/Orders.php"
  endpoints := .ofList endpoints
  sdkCalls := .empty

/-- An observer that reacts to one event and reaches the given endpoints. -/
def reaching (id : ClassId) (endpoints : List String) : Observer :=
  { Observer.new id with
    events := ["order placed"], resolved := .ofList ["Shop\\Orders"]
    endpoints := .ofList endpoints }

/-- A report on two classes and two observers. The endpoints that one of them reaches have the same
slug, so the order in which their nodes are declared decides their identifiers. -/
def report : Report where
  index := .ofList
    [("Shop\\Client", client), ("Shop\\Orders", ordersClass ["/v2/orders/1", "/v2/orders:1"])]
  observers := .ofList
    [("Shop\\Placed", reaching "Shop\\Placed" ["/v2/orders/1", "/v2/orders:1"]),
      ("Shop\\Paid", .new "Shop\\Paid")]
  moduleDir := none
  address := .none
  diagram := { format := .dot, style := .plain }

/-- The report with everything entered in reverse. -/
def reversed : Report :=
  { report with
    index := .ofList
      [("Shop\\Orders", ordersClass ["/v2/orders:1", "/v2/orders/1"]), ("Shop\\Client", client)]
    observers := .ofList
      [("Shop\\Paid", .new "Shop\\Paid"),
        ("Shop\\Placed", reaching "Shop\\Placed" ["/v2/orders:1", "/v2/orders/1"])] }

theorem same_reversed : report.Same reversed where
  index key := by
    simp only [report, reversed, Roster.ofList, List.foldl_cons, List.foldl_nil, Roster.get?_put,
      Roster.get?_empty]
    by_cases client : key = "Shop\\Client"
    · subst client
      exact .some ⟨rfl, rfl, fun _ => .rfl, fun _ => .rfl⟩
    · by_cases orders : key = "Shop\\Orders"
      · subst orders
        exact .some ⟨rfl, rfl, fun _ => by simp [ordersClass, or_comm], fun _ => .rfl⟩
      · rw [if_neg orders, if_neg client, if_neg client, if_neg orders]
        exact .none
  observers key := by
    simp only [report, reversed, Roster.ofList, List.foldl_cons, List.foldl_nil, Roster.get?_put,
      Roster.get?_empty]
    by_cases placed : key = "Shop\\Placed"
    · subst placed
      exact .some ⟨rfl, rfl, rfl, fun _ => .rfl, fun _ => by simp [reaching, or_comm],
        fun _ => .rfl, rfl⟩
    · by_cases paid : key = "Shop\\Paid"
      · subst paid
        exact .some ⟨rfl, rfl, rfl, fun _ => .rfl, fun _ => .rfl, fun _ => .rfl, rfl⟩
      · rw [if_neg paid, if_neg placed, if_neg placed, if_neg paid]
        exact .none
  moduleDir := rfl
  address := rfl
  diagram := rfl

end Shop

namespace Report

variable {left right : Report}

/-- Reports that are the same but for orders have the same text, with headline counts that are
given as well as with those that are computed, and the same catalog. -/
theorem build_eq_of_same (same : left.Same right) :
    (∀ coverage, left.build coverage = right.build coverage) ∧
      catalog left.index = catalog right.index := by
  refine ⟨fun coverage => ?_, catalog_congr same.index⟩
  have events : left.eventSection = right.eventSection := by
    rw [eventSection, eventSection, byEvent_congr same.observers]
  have diagram : left.diagramSection = right.diagramSection := by
    simp only [diagramSection, Diagram.generate, same.diagram,
      Flow.Graph.ofObservers_congr same.observers]
  simp only [build, render, Coverage.compute_congr same.index same.observers, events, diagram,
    observerSection_congr same, gapSection_congr same]

theorem build_eq_of_same_reversed :
    Shop.report.Same Shop.reversed ∧ Shop.report.observers.keys ≠ Shop.reversed.observers.keys ∧
      (∀ coverage, Shop.report.build coverage = Shop.reversed.build coverage) ∧
      catalog Shop.report.index = catalog Shop.reversed.index :=
  ⟨Shop.same_reversed, by decide, build_eq_of_same Shop.same_reversed⟩

end Report

end EventAtlas
