import EventAtlas.Proofs.Survey.Resolve

/-!
# Attribution

Each registration may credit its observer with classes of the index. On an index that keeps every
class under its own identifier, what an observer was credited with over all its registrations can
be read off the identifiers it resolved: they name exactly the classes that its sources match, and
its endpoints and calls are exactly those of these classes.
-/

namespace EventAtlas.Observers

open Observer (Matches Credited)

variable {workspace : Workspace} {index : ApiIndex}

/-- A found class is indexed under one of the candidate names of the type. -/
theorem get?_of_find? {scope : Scope} {declared : String} {found : ApiClass}
    (held : scope.find? index declared = some found) :
    ∃ name ∈ scope.candidates declared, index.get? name = some found :=
  List.exists_of_findSome?_eq_some held

/-- On a sound index a matched class stands under its own identifier. -/
theorem get?_of_matches (sound : Sound index) {source : String} {found : ApiClass}
    (matched : Matches index source found) : index.get? found.id = some found := by
  obtain ⟨declared, -, held⟩ := matched
  obtain ⟨name, -, stored⟩ := get?_of_find? held
  rw [sound.id_eq stored]
  exact stored

section Credited

variable {view : Observer → NameSet} {part : ApiClass → String → Prop}

/-- A registration credits the observer with the classes that its source matches. -/
theorem mem_take (credited : Credited view part) {observer : Observer} {link : Link}
    {name : String} :
    name ∈ view (take workspace index observer link) ↔
      name ∈ view observer ∨ ∃ source ∈ given workspace link,
        ∃ found, Matches index source.2 found ∧ part found name := by
  unfold take register
  cases given workspace link with
  | none =>
    have noted : view { observer with events := observer.events ++ [link.event] } =
        view observer := credited.noted observer _ _ _
    simp [noted]
  | some source =>
    have noted : view { observer with
        events := observer.events ++ [link.event], source := some source.1 } =
        view observer := credited.noted observer _ _ _
    simp [credited.mem_collect, noted]

/-- A record is credited with the classes that one of its sources matches. -/
theorem mem_record (credited : Credited view part) {id : ClassId} {links : List Link}
    {name : String} :
    name ∈ view (record workspace index id links) ↔
      ∃ source ∈ links.filterMap (given workspace),
        ∃ found, Matches index source.2 found ∧ part found name := by
  induction links using List.reverseRecOn with
  | nil => simp [credited.new]
  | append_singleton links link ih =>
    have last : List.filterMap (given workspace) [link] = (given workspace link).toList := by
      cases found : given workspace link <;> simp [found]
    rw [record_append_singleton, mem_take credited, ih, List.filterMap_append, last]
    simp only [List.mem_append, or_and_right, exists_or, Option.mem_toList,
      Option.mem_def]

end Credited

/-- What is attributed to an observer agrees with the index: its resolved services are the
classes found for the services it declares, each looked up in the scope of the source that
declares it, and its endpoints and calls are those of its resolved services. -/
structure Attributed (workspace : Workspace) (index : ApiIndex) (links : List Link)
    (id : ClassId) (observer : Observer) : Prop where
  services : observer.services =
    (sources workspace links id).flatMap fun source => Observer.declaredTypes source.2
  resolved : ∀ name, name ∈ observer.resolved ↔
    ∃ source ∈ sources workspace links id, ∃ declared ∈ Observer.declaredTypes source.2,
      ∃ found, (Scope.ofSource source.2).find? index declared = some found ∧ found.id = name
  indexed : ∀ name ∈ observer.resolved, ∃ found, index.get? name = some found
  endpoints : ∀ endpoint, endpoint ∈ observer.endpoints ↔
    ∃ name ∈ observer.resolved, ∃ found, index.get? name = some found ∧
      endpoint ∈ found.endpoints
  sdkCalls : ∀ call, call ∈ observer.sdkCalls ↔
    ∃ name ∈ observer.resolved, ∃ found, index.get? name = some found ∧ call ∈ found.sdkCalls
  /-- Nothing is resolved exactly when nothing is attributed. -/
  resolved_empty_iff :
    observer.resolved.isEmpty ↔ observer.endpoints.isEmpty ∧ observer.sdkCalls.isEmpty

/-- The resolved services of a record are the identifiers of the classes its sources match. -/
theorem mem_resolved_record {id : ClassId} {links : List Link} {name : String} :
    name ∈ (record workspace index id links).resolved ↔
      ∃ source ∈ links.filterMap (given workspace),
        ∃ found, Matches index source.2 found ∧ name = found.id :=
  mem_record Observer.credited_resolved

/-- A record without a source resolves nothing. -/
theorem resolved_isEmpty_of_unread {id : ClassId} {links : List Link}
    (unread : (record workspace index id links).source = none) :
    (record workspace index id links).resolved.isEmpty := by
  rw [source_record_eq_none_iff] at unread
  simp [mem_resolved_record, unread]

/-- On a sound index, a credited set of a record is made of the parts of the classes that stand
under its resolved identifiers. -/
theorem mem_record_iff_of_sound (sound : Sound index) {view : Observer → NameSet}
    {part : ApiClass → String → Prop} (credited : Credited view part) {id : ClassId}
    {links : List Link} {name : String} :
    name ∈ view (record workspace index id links) ↔
      ∃ other ∈ (record workspace index id links).resolved, ∃ found,
        index.get? other = some found ∧ part found name := by
  rw [mem_record credited]
  simp only [mem_resolved_record]
  constructor
  · rintro ⟨source, given, found, matched, shown⟩
    exact ⟨found.id, ⟨source, given, found, matched, rfl⟩, found,
      get?_of_matches sound matched, shown⟩
  · rintro ⟨_, ⟨source, given, found, matched, rfl⟩, stored, held, shown⟩
    -- The class stored under the identifier of a matched class is that class.
    rw [get?_of_matches sound matched] at held
    cases held
    exact ⟨source, given, found, matched, shown⟩

/-- On a sound index, the record that registrations make has exactly what they attribute. -/
theorem attributed_record (sound : Sound index) (links : List Link) (id : ClassId) :
    Attributed workspace index links id (record workspace index id (own links id)) where
  services := record_services
  resolved name := by
    rw [mem_resolved_record]
    constructor
    · rintro ⟨source, member, found, ⟨declared, types, held⟩, rfl⟩
      exact ⟨source, member, declared, types, found, held, rfl⟩
    · rintro ⟨source, member, declared, types, found, held, rfl⟩
      exact ⟨source, member, found, ⟨declared, types, held⟩, rfl⟩
  indexed name member := by
    obtain ⟨_, _, found, matched, rfl⟩ := mem_resolved_record.1 member
    exact ⟨found, get?_of_matches sound matched⟩
  endpoints _ := mem_record_iff_of_sound sound Observer.credited_endpoints
  sdkCalls _ := mem_record_iff_of_sound sound Observer.credited_sdkCalls
  resolved_empty_iff := by
    simp only [NameSet.isEmpty_iff]
    constructor
    · intro none
      constructor
      · intro endpoint member
        obtain ⟨other, resolved, -⟩ :=
          (mem_record_iff_of_sound sound Observer.credited_endpoints).1 member
        exact none other resolved
      · intro call member
        obtain ⟨other, resolved, -⟩ :=
          (mem_record_iff_of_sound sound Observer.credited_sdkCalls).1 member
        exact none other resolved
    · rintro ⟨noEndpoint, noCall⟩ name member
      obtain ⟨_, _, found, matched, rfl⟩ := mem_resolved_record.1 member
      have stored := get?_of_matches sound matched
      obtain ⟨used, endpoint | call⟩ := sound.uses stored
      · exact noEndpoint used <|
          (mem_record_iff_of_sound sound Observer.credited_endpoints).2
            ⟨found.id, member, found, stored, endpoint⟩
      · exact noCall used <|
          (mem_record_iff_of_sound sound Observer.credited_sdkCalls).2
            ⟨found.id, member, found, stored, call⟩

/-- Resolving against the index of a module attributes to each observer exactly what the classes
found for its services use. -/
theorem resolve_attributes {survey : Survey} {indexing : Indexing} {links : List Link}
    (built : (survey.buildIndex workspace).result = .ok indexing)
    (checkable : Checkable workspace links) (verbose : Bool) :
    ∃ observers, (resolve workspace indexing.index verbose links).result = .ok observers ∧
      ∀ id observer, observers.get? id = some observer →
        Attributed workspace indexing.index links id observer := by
  refine ⟨_, result_resolve checkable verbose, ?_⟩
  intro id observer held
  obtain ⟨-, rfl⟩ := get?_gather_take.1 held
  exact attributed_record (sound_of_buildIndex built) links id

theorem resolve_attributes_shop :
    (Shop.survey.buildIndex Shop.workspace).result = .ok Shop.indexing ∧
      Checkable Shop.workspace Shop.links ∧
      ∃ observers, (resolve Shop.workspace Shop.indexing.index true Shop.links).result =
          .ok observers ∧
        ∀ id observer, observers.get? id = some observer →
          Attributed Shop.workspace Shop.indexing.index Shop.links id observer :=
  ⟨Shop.buildIndex, Shop.checkable, resolve_attributes Shop.buildIndex Shop.checkable true⟩

end EventAtlas.Observers
