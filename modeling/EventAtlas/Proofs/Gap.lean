import EventAtlas.Gap
import EventAtlas.Proofs.Survey.Attribution

/-!
# What the gaps tell

The gaps are told from the records and the index alone. They agree with how the records came
about: an observer without a source is one for which no source was read, an observer to which
nothing is attributed is one for which nothing was resolved, and no class that was resolved is
listed as unreached. Every observer and every class is counted once.
-/

namespace EventAtlas

/-- Distinct items of a list and the others of it are all of it. -/
theorem length_add_length_filter_not_mem {α : Type} [DecidableEq α] {items listed : List α}
    (distinct : items.Nodup) (listed_distinct : listed.Nodup)
    (inside : ∀ item ∈ listed, item ∈ items) :
    listed.length + (items.filter (· ∉ listed)).length = items.length := by
  have kept : (items.filter (· ∈ listed)).Perm listed :=
    (List.perm_ext_iff_of_nodup (distinct.filter _) listed_distinct).2 fun item => by
      simpa using inside item
  rw [← kept.length_eq]
  simpa using (List.length_eq_length_filter_add (l := items) (· ∈ listed)).symm

namespace Gap

variable {workspace : Workspace} {index : ApiIndex} {links : List Link} {observers : Observers}

/-- An observer reaches a class: the class was resolved for it, a service that it declares names
the class in full, or one without a namespace has its short name. -/
inductive Reached (observers : Observers) (id : ClassId) : Prop
  | resolved {key : ClassId} {observer : Observer} (held : observers.get? key = some observer)
      (member : id ∈ observer.resolved) : Reached observers id
  | named {key : ClassId} {observer : Observer} {service : String}
      (held : observers.get? key = some observer) (declared : service ∈ observer.services)
      (full : ClassId.canonical service = id) : Reached observers id
  | short {key : ClassId} {observer : Observer} {service : String}
      (held : observers.get? key = some observer) (declared : service ∈ observer.services)
      (bare : (ClassId.canonical service).isQualified = false)
      (name : ClassId.canonical service = id.shortName) : Reached observers id

/-- What is checked of a class is whether some observer reaches it. -/
theorem isReached_iff {id : ClassId} : isReached observers id = true ↔ Reached observers id := by
  simp only [isReached, declaredServices, Roster.values, Bool.or_eq_true, List.any_eq_true,
    List.mem_map, List.mem_flatMap, decide_eq_true_eq, Bool.and_eq_true, Bool.not_eq_true']
  constructor
  · rintro (⟨_, ⟨entry, entered, rfl⟩, member⟩ |
      ⟨_, ⟨_, ⟨entry, entered, rfl⟩, service, declared, rfl⟩, full | ⟨bare, name⟩⟩)
    · exact .resolved (Roster.get?_eq_some_iff.2 entered) member
    · exact .named (Roster.get?_eq_some_iff.2 entered) declared full
    · exact .short (Roster.get?_eq_some_iff.2 entered) declared bare name
  · rintro (⟨held, member⟩ | ⟨held, declared, full⟩ | ⟨held, declared, bare, name⟩) <;>
      have entered := Roster.get?_eq_some_iff.1 held
    · exact .inl ⟨_, ⟨_, entered, rfl⟩, member⟩
    · exact .inr ⟨_, ⟨_, ⟨_, entered, rfl⟩, _, declared, rfl⟩, .inl full⟩
    · exact .inr ⟨_, ⟨_, ⟨_, entered, rfl⟩, _, declared, rfl⟩, .inr ⟨bare, name⟩⟩

/-- The listed classes are those of the index that no observer reaches. -/
theorem mem_unreachedClasses {id : ClassId} :
    id ∈ unreachedClasses index observers ↔ id ∈ index.keys ∧ ¬ Reached observers id := by
  rw [unreachedClasses, List.mem_filter, mem_sortNames, ← isReached_iff, Bool.not_eq_true',
    Bool.not_eq_true]

/-- An observer is listed as missing when it has no source. -/
theorem mem_missingSources {id : ClassId} : id ∈ missingSources observers ↔
    ∃ observer, observers.get? id = some observer ∧ observer.source = none := by
  rw [missingSources, Roster.mem_map_filter_sorted]
  simp

/-- An observer is listed as unattributed when it has a source, but no endpoint and no call. -/
theorem mem_unattributedObservers {id : ClassId} : id ∈ unattributedObservers observers ↔
    ∃ observer, observers.get? id = some observer ∧ observer.source ≠ none ∧
      observer.endpoints.isEmpty ∧ observer.sdkCalls.isEmpty := by
  rw [unattributedObservers, Roster.mem_map_filter_sorted]
  simp [Option.isSome_iff_ne_none]

/-- Missing observers are listed by increasing identifiers. -/
theorem missingSources_lt (observers : Observers) :
    (missingSources observers).Pairwise (· < ·) :=
  observers.sorted_keys_lt.sublist (List.filter_sublist.map _)

/-- Unattributed observers are listed by increasing identifiers. -/
theorem unattributedObservers_lt (observers : Observers) :
    (unattributedObservers observers).Pairwise (· < ·) :=
  observers.sorted_keys_lt.sublist (List.filter_sublist.map _)

/-- Unreached classes are listed by increasing identifiers. -/
theorem unreachedClasses_lt (index : ApiIndex) (observers : Observers) :
    (unreachedClasses index observers).Pairwise (· < ·) :=
  (sortNames_lt index.nodup_keys).filter _

/-- Only observers are listed as missing or unattributed. -/
theorem mem_keys_of_listed {id : ClassId}
    (listed : id ∈ missingSources observers ∨ id ∈ unattributedObservers observers) :
    id ∈ observers.keys := by
  rcases listed with missing | unattributed
  · obtain ⟨_, held, -⟩ := mem_missingSources.1 missing
    exact Roster.mem_keys_of_get? held
  · obtain ⟨_, held, -⟩ := mem_unattributedObservers.1 unattributed
    exact Roster.mem_keys_of_get? held

/-- The subject of a gap is an observer or an indexed class. -/
theorem mem_keys_of_mem_detect {gap : Gap} (member : gap ∈ detect index observers) :
    gap.subject ∈ observers.keys ∨ gap.subject ∈ index.keys := by
  obtain ⟨kind, -, inside⟩ := List.mem_flatMap.1 member
  obtain ⟨id, listed, rfl⟩ := List.mem_map.1 inside
  cases kind with
  | missingSource => exact .inl (mem_keys_of_listed (.inl listed))
  | unattributed => exact .inl (mem_keys_of_listed (.inr listed))
  | unreached => exact .inr (mem_unreachedClasses.1 listed).1

/-- Every observer and every class is either counted as a gap or is none. -/
theorem total_summarize_add (index : ApiIndex) (observers : Observers) :
    (summarize index observers).total +
        (observers.keys.filter fun id =>
          id ∉ missingSources observers ∧ id ∉ unattributedObservers observers).length +
        (index.keys.filter fun id => id ∉ unreachedClasses index observers).length =
      observers.size + index.size := by
  have apart : (missingSources observers ++ unattributedObservers observers).Nodup := by
    refine List.nodup_append.2 ⟨nodup_of_lt (missingSources_lt _),
      nodup_of_lt (unattributedObservers_lt _), ?_⟩
    rintro id missing _ unattributed rfl
    obtain ⟨_, held, unread⟩ := mem_missingSources.1 missing
    obtain ⟨_, held', read, -⟩ := mem_unattributedObservers.1 unattributed
    rw [held] at held'
    cases held'
    exact read unread
  have observers_counted :=
    length_add_length_filter_not_mem observers.nodup_keys apart fun _ listed =>
      mem_keys_of_listed (List.mem_append.1 listed)
  have classes_counted :=
    length_add_length_filter_not_mem index.nodup_keys
      (nodup_of_lt (unreachedClasses_lt index observers)) fun _ listed =>
        (mem_unreachedClasses.1 listed).1
  simp only [List.length_append, List.mem_append, not_or] at observers_counted
  rw [Roster.size_eq_length_keys, Roster.size_eq_length_keys]
  simp only [Summary.total, summarize]
  omega

/-- Every observer belongs to one of three groups, and is listed once in the list of its group. -/
inductive Grouped (observers : Observers) (id : ClassId) (observer : Observer) : Prop
  | missing (unread : observer.source = none) (nothing : observer.resolved.isEmpty)
      (listed : (missingSources observers).count id = 1)
      (unlisted : (unattributedObservers observers).count id = 0) : Grouped observers id observer
  | unattributed (read : observer.source ≠ none) (nothing : observer.resolved.isEmpty)
      (unlisted : (missingSources observers).count id = 0)
      (listed : (unattributedObservers observers).count id = 1) : Grouped observers id observer
  | attributed (read : observer.source ≠ none) (something : ¬ observer.resolved.isEmpty)
      (unlisted : (missingSources observers).count id = 0)
      (unlisted' : (unattributedObservers observers).count id = 0) : Grouped observers id observer

/-- The gaps agree with how the observers were resolved. -/
structure Classified (workspace : Workspace) (links : List Link) (index : ApiIndex)
    (observers : Observers) : Prop where
  /-- An observer has no source exactly when none was read. -/
  unread_iff : ∀ id observer, observers.get? id = some observer →
    (observer.source = none ↔ Observers.sources workspace links id = [])
  group : ∀ id observer, observers.get? id = some observer → Grouped observers id observer
  /-- Only observers are listed. -/
  observed : ∀ id, id ∈ missingSources observers ∨ id ∈ unattributedObservers observers →
    id ∈ observers.keys
  /-- A class that was resolved is indexed and not listed as unreached. -/
  resolved : ∀ id observer, observers.get? id = some observer → ∀ name ∈ observer.resolved,
    name ∈ index.keys ∧ name ∉ unreachedClasses index observers
  /-- The listed classes are those of the index that no observer reaches. -/
  unreached_iff : ∀ id, id ∈ unreachedClasses index observers ↔
    id ∈ index.keys ∧ ¬ Reached observers id
  missingSources_lt : (missingSources observers).Pairwise (· < ·)
  unattributedObservers_lt : (unattributedObservers observers).Pairwise (· < ·)
  unreachedClasses_lt : (unreachedClasses index observers).Pairwise (· < ·)
  /-- Every observer and every class is either counted as a gap or is none. -/
  total_eq : (summarize index observers).total +
      (observers.keys.filter fun id =>
        id ∉ missingSources observers ∧ id ∉ unattributedObservers observers).length +
      (index.keys.filter fun id => id ∉ unreachedClasses index observers).length =
    observers.size + index.size

/-- The group of an observer follows from its source and from what is attributed to it. -/
theorem grouped_of_attributed {id : ClassId} {observer : Observer}
    (held : observers.get? id = some observer)
    (unread : observer.source = none → observer.resolved.isEmpty)
    (attributed :
      observer.resolved.isEmpty ↔ observer.endpoints.isEmpty ∧ observer.sdkCalls.isEmpty) :
    Grouped observers id observer := by
  have missing_iff : id ∈ missingSources observers ↔ observer.source = none := by
    simp [mem_missingSources, held]
  have unattributed_iff : id ∈ unattributedObservers observers ↔
      observer.source ≠ none ∧ observer.resolved.isEmpty := by
    rw [attributed]
    simp [mem_unattributedObservers, held]
  by_cases source : observer.source = none
  · refine .missing source (unread source) ?_ (List.count_eq_zero.2 ?_)
    · exact List.count_eq_one_of_mem (nodup_of_lt (missingSources_lt _)) (missing_iff.2 source)
    · exact fun listed => (unattributed_iff.1 listed).1 source
  · have unlisted : (missingSources observers).count id = 0 :=
      List.count_eq_zero.2 (mt missing_iff.1 source)
    by_cases nothing : observer.resolved.isEmpty
    · refine .unattributed source nothing unlisted ?_
      exact List.count_eq_one_of_mem (nodup_of_lt (unattributedObservers_lt _))
        (unattributed_iff.2 ⟨source, nothing⟩)
    · refine .attributed source nothing unlisted (List.count_eq_zero.2 ?_)
      exact fun listed => nothing (unattributed_iff.1 listed).2

/-- On the index of a module, the gaps agree with how the observers were resolved. -/
theorem classified_of_resolve {survey : Survey} {indexing : Indexing} {verbose : Bool}
    (built : (survey.buildIndex workspace).result = .ok indexing)
    (resolved : (Observers.resolve workspace indexing.index verbose links).result =
      .ok observers) :
    Classified workspace links indexing.index observers := by
  obtain ⟨-, rfl⟩ := Observers.resolve_eq_ok_iff.1 resolved
  have sound := sound_of_buildIndex built
  refine
    { unread_iff := fun id observer held => ?_
      group := fun id observer held => ?_
      observed := fun id listed => ?_
      resolved := fun id observer held name member => ?_
      unreached_iff := fun id => mem_unreachedClasses
      missingSources_lt := missingSources_lt _
      unattributedObservers_lt := unattributedObservers_lt _
      unreachedClasses_lt := unreachedClasses_lt _ _
      total_eq := total_summarize_add _ _ }
  · obtain ⟨-, rfl⟩ := Observers.get?_gather_take.1 held
    exact Observers.source_record_eq_none_iff
  · obtain ⟨-, recorded⟩ := Observers.get?_gather_take.1 held
    have attributed : Observers.Attributed workspace indexing.index links id _ :=
      Observers.attributed_record sound links id
    rw [← recorded] at attributed
    refine grouped_of_attributed held (fun unread => ?_) attributed.resolved_empty_iff
    rw [recorded] at unread ⊢
    exact Observers.resolved_isEmpty_of_unread unread
  · exact mem_keys_of_listed listed
  · obtain ⟨-, rfl⟩ := Observers.get?_gather_take.1 held
    obtain ⟨found, indexed⟩ := (Observers.attributed_record sound links id).indexed name member
    exact ⟨Roster.mem_keys_of_get? indexed, fun listed =>
      (mem_unreachedClasses.1 listed).2 (.resolved held member)⟩

/-- The gaps of the small module agree with how its observers were resolved. -/
theorem classified_shop :
    (Shop.survey.buildIndex Shop.workspace).result = .ok Shop.indexing ∧
      ∃ observers, (Observers.resolve Shop.workspace Shop.indexing.index true
          Shop.links).result = .ok observers ∧
        Classified Shop.workspace Shop.links Shop.indexing.index observers := by
  obtain ⟨observers, resolved⟩ : ∃ observers, (Observers.resolve Shop.workspace
      Shop.indexing.index true Shop.links).result = .ok observers :=
    ⟨_, Observers.result_resolve Shop.checkable true⟩
  exact ⟨Shop.buildIndex, observers, resolved, classified_of_resolve Shop.buildIndex resolved⟩

end Gap

end EventAtlas
