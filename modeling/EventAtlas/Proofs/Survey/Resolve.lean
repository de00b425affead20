import EventAtlas.Proofs.Observer
import EventAtlas.Proofs.Survey.Index
import EventAtlas.Survey.Resolve
import Mathlib.Algebra.BigOperators.Group.List.Lemmas
import Mathlib.Algebra.GroupWithZero.Nat

/-!
# Observers from registrations

When every file that a list of registrations points to can be looked for, resolving succeeds, and
what it makes of an observer depends on the registrations of that observer alone. `record` is that
dependence; the run of the whole list is a gathering of such records, whatever the registrations
of different observers stand between each other.
-/

namespace EventAtlas

namespace Observers

variable {workspace : Workspace} {index : ApiIndex}

/-- Every file that registrations point to can be looked for without a failure. -/
def Checkable (workspace : Workspace) (links : List Link) : Prop :=
  ∀ link ∈ links, ∀ path, link.source = some path →
    ∃ there, workspace.isFile path = .ok there

/-- The source that a registration gives, with its text: its path leads to a file and the file
can be opened. -/
def given (workspace : Workspace) (link : Link) : Option (Path × String) :=
  link.source.bind fun path =>
    match workspace.isFile path, workspace.readSource? path with
    | .ok true, .ok (some text) => some (path, text)
    | _, _ => none

/-- The registrations of one observer, in order. -/
def own (links : List Link) (id : ClassId) : List Link :=
  links.filter (·.observer = id)

/-- The sources that the registrations of one observer give, in order. A file that is registered
several times occurs as often. -/
def sources (workspace : Workspace) (links : List Link) (id : ClassId) : List (Path × String) :=
  (own links id).filterMap (given workspace)

/-- What an observer is after one more registration. -/
def take (workspace : Workspace) (index : ApiIndex) (observer : Observer) (link : Link) :
    Observer :=
  register index observer link.event (given workspace link)

/-- What a list of registrations makes of a new observer. -/
def record (workspace : Workspace) (index : ApiIndex) (id : ClassId) (links : List Link) :
    Observer :=
  links.foldl (take workspace index) (.new id)

/-- A path that is looked for and found is the expected one, and leads to a file. -/
theorem of_sourcePath {link : Link} {path : Path}
    (found : sourcePath workspace link = .ok (some path)) :
    link.source = some path ∧ workspace.isFile path = .ok true := by
  unfold sourcePath at found
  cases pointed : link.source with
  | none =>
    rw [pointed] at found
    cases found
  | some expected =>
    rw [pointed] at found
    obtain ⟨there, looked, found⟩ := bind_eq_ok_iff.1 found
    cases there with
    | false => cases found
    | true =>
      cases found
      exact ⟨rfl, looked⟩

/-- The source of a registration with its text: it is looked for, and then it is read. -/
def sourceOf (workspace : Workspace) (link : Link) : Except Failure (Option (Path × String)) := do
  readAt workspace (← sourcePath workspace link)

/-- Whatever is told, taking a registration fails only if its source cannot be looked for or read,
and otherwise goes by the source. -/
theorem result_resolveNext {verbose : Bool} (observers : Observers) (link : Link) :
    (resolveNext workspace index verbose observers link).result =
      (sourceOf workspace link).map fun source => observers.put link.observer
        (register index (observers.getD link.observer) link.event source) := by
  simp only [resolveNext, sourceOf, Trace.result_bind, Trace.result_ofExcept]
  cases sourcePath workspace link with
  | error failure => rfl
  | ok path =>
    change ((Trace.noteIf _ _).result >>= _) = _
    rw [Trace.result_noteIf]
    change (readAt workspace path >>= _) = (readAt workspace path).map _
    cases readAt workspace path <;> rfl

/-- A file that can be looked for is looked up without a failure, and the source that is used is
the one that the registration gives. -/
theorem sourceOf_eq_given {links : List Link} (checkable : Checkable workspace links)
    {link : Link} (member : link ∈ links) :
    sourceOf workspace link = .ok (given workspace link) := by
  unfold sourceOf sourcePath given
  cases pointed : link.source with
  | none => rfl
  | some path =>
    obtain ⟨there, looked⟩ := checkable link member path pointed
    cases there with
    | false =>
      simp only [looked, Option.bind_some]
      rfl
    | true =>
      obtain ⟨source, read⟩ := Workspace.exists_readSource?_of_isFile looked
      simp only [looked, read, Option.bind_some]
      change readAt workspace (some path) = _
      rw [readAt, read]
      cases source <;> rfl

/-- Resolving succeeds when all files can be looked for, and gathers under each observer what its
own registrations make of it. -/
theorem result_resolve {links : List Link} (checkable : Checkable workspace links)
    (verbose : Bool) :
    (resolve workspace index verbose links).result =
      .ok (Roster.gather Link.observer Observer.new (take workspace index) .empty links) := by
  unfold resolve
  rw [Trace.result_foldlM_eq_ok (fun observers link =>
    observers.put link.observer (take workspace index (observers.getD link.observer) link))]
  · rfl
  · intro observers link member
    rw [result_resolveNext, sourceOf_eq_given checkable member]
    rfl

/-- When a source is looked up without a failure, its file can be looked for. -/
theorem exists_isFile_of_sourceOf {link : Link} {path : Path} {source : Option (Path × String)}
    (looked : sourceOf workspace link = .ok source) (pointed : link.source = some path) :
    ∃ there, workspace.isFile path = .ok there := by
  obtain ⟨_, found, -⟩ := bind_eq_ok_iff.1 looked
  rw [sourcePath, pointed] at found
  obtain ⟨there, checked, -⟩ := bind_eq_ok_iff.1 found
  exact ⟨there, checked⟩

/-- Resolving succeeds exactly when all files can be looked for. -/
theorem resolve_eq_ok_iff {links : List Link} {verbose : Bool} {observers : Observers} :
    (resolve workspace index verbose links).result = .ok observers ↔
      Checkable workspace links ∧
        observers = Roster.gather Link.observer Observer.new (take workspace index) .empty links := by
  constructor
  · intro resolved
    have checkable : Checkable workspace links := by
      intro link member path pointed
      obtain ⟨_, _, taken⟩ := Trace.exists_of_foldlM resolved member
      rw [result_resolveNext] at taken
      obtain ⟨_, looked, -⟩ := exists_of_map_eq_ok taken
      exact exists_isFile_of_sourceOf looked pointed
    rw [result_resolve checkable] at resolved
    cases resolved
    exact ⟨checkable, rfl⟩
  · rintro ⟨checkable, rfl⟩
    exact result_resolve checkable verbose

/-- An observer is listed under its identifier exactly if it is registered, with the record that
its own registrations make. -/
theorem get?_gather_take {links : List Link} {id : ClassId} {observer : Observer} :
    (Roster.gather Link.observer Observer.new (take workspace index) .empty links).get? id =
        some observer ↔
      (∃ link ∈ links, link.observer = id) ∧ observer = record workspace index id (own links id) := by
  rw [Roster.get?_gather]
  by_cases registered : id ∈ links.map Link.observer
  · rw [if_pos registered, Option.some_inj]
    exact ⟨fun same => ⟨List.mem_map.1 registered, same.symm⟩, fun same => same.2.symm⟩
  · rw [if_neg registered, Roster.get?_empty]
    constructor
    · intro held
      cases held
    · rintro ⟨found, -⟩
      exact absurd (List.mem_map.2 found) registered

/-! ### What a record holds -/

section Record

variable {id : ClassId} {links : List Link}

@[simp] theorem record_nil : record workspace index id [] = .new id := rfl

/-- A further registration is taken last. -/
theorem record_append_singleton (link : Link) :
    record workspace index id (links ++ [link]) =
      take workspace index (record workspace index id links) link := by
  simp [record]

/-- A registration adds its event, whether or not it gives a source. -/
theorem take_events (observer : Observer) (link : Link) :
    (take workspace index observer link).events = observer.events ++ [link.event] := by
  unfold take register
  cases given workspace link <;> simp

theorem take_id (observer : Observer) (link : Link) :
    (take workspace index observer link).id = observer.id := by
  unfold take register
  cases given workspace link <;> simp

/-- A registration that gives a source adds the types that the source declares. -/
theorem take_services (observer : Observer) (link : Link) :
    (take workspace index observer link).services =
      observer.services ++
        (given workspace link).toList.flatMap fun source => Observer.declaredTypes source.2 := by
  unfold take register
  cases given workspace link <;> simp

/-- A registration that gives a source replaces the observer's source. -/
theorem take_source (observer : Observer) (link : Link) :
    (take workspace index observer link).source =
      ((given workspace link).map Prod.fst).or observer.source := by
  unfold take register
  cases given workspace link <;> simp

/-- The events of a record are those of its registrations, in order and with repetitions. -/
theorem record_events : (record workspace index id links).events = links.map (·.event) := by
  induction links using List.reverseRecOn with
  | nil => rfl
  | append_singleton links link ih => simp [record_append_singleton, take_events, ih]

theorem record_id : (record workspace index id links).id = id := by
  induction links using List.reverseRecOn with
  | nil => rfl
  | append_singleton links link ih => simp [record_append_singleton, take_id, ih]

/-- The services of a record are the types that its sources declare, one source after the
other. -/
theorem record_services :
    (record workspace index id links).services =
      (links.filterMap (given workspace)).flatMap fun source =>
        Observer.declaredTypes source.2 := by
  induction links using List.reverseRecOn with
  | nil => rfl
  | append_singleton links link ih =>
    rw [record_append_singleton, take_services, ih, List.filterMap_append, List.flatMap_append]
    cases found : given workspace link <;> simp [found]

/-- The source of a record is the one that was read last. -/
theorem record_source :
    (record workspace index id links).source =
      (links.filterMap (given workspace)).getLast?.map Prod.fst := by
  induction links using List.reverseRecOn with
  | nil => rfl
  | append_singleton links link ih =>
    rw [record_append_singleton, take_source, ih, List.filterMap_append]
    cases found : given workspace link <;> simp [found]

/-- A record has no source exactly when no registration gives one. -/
theorem source_record_eq_none_iff :
    (record workspace index id links).source = none ↔ links.filterMap (given workspace) = [] := by
  rw [record_source, Option.map_eq_none_iff, List.getLast?_eq_none_iff]

end Record

/-- The gathered observers react to the events for which they are registered. -/
theorem reacts_gather_take_iff {links : List Link} {id : ClassId} {event : String} :
    (∃ observer, (id, observer) ∈
        (Roster.gather Link.observer Observer.new (take workspace index) .empty links).entries ∧
          event ∈ observer.events) ↔
      ∃ link ∈ links, link.observer = id ∧ link.event = event := by
  simp only [← Roster.get?_eq_some_iff, get?_gather_take]
  constructor
  · rintro ⟨_, ⟨-, rfl⟩, reacts⟩
    rw [record_events] at reacts
    obtain ⟨link, registered, rfl⟩ := List.mem_map.1 reacts
    obtain ⟨member, same⟩ := List.mem_filter.1 registered
    exact ⟨link, member, of_decide_eq_true same, rfl⟩
  · rintro ⟨link, member, rfl, rfl⟩
    refine ⟨_, ⟨⟨link, member, rfl⟩, rfl⟩, ?_⟩
    rw [record_events]
    exact List.mem_map_of_mem (List.mem_filter.2 ⟨member, by simp⟩)

/-- What a list of registrations says of one of its observers. -/
structure Recorded (workspace : Workspace) (links : List Link) (id : ClassId)
    (observer : Observer) : Prop where
  id_eq : observer.id = id
  events : observer.events = (own links id).map (·.event)
  services : observer.services =
    (sources workspace links id).flatMap fun source => Observer.declaredTypes source.2
  source : observer.source = (sources workspace links id).getLast?.map Prod.fst
  /-- Without a file that can be opened there is nothing but the events. -/
  unread : (∀ link ∈ links, link.observer = id → given workspace link = none) →
    observer.source = none ∧ observer.services = [] ∧ observer.resolved = .empty ∧
      observer.endpoints = .empty ∧ observer.sdkCalls = .empty

/-- Registrations that give no source add nothing but their events. -/
theorem record_of_unread {id : ClassId} {links : List Link}
    (unread : ∀ link ∈ links, given workspace link = none) :
    record workspace index id links = { Observer.new id with events := links.map (·.event) } := by
  induction links using List.reverseRecOn with
  | nil => rfl
  | append_singleton links link ih =>
    have before := ih fun other member => unread other (List.mem_append_left _ member)
    have last : given workspace link = none := unread link (by simp)
    rw [record_append_singleton, before]
    simp [take, register, last]

/-- The record that the registrations of an observer make is what the whole list says of it. -/
theorem recorded_record (workspace : Workspace) (index : ApiIndex) (links : List Link)
    (id : ClassId) :
    Recorded workspace links id (record workspace index id (own links id)) where
  id_eq := record_id
  events := record_events
  services := record_services
  source := record_source
  unread unread := by
    rw [record_of_unread fun link member => by
      obtain ⟨registered, same⟩ := List.mem_filter.1 member
      exact unread link registered (of_decide_eq_true same)]
    exact ⟨rfl, rfl, rfl, rfl, rfl⟩

/-- Every registration adds one event to one observer. -/
theorem sum_events_gather_take (links : List Link) :
    ((Roster.gather Link.observer Observer.new (take workspace index) .empty links).values.map
      (·.events.length)).sum = links.length := by
  generalize gathered :
    Roster.gather Link.observer Observer.new (take workspace index) .empty links = observers
  have keys : observers.keys = (links.map Link.observer).eraseDups :=
    gathered ▸ Roster.keys_gather_empty links
  have lengths : observers.entries.map (fun entry => entry.2.events.length) =
      observers.keys.map (links.map Link.observer).count := by
    rw [Roster.keys, List.map_map]
    apply List.map_congr_left
    rintro ⟨id, observer⟩ member
    have held := Roster.get?_eq_some_iff.2 member
    rw [← gathered, get?_gather_take] at held
    simp only [Function.comp_apply, held.2, record_events, List.length_map, own]
    rw [List.count, List.countP_map, List.countP_eq_length_filter]
    rfl
  have perm : observers.keys.Perm (links.map Link.observer).dedup := by
    rw [List.perm_ext_iff_of_nodup observers.nodup_keys (List.nodup_dedup _), keys]
    simp
  calc
    (observers.values.map (·.events.length)).sum
        = (observers.keys.map (links.map Link.observer).count).sum := by
      rw [← lengths, Roster.values, List.map_map]
      rfl
    _ = ((links.map Link.observer).dedup.map (links.map Link.observer).count).sum :=
      (perm.map _).sum_eq
    _ = (links.map Link.observer).length := List.sum_map_count_dedup_eq_length _
    _ = links.length := List.length_map _

end Observers

/-- An observer that is registered twice, with a missing one and one without a path between. -/
def Shop.links : List Link := [
  { event := "placed", observer := "Shop\\Placed", source := some (.ofString "Placed.php"),
    config := none },
  { event := "gone", observer := "Shop\\Gone", source := some (.ofString "Gone.php"),
    config := none },
  { event := "paid", observer := "Shop\\Nowhere", source := none, config := none },
  { event := "paid", observer := "Shop\\Placed", source := some (.ofString "Placed.php"),
    config := none }]

theorem Shop.checkable : Observers.Checkable Shop.workspace Shop.links := by
  intro link member path pointed
  simp only [Shop.links, List.mem_cons, List.not_mem_nil, or_false] at member
  rcases member with rfl | rfl | rfl | rfl <;> cases pointed
  · exact ⟨true, by decide +kernel⟩
  · exact ⟨false, by decide +kernel⟩
  · exact ⟨true, by decide +kernel⟩

namespace Observers

variable {workspace : Workspace} {index : ApiIndex}

/-- Resolving lists the observers in the order in which they are first registered, records under
each what its registrations say, and loses or invents no event. -/
theorem resolve_records {links : List Link} (checkable : Checkable workspace links)
    (verbose : Bool) :
    ∃ observers, (resolve workspace index verbose links).result = .ok observers ∧
      observers.keys = (links.map Link.observer).eraseDups ∧
      (∀ id observer, observers.get? id = some observer →
        Recorded workspace links id observer) ∧
      (observers.values.map (·.events.length)).sum = links.length := by
  refine ⟨_, result_resolve checkable verbose, Roster.keys_gather_empty links, ?_,
    sum_events_gather_take links⟩
  intro id observer held
  obtain ⟨-, rfl⟩ := get?_gather_take.1 held
  exact recorded_record workspace index links id

end Observers

/-- The shop with a source that may not be opened. -/
def Shop.guarded : Workspace :=
  { workspace with tree := workspace.tree.put ["Closed.php"] .lockedFile }

/-- The observer is registered once more, with the source that may not be opened. -/
def Shop.guardedLinks : List Link :=
  links ++ [
    { event := "sent", observer := "Shop\\Placed", source := some (.ofString "Closed.php"),
      config := none }]

theorem Shop.checkable_guarded : Observers.Checkable Shop.guarded Shop.guardedLinks := by
  intro link member path pointed
  simp only [guardedLinks, links, List.cons_append, List.nil_append, List.mem_cons,
    List.not_mem_nil, or_false] at member
  rcases member with rfl | rfl | rfl | rfl | rfl <;> cases pointed
  · exact ⟨true, by decide +kernel⟩
  · exact ⟨false, by decide +kernel⟩
  · exact ⟨true, by decide +kernel⟩
  · exact ⟨true, by decide +kernel⟩

/-- The file that may not be opened is there, and the source stays the one that was read before. -/
theorem Observers.resolve_records_shop :
    Checkable Shop.guarded Shop.guardedLinks ∧
      Shop.guarded.isFile (.ofString "Closed.php") = .ok true ∧
      ∃ observers, (resolve Shop.guarded Shop.indexing.index true Shop.guardedLinks).result =
          .ok observers ∧
        observers.keys = ["Shop\\Placed", "Shop\\Gone", "Shop\\Nowhere"] ∧
        (∀ observer, observers.get? "Shop\\Placed" = some observer →
          observer.events = ["placed", "paid", "sent"] ∧
          observer.source = some (.ofString "Placed.php")) ∧
        (observers.values.map (·.events.length)).sum = 5 := by
  obtain ⟨observers, resolved, keys, recorded, total⟩ :=
    @resolve_records _ Shop.indexing.index _ Shop.checkable_guarded true
  refine ⟨Shop.checkable_guarded, by decide +kernel, observers, resolved, keys, ?_, total⟩
  intro observer held
  have record := recorded _ _ held
  have sources : Observers.sources Shop.guarded Shop.guardedLinks "Shop\\Placed" =
      [(.ofString "Placed.php", Shop.placedText), (.ofString "Placed.php", Shop.placedText)] := by
    decide +kernel
  rw [record.events, record.source, sources]
  exact ⟨rfl, rfl⟩

end EventAtlas
