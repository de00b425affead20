import EventAtlas.Proofs.Survey.Resolve

/-!
# Resolving registrations in parts

What a list of registrations makes of an observer is added to what an earlier list has made of it:
`Observer.merge` says how. One registration more is taken by the later part alone, whatever stands
in the earlier one; so a run over both lists is the merge of a run over each. Since an observer sees
only its own registrations, those of other observers may stand anywhere between them.
-/

namespace EventAtlas

namespace Observer

/-- What two lists of registrations, one after the other, make of an observer, from what each of
them makes of it. The source is that of the later list, if it gives one. -/
def merge (earlier later : Observer) : Observer where
  id := earlier.id
  events := earlier.events ++ later.events
  services := earlier.services ++ later.services
  resolved := earlier.resolved.union later.resolved
  endpoints := earlier.endpoints.union later.endpoints
  sdkCalls := earlier.sdkCalls.union later.sdkCalls
  source := later.source.or earlier.source

variable {index : ApiIndex} {scope : Scope}

/-- An observer of which only the identifier is known adds nothing. -/
@[simp] theorem merge_new (observer : Observer) (id : ClassId) :
    observer.merge (.new id) = observer := by
  simp [merge, new]

/-- A class is credited to the later part. -/
theorem merge_credit (earlier later : Observer) (found : ApiClass) :
    earlier.merge (later.credit found) = (earlier.merge later).credit found := by
  simp [merge, credit, NameSet.union_insert, NameSet.union_assoc]

/-- A service is declared by the later part. -/
theorem merge_declare (earlier later : Observer) (declared : String) :
    earlier.merge (declare index scope later declared) =
      declare index scope (earlier.merge later) declared := by
  have noted : earlier.merge { later with services := later.services ++ [declared] } =
      { earlier.merge later with services := (earlier.merge later).services ++ [declared] } := by
    simp [merge]
  unfold declare
  cases scope.find? index declared with
  | none => exact noted
  | some found => rw [merge_credit, noted]

/-- A source text is read by the later part. -/
theorem merge_collect (earlier later : Observer) (source : String) :
    earlier.merge (collect index later source) = collect index (earlier.merge later) source := by
  unfold collect
  generalize declaredTypes source = types
  induction types generalizing later with
  | nil => rfl
  | cons declared rest ih => rw [List.foldl_cons, List.foldl_cons, ih, merge_declare]

end Observer

namespace Observers

variable {workspace : Workspace} {index : ApiIndex}

/-- A registration is taken by the later part. -/
theorem merge_take (earlier later : Observer) (link : Link) :
    earlier.merge (take workspace index later link) =
      take workspace index (earlier.merge later) link := by
  unfold take register
  cases given workspace link with
  | none => simp [Observer.merge]
  | some source =>
    dsimp only
    rw [Observer.merge_collect]
    simp [Observer.merge]

/-- What two lists of registrations record, one after the other, is the merge of what each of them
records. -/
theorem record_append (id : ClassId) (first second : List Link) :
    record workspace index id (first ++ second) =
      (record workspace index id first).merge (record workspace index id second) := by
  induction second using List.reverseRecOn with
  | nil => simp
  | append_singleton second link ih =>
    rw [← List.append_assoc, record_append_singleton, ih, record_append_singleton, merge_take]

/-- What is gathered under an identifier is told by the registrations of that observer alone: there
is a record when there are any. -/
theorem get?_gather_take_eq (links : List Link) (id : ClassId) :
    (Roster.gather Link.observer Observer.new (take workspace index) .empty links).get? id =
      if own links id = [] then none else some (record workspace index id (own links id)) := by
  rw [Roster.get?_gather]
  by_cases registered : id ∈ links.map Link.observer
  · obtain ⟨link, member, same⟩ := List.mem_map.1 registered
    have some : own links id ≠ [] :=
      List.ne_nil_of_mem (List.mem_filter.2 ⟨member, decide_eq_true same⟩)
    rw [if_pos registered, if_neg some]
    rfl
  · have none : own links id = [] := by
      rw [own, List.filter_eq_nil_iff]
      intro link member same
      exact registered (List.mem_map.2 ⟨link, member, of_decide_eq_true same⟩)
    rw [if_neg registered, if_pos none, Roster.get?_empty]

/-- The observers of two lists of registrations, one after the other, from the observers of each:
those of the first list stay where they are, new ones of the second follow, and what is known of an
observer from both lists is merged. -/
structure Merged (earlier later merged : Observers) : Prop where
  keys : merged.keys = earlier.keys ++ later.keys.filter (· ∉ earlier.keys)
  get? : ∀ id, merged.get? id = Option.merge Observer.merge (earlier.get? id) (later.get? id)

/-- Gathering two lists one after the other merges what is gathered from each. -/
theorem merged_gather_take (first second : List Link) :
    Merged (Roster.gather Link.observer Observer.new (take workspace index) .empty first)
      (Roster.gather Link.observer Observer.new (take workspace index) .empty second)
      (Roster.gather Link.observer Observer.new (take workspace index) .empty
        (first ++ second)) where
  keys := by
    simp only [Roster.keys_gather_empty, List.map_append, List.eraseDups_append]
    rw [List.removeAll, eraseDups_filter]
    congr 1
    apply List.filter_congr
    intro id _
    by_cases known : id ∈ first.map Link.observer <;> simp [known]
  get? id := by
    have split : own (first ++ second) id = own first id ++ own second id := List.filter_append ..
    simp only [get?_gather_take_eq, split, List.append_eq_nil_iff]
    by_cases noFirst : own first id = []
    · by_cases noSecond : own second id = [] <;> simp [noFirst, noSecond]
    · by_cases noSecond : own second id = []
      · simp [noFirst, noSecond]
      · simp [noFirst, noSecond, record_append]

/-- A list in which every observer has the registrations it has in another can be resolved when the
other can. -/
theorem Checkable.of_own_eq {links reordered : List Link} (checkable : Checkable workspace links)
    (same : ∀ id, own reordered id = own links id) : Checkable workspace reordered := by
  intro link member
  have registered : link ∈ own reordered link.observer :=
    List.mem_filter.2 ⟨member, decide_eq_true rfl⟩
  rw [same] at registered
  exact checkable link (List.mem_filter.1 registered).1

end Observers

/-- The registrations of the module, with those of two different observers swapped. -/
def Shop.reordered : List Link :=
  match Shop.links with
  | placed :: gone :: others => gone :: placed :: others
  | few => few

theorem Shop.own_reordered (id : ClassId) :
    Observers.own Shop.reordered id = Observers.own Shop.links id := by
  simp only [Observers.own, Shop.reordered, Shop.links, List.filter_cons]
  by_cases placed : "Shop\\Placed" = id
  · subst placed
    rfl
  · simp [placed]

namespace Observers

variable {workspace : Workspace} {index : ApiIndex}

/-- Resolving two lists of registrations one after the other gives the merge of what resolving
each of them gives. Reordering registrations changes no record as long as each observer keeps its
own registrations in order. -/
theorem resolve_append {first second : List Link}
    (checkable : Checkable workspace (first ++ second)) (verbose : Bool) :
    ∃ earlier later merged,
      (resolve workspace index verbose first).result = .ok earlier ∧
      (resolve workspace index verbose second).result = .ok later ∧
      (resolve workspace index verbose (first ++ second)).result = .ok merged ∧
      Merged earlier later merged ∧
      ∀ reordered, (∀ id, own reordered id = own (first ++ second) id) →
        ∃ observers, (resolve workspace index verbose reordered).result = .ok observers ∧
          ∀ id, observers.get? id = merged.get? id := by
  have ofFirst : Checkable workspace first := fun link member =>
    checkable link (List.mem_append_left _ member)
  have ofSecond : Checkable workspace second := fun link member =>
    checkable link (List.mem_append_right _ member)
  refine ⟨_, _, _, result_resolve ofFirst verbose, result_resolve ofSecond verbose,
    result_resolve checkable verbose, merged_gather_take first second, ?_⟩
  intro reordered same
  refine ⟨_, result_resolve (checkable.of_own_eq same) verbose, fun id => ?_⟩
  rw [get?_gather_take_eq, get?_gather_take_eq, same]

theorem resolve_append_shop :
    Checkable Shop.workspace (Shop.links.take 2 ++ Shop.links.drop 2) ∧
      (∀ id, own Shop.reordered id = own (Shop.links.take 2 ++ Shop.links.drop 2) id) ∧
      ∃ earlier later merged observers,
        (resolve Shop.workspace Shop.indexing.index true (Shop.links.take 2)).result =
          .ok earlier ∧
        (resolve Shop.workspace Shop.indexing.index true (Shop.links.drop 2)).result = .ok later ∧
        (resolve Shop.workspace Shop.indexing.index true Shop.links).result = .ok merged ∧
        Merged earlier later merged ∧
        (resolve Shop.workspace Shop.indexing.index true Shop.reordered).result = .ok observers ∧
        merged.keys = ["Shop\\Placed", "Shop\\Gone", "Shop\\Nowhere"] ∧
        observers.keys = ["Shop\\Gone", "Shop\\Placed", "Shop\\Nowhere"] ∧
        ∀ id, observers.get? id = merged.get? id := by
  have checkable : Checkable Shop.workspace (Shop.links.take 2 ++ Shop.links.drop 2) :=
    Shop.checkable
  obtain ⟨earlier, later, merged, first, second, whole, merges, any⟩ :=
    @resolve_append Shop.workspace Shop.indexing.index _ _ checkable true
  obtain ⟨observers, again, same⟩ := any Shop.reordered Shop.own_reordered
  refine ⟨checkable, Shop.own_reordered, earlier, later, merged, observers, first, second, whole,
    merges, again, ?_, ?_, same⟩
  · rw [(resolve_eq_ok_iff.1 whole).2, Roster.keys_gather_empty]
    rfl
  · rw [(resolve_eq_ok_iff.1 again).2, Roster.keys_gather_empty]
    rfl

end Observers

end EventAtlas
