import EventAtlas.Proofs.NameSet
import EventAtlas.Observer

/-!
# What a source adds to an observer

A source text that declares services adds them to the observer's services in the order of the
constructor, and credits the observer with the indexed classes they stand for. `Credited` says
once what it means for a set of the observer to hold just what was credited; identifiers,
endpoints and calls are three cases of it.
-/

namespace EventAtlas.Observer

variable {index : ApiIndex} {scope : Scope}

/-- The index holds `found` for a class type that a source text declares, under the names that
the same text sets up. -/
def Matches (index : ApiIndex) (source : String) (found : ApiClass) : Prop :=
  ∃ declared ∈ declaredTypes source, (Scope.ofSource source).find? index declared = some found

/-- A set of an observer that starts empty and that nothing but a credit adds to, where the
credit of a class adds what `part` says. -/
structure Credited (view : Observer → NameSet) (part : ApiClass → String → Prop) : Prop where
  new : ∀ id name, name ∉ view (.new id)
  noted : ∀ (observer : Observer) events services source,
    view { observer with events, services, source } = view observer
  credit : ∀ (observer : Observer) found name,
    name ∈ view (observer.credit found) ↔ name ∈ view observer ∨ part found name

/-- The resolved services are the identifiers of the credited classes. -/
theorem credited_resolved : Credited Observer.resolved fun found name => name = found.id where
  new _ _ := NameSet.not_mem_empty
  noted _ _ _ _ := rfl
  credit _ _ _ := NameSet.mem_insert

/-- The endpoints are those of the credited classes. -/
theorem credited_endpoints :
    Credited Observer.endpoints fun found name => name ∈ found.endpoints where
  new _ _ := NameSet.not_mem_empty
  noted _ _ _ _ := rfl
  credit _ _ _ := NameSet.mem_union

/-- The calls are those of the credited classes. -/
theorem credited_sdkCalls :
    Credited Observer.sdkCalls fun found name => name ∈ found.sdkCalls where
  new _ _ := NameSet.not_mem_empty
  noted _ _ _ _ := rfl
  credit _ _ _ := NameSet.mem_union

/-- Declaring types adds them to the services and touches nothing but the credited sets. -/
theorem foldl_declare_frame (observer : Observer) (types : List String) :
    ∃ resolved endpoints sdkCalls, types.foldl (declare index scope) observer =
      { observer with services := observer.services ++ types, resolved, endpoints, sdkCalls } := by
  induction types generalizing observer with
  | nil => exact ⟨observer.resolved, observer.endpoints, observer.sdkCalls, by simp⟩
  | cons declared rest ih =>
    obtain ⟨resolved, endpoints, sdkCalls, folded⟩ := ih (declare index scope observer declared)
    refine ⟨resolved, endpoints, sdkCalls, ?_⟩
    rw [List.foldl_cons, folded]
    unfold declare
    cases scope.find? index declared <;> simp [credit]

section Collect

variable (index) (observer : Observer) (source : String)

/-- A source adds its types to the services and touches nothing but the credited sets. -/
theorem collect_frame :
    ∃ resolved endpoints sdkCalls, collect index observer source =
      { observer with
        services := observer.services ++ declaredTypes source, resolved, endpoints, sdkCalls } :=
  foldl_declare_frame observer (declaredTypes source)

@[simp] theorem collect_id : (collect index observer source).id = observer.id := by
  obtain ⟨_, _, _, collected⟩ := collect_frame index observer source
  rw [collected]

@[simp] theorem collect_events : (collect index observer source).events = observer.events := by
  obtain ⟨_, _, _, collected⟩ := collect_frame index observer source
  rw [collected]

@[simp] theorem collect_source : (collect index observer source).source = observer.source := by
  obtain ⟨_, _, _, collected⟩ := collect_frame index observer source
  rw [collected]

/-- A source adds the class types it declares to the services, in order. -/
@[simp] theorem collect_services :
    (collect index observer source).services = observer.services ++ declaredTypes source := by
  obtain ⟨_, _, _, collected⟩ := collect_frame index observer source
  rw [collected]

end Collect

section Credited

variable {view : Observer → NameSet} {part : ApiClass → String → Prop}

/-- Declaring one type credits the class that the index holds for it, if any. -/
theorem Credited.mem_declare (credited : Credited view part) {observer : Observer}
    {declared name : String} :
    name ∈ view (declare index scope observer declared) ↔
      name ∈ view observer ∨
        ∃ found, scope.find? index declared = some found ∧ part found name := by
  unfold declare
  have noted : view { observer with services := observer.services ++ [declared] } =
      view observer := credited.noted observer _ _ _
  cases scope.find? index declared with
  | none => simp [noted]
  | some found => simp [credited.credit, noted]

/-- Declaring types one after the other credits the classes that the index holds for them. -/
theorem Credited.mem_foldl_declare (credited : Credited view part) {observer : Observer}
    {types : List String} {name : String} :
    name ∈ view (types.foldl (declare index scope) observer) ↔
      name ∈ view observer ∨
        ∃ declared ∈ types, ∃ found, scope.find? index declared = some found ∧
          part found name := by
  induction types generalizing observer with
  | nil => simp
  | cons declared rest ih =>
    rw [List.foldl_cons, ih, credited.mem_declare]
    simp only [List.mem_cons, exists_eq_or_imp, or_assoc]

/-- A source credits the observer with the classes it matches, and with nothing else. -/
theorem Credited.mem_collect (credited : Credited view part) {observer : Observer}
    {source name : String} :
    name ∈ view (collect index observer source) ↔
      name ∈ view observer ∨ ∃ found, Matches index source found ∧ part found name := by
  unfold collect Matches
  rw [credited.mem_foldl_declare]
  constructor
  · rintro (before | ⟨declared, member, found, held, shown⟩)
    · exact .inl before
    · exact .inr ⟨found, ⟨declared, member, held⟩, shown⟩
  · rintro (before | ⟨found, ⟨declared, member, held⟩, shown⟩)
    · exact .inl before
    · exact .inr ⟨declared, member, found, held, shown⟩

end Credited

end EventAtlas.Observer
