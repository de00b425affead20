import EventAtlas.Proofs.Roster

/-!
# Changing the values of a roster

The values of a roster can be changed one by one without a look at their keys. The keys and their
order stay, and what is found under a key is what was found there, changed. Entering a changed value
is the same before and after.
-/

namespace EventAtlas.Roster

variable {κ α β γ δ : Type} {change : α → β}

/-- The roster with each value changed. -/
def mapValues (change : α → β) (roster : Roster κ α) : Roster κ β where
  entries := roster.entries.map fun entry => (entry.1, change entry.2)
  distinct := by
    rw [List.map_map]
    exact roster.distinct

@[simp] theorem keys_mapValues (roster : Roster κ α) :
    (roster.mapValues change).keys = roster.keys := by
  simp [keys, mapValues]

@[simp] theorem values_mapValues (roster : Roster κ α) :
    (roster.mapValues change).values = roster.values.map change := by
  simp [values, mapValues]

@[simp] theorem size_mapValues (roster : Roster κ α) :
    (roster.mapValues change).size = roster.size := by
  simp [size, mapValues]

/-- Sorting only looks at the keys. -/
@[simp] theorem sorted_mapValues (roster : Roster String α) :
    (roster.mapValues change).sorted =
      roster.sorted.map fun entry => (entry.1, change entry.2) := by
  let entry (held : String × α) : String × β := (held.1, change held.2)
  have sorted : (roster.entries.mergeSort fun left right => decide (left.1 ≤ right.1)).map entry =
      (roster.entries.map entry).mergeSort fun left right => decide (left.1 ≤ right.1) :=
    List.map_mergeSort fun _ _ _ _ => rfl
  exact sorted.symm

variable [DecidableEq κ]

@[simp] theorem get?_mapValues (roster : Roster κ α) (key : κ) :
    (roster.mapValues change).get? key = (roster.get? key).map change := by
  simp only [get?, mapValues]
  induction roster.entries with
  | nil => rfl
  | cons entry rest ih =>
    rw [List.map_cons, List.lookup_cons, List.lookup_cons, ih]
    split <;> rfl

/-- A value is changed before it is entered or with the others. -/
theorem mapValues_put (roster : Roster κ α) (key : κ) (value : α) :
    (roster.put key value).mapValues change = (roster.mapValues change).put key (change value) := by
  by_cases present : key ∈ roster.keys
  · have present' : key ∈ (roster.mapValues change).keys := by rwa [keys_mapValues]
    have entry (held : κ × α) : (fun held : κ × α => (held.1, change held.2))
        (if held.1 = key then (key, value) else held) =
          if held.1 = key then (key, change value) else (held.1, change held.2) := by
      split <;> rfl
    rw [put, put, dif_pos present, dif_pos present']
    simp only [mapValues, replaceIn, List.map_map, Function.comp_def, entry]
  · have absent : key ∉ (roster.mapValues change).keys := by rwa [keys_mapValues]
    rw [put, put, dif_neg present, dif_neg absent]
    simp [mapValues]

/-- Values are changed before they are gathered or with the others, if each step is the same before
and after. -/
theorem mapValues_gather {key : γ → κ} {key' : δ → κ} {fresh : κ → α} {fresh' : κ → β}
    {step : α → γ → α} {step' : β → δ → β} {item : γ → δ}
    (news : ∀ wanted, change (fresh wanted) = fresh' wanted) (items : List γ)
    (keys : ∀ one ∈ items, key' (item one) = key one)
    (steps : ∀ value, ∀ one ∈ items, change (step value one) = step' (change value) (item one))
    (roster : Roster κ α) :
    (gather key fresh step roster items).mapValues change =
      gather key' fresh' step' (roster.mapValues change) (items.map item) := by
  induction items generalizing roster with
  | nil => rfl
  | cons one rest ih =>
    obtain ⟨first, others⟩ := List.forall_mem_cons.1 keys
    have later := ih others fun value other member =>
      steps value other (List.mem_cons_of_mem _ member)
    have held : ((roster.mapValues change).get? (key one)).getD (fresh' (key one)) =
        change ((roster.get? (key one)).getD (fresh (key one))) := by
      rw [get?_mapValues]
      cases roster.get? (key one) with
      | none => exact (news _).symm
      | some value => rfl
    rw [gather_cons, later, mapValues_put, List.map_cons, gather_cons, first, held,
      steps _ one (List.mem_cons_self ..)]

end EventAtlas.Roster
