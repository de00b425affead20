import EventAtlas.Roster
import Mathlib.Data.List.Induction

/-!
# Looking up in rosters

Looking up a key sees the value that was entered last under it, and no other key. A roster that
is built item by item, where each item updates the value under its own key, holds under each key
what its own items make of it: items of other keys in between leave no trace.
-/

namespace EventAtlas.Roster

variable {κ α β : Type}

/-- The keys of a roster are distinct. -/
theorem nodup_keys (roster : Roster κ α) : roster.keys.Nodup :=
  roster.distinct

/-- The empty roster has no keys. -/
@[simp] theorem keys_empty : (empty : Roster κ α).keys = [] := rfl

/-- Sorting keeps the entries. -/
@[simp] theorem mem_sorted {roster : Roster String α} {entry : String × α} :
    entry ∈ roster.sorted ↔ entry ∈ roster.entries := by
  simp [sorted, List.mem_mergeSort]

/-- Sorting keeps the keys. -/
theorem mem_map_sorted {roster : Roster String α} {key : String} :
    key ∈ roster.sorted.map Prod.fst ↔ key ∈ roster.keys := by
  simp [keys]

/-- The keys of the sorted entries increase. -/
theorem sorted_keys_lt (roster : Roster String α) :
    (roster.sorted.map Prod.fst).Pairwise (· < ·) := by
  have ordered : roster.sorted.Pairwise fun left right => left.1 ≤ right.1 := by
    have sorted : roster.sorted.Pairwise fun left right => decide (left.1 ≤ right.1) = true :=
      List.pairwise_mergeSort (fun _ _ _ => by simpa using String.le_trans)
        (fun left right => by simpa using String.le_total left.1 right.1) roster.entries
    simpa using sorted
  have distinct : (roster.sorted.map Prod.fst).Nodup :=
    ((List.mergeSort_perm roster.entries _).map Prod.fst).nodup_iff.2 roster.distinct
  have both := (List.pairwise_map.2 ordered).and distinct
  exact both.imp fun ⟨le, ne⟩ => Std.lt_of_le_of_ne le ne

/-- There are as many entries as keys. -/
theorem size_eq_length_keys (roster : Roster κ α) : roster.size = roster.keys.length := by
  rw [size, keys, List.length_map]

variable [DecidableEq κ]

/-- Entering a value adds an entry if the key is new. -/
theorem size_put (roster : Roster κ α) (key : κ) (value : α) :
    (roster.put key value).size = if key ∈ roster.keys then roster.size else roster.size + 1 := by
  rw [size_eq_length_keys, size_eq_length_keys, keys_put]
  split
  · rfl
  · simp

/-- A value is found under a key exactly when the roster has that entry. -/
theorem get?_eq_some_iff {roster : Roster κ α} {key : κ} {value : α} :
    roster.get? key = some value ↔ (key, value) ∈ roster.entries := by
  obtain ⟨entries, distinct⟩ := roster
  simp only [get?]
  induction entries with
  | nil => simp
  | cons entry rest ih =>
    obtain ⟨first, held⟩ := entry
    rw [List.map_cons, List.nodup_cons] at distinct
    by_cases same : key = first
    · subst same
      have absent : (key, value) ∉ rest := fun member =>
        distinct.1 (List.mem_map.2 ⟨_, member, rfl⟩)
      simp [absent, eq_comm]
    · have apart : (key == first) = false := by simpa using same
      simp [List.lookup_cons, apart, same, ih distinct.2]

/-- Something is found only under the keys that the roster has. -/
theorem mem_keys_of_get? {roster : Roster κ α} {key : κ} {value : α}
    (held : roster.get? key = some value) : key ∈ roster.keys :=
  List.mem_map_of_mem (get?_eq_some_iff.1 held)

/-- The keys are those under which something is found. -/
theorem mem_keys_iff {roster : Roster κ α} {key : κ} :
    key ∈ roster.keys ↔ ∃ value, roster.get? key = some value := by
  simp only [keys, List.mem_map, get?_eq_some_iff]
  constructor
  · rintro ⟨⟨_, value⟩, entered, rfl⟩
    exact ⟨value, entered⟩
  · rintro ⟨value, entered⟩
    exact ⟨_, entered, rfl⟩

/-- Nothing is found under exactly the keys that the roster does not have. -/
theorem get?_eq_none_iff {roster : Roster κ α} {key : κ} :
    roster.get? key = none ↔ key ∉ roster.keys := by
  simp only [get?, keys, List.lookup_eq_none_iff, List.mem_map, not_exists, not_and]
  constructor
  · rintro apart entry member rfl
    simpa using apart entry member
  · intro absent entry member
    simpa using fun same => absent entry member same.symm

/-- The sorted keys whose entries satisfy a condition are those under which such a value is
found. -/
theorem mem_map_filter_sorted {roster : Roster String α} {keep : String × α → Bool}
    {key : String} : key ∈ (roster.sorted.filter keep).map Prod.fst ↔
      ∃ value, roster.get? key = some value ∧ keep (key, value) = true := by
  simp only [List.mem_map, List.mem_filter, mem_sorted, get?_eq_some_iff]
  constructor
  · rintro ⟨⟨_, value⟩, ⟨entered, kept⟩, rfl⟩
    exact ⟨value, entered, kept⟩
  · rintro ⟨value, entered, kept⟩
    exact ⟨(key, value), ⟨entered, kept⟩, rfl⟩

/-- Nothing is found in the empty roster. -/
@[simp] theorem get?_empty (key : κ) : (empty : Roster κ α).get? key = none := rfl

/-- Replacing the value under a key is not seen under another key. -/
theorem lookup_replaceIn_of_ne {key other : κ} (value : α) (entries : List (κ × α))
    (apart : other ≠ key) : (replaceIn key value entries).lookup other = entries.lookup other := by
  induction entries with
  | nil => rfl
  | cons entry rest ih =>
    obtain ⟨first, held⟩ := entry
    simp only [replaceIn, List.map_cons] at ih ⊢
    by_cases here : first = key
    · have passed : (other == key) = false := by simpa using apart
      simp [List.lookup_cons, here, passed, ih]
    · simp [List.lookup_cons, here, ih]

/-- Replacing the value under a key that is there is seen under that key. -/
theorem lookup_replaceIn_self {key : κ} (value : α) {entries : List (κ × α)}
    (present : key ∈ entries.map Prod.fst) :
    (replaceIn key value entries).lookup key = some value := by
  induction entries with
  | nil => simp at present
  | cons entry rest ih =>
    obtain ⟨first, held⟩ := entry
    simp only [replaceIn, List.map_cons] at ih ⊢
    by_cases here : first = key
    · simp [here]
    · have later : key ∈ rest.map Prod.fst := by
        rw [List.map_cons, List.mem_cons] at present
        exact present.resolve_left (Ne.symm here)
      have passed : (key == first) = false := by simpa using Ne.symm here
      simp [List.lookup_cons, here, passed, ih later]

/-- Entering a value is seen under its key alone. -/
theorem get?_put (roster : Roster κ α) (key : κ) (value : α) (other : κ) :
    (roster.put key value).get? other = if other = key then some value else roster.get? other := by
  unfold put
  split
  · next present =>
    by_cases same : other = key
    · subst same
      simpa [get?] using lookup_replaceIn_self value present
    · simpa [get?, same] using lookup_replaceIn_of_ne value roster.entries same
  · next absent =>
    have missing : roster.get? key = none := get?_eq_none_iff.2 absent
    simp only [get?] at missing ⊢
    rw [List.lookup_append]
    by_cases same : other = key
    · subst same
      simp [missing]
    · have apart : (other == key) = false := by simpa using same
      simp [List.lookup_cons, apart, same]

/-- Of the values that are entered under a key, the last one is found. -/
theorem get?_ofList (entries : List (κ × α)) (key : κ) :
    (ofList entries).get? key = entries.reverse.lookup key := by
  induction entries using List.reverseRecOn with
  | nil => rfl
  | append_singleton entries entry ih =>
    have last : ofList (entries ++ [entry]) = (ofList entries).put entry.1 entry.2 := by
      simp [ofList]
    rw [last, get?_put, ih, List.reverse_append, List.reverse_singleton, List.singleton_append,
      List.lookup_cons]
    by_cases same : key = entry.1
    · simp [same]
    · simp [same, beq_eq_false_iff_ne.2 same]

/-- A value is found under a key if it is entered there and no other one is entered there later. -/
theorem get?_ofList_eq_some_iff {entries : List (κ × α)} {key : κ} {value : α} :
    (ofList entries).get? key = some value ↔ ∃ before after,
      entries = before ++ (key, value) :: after ∧ ∀ later ∈ after, later.1 ≠ key := by
  rw [get?_ofList, List.lookup_eq_some_iff]
  constructor
  · rintro ⟨after, before, reversed, apart⟩
    refine ⟨before.reverse, after.reverse, ?_, fun later member => ?_⟩
    · rw [← List.reverse_reverse entries, reversed]
      simp
    · exact (bne_iff_ne.1 (apart later (List.mem_reverse.1 member))).symm
  · rintro ⟨before, after, rfl, apart⟩
    refine ⟨after.reverse, before.reverse, by simp, fun later member => ?_⟩
    exact bne_iff_ne.2 (apart later (List.mem_reverse.1 member)).symm

/-- The roster after every item of a list has updated the value under its own key. A key that
is not there yet starts from `fresh`. -/
def gather (key : β → κ) (fresh : κ → α) (step : α → β → α) (roster : Roster κ α)
    (items : List β) : Roster κ α :=
  items.foldl (fun roster item =>
    roster.put (key item) (step ((roster.get? (key item)).getD (fresh (key item))) item)) roster

section Gather

variable {key : β → κ} {fresh : κ → α} {step : α → β → α}

/-- Gathering takes the first item and goes on with the others. -/
theorem gather_cons (roster : Roster κ α) (item : β) (rest : List β) :
    gather key fresh step roster (item :: rest) =
      gather key fresh step (roster.put (key item)
        (step ((roster.get? (key item)).getD (fresh (key item))) item)) rest := rfl

/-- What is found under a key after gathering is what the items of that key, in order, make of
what was there before. -/
theorem get?_gather (roster : Roster κ α) (items : List β) (wanted : κ) :
    (gather key fresh step roster items).get? wanted =
      if wanted ∈ items.map key then
        some ((items.filter (key · = wanted)).foldl step ((roster.get? wanted).getD (fresh wanted)))
      else roster.get? wanted := by
  induction items generalizing roster with
  | nil => simp [gather]
  | cons item rest ih =>
    rw [gather_cons, ih, get?_put]
    by_cases same : key item = wanted
    · subst same
      by_cases later : key item ∈ rest.map key
      · simp [later]
      · -- No later item has this key, so the value entered now is the final one.
        have none : rest.filter (key · = key item) = [] := by
          rw [List.filter_eq_nil_iff]
          intro other member
          have differs : key other ≠ key item := fun eq =>
            later (eq ▸ List.mem_map_of_mem member)
          simpa using differs
        simp [later, none]
    · simp [same, Ne.symm same]

/-- After gathering, the keys that were there come first, then those of the items in the order
in which they first occur. -/
theorem keys_gather (roster : Roster κ α) (items : List β) :
    (gather key fresh step roster items).keys =
      roster.keys ++ ((items.map key).removeAll roster.keys).eraseDups := by
  induction items generalizing roster with
  | nil => simp [gather]
  | cons item rest ih =>
    rw [gather_cons, ih, keys_put, List.map_cons]
    by_cases known : key item ∈ roster.keys
    · simp [known, List.removeAll]
    · have rest_new : (rest.map key).removeAll (roster.keys ++ [key item]) =
          ((rest.map key).removeAll roster.keys).filter fun other => !other == key item := by
        simp only [List.removeAll, List.filter_filter]
        apply List.filter_congr
        intro other _
        by_cases same : other = key item <;> simp [same]
      have first_new : (key item :: rest.map key).removeAll roster.keys =
          key item :: (rest.map key).removeAll roster.keys := by
        simp [List.removeAll, known]
      simp [known, List.eraseDups_cons, first_new, rest_new]

/-- Gathering into the empty roster gives the keys of the items in order of first occurrence. -/
theorem keys_gather_empty (items : List β) :
    (gather key fresh step empty items).keys = (items.map key).eraseDups := by
  rw [keys_gather, keys_empty, List.removeAll_nil, List.nil_append]

end Gather

end EventAtlas.Roster
