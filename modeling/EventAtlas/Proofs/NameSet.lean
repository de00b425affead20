import EventAtlas.NameSet
import EventAtlas.Proofs.FirstOccurrence
import Mathlib.Data.List.Sort

/-!
# Names in sets

What can be told of a set of names is told by its members: whether it is empty, how many names it
has and which list it is when sorted.
-/

namespace EventAtlas

/-- Different names in increasing order increase strictly. -/
theorem sortNames_lt {names : List String} (distinct : names.Nodup) :
    (sortNames names).Pairwise (· < ·) := by
  have ordered : (sortNames names).Pairwise (· ≤ ·) := by
    have sorted : (sortNames names).Pairwise fun left right => decide (left ≤ right) = true :=
      List.pairwise_mergeSort (fun _ _ _ => by simpa using String.le_trans)
        (fun left right => by simpa using String.le_total left right) names
    simpa using sorted
  have sorted_distinct : (sortNames names).Nodup := (List.mergeSort_perm ..).nodup_iff.2 distinct
  exact (ordered.and sorted_distinct).imp fun ⟨le, ne⟩ => Std.lt_of_le_of_ne le ne

/-- Names that increase strictly are distinct. -/
theorem nodup_of_lt {names : List String} (increase : names.Pairwise (· < ·)) : names.Nodup :=
  increase.imp fun less => Std.ne_of_lt less

/-- Sorting keeps the names. -/
@[simp] theorem mem_sortNames {names : List String} {name : String} :
    name ∈ sortNames names ↔ name ∈ names :=
  List.mem_mergeSort

namespace NameSet

/-- A set is empty exactly when no name is in it. -/
@[simp] theorem isEmpty_iff {set : NameSet} : set.isEmpty = true ↔ ∀ name, name ∉ set := by
  simp only [isEmpty, List.isEmpty_iff, List.eq_nil_iff_forall_not_mem, mem_names]

/-- The names of a set are strictly increasing when sorted. -/
theorem sorted_lt (set : NameSet) : set.sorted.Pairwise (· < ·) :=
  sortNames_lt set.nodup

/-- Sorting keeps the number of names. -/
@[simp] theorem length_sorted (set : NameSet) : set.sorted.length = set.size :=
  (List.mergeSort_perm ..).length_eq

/-- The size of a set is the length of every list of its members without repetitions. -/
theorem size_eq_length {set : NameSet} {names : List String} (distinct : names.Nodup)
    (same : ∀ name, name ∈ names ↔ name ∈ set) : set.size = names.length :=
  ((List.perm_ext_iff_of_nodup set.nodup distinct).2 fun name => (same name).symm).length_eq

/-- Sets with the same members are the same list when sorted. -/
theorem sorted_congr {left right : NameSet} (same : ∀ name, name ∈ left ↔ name ∈ right) :
    left.sorted = right.sorted :=
  left.sorted_lt.eq_of_mem_iff right.sorted_lt (by simpa using same)

/-- Sets with the same members have the same size. -/
theorem size_congr {left right : NameSet} (same : ∀ name, name ∈ left ↔ name ∈ right) :
    left.size = right.size := by
  rw [← length_sorted, sorted_congr same, length_sorted]

/-- The set of a list has as many names as the list has without repetitions. -/
theorem size_ofList (names : List String) : (ofList names).size = names.eraseDups.length :=
  size_eq_length (nodup_eraseDups names) (by simp)

/-- A name that is there is not inserted again. -/
theorem insert_of_mem {set : NameSet} {name : String} (member : name ∈ set) :
    set.insert name = set :=
  dif_pos member

/-- A new name comes last. -/
theorem names_insert_of_not_mem {set : NameSet} {name : String} (new : name ∉ set) :
    (set.insert name).names = set.names ++ [name] := by
  have absent : name ∉ set.names := new
  simp [insert, absent]

/-- Nothing is added by the empty set. -/
@[simp] theorem union_empty (set : NameSet) : set.union empty = set := rfl

/-- A name that is inserted into the second set is inserted into the union. -/
theorem union_insert (left right : NameSet) (name : String) :
    left.union (right.insert name) = (left.union right).insert name := by
  by_cases known : name ∈ right
  · rw [insert_of_mem known, insert_of_mem (mem_union.2 (.inr known))]
  · rw [union, names_insert_of_not_mem known, insertAll, List.foldl_append]
    rfl

/-- Uniting sets one after the other is uniting the first with the union of the others. -/
theorem union_assoc (first second third : NameSet) :
    first.union (second.union third) = (first.union second).union third := by
  have general : ∀ (names : List String) (second : NameSet),
      first.union (second.insertAll names) = (first.union second).insertAll names := by
    intro names
    induction names with
    | nil => exact fun _ => rfl
    | cons name rest ih =>
      intro second
      have shifted := ih (second.insert name)
      rwa [union_insert] at shifted
  exact general third.names second

end NameSet

end EventAtlas
