/-!
# Sets of names

A set keeps its names in some order without repetition. The order carries no meaning:
whatever is printed from a set is printed from `sorted`.
-/

namespace EventAtlas

/-- Names in increasing order of their code points. -/
def sortNames (names : List String) : List String :=
  names.mergeSort fun left right => decide (left ≤ right)

/-- A finite set of names. -/
structure NameSet where
  names : List String
  nodup : names.Nodup
deriving DecidableEq

namespace NameSet

/-- The set without names. -/
def empty : NameSet where
  names := []
  nodup := List.nodup_nil

instance : EmptyCollection NameSet := ⟨empty⟩

instance : Inhabited NameSet := ⟨empty⟩

instance : Membership String NameSet := ⟨fun set name => name ∈ set.names⟩

instance (name : String) (set : NameSet) : Decidable (name ∈ set) :=
  inferInstanceAs (Decidable (name ∈ set.names))

/-- Membership is membership in the list of names. -/
@[simp] theorem mem_names {name : String} {set : NameSet} : name ∈ set.names ↔ name ∈ set :=
  Iff.rfl

/-- The set with one more name. -/
def insert (set : NameSet) (name : String) : NameSet :=
  if present : name ∈ set.names then set
  else
    { names := set.names ++ [name]
      nodup := by
        rw [List.nodup_append]
        refine ⟨set.nodup, by simp, ?_⟩
        intro a ha b hb
        simp only [List.mem_singleton] at hb
        subst hb
        exact fun same => present (same ▸ ha) }

/-- Inserting adds exactly the one name. -/
@[simp] theorem mem_insert {set : NameSet} {name other : String} :
    other ∈ set.insert name ↔ other ∈ set ∨ other = name := by
  unfold insert
  split
  · next present =>
    constructor
    · exact Or.inl
    · rintro (member | rfl)
      · exact member
      · exact present
  · simp [← mem_names]

/-- The set with all names of a list. -/
def insertAll (set : NameSet) (names : List String) : NameSet :=
  names.foldl insert set

/-- Inserting a list adds exactly its members. -/
@[simp] theorem mem_insertAll {set : NameSet} {names : List String} {name : String} :
    name ∈ set.insertAll names ↔ name ∈ set ∨ name ∈ names := by
  unfold insertAll
  induction names generalizing set with
  | nil => simp
  | cons first rest ih => simp [ih, or_assoc]

/-- The set of the members of a list. -/
def ofList (names : List String) : NameSet :=
  empty.insertAll names

/-- No name is in the empty set. -/
@[simp] theorem not_mem_empty {name : String} : name ∉ empty := by
  simp [← mem_names, empty]

/-- A list and its set have the same members. -/
@[simp] theorem mem_ofList {names : List String} {name : String} :
    name ∈ ofList names ↔ name ∈ names := by
  simp [ofList]

/-- The names of both sets. -/
def union (left right : NameSet) : NameSet :=
  left.insertAll right.names

/-- A name is in the union when it is in one of the sets. -/
@[simp] theorem mem_union {left right : NameSet} {name : String} :
    name ∈ left.union right ↔ name ∈ left ∨ name ∈ right := by
  simp [union]

/-- The number of names. -/
def size (set : NameSet) : Nat :=
  set.names.length

/-- Whether the set has no names. -/
def isEmpty (set : NameSet) : Bool :=
  set.names.isEmpty

/-- The names in increasing order. -/
def sorted (set : NameSet) : List String :=
  sortNames set.names

/-- Sorting keeps the members. -/
@[simp] theorem mem_sorted {set : NameSet} {name : String} : name ∈ set.sorted ↔ name ∈ set := by
  simp [sorted, sortNames, List.mem_mergeSort]

end NameSet

end EventAtlas
