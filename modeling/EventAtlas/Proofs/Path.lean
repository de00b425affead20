import EventAtlas.Path
import EventAtlas.Proofs.Text.Field
import Mathlib.Algebra.BigOperators.Group.List.Lemmas
import Mathlib.Algebra.GroupWithZero.Nat

/-!
# Written paths and joined paths

A path that is joined to a directory goes on from it, unless it starts at the root, and stays within
it as long as it never goes back. What a path is made of can only become more by characters in front
of it.
-/

namespace EventAtlas.Path

open Text

/-- Whether a field of a written path is one of the path's parts. -/
def IsPart (field : List Char) : Prop :=
  field ≠ [] ∧ field ≠ ['.']

instance (field : List Char) : Decidable (IsPart field) :=
  inferInstanceAs (Decidable (field ≠ [] ∧ field ≠ ['.']))

/-- The parts of a written path are those of its fields that count. -/
theorem partsOf_eq (written : List Char) :
    partsOf written = ((fields '/' written).filter fun field => IsPart field).map String.ofList :=
  rfl

/-- A part of a written path is a field of it. -/
theorem mem_partsOf_iff {written : List Char} {part : String} :
    part ∈ partsOf written ↔ part.toList ∈ fields '/' written ∧ IsPart part.toList := by
  simp only [partsOf_eq, List.mem_map, List.mem_filter, decide_eq_true_eq]
  constructor
  · rintro ⟨field, kept, rfl⟩
    simpa using kept
  · exact fun kept => ⟨part.toList, kept, String.ofList_toList⟩

/-- A written path starts at the root exactly if it starts with a slash. -/
theorem isAbsolute_ofString_iff {written : String} :
    (ofString written).isAbsolute = true ↔ written.toList.head? = some '/' := by
  cases shape : written.toList with
  | nil => simp [ofString, isAbsolute, shape, Anchor.ofSlashes]
  | cons c rest =>
    by_cases slash : c = '/'
    · subst slash
      have some : Anchor.ofSlashes ((rest.takeWhile (· == '/')).length + 1) ≠ .relative := by
        unfold Anchor.ofSlashes
        split <;> simp_all
      simp [ofString, isAbsolute, shape, some]
    · simp [ofString, isAbsolute, shape, slash, Anchor.ofSlashes]

/-- The path that goes on from a path with the given parts. -/
def below (path : Path) (parts : List String) : Path :=
  { path with parts := path.parts ++ parts }

theorem below_below (path : Path) (parts more : List String) :
    (path.below parts).below more = path.below (parts ++ more) := by
  simp [below]

theorem child_below (path : Path) (name : String) (parts : List String) :
    (path.child name).below parts = path.below (name :: parts) := by
  simp [child, below]

@[simp] theorem below_nil (path : Path) : path.below [] = path := by
  simp [below]

theorem below_inj {path : Path} {parts others : List String} :
    path.below parts = path.below others ↔ parts = others := by
  simp [below]

/-- A path that does not start at the root goes on from the path that it is joined to. -/
theorem join_of_relative {path tail : Path} (relative : tail.isAbsolute = false) :
    path.join tail = path.below tail.parts := by
  simp [join, relative, below]

/-- A path that starts at the root stands for itself. -/
theorem join_of_absolute {path tail : Path} (absolute : tail.isAbsolute = true) :
    path.join tail = tail := by
  simp [join, absolute]

/-- A path relative to another one is what it goes on with. -/
theorem relativeTo?_eq_some_iff {path base inside : Path} :
    path.relativeTo? base = some inside ↔
      inside.anchor = .relative ∧ path = base.below inside.parts := by
  obtain ⟨anchor, parts⟩ := path
  obtain ⟨anchor', parts'⟩ := inside
  simp only [relativeTo?, below, List.isPrefixOf_iff_prefix, mk.injEq]
  split
  · next goesOn =>
    obtain ⟨rfl, more, rfl⟩ := goesOn
    simp [eq_comm]
  · next apart =>
    simp only [reduceCtorEq, false_iff]
    rintro ⟨-, rfl, rfl⟩
    exact apart ⟨rfl, List.prefix_append ..⟩

/-- What goes on from a path is relative to it what it goes on with. -/
theorem relativeTo?_below (path : Path) (parts : List String) :
    (path.below parts).relativeTo? path = some ⟨.relative, parts⟩ :=
  relativeTo?_eq_some_iff.2 ⟨rfl, rfl⟩

/-- The path goes on from another one and never goes back. -/
def Within (path base : Path) : Prop :=
  ∃ inside, path.relativeTo? base = some inside ∧ ".." ∉ inside.parts

instance (path base : Path) : Decidable (path.Within base) :=
  decidable_of_iff (∃ inside ∈ path.relativeTo? base, ".." ∉ inside.parts) Iff.rfl

/-- What goes on from a path stays within it if no part goes back. -/
theorem within_iff {path base : Path} :
    path.Within base ↔ ∃ parts, path = base.below parts ∧ ".." ∉ parts := by
  simp only [Within, relativeTo?_eq_some_iff]
  constructor
  · rintro ⟨inside, ⟨-, same⟩, forward⟩
    exact ⟨inside.parts, same, forward⟩
  · rintro ⟨parts, same, forward⟩
    exact ⟨⟨.relative, parts⟩, ⟨rfl, same⟩, forward⟩

/-- It is the parts that go on which have to be looked at. -/
theorem below_within_iff {base : Path} {parts : List String} :
    (base.below parts).Within base ↔ ".." ∉ parts := by
  rw [within_iff]
  constructor
  · rintro ⟨parts', same, forward⟩
    rwa [below_inj.1 same]
  · exact fun forward => ⟨parts, rfl, forward⟩

/-! ### How long a path is -/

/-- Joined parts take up their own bytes and one more for each place between them. -/
theorem utf8ByteSize_join {parts : List String} (some : parts ≠ []) :
    (Text.join "/" parts).utf8ByteSize + 1 = (parts.map fun part => part.utf8ByteSize + 1).sum := by
  induction parts with
  | nil => exact absurd rfl some
  | cons part rest ih =>
    cases rest with
    | nil => simp [Text.join]
    | cons next rest =>
      have later := ih (List.cons_ne_nil next rest)
      have slash : "/".utf8ByteSize = 1 := by decide
      rw [Text.join, String.intercalate_cons_cons, String.utf8ByteSize_append,
        String.utf8ByteSize_append, ← Text.join, slash, List.map_cons, List.sum_cons, ← later]
      omega

/-- A relative path is written as its parts, joined by slashes. -/
theorem utf8ByteSize_toString {path : Path} (relative : path.anchor = .relative)
    (some : path.parts ≠ []) : path.toString.utf8ByteSize + 1 =
      (path.parts.map fun part => part.utf8ByteSize + 1).sum := by
  rw [toString, if_neg fun none => some none.2, relative, Anchor.text, String.empty_append,
    utf8ByteSize_join some]

/-! ### How much a path is made of -/

/-- The number of characters in the parts of a path. -/
def weight (path : Path) : Nat :=
  (path.parts.map String.length).sum

/-- What a field adds to the parts of a path. -/
def fieldWeight (field : List Char) : Nat :=
  if field = ['.'] then 0 else field.length

/-- Fields that do not count add nothing. -/
theorem weight_ofString (written : List Char) :
    (ofString (String.ofList written)).weight = ((fields '/' written).map fieldWeight).sum := by
  simp only [weight, ofString, partsOf_eq, String.toList_ofList]
  induction fields '/' written with
  | nil => rfl
  | cons field others ih =>
    by_cases counts : IsPart field
    · rw [List.filter_cons_of_pos (by simpa using counts)]
      simp only [List.map_cons, List.sum_cons, ih, fieldWeight, if_neg counts.2,
        String.length_ofList]
    · have nothing : fieldWeight field = 0 := by
        rcases Decidable.not_and_iff_not_or_not.1 counts with empty | dot
        · rw [Decidable.not_not.1 empty]
          rfl
        · rw [Decidable.not_not.1 dot]
          rfl
      rw [List.filter_cons_of_neg (by rwa [decide_eq_true_eq]), ih, List.map_cons, List.sum_cons,
        nothing, Nat.zero_add]

/-- One more character adds to a field, unless the field becomes a single dot. -/
theorem fieldWeight_cons (c : Char) (field : List Char) :
    fieldWeight field + (if c = '.' then 0 else 1) ≤ fieldWeight (c :: field) := by
  unfold fieldWeight
  split <;> split <;> split <;> simp_all

/-- One more character in front adds to the parts, unless it only separates them or is a dot. -/
theorem weight_ofString_cons (c : Char) (rest : List Char) :
    (ofString (String.ofList rest)).weight + (if c = '/' ∨ c = '.' then 0 else 1) ≤
      (ofString (String.ofList (c :: rest))).weight := by
  obtain ⟨first, others, split, more⟩ := exists_fields '/' rest
  rw [weight_ofString, weight_ofString, split, more]
  by_cases slash : c = '/'
  · simp [slash, fieldWeight]
  · have grows := fieldWeight_cons c first
    simp only [slash, false_or, if_false, List.map_cons, List.sum_cons]
    omega

/-- A text that ends another makes no heavier path. -/
theorem weight_ofString_le {written suffix : List Char} (ends : suffix <:+ written) :
    (ofString (String.ofList suffix)).weight ≤ (ofString (String.ofList written)).weight := by
  obtain ⟨front, rfl⟩ := ends
  induction front with
  | nil => exact Nat.le_refl _
  | cons c front ih =>
    have step := weight_ofString_cons c (front ++ suffix)
    rw [List.cons_append]
    omega

end EventAtlas.Path
