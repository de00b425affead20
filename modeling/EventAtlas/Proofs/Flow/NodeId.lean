import EventAtlas.Flow.NodeId
import Mathlib.Data.List.Nodup
import Mathlib.Data.List.Perm.Subperm

/-!
# Node identifiers are never given out twice

The candidates for a base are pairwise different and only the base itself can be a reserved word.
So among the base and one candidate more than there are used identifiers, one is free, and the
search ends at the first free one. Identifiers stay in one-to-one correspondence with the labels
they were given out for.
-/

namespace EventAtlas.Flow

/-- No reserved word has an underscore. -/
theorem underscore_not_mem_of_mem_reservedIds :
    ∀ word ∈ reservedIds, '_' ∉ word.toList := by
  decide

namespace NodeIds

/-- A number is told from its digits. -/
theorem toString_injective : Function.Injective (toString : Nat → String) := by
  intro left right same
  have digits : Nat.toDigits 10 left = Nat.toDigits 10 right := by
    have chars := congrArg String.toList same
    rwa [Nat.toString_eq_repr, Nat.toString_eq_repr, Nat.toList_repr, Nat.toList_repr] at chars
  have read := congrArg (fun chars => Nat.ofDigitChars 10 chars 0) digits
  simpa using read

/-- The candidates for a base are pairwise different. -/
theorem candidate_injective (base : String) : Function.Injective (candidate base) := by
  -- The base is shorter than the candidates that start with it.
  have bare (n : Nat) : base ≠ candidate base (n + 1) := by
    intro same
    have sizes := congrArg String.length same
    have mark : "_".length = 1 := rfl
    simp only [candidate, String.length_append] at sizes
    omega
  intro left right same
  cases left with
  | zero =>
    cases right with
    | zero => rfl
    | succ right => exact absurd same (bare right)
  | succ left =>
    cases right with
    | zero => exact absurd same.symm (bare left)
    | succ right =>
      have numbers : toString (left + 2) = toString (right + 2) := by
        simpa only [candidate, String.append_right_inj] using same
      have equal := toString_injective numbers
      omega

/-- A numbered candidate is no reserved word. -/
theorem candidate_succ_not_mem_reservedIds (base : String) (n : Nat) :
    candidate base (n + 1) ∉ reservedIds := by
  intro reserved
  apply underscore_not_mem_of_mem_reservedIds _ reserved
  simp [candidate]

/-- An identifier is taken when it is used or reserved. -/
theorem isTaken_iff {ids : NodeIds} {id : String} :
    ids.isTaken id = true ↔ id ∈ ids.used ∨ id ∈ reservedIds := by
  simp [isTaken]

/-- One candidate is free among the base and as many numbered ones as there are used identifiers
and one more. -/
theorem exists_free (ids : NodeIds) (base : String) :
    ∃ n ≤ ids.used.length + 1, ids.isTaken (candidate base n) = false := by
  by_contra none
  push Not at none
  let numbered := (List.range (ids.used.length + 1)).map fun n => candidate base (n + 1)
  have distinct : numbered.Nodup := by
    apply List.Nodup.map _ List.nodup_range
    intro left right same
    exact Nat.succ.inj (candidate_injective base same)
  have used : numbered ⊆ ids.used := by
    intro id member
    obtain ⟨n, bound, rfl⟩ := List.mem_map.1 member
    have taken := none (n + 1) (by have := List.mem_range.1 bound; omega)
    rw [ne_eq, Bool.not_eq_false, isTaken_iff] at taken
    exact taken.resolve_right (candidate_succ_not_mem_reservedIds base n)
  have few := (distinct.subperm used).length_le
  rw [List.length_map, List.length_range] at few
  omega

/-- The search gives the first free candidate if one is within its tries. -/
theorem firstFree_eq (ids : NodeIds) (base : String) (tries start : Nat)
    (within : ∃ n ≤ tries, ids.isTaken (candidate base (start + n)) = false) :
    ∃ n ≤ tries, ids.firstFree base tries start = candidate base (start + n) ∧
      ids.isTaken (candidate base (start + n)) = false ∧
      ∀ earlier < n, ids.isTaken (candidate base (start + earlier)) = true := by
  induction tries generalizing start with
  | zero =>
    obtain ⟨n, bound, free⟩ := within
    obtain rfl : n = 0 := by omega
    exact ⟨0, bound, rfl, free, by simp⟩
  | succ tries ih =>
    rw [firstFree]
    split
    · next taken =>
      have shift (n : Nat) : start + 1 + n = start + (n + 1) := by omega
      have later : ∃ n ≤ tries, ids.isTaken (candidate base (start + 1 + n)) = false := by
        obtain ⟨n, bound, free⟩ := within
        cases n with
        | zero => exact absurd (taken.symm.trans free) (by decide)
        | succ n => exact ⟨n, by omega, by rw [shift]; exact free⟩
      obtain ⟨found, bound, eq, free, before⟩ := ih (start + 1) later
      rw [shift] at eq free
      refine ⟨found + 1, by omega, eq, free, fun earlier below => ?_⟩
      cases earlier with
      | zero => exact taken
      | succ earlier => rw [← shift]; exact before earlier (by omega)
    · next free => exact ⟨0, Nat.zero_le _, rfl, by simpa using free, by simp⟩

/-- An identifier is the first free one for a label of a kind. -/
structure IsFirstFree (ids : NodeIds) (kind label id : String) : Prop where
  not_used : id ∉ ids.used
  not_reserved : id ∉ reservedIds
  /-- It is a candidate, and so many candidates are looked at before it at most. -/
  first : ∃ n ≤ ids.used.length + 1, id = candidate (base kind label) n ∧
    ∀ earlier < n, ids.isTaken (candidate (base kind label) earlier) = true

/-- A label that has an identifier keeps it, and any other label gets the first free one. -/
theorem request_cases (ids : NodeIds) (kind label : String) :
    (∃ id, ids.assigned.lookup (kind, label) = some id ∧ ids.request kind label = (id, ids)) ∨
    ∃ id, ids.assigned.lookup (kind, label) = none ∧ ids.IsFirstFree kind label id ∧
      ids.request kind label = (id, ⟨ids.assigned ++ [((kind, label), id)]⟩) := by
  unfold request
  cases held : ids.assigned.lookup (kind, label) with
  | some id => exact .inl ⟨id, rfl, rfl⟩
  | none =>
    obtain ⟨n, bound, eq, free, before⟩ :=
      ids.firstFree_eq (base kind label) (ids.used.length + 1) 0
        (by simpa using ids.exists_free (base kind label))
    simp only [Nat.zero_add] at eq free before
    rw [← eq, ← Bool.not_eq_true, isTaken_iff, not_or] at free
    exact .inr ⟨_, rfl, ⟨free.1, free.2, n, bound, eq, before⟩, rfl⟩

/-- Each label has one identifier and each identifier one label. -/
structure Distinct (ids : NodeIds) : Prop where
  keys_nodup : (ids.assigned.map Prod.fst).Nodup
  used_nodup : ids.used.Nodup

/-- Nothing is given out at the start. -/
theorem Distinct.empty : Distinct .empty where
  keys_nodup := List.nodup_nil
  used_nodup := List.nodup_nil

/-- Giving out an identifier that is not used to a label that has none keeps both sides
distinct. -/
theorem Distinct.give {ids : NodeIds} (distinct : ids.Distinct) {key : String × String}
    {id : String} (absent : ids.assigned.lookup key = none) (fresh : id ∉ ids.used) :
    Distinct ⟨ids.assigned ++ [(key, id)]⟩ where
  keys_nodup := by
    have new : key ∉ ids.assigned.map Prod.fst := by
      intro member
      obtain ⟨entry, held, rfl⟩ := List.mem_map.1 member
      have differs := List.lookup_eq_none_iff.1 absent entry held
      simp at differs
    simpa using distinct.keys_nodup.concat new
  used_nodup := by simpa [used] using distinct.used_nodup.concat fresh

end NodeIds

end EventAtlas.Flow
