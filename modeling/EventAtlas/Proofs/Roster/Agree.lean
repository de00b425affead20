import EventAtlas.Proofs.Roster
import Mathlib.Data.List.Forall2
import Mathlib.Data.List.Sort

/-!
# Rosters that agree

Two rosters agree when they have the same keys and hold related values under each of them, in
whatever order these were entered. What is asked of one key at a time cannot tell them apart, and
their sorted entries go in pairs.
-/

namespace EventAtlas

namespace Roster

variable {κ α β : Type}

/-- Lists of entries with the same keys, one by one, go in pairs of related values. -/
theorem forall₂_of_keys_eq {related : α → β → Prop} {lefts : List (κ × α)}
    {rights : List (κ × β)} (keys : lefts.map Prod.fst = rights.map Prod.fst)
    (values : ∀ key left right, (key, left) ∈ lefts → (key, right) ∈ rights →
      related left right) :
    List.Forall₂ (fun left right => left.1 = right.1 ∧ related left.2 right.2) lefts rights := by
  induction lefts generalizing rights with
  | nil =>
    rw [List.map_nil] at keys
    rw [List.map_eq_nil_iff.1 keys.symm]
    exact .nil
  | cons left lefts ih =>
    match rights with
    | [] => cases keys
    | right :: rights =>
      obtain ⟨first, others⟩ := List.cons.inj keys
      refine .cons ⟨first, values left.1 left.2 right.2 (List.mem_cons_self ..) ?_⟩
        (ih others fun key _ _ inLeft inRight =>
          values key _ _ (List.mem_cons_of_mem _ inLeft) (List.mem_cons_of_mem _ inRight))
      rw [first]
      exact List.mem_cons_self ..

variable [DecidableEq κ]

/-- The rosters have the same keys and hold related values under them. -/
def Agree (related : α → β → Prop) (left : Roster κ α) (right : Roster κ β) : Prop :=
  ∀ key, Option.Rel related (left.get? key) (right.get? key)

section Agree

variable {related : α → β → Prop} {left : Roster κ α} {right : Roster κ β}

/-- What is found in one roster has a related counterpart in the other. -/
theorem Agree.exists_of_get? (agree : left.Agree related right) {key : κ} {value : α}
    (held : left.get? key = some value) :
    ∃ other, right.get? key = some other ∧ related value other := by
  have here := agree key
  rw [held] at here
  cases found : right.get? key with
  | none =>
    rw [found] at here
    cases here
  | some other =>
    rw [found] at here
    cases here with
    | some relates => exact ⟨other, rfl, relates⟩

/-- Agreeing is symmetric when being related is. -/
theorem Agree.symm {related : α → α → Prop} {left right : Roster κ α}
    (symmetric : ∀ {value other}, related value other → related other value)
    (agree : left.Agree related right) : right.Agree related left := by
  intro key
  have here := agree key
  revert here
  cases left.get? key <;> cases right.get? key <;> intro here <;> cases here
  · exact .none
  · next relates => exact .some (symmetric relates)

/-- A property of the value under a key, if there is one, holds in both rosters. -/
theorem Agree.get?_iff (agree : left.Agree related right) {holds : α → Prop}
    {holds' : β → Prop} (same : ∀ value other, related value other → (holds value ↔ holds' other))
    (key : κ) :
    (∃ value, left.get? key = some value ∧ holds value) ↔
      ∃ other, right.get? key = some other ∧ holds' other := by
  have here := agree key
  revert here
  cases left.get? key <;> cases right.get? key <;> intro here <;> cases here
  · simp
  · next relates => simpa using same _ _ relates

/-- Agreeing rosters have the same keys. -/
theorem Agree.same_keys (agree : left.Agree related right) {key : κ} :
    key ∈ left.keys ↔ key ∈ right.keys := by
  have present : (∃ value, left.get? key = some value ∧ True) ↔
      ∃ other, right.get? key = some other ∧ True := agree.get?_iff (fun _ _ _ => Iff.rfl) key
  rw [mem_keys_iff, mem_keys_iff]
  simpa using present

/-- Agreeing rosters have the same size. -/
theorem Agree.size_eq (agree : left.Agree related right) : left.size = right.size := by
  rw [size_eq_length_keys, size_eq_length_keys]
  exact ((List.perm_ext_iff_of_nodup left.nodup_keys right.nodup_keys).2
    fun _ => agree.same_keys).length_eq

end Agree

/-- The sorted entries of agreeing rosters go in pairs: each key with its key, each value with a
related one. -/
theorem Agree.sorted {related : α → β → Prop} {left : Roster String α} {right : Roster String β}
    (agree : left.Agree related right) :
    List.Forall₂ (fun entry other => entry.1 = other.1 ∧ related entry.2 other.2)
      left.sorted right.sorted := by
  refine forall₂_of_keys_eq ?_ ?_
  · refine left.sorted_keys_lt.eq_of_mem_iff right.sorted_keys_lt fun key => ?_
    rw [mem_map_sorted, mem_map_sorted, agree.same_keys]
  · intro key value other inLeft inRight
    rw [mem_sorted, ← get?_eq_some_iff] at inLeft inRight
    obtain ⟨_, held, relates⟩ := agree.exists_of_get? inLeft
    rw [inRight] at held
    cases held
    exact relates

end Roster

end EventAtlas
