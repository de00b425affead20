import EventAtlas.Proofs.Result
import EventAtlas.Trace

/-!
# Results of traces

Notices never decide what a trace results in: its result is that of the same computation without
notices. Folding a list in a trace is thereby folding it with results alone.
-/

namespace EventAtlas.Trace

variable {α β : Type}

@[simp] theorem result_pure (value : α) : (pure value : Trace α).result = .ok value := rfl

@[simp] theorem result_ofExcept (result : Except Failure α) : (ofExcept result).result = result :=
  rfl

@[simp] theorem result_noteIf (condition : Bool) (notice : Notice) :
    (noteIf condition notice).result = .ok () := by
  cases condition <;> rfl

/-- The result of one computation after the other is made of their results. -/
@[simp] theorem result_bind (first : Trace α) (next : α → Trace β) :
    (first >>= next).result = first.result >>= fun value => (next value).result := by
  change (andThen first next).result = _
  unfold andThen
  cases first.result with
  | error failure => rfl
  | ok value => rfl

/-- What is told by a computation stays told when another one follows. -/
theorem notices_prefix_bind (first : Trace α) (next : α → Trace β) :
    first.notices <+: (first >>= next).notices := by
  change _ <+: (andThen first next).notices
  unfold andThen
  cases first.result with
  | error failure => exact List.prefix_rfl
  | ok value => exact List.prefix_append ..

/-- One after the other, the notices of computations follow each other, whatever is taken together. -/
instance : LawfulMonad Trace := LawfulMonad.mk' Trace
  (by
    intro α trace
    obtain ⟨notices, result⟩ := trace
    change andThen _ _ = _
    cases result <;> simp [andThen, done])
  (by
    intro α β value next
    rfl)
  (by
    intro α β γ first next last
    obtain ⟨notices, result⟩ := first
    change andThen (andThen _ _) _ = andThen _ _
    cases result with
    | error failure => rfl
    | ok value =>
      change _ = andThen _ fun value => andThen (next value) last
      simp only [andThen]
      cases (next value).result <;> simp)

/-- A computation on all items of a list results in the results on each of them. -/
theorem result_mapM {items : List β} {step : β → Trace α} :
    (items.mapM step).result = items.mapM fun item => (step item).result := by
  induction items with
  | nil => rfl
  | cons item rest ih =>
    rw [List.mapM_cons, List.mapM_cons, result_bind]
    simp only [result_bind, ih, result_pure]
    rfl

/-- A computation followed by another one succeeds when both do. -/
theorem result_bind_eq_ok_iff {first : Trace α} {next : α → Trace β} {value : β} :
    (first >>= next).result = .ok value ↔
      ∃ between, first.result = .ok between ∧ (next between).result = .ok value := by
  rw [result_bind, bind_eq_ok_iff]

/-- A computation followed by another one fails when it fails itself or the other one does. -/
theorem result_bind_eq_error_iff {first : Trace α} {next : α → Trace β} {failure : Failure} :
    (first >>= next).result = .error failure ↔ first.result = .error failure ∨
      ∃ between, first.result = .ok between ∧ (next between).result = .error failure := by
  rw [result_bind, bind_eq_error_iff]

/-- A fold whose steps all succeed results in the fold of what the steps give. -/
theorem result_foldlM_eq_ok {items : List β} {step : α → β → Trace α} (next : α → β → α)
    (succeeds : ∀ state, ∀ item ∈ items, (step state item).result = .ok (next state item))
    (start : α) : (items.foldlM step start).result = .ok (items.foldl next start) := by
  induction items generalizing start with
  | nil => rfl
  | cons item rest ih =>
    rw [List.foldlM_cons, result_bind, succeeds start item (List.mem_cons_self ..)]
    exact ih (fun state other member => succeeds state other (List.mem_cons_of_mem _ member)) _

/-- When a fold succeeds, each of its items is taken successfully at some time. -/
theorem exists_of_foldlM {items : List β} {step : α → β → Trace α} {start final : α}
    (folded : (items.foldlM step start).result = .ok final) {item : β} (member : item ∈ items) :
    ∃ before after, (step before item).result = .ok after := by
  induction items generalizing start with
  | nil => cases member
  | cons first rest ih =>
    rw [List.foldlM_cons] at folded
    obtain ⟨after, stepped, folded⟩ := result_bind_eq_ok_iff.1 folded
    rcases List.mem_cons.1 member with rfl | later
    · exact ⟨start, after, stepped⟩
    · exact ih folded later

/-- A fold fails with the failure of the first item on which it fails, if it does not depend on
what was folded before whether it fails on an item. -/
theorem result_foldlM_eq_error_iff {γ : Type} {items : List β} {step : α → β → Trace α}
    {check : β → Except Failure γ} {next : α → β → γ → α}
    (checks : ∀ state item, (step state item).result = (check item).map (next state item))
    (start : α) {failure : Failure} :
    (items.foldlM step start).result = .error failure ↔ FirstFails check items failure := by
  induction items generalizing start with
  | nil => simp
  | cons item rest ih =>
    rw [List.foldlM_cons, result_bind, bind_eq_error_iff, firstFails_cons_iff, checks]
    cases check item with
    | error cause => simp [Except.map]
    | ok value => simp [Except.map, ih]

end EventAtlas.Trace
