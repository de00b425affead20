import Mathlib.Data.List.Basic
import Mathlib.Data.List.Forall2

/-!
# Lists of computations that may fail

A list of computations succeeds when each of them does, and then its result is made of theirs.
-/

namespace EventAtlas

variable {ε α β : Type}

/-- A computation that goes on with another one succeeds when both do. -/
theorem bind_eq_ok_iff {first : Except ε α} {next : α → Except ε β} {value : β} :
    (first >>= next) = .ok value ↔ ∃ between, first = .ok between ∧ next between = .ok value := by
  cases first with
  | error failure =>
    constructor
    · intro failed
      cases failed
    · rintro ⟨_, failed, -⟩
      cases failed
  | ok between =>
    constructor
    · exact fun went => ⟨between, rfl, went⟩
    · rintro ⟨_, same, went⟩
      cases same
      exact went

/-- A computation that goes on with another one fails when it fails itself or the other one does. -/
theorem bind_eq_error_iff {first : Except ε α} {next : α → Except ε β} {failure : ε} :
    (first >>= next) = .error failure ↔
      first = .error failure ∨ ∃ between, first = .ok between ∧ next between = .error failure := by
  cases first with
  | error cause =>
    change (Except.error cause = _) ↔ _
    simp
  | ok between =>
    change next between = _ ↔ _
    simp

/-- A computation whose result is at hand succeeds. -/
theorem eq_ok_of_toOption {computed : Except ε α} {value : α}
    (shown : computed.toOption = some value) : computed = .ok value := by
  cases computed with
  | error failure => cases shown
  | ok found => exact congrArg Except.ok (Option.some.inj shown)

/-- What is changed of a value comes from a value. -/
theorem exists_of_map_eq_ok {first : Except ε α} {change : α → β} {result : β}
    (changed : first.map change = .ok result) :
    ∃ value, first = .ok value ∧ change value = result := by
  cases first with
  | error => cases changed
  | ok value => exact ⟨value, rfl, Except.ok.inj changed⟩

/-- A computation whose result is only changed fails by itself. -/
theorem eq_error_of_map_eq_error {first : Except ε α} {change : α → β} {failure : ε}
    (failed : first.map change = .error failure) : first = .error failure := by
  cases first with
  | error cause =>
    cases failed
    rfl
  | ok value => cases failed

/-- Naming a failure differently keeps it a failure. -/
theorem exists_of_mapError_eq_error {first : Except ε α} {change : ε → β} {failure : β}
    (failed : first.mapError change = .error failure) :
    ∃ cause, first = .error cause ∧ failure = change cause := by
  cases first with
  | error cause => exact ⟨cause, rfl, (Except.error.inj failed).symm⟩
  | ok value => cases failed

/-- It keeps a success a success. -/
theorem eq_ok_of_mapError_eq_ok {first : Except ε α} {change : ε → β} {value : α}
    (done : first.mapError change = .ok value) : first = .ok value := by
  cases first with
  | error cause => cases done
  | ok between => exact congrArg Except.ok (Except.ok.inj done)

/-- A computation on all items succeeds with results that go with the items. -/
theorem mapM_eq_ok_iff {step : α → Except ε β} {items : List α} {results : List β} :
    items.mapM step = .ok results ↔
      List.Forall₂ (fun item result => step item = .ok result) items results := by
  induction items generalizing results with
  | nil =>
    rw [List.mapM_nil, List.forall₂_nil_left_iff]
    simp [pure, Except.pure, eq_comm]
  | cons item rest ih =>
    rw [List.mapM_cons, List.forall₂_cons_left_iff]
    simp only [bind_eq_ok_iff, ih]
    constructor
    · rintro ⟨first, stepped, others, went, done⟩
      cases done
      exact ⟨first, others, stepped, went, rfl⟩
    · rintro ⟨first, others, stepped, went, rfl⟩
      exact ⟨first, stepped, others, went, rfl⟩

/-- When a computation on all items succeeds, it succeeds on each of them. -/
theorem exists_of_mapM {step : α → Except ε β} {items : List α} {results : List β}
    (done : items.mapM step = .ok results) {item : α} (member : item ∈ items) :
    ∃ result, step item = .ok result := by
  have pairs := mapM_eq_ok_iff.1 done
  clear done
  induction pairs with
  | nil => cases member
  | cons stepped _ ih =>
    rcases List.mem_cons.1 member with rfl | later
    · exact ⟨_, stepped⟩
    · exact ih later

/-- When a computation succeeds on each item, it succeeds on all of them, and its results go with
the items. -/
theorem exists_mapM_eq_ok {step : α → Except ε β} {gives : α → β → Prop} {items : List α}
    (succeeds : ∀ item ∈ items, ∃ result, step item = .ok result ∧ gives item result) :
    ∃ results, items.mapM step = .ok results ∧ List.Forall₂ gives items results := by
  induction items with
  | nil => exact ⟨[], rfl, .nil⟩
  | cons item rest ih =>
    obtain ⟨result, stepped, given⟩ := succeeds item (List.mem_cons_self ..)
    obtain ⟨results, went, pairs⟩ := ih fun other member =>
      succeeds other (List.mem_cons_of_mem _ member)
    exact ⟨result :: results, by rw [List.mapM_cons, stepped, went]; rfl, .cons given pairs⟩

/-- When a computation succeeds on each item, it succeeds on all of them. -/
theorem exists_mapM_ok {step : α → Except ε β} {items : List α}
    (succeeds : ∀ item ∈ items, ∃ result, step item = .ok result) :
    ∃ results, items.mapM step = .ok results := by
  have each : ∀ item ∈ items, ∃ result, step item = .ok result ∧ True := by simpa using succeeds
  obtain ⟨results, went, -⟩ := exists_mapM_eq_ok each
  exact ⟨results, went⟩

/-- Computations on items that go in pairs have the same results when they agree on each pair. -/
theorem mapM_congr_of_forall₂ {γ : Type} {related : α → γ → Prop} {step : α → Except ε β}
    {step' : γ → Except ε β} {items : List α} {others : List γ}
    (pairs : List.Forall₂ related items others)
    (agree : ∀ item other, related item other → step item = step' other) :
    items.mapM step = others.mapM step' := by
  induction pairs with
  | nil => rfl
  | cons first _ ih => rw [List.mapM_cons, List.mapM_cons, agree _ _ first, ih]

/-- The results of computations on all items are made from the items as each result is made from
its item. -/
theorem eq_map_of_mapM {step : α → Except ε β} {value : α → β} {items : List α} {results : List β}
    (done : items.mapM step = .ok results)
    (gives : ∀ item result, step item = .ok result → result = value item) :
    results = items.map value := by
  have pairs := mapM_eq_ok_iff.1 done
  clear done
  induction pairs with
  | nil => rfl
  | cons stepped _ ih => rw [List.map_cons, gives _ _ stepped, ih]

/-- The results of computations on all items, taken together, are the results on each of them. -/
theorem mem_flatten_of_mapM {step : α → Except ε (List β)} {items : List α}
    {results : List (List β)} (done : items.mapM step = .ok results) {value : β} :
    value ∈ results.flatten ↔ ∃ item ∈ items, ∃ result, step item = .ok result ∧ value ∈ result := by
  have pairs := mapM_eq_ok_iff.1 done
  clear done
  induction pairs with
  | nil => simp
  | @cons item first rest others stepped _ ih =>
    rw [List.flatten_cons, List.mem_append]
    refine (or_congr_right ih).trans ⟨?_, ?_⟩
    · rintro (here | ⟨other, member, result, held, later⟩)
      · exact ⟨item, List.mem_cons_self .., first, stepped, here⟩
      · exact ⟨other, List.mem_cons_of_mem _ member, result, held, later⟩
    · rintro ⟨other, member, result, held, inside⟩
      rcases List.mem_cons.1 member with rfl | later
      · rw [stepped] at held
        cases held
        exact .inl inside
      · exact .inr ⟨other, later, result, held, inside⟩

/-- Filtering by a check that may fail keeps the items for which it says so. -/
theorem filter_of_filterM {check : α → Except ε Bool} {items kept : List α}
    (done : items.filterM check = .ok kept) {keep : α → Bool}
    (agrees : ∀ item answer, check item = .ok answer → keep item = answer) :
    kept = items.filter keep := by
  have general : ∀ (items before kept : List α), items.filterAuxM check before = .ok kept →
      kept = (items.filter keep).reverse ++ before := by
    intro items
    induction items with
    | nil =>
      intro before kept done
      cases done
      simp
    | cons item rest ih =>
      intro before kept done
      rw [List.filterAuxM] at done
      obtain ⟨answer, checked, done⟩ := bind_eq_ok_iff.1 done
      rw [ih _ _ done]
      cases answer <;> simp [agrees item _ checked]
  unfold List.filterM at done
  obtain ⟨reversed, went, done⟩ := bind_eq_ok_iff.1 done
  cases done
  simp [general items [] reversed went]

/-! ### Failures -/

/-- The first of some items on which a computation fails makes it fail in this way. -/
def FirstFails (step : α → Except ε β) (items : List α) (failure : ε) : Prop :=
  ∃ before item after, items = before ++ item :: after ∧
    (∀ earlier ∈ before, ∃ result, step earlier = .ok result) ∧ step item = .error failure

@[simp] theorem not_firstFails_nil {step : α → Except ε β} {failure : ε} :
    ¬ FirstFails step [] failure := by
  rintro ⟨before, item, after, split, -⟩
  simp at split

/-- The first item fails, or it does not and one of the others is the first to fail. -/
theorem firstFails_cons_iff {step : α → Except ε β} {item : α} {rest : List α} {failure : ε} :
    FirstFails step (item :: rest) failure ↔ step item = .error failure ∨
      (∃ result, step item = .ok result) ∧ FirstFails step rest failure := by
  constructor
  · rintro ⟨before, other, after, split, succeed, failed⟩
    rcases List.cons_eq_append_iff.1 split with ⟨rfl, same⟩ | ⟨before, rfl, rfl⟩
    · cases same
      exact .inl failed
    · obtain ⟨first, others⟩ := List.forall_mem_cons.1 succeed
      exact .inr ⟨first, before, other, after, rfl, others, failed⟩
  · rintro (failed | ⟨first, before, other, after, rfl, others, failed⟩)
    · exact ⟨[], item, rest, rfl, by simp, failed⟩
    · exact ⟨item :: before, other, after, rfl, List.forall_mem_cons.2 ⟨first, others⟩, failed⟩

/-- Either one of the items is the first on which a computation fails, or it fails on none. -/
theorem exists_firstFails_or (step : α → Except ε β) (items : List α) :
    (∃ failure, FirstFails step items failure) ∨
      ∀ item ∈ items, ∃ result, step item = .ok result := by
  induction items with
  | nil => simp
  | cons item rest ih =>
    simp only [firstFails_cons_iff, List.forall_mem_cons]
    cases stepped : step item with
    | error failure => exact .inl ⟨failure, .inl rfl⟩
    | ok result =>
      rcases ih with ⟨failure, first⟩ | succeeds
      · exact .inl ⟨failure, .inr ⟨⟨result, rfl⟩, first⟩⟩
      · exact .inr ⟨⟨result, rfl⟩, succeeds⟩

/-- A computation on all items fails with the failure of the first item on which it fails. -/
theorem mapM_eq_error_iff {step : α → Except ε β} {items : List α} {failure : ε} :
    items.mapM step = .error failure ↔ FirstFails step items failure := by
  induction items with
  | nil =>
    rw [List.mapM_nil]
    simp [pure, Except.pure]
  | cons item rest ih =>
    rw [List.mapM_cons, bind_eq_error_iff, firstFails_cons_iff]
    refine or_congr Iff.rfl ⟨?_, ?_⟩
    · rintro ⟨result, stepped, failed⟩
      refine ⟨⟨result, stepped⟩, ih.1 ?_⟩
      rcases bind_eq_error_iff.1 failed with failed | ⟨_, -, failed⟩
      · exact failed
      · cases failed
    · rintro ⟨⟨result, stepped⟩, failed⟩
      exact ⟨result, stepped, bind_eq_error_iff.2 (.inl (ih.2 failed))⟩

/-- Filtering by a check that may fail fails with the failure of the first item that cannot be
checked. -/
theorem filterM_eq_error_iff {check : α → Except ε Bool} {items : List α} {failure : ε} :
    items.filterM check = .error failure ↔ FirstFails check items failure := by
  have general (before : List α) :
      items.filterAuxM check before = .error failure ↔ FirstFails check items failure := by
    induction items generalizing before with
    | nil =>
      rw [List.filterAuxM]
      simp [pure, Except.pure]
    | cons item rest ih =>
      rw [List.filterAuxM, bind_eq_error_iff, firstFails_cons_iff]
      refine or_congr Iff.rfl ⟨?_, ?_⟩
      · rintro ⟨answer, checked, failed⟩
        exact ⟨⟨answer, checked⟩, (ih _).1 failed⟩
      · rintro ⟨⟨answer, checked⟩, failed⟩
        exact ⟨answer, checked, (ih _).2 failed⟩
  rw [List.filterM, bind_eq_error_iff, general]
  constructor
  · rintro (failed | ⟨_, -, failed⟩)
    · exact failed
    · cases failed
  · exact .inl

/-- When filtering by a check succeeds, each item can be checked. -/
theorem exists_of_filterM {check : α → Except ε Bool} {items kept : List α}
    (done : items.filterM check = .ok kept) {item : α} (member : item ∈ items) :
    ∃ answer, check item = .ok answer := by
  rcases exists_firstFails_or check items with ⟨failure, first⟩ | checked
  · rw [filterM_eq_error_iff.2 first] at done
    cases done
  · exact checked item member

/-- Whenever a computation fails, its failure is of some kind. -/
def FailsOnly (kind : ε → Prop) (computed : Except ε α) : Prop :=
  ∀ failure, computed = .error failure → kind failure

namespace FailsOnly

variable {kind : ε → Prop}

theorem ok (value : α) : FailsOnly kind (.ok value : Except ε α) :=
  fun _ failed => nomatch failed

theorem error {failure : ε} (holds : kind failure) :
    FailsOnly kind (.error failure : Except ε α) := by
  rintro _ ⟨⟩
  exact holds

/-- What goes on with another computation fails as one of the two does. -/
theorem bind {first : Except ε α} {next : α → Except ε β} (fails : FailsOnly kind first)
    (later : ∀ value, FailsOnly kind (next value)) : FailsOnly kind (first >>= next) := by
  intro failure failed
  rcases bind_eq_error_iff.1 failed with failed | ⟨value, -, failed⟩
  · exact fails failure failed
  · exact later value failure failed

/-- Changing the result adds no failure. -/
theorem map {first : Except ε α} {change : α → β} (fails : FailsOnly kind first) :
    FailsOnly kind (first.map change) :=
  fun failure failed => fails failure (eq_error_of_map_eq_error failed)

/-- The first item on which a computation fails does so in the same way as this item alone. -/
theorem of_firstFails {step : α → Except ε β} {items : List α} {failure : ε}
    (first : FirstFails step items failure) (fails : ∀ item, FailsOnly kind (step item)) :
    kind failure := by
  obtain ⟨_, item, _, -, -, failed⟩ := first
  exact fails item failure failed

/-- A computation on all items fails as it does on one of them. -/
theorem mapM {step : α → Except ε β} {items : List α}
    (fails : ∀ item, FailsOnly kind (step item)) : FailsOnly kind (items.mapM step) :=
  fun _ failed => of_firstFails (mapM_eq_error_iff.1 failed) fails

/-- Filtering fails as the check does on one of the items. -/
theorem filterM {check : α → Except ε Bool} {items : List α}
    (fails : ∀ item, FailsOnly kind (check item)) : FailsOnly kind (items.filterM check) :=
  fun _ failed => of_firstFails (filterM_eq_error_iff.1 failed) fails

end FailsOnly

end EventAtlas
