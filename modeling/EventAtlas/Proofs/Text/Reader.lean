import EventAtlas.Text.Reader
import Mathlib.Data.List.TakeWhile

/-!
# What readers read

A reader that succeeds says how the text in front of it is made up: what it read, followed by the
rest.
-/

namespace EventAtlas.Text

/-- What holds of all characters of a text is decided along the text, not by going through all
characters that there are. -/
instance decidableAllChars (holds : Char → Prop) [DecidablePred holds] (text : List Char) :
    Decidable (∀ c ∈ text, holds c) :=
  List.decidableBAll holds text

/-- A single character is passed exactly when the text starts with one that is accepted. -/
theorem after?_eq_some_iff {accepts : Char → Bool} {text rest : List Char} :
    after? accepts text = some rest ↔ ∃ c, accepts c = true ∧ text = c :: rest := by
  cases text with
  | nil => simp [after?]
  | cons c others =>
    by_cases accepted : accepts c = true
    · simp only [after?, accepted, if_true, Option.some.injEq, List.cons.injEq]
      exact ⟨fun same => ⟨c, accepted, rfl, same⟩, fun ⟨_, _, _, same⟩ => same⟩
    · simp only [after?, accepted, if_false, reduceCtorEq, List.cons.injEq, false_iff]
      rintro ⟨_, holds, rfl, -⟩
      exact accepted holds

/-- A run is the longest front of accepted characters, and there is at least one. -/
theorem run?_eq_some_iff {accepts : Char → Bool} {text run rest : List Char} :
    run? accepts text = some (run, rest) ↔
      run ≠ [] ∧ run = text.takeWhile accepts ∧ rest = text.dropWhile accepts := by
  unfold run?
  split
  · next none =>
    simp only [reduceCtorEq, false_iff, none, not_and]
    intro some empty
    exact absurd empty some
  · next taken =>
    simp only [Option.some.injEq, Prod.mk.injEq]
    constructor
    · rintro ⟨rfl, rfl⟩
      exact ⟨taken, rfl, rfl⟩
    · rintro ⟨-, rfl, rfl⟩
      exact ⟨rfl, rfl⟩

/-- A run and the rest make up the text. -/
theorem append_of_run? {accepts : Char → Bool} {text run rest : List Char}
    (read : run? accepts text = some (run, rest)) : text = run ++ rest := by
  obtain ⟨-, rfl, rfl⟩ := run?_eq_some_iff.1 read
  exact List.takeWhile_append_dropWhile.symm

/-- All characters of a run are accepted. -/
theorem accepts_of_run? {accepts : Char → Bool} {text run rest : List Char}
    (read : run? accepts text = some (run, rest)) : ∀ c ∈ run, accepts c = true := by
  obtain ⟨-, rfl, -⟩ := run?_eq_some_iff.1 read
  intro c member
  exact List.mem_takeWhile_imp member

/-- What is found anywhere in a text is what the reader reads at some place of it. -/
theorem read_of_mem_findAll {α : Type} {read : Reader α} {text : List Char} {value : α}
    (found : value ∈ findAll read text) : ∃ place rest, read place = some (value, rest) := by
  have general : ∀ skip text, value ∈ findAll.go read skip text →
      ∃ place rest, read place = some (value, rest) := by
    intro skip text
    fun_induction findAll.go read skip text with
    | case1 => simp
    | case2 skip c rest ih => exact ih
    | case3 c rest first left here ih =>
      intro member
      rcases List.mem_cons.1 member with rfl | later
      · exact ⟨_, _, here⟩
      · exact ih later
    | case4 c rest nothing ih => exact ih
  exact general 0 text found

/-- What is found at the beginnings of lines is what the reader reads at one of them. -/
theorem read_of_mem_findAllAtLineStarts {α : Type} {read : Reader α} {text : List Char} {value : α}
    (found : value ∈ findAllAtLineStarts read text) :
    ∃ place rest, read place = some (value, rest) := by
  have general : ∀ skip fresh text, value ∈ findAllAtLineStarts.go read skip fresh text →
      ∃ place rest, read place = some (value, rest) := by
    intro skip fresh text
    fun_induction findAllAtLineStarts.go read skip fresh text with
    | case1 => simp
    | case2 skip fresh c rest ih => exact ih
    | case3 fresh c rest first left here ih =>
      intro member
      rcases List.mem_cons.1 member with rfl | later
      · cases fresh with
        | true => exact ⟨_, _, here⟩
        | false => cases here
      · exact ih later
    | case4 fresh c rest nothing ih => exact ih
  exact general 0 true text found

end EventAtlas.Text
