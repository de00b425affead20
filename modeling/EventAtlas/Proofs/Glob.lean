import EventAtlas.Path.Glob
import EventAtlas.Proofs.Result
import EventAtlas.Proofs.Text.Field

/-!
# Patterns for the ends of names

A star in front of a text without wildcards and slashes is a pattern for names, and it accepts those
that end with the text.
-/

namespace EventAtlas.Glob

/-- Any text may stand before what the other pieces match. -/
theorem accepts_many_iff {rest : List Piece} {name : List Char} :
    accepts (.many :: rest) name = true ↔
      ∃ ending, ending <:+ name ∧ accepts rest ending = true := by
  induction name with
  | nil => simp [accepts, List.suffix_nil]
  | cons c name ih =>
    rw [accepts, Bool.or_eq_true, ih]
    constructor
    · rintro (whole | ⟨ending, ends, accepted⟩)
      · exact ⟨_, List.suffix_rfl, whole⟩
      · exact ⟨ending, ends.trans (List.suffix_cons ..), accepted⟩
    · rintro ⟨ending, ends, accepted⟩
      rcases List.suffix_cons_iff.1 ends with rfl | later
      · exact .inl accepted
      · exact .inr ⟨ending, later, accepted⟩

/-- Pieces that stand for themselves match nothing else. -/
theorem accepts_chars_iff {text name : List Char} :
    accepts (text.map .char) name = true ↔ name = text := by
  induction text generalizing name with
  | nil => simp [accepts]
  | cons c text ih =>
    cases name with
    | nil => simp [accepts]
    | cons d name => simp [accepts, ih]

/-- The pattern for names that end with a text. -/
def endingWith (text : List Char) : List Piece :=
  .many :: text.map .char

/-- It accepts the names that end so. -/
theorem accepts_endingWith_iff {text name : List Char} :
    accepts (endingWith text) name = true ↔ text <:+ name := by
  simp [endingWith, accepts_many_iff, accepts_chars_iff]

/-- A text without wildcards and slashes. -/
def IsPlain (text : List Char) : Prop :=
  ∀ c ∈ text, c ≠ '*' ∧ c ≠ '?' ∧ c ≠ '[' ∧ c ≠ '/'

instance (text : List Char) : Decidable (IsPlain text) :=
  List.decidableBAll _ text

variable {text : List Char}

/-- Its characters stand for themselves. -/
theorem pieces_of_isPlain (plain : IsPlain text) : pieces text = text.map .char := by
  induction text with
  | nil => rw [pieces]; rfl
  | cons c text ih =>
    obtain ⟨⟨star, one, opens, -⟩, rest⟩ := List.forall_mem_cons.1 plain
    rw [pieces, ih rest, List.map_cons]
    · exact star
    · exact one
    · exact opens

/-- Two stars stand nowhere side by side in it. -/
theorem hasDoubleStar_of_isPlain (plain : IsPlain text) : hasDoubleStar text = false := by
  induction text with
  | nil => rfl
  | cons c text ih =>
    obtain ⟨⟨star, -⟩, rest⟩ := List.forall_mem_cons.1 plain
    rw [hasDoubleStar, ih rest]
    rintro _ rfl
    exact absurd rfl star

/-- A star in front of it makes the pattern of names that end with it. -/
theorem ofPattern?_star (plain : IsPlain text) :
    ofPattern? ('*' :: text) = some [.wild (endingWith text)] := by
  have flat : '/' ∉ '*' :: text := by
    simp only [List.mem_cons, not_or]
    exact ⟨by decide, fun slash => (plain '/' slash).2.2.2 rfl⟩
  have single : hasDoubleStar ('*' :: text) = false := by
    cases text with
    | nil => rfl
    | cons c text =>
      have star : c ≠ '*' := (plain c (by simp)).1
      rw [hasDoubleStar, hasDoubleStar_of_isPlain plain]
      rintro _ - same
      exact star (List.cons.inj same).1
  have last : ('*' :: text).getLast? ≠ some '/' := by
    intro last
    exact flat (List.mem_of_getLast? last)
  have part : part? ('*' :: text) = some (.wild (endingWith text)) := by
    have apart : '*' :: text ≠ ['*', '*'] := by
      intro same
      rw [same] at single
      cases single
    have read : pieces ('*' :: text) = endingWith text := by
      rw [pieces, pieces_of_isPlain plain, endingWith]
    rw [part?, if_neg apart, single, read]
    simp [hasWildcard]
  simp [ofPattern?, Text.fields_of_not_mem flat, part, last]

end EventAtlas.Glob
