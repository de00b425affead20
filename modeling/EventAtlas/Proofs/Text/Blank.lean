import EventAtlas.Text.Blank
import EventAtlas.Text.Word
import Mathlib.Data.List.DropRight

/-!
# Blanks at the ends of texts

Trimming a text removes characters and adds none, and leaves no blank at its ends. A text whose
first and last characters are not blank stays as it is.
-/

namespace EventAtlas.Text

/-- What is passed over is nothing exactly if the text starts with something else. -/
theorem dropWhile_eq_self_iff_head? {p : Char → Bool} {text : List Char} :
    text.dropWhile p = text ↔ ∀ c ∈ text.head?, p c = false := by
  rw [List.dropWhile_eq_self_iff]
  cases text <;> simp

/-- Trimming is removing at the front and then at the end. -/
theorem trim_eq_rdropWhile (text : List Char) :
    trim text = (text.dropWhile isBlank).rdropWhile isBlank := rfl

/-- Trimming leaves no blank at the end. -/
theorem isBlank_of_mem_getLast?_trim {text : List Char} {c : Char}
    (last : c ∈ (trim text).getLast?) : isBlank c = false := by
  obtain ⟨some, rfl⟩ := List.mem_getLast?_eq_getLast last
  exact Bool.eq_false_iff.2 (List.rdropWhile_last_not isBlank _ some)

/-- A text is its own trimmed form exactly if there is no blank at its ends. -/
theorem trim_eq_self_iff {text : List Char} :
    trim text = text ↔ (∀ c ∈ text.head?, isBlank c = false) ∧
      ∀ c ∈ text.getLast?, isBlank c = false := by
  constructor
  · intro same
    refine ⟨?_, fun c last => isBlank_of_mem_getLast?_trim (same.symm ▸ last)⟩
    rw [← dropWhile_eq_self_iff_head?]
    refine (List.dropWhile_sublist isBlank).eq_of_length_le ?_
    -- The text that is left after both steps is as long as the text itself.
    calc text.length = (trim text).length := by rw [same]
      _ ≤ _ := (List.rdropWhile_prefix isBlank _).length_le
  · rintro ⟨front, back⟩
    rw [trim_eq_rdropWhile, dropWhile_eq_self_iff_head?.2 front, List.rdropWhile_eq_self_iff]
    exact fun some => Bool.eq_false_iff.1 (back _ (List.getLast_mem_getLast? some))

/-- A text without blanks is its own trimmed form. -/
theorem trim_eq_self {text : List Char} (none : ∀ c ∈ text, isBlank c = false) :
    trim text = text :=
  trim_eq_self_iff.2 ⟨fun c first => none c (List.mem_of_mem_head? first),
    fun c last => none c (List.mem_of_mem_getLast? last)⟩

/-- A trimmed text has only characters of the text. -/
theorem mem_of_mem_trim {text : List Char} {c : Char} (member : c ∈ trim text) : c ∈ text := by
  have left : c ∈ trimLeft text := (List.rdropWhile_prefix isBlank _).subset member
  exact (List.dropWhile_sublist isBlank).subset left

/-! ### Characters that are not blank -/

/-- Between the blank and the next-line control there is no blank. -/
theorem isBlank_of_toNat {c : Char} (above : 0x20 < c.toNat) (below : c.toNat < 0x85) :
    isBlank c = false := by
  rw [isBlank, List.any_eq_false]
  intro range member
  rw [CodeRange.holds_iff]
  simp only [blankRanges, List.mem_cons, List.not_mem_nil, or_false] at member
  rcases member with rfl | rfl | rfl | rfl | rfl | rfl | rfl | rfl | rfl | rfl <;>
    simp only <;> omega

/-- The code points of word characters of ASCII. -/
theorem toNat_of_isAsciiWord {c : Char} (word : isAsciiWord c = true) :
    0x30 ≤ c.toNat ∧ c.toNat ≤ 0x7a := by
  have ranges : isAsciiWord c =
      (((decide (65 ≤ c.toNat ∧ c.toNat ≤ 90) ||
        (decide (97 ≤ c.toNat) && decide (c.toNat ≤ 122))) ||
          (decide (48 ≤ c.toNat) && decide (c.toNat ≤ 57))) || c == '_') := rfl
  simp only [ranges, Bool.or_eq_true, Bool.and_eq_true, decide_eq_true_eq, beq_iff_eq] at word
  rcases word with ((upper | lower) | digit) | rfl
  · omega
  · omega
  · omega
  · decide

/-- No range of blanks meets a range of letters and numbers. -/
theorem blankRanges_apart :
    ∀ blank ∈ blankRanges, ∀ word ∈ letterNumberRanges,
      blank.2 < word.1 ∨ word.2 < blank.1 := by
  decide +kernel

/-- No word character is blank. -/
theorem isBlank_of_isWord {c : Char} (word : isWord c = true) : isBlank c = false := by
  unfold isWord at word
  split at word
  · have bounds := toNat_of_isAsciiWord word
    exact isBlank_of_toNat (by omega) (by omega)
  · obtain ⟨range, listed, holds⟩ := List.any_eq_true.1 word
    rw [isBlank, List.any_eq_false]
    intro blank member
    rw [CodeRange.holds_iff] at holds ⊢
    have apart := blankRanges_apart blank member range listed
    omega

end EventAtlas.Text
