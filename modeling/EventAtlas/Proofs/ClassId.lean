import EventAtlas.ClassId
import EventAtlas.Proofs.Text.Blank
import EventAtlas.Proofs.Text.Field

/-!
# Canonical identifiers

The three steps of `canonical` are taken once, one after the other. A step can uncover what an
earlier step would have taken away: a blank behind question marks, or either of these behind
backslashes. The result is a fixed point exactly if nothing of this kind is left in front, because
its end never has to be trimmed again.
-/

namespace EventAtlas.ClassId

open Text

/-- What is left for the last step of `canonicalChars`. -/
def unmarked (written : List Char) : List Char :=
  (trim written).dropWhile (· == '?')

/-- The last step takes away separators. -/
theorem canonicalChars_eq (written : List Char) :
    canonicalChars written = (unmarked written).dropWhile (· == separator) := rfl

/-- An identifier is its own canonical form if no step takes anything away: its first character is
no blank, no question mark and no separator, and its last one no blank. -/
theorem canonicalChars_eq_self_iff {id : List Char} :
    canonicalChars id = id ↔
      (∀ c ∈ id.head?, isBlank c = false ∧ c ≠ '?' ∧ c ≠ separator) ∧
        ∀ c ∈ id.getLast?, isBlank c = false := by
  constructor
  · intro same
    have trimmed : (trim id).Sublist id :=
      (List.rdropWhile_prefix isBlank _).sublist.trans (List.dropWhile_sublist isBlank)
    have marked : (unmarked id).Sublist (trim id) := List.dropWhile_sublist _
    have cut : (canonicalChars id).Sublist (unmarked id) := List.dropWhile_sublist _
    -- No step can make the text shorter, since the last result is as long as the first text.
    have length := congrArg List.length same
    have keptTrim : trim id = id := trimmed.eq_of_length_le (by
      have := marked.length_le
      have := cut.length_le
      omega)
    have keptMark : unmarked id = trim id := marked.eq_of_length_le (by
      have := trimmed.length_le
      have := cut.length_le
      omega)
    rw [keptTrim] at keptMark
    rw [canonicalChars_eq, keptMark, dropWhile_eq_self_iff_head?] at same
    rw [unmarked, keptTrim, dropWhile_eq_self_iff_head?] at keptMark
    obtain ⟨front, back⟩ := trim_eq_self_iff.1 keptTrim
    refine ⟨fun c first => ⟨front c first, ?_, ?_⟩, back⟩
    · simpa using keptMark c first
    · simpa using same c first
  · rintro ⟨front, back⟩
    have keptTrim : trim id = id := trim_eq_self_iff.2 ⟨fun c first => (front c first).1, back⟩
    have keptMark : unmarked id = id := by
      rw [unmarked, keptTrim, dropWhile_eq_self_iff_head?]
      exact fun c first => by simpa using (front c first).2.1
    rw [canonicalChars_eq, keptMark, dropWhile_eq_self_iff_head?]
    exact fun c first => by simpa using (front c first).2.2

/-- Identifiers are compared by their characters. -/
theorem canonical_eq_self_iff {id : ClassId} :
    canonical id = id ↔ canonicalChars id.toList = id.toList := by
  rw [← String.toList_inj, canonical, String.toList_ofList]

/-- A canonical form is what is left at the end of the trimmed text. -/
theorem canonicalChars_suffix_trim (written : List Char) :
    canonicalChars written <:+ trim written :=
  (List.dropWhile_suffix _).trans (List.dropWhile_suffix _)

/-- The canonical form of an identifier has only characters of the identifier. -/
theorem mem_of_mem_canonicalChars {written : List Char} {c : Char}
    (member : c ∈ canonicalChars written) : c ∈ written :=
  mem_of_mem_trim ((canonicalChars_suffix_trim written).subset member)

/-- Of an identifier that does not end with a blank, `canonical` only takes from the front. -/
theorem canonicalChars_suffix {id : List Char} (back : ∀ c ∈ id.getLast?, isBlank c = false) :
    canonicalChars id <:+ id := by
  have front : id.dropWhile isBlank <:+ id := List.dropWhile_suffix _
  have kept : trim id = id.dropWhile isBlank := by
    rw [trim_eq_rdropWhile, List.rdropWhile_eq_self_iff]
    intro some
    rw [front.getLast some]
    exact Bool.eq_false_iff.1 (back _ (List.getLast_mem_getLast? _))
  exact (canonicalChars_suffix_trim id).trans (kept ▸ front)

/-- The last character of a canonical form is no blank. -/
theorem isBlank_of_mem_getLast?_canonicalChars {written : List Char} {c : Char}
    (last : c ∈ (canonicalChars written).getLast?) : isBlank c = false := by
  obtain ⟨front, whole⟩ := canonicalChars_suffix_trim written
  have same : (trim written).getLast? = some c := by
    rw [← whole, List.getLast?_append, last]
    rfl
  exact isBlank_of_mem_getLast?_trim same

/-- Of a canonical form, `canonical` only takes from the front. -/
theorem canonicalChars_canonical_suffix (written : String) :
    canonicalChars (canonical written).toList <:+ (canonical written).toList := by
  refine canonicalChars_suffix fun c last => ?_
  rw [canonical, String.toList_ofList] at last
  exact isBlank_of_mem_getLast?_canonicalChars last

/-- A canonical form does not start with a separator. -/
theorem ne_separator_of_mem_head?_canonicalChars {written : List Char} {c : Char}
    (first : c ∈ (canonicalChars written).head?) : c ≠ separator := by
  have dropped := List.head?_dropWhile_not (· == separator) (unmarked written)
  rw [← canonicalChars_eq, first] at dropped
  simpa using dropped

/-- What `canonical` gives is a fixed point of it exactly if it starts with neither a blank nor a
question mark. -/
theorem canonical_canonical_iff {written : String} :
    canonical (canonical written) = canonical written ↔
      ∀ c ∈ (canonical written).toList.head?, isBlank c = false ∧ c ≠ '?' := by
  have chars : (canonical written).toList = canonicalChars written.toList :=
    String.toList_ofList
  rw [canonical_eq_self_iff, canonicalChars_eq_self_iff, chars]
  constructor
  · exact fun ends c first => ⟨(ends.1 c first).1, (ends.1 c first).2.1⟩
  · intro front
    refine ⟨fun c first => ?_, fun c last => isBlank_of_mem_getLast?_canonicalChars last⟩
    exact ⟨(front c first).1, (front c first).2, ne_separator_of_mem_head?_canonicalChars first⟩

/-! ### The last segment -/

/-- The last segment is the last of the fields. -/
theorem lastSegmentChars_eq (chars : List Char) :
    lastSegmentChars chars = (fields separator chars).getLast (fields_ne_nil _ _) := by
  induction chars using List.reverseRecOn with
  | nil => rfl
  | append_singleton chars c ih =>
    by_cases here : c = separator
    · subst here
      simp [lastSegmentChars, fields_append_separator, fields]
    · obtain ⟨others, last, split, grown⟩ := exists_fields_append separator chars
      have split' := grown [c] (by simpa using Ne.symm here)
      simp only [split, split', List.getLast_append_singleton] at ih ⊢
      rw [← ih, lastSegmentChars, lastSegmentChars]
      simp [here]

/-- The short name of a class is the last of the fields of its identifier. -/
theorem shortName_eq (id : ClassId) : id.shortName =
    .ofList ((fields separator id.toList).getLast (fields_ne_nil _ _)) := by
  rw [shortName, lastSegmentChars_eq]

end EventAtlas.ClassId
