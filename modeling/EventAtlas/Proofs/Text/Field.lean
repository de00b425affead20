import EventAtlas.Text.Field

/-!
# How fields change with their text

A character in front of a text either opens a new field or stands in front of the first one.
-/

namespace EventAtlas.Text

/-- The fields of a text and of the text with one more character in front. -/
theorem exists_fields (separator : Char) (text : List Char) :
    ∃ first others, fields separator text = first :: others ∧
      ∀ c, fields separator (c :: text) =
        if c = separator then [] :: first :: others else (c :: first) :: others := by
  cases split : fields separator text with
  | nil => exact absurd split (fields_ne_nil separator text)
  | cons first others =>
    refine ⟨first, others, rfl, fun c => ?_⟩
    rw [fields, split]

/-- A text without the separator is its only field. -/
theorem fields_of_not_mem {separator : Char} {text : List Char} (single : separator ∉ text) :
    fields separator text = [text] := by
  induction text with
  | nil => rfl
  | cons c rest ih =>
    simp only [List.mem_cons, not_or] at single
    rw [fields, if_neg (Ne.symm single.1), ih single.2]

/-- A separator between two texts parts their fields. -/
theorem fields_append_separator (separator : Char) (text rest : List Char) :
    fields separator (text ++ separator :: rest) =
      fields separator text ++ fields separator rest := by
  induction text with
  | nil => simp [fields]
  | cons c text ih =>
    obtain ⟨first, others, split, more⟩ := exists_fields separator text
    obtain ⟨first', others', split', more'⟩ := exists_fields separator (text ++ separator :: rest)
    rw [split', split, List.cons_append] at ih
    obtain ⟨rfl, rfl⟩ := List.cons.inj ih
    rw [List.cons_append, more', more]
    split <;> rfl

/-- A character of a text is the separator or stands in a field. -/
theorem exists_field_of_mem {separator c : Char} {text : List Char} (member : c ∈ text) :
    c = separator ∨ ∃ field ∈ fields separator text, c ∈ field := by
  induction text with
  | nil => simp at member
  | cons d text ih =>
    obtain ⟨first, others, split, more⟩ := exists_fields separator text
    rw [more]
    rw [split] at ih
    rcases List.mem_cons.1 member with rfl | later
    · by_cases same : c = separator
      · exact .inl same
      · exact .inr ⟨c :: first, by simp [same], List.mem_cons_self ..⟩
    · refine (ih later).imp_right fun ⟨field, listed, inside⟩ => ?_
      split
      · exact ⟨field, List.mem_cons_of_mem _ listed, inside⟩
      · rcases List.mem_cons.1 listed with rfl | other
        · exact ⟨d :: field, List.mem_cons_self .., List.mem_cons_of_mem _ inside⟩
        · exact ⟨field, List.mem_cons_of_mem _ other, inside⟩

/-- What follows a text goes to its last field, up to the next separator. -/
theorem exists_fields_append (separator : Char) (text : List Char) :
    ∃ others last, fields separator text = others ++ [last] ∧ ∀ tail, separator ∉ tail →
      fields separator (text ++ tail) = others ++ [last ++ tail] := by
  induction text with
  | nil => exact ⟨[], [], rfl, fun tail single => by simp [fields_of_not_mem single]⟩
  | cons c rest ih =>
    obtain ⟨others, last, split, grown⟩ := ih
    by_cases here : c = separator
    · refine ⟨[] :: others, last, by simp [fields, here, split], fun tail single => ?_⟩
      simp [fields, here, grown tail single]
    · cases others with
      | nil =>
        refine ⟨[], c :: last, by simp [fields, here, split], fun tail single => ?_⟩
        simp [fields, here, grown tail single]
      | cons first others =>
        refine ⟨(c :: first) :: others, last, by simp [fields, here, split], fun tail single => ?_⟩
        simp [fields, here, grown tail single]

/-- A field of the end of a text is the end of a field of the text. -/
theorem exists_of_mem_fields_suffix {separator : Char} {text suffix field : List Char}
    (ends : suffix <:+ text) (member : field ∈ fields separator suffix) :
    ∃ whole ∈ fields separator text, field <:+ whole := by
  obtain ⟨front, rfl⟩ := ends
  induction front with
  | nil => exact ⟨field, member, List.suffix_rfl⟩
  | cons c front ih =>
    obtain ⟨whole, inside, ends⟩ := ih
    obtain ⟨first, others, split, more⟩ := exists_fields separator (front ++ suffix)
    rw [List.cons_append, more]
    rw [split] at inside
    split
    · exact ⟨whole, List.mem_cons_of_mem _ inside, ends⟩
    · rcases List.mem_cons.1 inside with rfl | later
      · exact ⟨c :: whole, List.mem_cons_self .., ends.trans (List.suffix_cons ..)⟩
      · exact ⟨whole, List.mem_cons_of_mem _ later, ends⟩

end EventAtlas.Text
