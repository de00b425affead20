/-!
# Fields of a text

A text that holds a separator character is cut into fields at every occurrence of it.
-/

namespace EventAtlas.Text

/-- The fields of a text: what stands before, between and after its separators. -/
def fields (separator : Char) : List Char → List (List Char)
  | [] => [[]]
  | c :: rest =>
    if c = separator then [] :: fields separator rest
    else
      match fields separator rest with
      | [] => [[c]]
      | first :: others => (c :: first) :: others

/-- Fields written one after the other with a text between them. -/
def join (between : String) (parts : List String) : String :=
  between.intercalate parts

/-- There is always at least one field. -/
theorem fields_ne_nil (separator : Char) (text : List Char) : fields separator text ≠ [] := by
  fun_induction fields separator text <;> simp

/-- No field holds the separator. -/
theorem separator_not_mem_fields {separator : Char} {text field : List Char}
    (member : field ∈ fields separator text) : separator ∉ field := by
  fun_induction fields separator text generalizing field with
  | case1 => simp_all
  | case2 rest ih =>
    rcases List.mem_cons.1 member with rfl | later
    · simp
    · exact ih later
  | case3 c rest apart none ih => exact absurd none (fields_ne_nil separator rest)
  | case4 c rest apart first others split ih =>
    rcases List.mem_cons.1 member with rfl | later
    · have inner : separator ∉ first := ih (by simp [split])
      simp [Ne.symm apart, inner]
    · exact ih (by simp [split, later])

end EventAtlas.Text
