import EventAtlas.Report.Cell

/-!
# Reading cells

An escaped text holds no angle bracket, so the breaks in a cell are those between its texts. Cut
there, a cell gives its texts in their escaped form, and references show in one pass what they were
written for. The word for the empty list is also the cell of the one text that is this word, and of
nothing else.
-/

namespace EventAtlas

namespace Text

/-- What written characters show. References are replaced from the left to the right, and what one
of them shows is no part of another one. -/
def unescape : List Char → List Char
  | '&' :: 'a' :: 'm' :: 'p' :: ';' :: rest => '&' :: unescape rest
  | '&' :: 'l' :: 't' :: ';' :: rest => '<' :: unescape rest
  | '&' :: 'g' :: 't' :: ';' :: rest => '>' :: unescape rest
  | c :: rest => c :: unescape rest
  | [] => []

/-- A character that is no ampersand shows itself. -/
theorem unescape_cons {c : Char} (other : c ≠ '&') (rest : List Char) :
    unescape (c :: rest) = c :: unescape rest := by
  rw [unescape]
  all_goals exact fun _ same => absurd same other

/-- Escaping is undone. -/
theorem unescape_escape (text : List Char) : unescape (escape text) = text := by
  induction text with
  | nil => rfl
  | cons c rest ih =>
    rw [escape, List.flatMap_cons, ← escape, escapeChar]
    split
    · next amp => subst amp; exact congrArg _ ih
    · next other =>
      split
      · next less => subst less; exact congrArg _ ih
      · split
        · next greater => subst greater; exact congrArg _ ih
        · rw [List.singleton_append, unescape_cons other, ih]

/-- An escaped text holds no angle bracket. -/
theorem not_mem_escape (text : List Char) : '<' ∉ escape text := by
  intro member
  obtain ⟨c, -, member⟩ := List.mem_flatMap.1 member
  unfold escapeChar at member
  split at member
  · revert member; decide
  · split at member
    · revert member; decide
    · next other =>
      split at member
      · revert member; decide
      · exact other (List.mem_singleton.1 member).symm

end Text

namespace Report

/-- The parts of a text between its breaks, which are found from the left to the right. -/
def cellParts : List Char → List (List Char)
  | '<' :: 'b' :: 'r' :: '/' :: '>' :: rest => [] :: cellParts rest
  | c :: rest => (cellParts rest).modifyHead (c :: ·)
  | [] => [[]]

/-- The texts that a cell shows. -/
def readCell (text : String) : List String :=
  (cellParts text.toList).map fun part => String.ofList (Text.unescape part)

/-- A character that is no angle bracket stands in front of the first part. -/
theorem cellParts_cons {c : Char} (other : c ≠ '<') (rest : List Char) :
    cellParts (c :: rest) = (cellParts rest).modifyHead (c :: ·) := by
  rw [cellParts]
  exact fun _ same => absurd same other

/-- What holds no angle bracket is a part up to the next break. -/
theorem cellParts_append {part : List Char} (plain : '<' ∉ part) (rest : List Char) :
    cellParts (part ++ rest) = (cellParts rest).modifyHead (part ++ ·) := by
  induction part with
  | nil =>
    change cellParts rest = (cellParts rest).modifyHead id
    rw [List.modifyHead_id, id]
  | cons c part ih =>
    simp only [List.mem_cons, not_or] at plain
    rw [List.cons_append, cellParts_cons (Ne.symm plain.1), ih plain.2, List.modifyHead_modifyHead]
    rfl

/-- The parts of a cell are its texts in their escaped form. -/
theorem cellParts_cell (value : String) (others : List String) :
    cellParts (cell (value :: others)).toList =
      (value :: others).map fun value => Text.escape value.toList := by
  induction others generalizing value with
  | nil =>
    have parts := cellParts_append (Text.not_mem_escape value.toList) []
    simpa [cell, cellText, Text.join, cellParts] using parts
  | cons next others ih =>
    have written : (cell (value :: next :: others)).toList = Text.escape value.toList ++
        (cellBreak.toList ++ (cell (next :: others)).toList) := by
      simp [cell, cellText, Text.join, String.intercalate_cons_cons]
    rw [written, cellParts_append (Text.not_mem_escape value.toList)]
    change (([] : List Char) :: cellParts (cell (next :: others)).toList).modifyHead _ = _
    rw [ih next, List.modifyHead_cons, List.append_nil]
    rfl

/-- A cell shows the texts that it was written for. -/
theorem readCell_cell (value : String) (others : List String) :
    readCell (cell (value :: others)) = value :: others := by
  have shown (value : String) :
      String.ofList (Text.unescape (Text.escape value.toList)) = value := by
    rw [Text.unescape_escape, String.ofList_toList]
  rw [readCell, cellParts_cell, List.map_map]
  exact List.map_id'' shown _

/-- The texts of a cell are read back from it, and it is the word for the empty list exactly if
there are none or this word is the only one. -/
theorem cell_read_back :
    (∀ value others, readCell (cell (value :: others)) = value :: others) ∧
      ∀ values, cell values = emptyCell ↔ values = [] ∨ values = [emptyCell] := by
  refine ⟨readCell_cell, fun values => ⟨fun same => ?_, ?_⟩⟩
  · cases values with
    | nil => exact .inl rfl
    | cons value others =>
      have word : readCell emptyCell = [emptyCell] := by decide
      rw [← same, readCell_cell] at word
      exact .inr (same ▸ word)
  · rintro (rfl | rfl) <;> decide

end Report

end EventAtlas
