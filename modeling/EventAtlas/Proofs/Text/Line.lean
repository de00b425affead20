import EventAtlas.Proofs.Text.Reader
import EventAtlas.Text.Field
import Mathlib.Algebra.GroupWithZero.Nat
import Mathlib.Data.List.Forall2

/-!
# Reading lines

A text that is written line by line is read again from its front: a given number of lines is
passed, or one reader reads one item after the other until it reads no more.
-/

namespace EventAtlas.Text

/-- The characters of some lines, with a line feed after each. -/
def lineChars (lines : List String) : List Char :=
  lines.flatMap fun line => line.toList ++ ['\n']

/-- The characters of lines, one list after the other. -/
@[simp] theorem lineChars_append (lines more : List String) :
    lineChars (lines ++ more) = lineChars lines ++ lineChars more :=
  List.flatMap_append

/-- The first line comes first. -/
theorem lineChars_cons_append (line : String) (lines : List String) (rest : List Char) :
    lineChars (line :: lines) ++ rest = line.toList ++ '\n' :: (lineChars lines ++ rest) := by
  simp [lineChars]

/-- Lines that are joined by line feeds, with one more at the end, have a line feed after each. -/
theorem toList_join_lines {lines : List String} (some : lines ≠ []) :
    (join "\n" lines ++ "\n").toList = lineChars lines := by
  induction lines with
  | nil => exact absurd rfl some
  | cons line rest ih =>
    cases rest with
    | nil => simp [join, lineChars]
    | cons next rest =>
      have later := ih (List.cons_ne_nil next rest)
      rw [String.toList_append] at later ⊢
      rw [join, String.intercalate_cons_cons, String.toList_append, String.toList_append,
        List.append_assoc, ← join, later]
      simp [lineChars]

/-- What follows the first line of a text. -/
def afterLine (text : List Char) : List Char :=
  (text.dropWhile (· != '\n')).drop 1

/-- What follows a number of lines of a text. -/
def afterLines : Nat → List Char → List Char
  | 0, text => text
  | count + 1, text => afterLines count (afterLine text)

/-- The first line goes up to the first line feed. -/
theorem takeWhile_line {line rest : List Char} (single : '\n' ∉ line) :
    (line ++ '\n' :: rest).takeWhile (· != '\n') = line := by
  rw [List.takeWhile_append_of_pos]
  · simp
  · intro c member
    simpa using ne_of_mem_of_not_mem member single

/-- A line is passed with its line feed. -/
theorem afterLine_line {line rest : List Char} (single : '\n' ∉ line) :
    afterLine (line ++ '\n' :: rest) = rest := by
  rw [afterLine, List.dropWhile_append_of_pos]
  · simp
  · intro c member
    simpa using ne_of_mem_of_not_mem member single

/-- As many lines are passed as were written. -/
theorem afterLines_lineChars {lines : List String} (single : ∀ line ∈ lines, '\n' ∉ line.toList)
    (rest : List Char) : afterLines lines.length (lineChars lines ++ rest) = rest := by
  induction lines with
  | nil => rfl
  | cons line lines ih =>
    obtain ⟨here, later⟩ := List.forall_mem_cons.1 single
    rw [List.length_cons, afterLines, lineChars_cons_append, afterLine_line here]
    exact ih later

/-- A word is passed where it stands. -/
@[simp] theorem afterWord?_append (word rest : List Char) :
    afterWord? word (word ++ rest) = some rest := by
  induction word with
  | nil => rfl
  | cons c word ih => simp [afterWord?, ih]

/-- What a reader reads from the front of a text, one item after the other, and what is left when
it reads no more. -/
def readMany {α : Type} (read : Reader α) (text : List Char) : List α × List Char :=
  match read text with
  | none => ([], text)
  | some (value, rest) =>
    if rest.length < text.length then
      let (values, left) := readMany read rest
      (value :: values, left)
    else ([value], rest)
termination_by text.length

/-- Items that are written line by line are read one after the other, if each is read with its
line and the reader reads nothing after them. -/
theorem readMany_lineChars {α : Type} {read : Reader α} {writes : α → String → Prop}
    (reads : ∀ item line rest, writes item line →
      read (line.toList ++ '\n' :: rest) = some (item, rest))
    {items : List α} {lines : List String} (pairs : List.Forall₂ writes items lines)
    {rest : List Char} (ends : read rest = none) :
    readMany read (lineChars lines ++ rest) = (items, rest) := by
  induction pairs with
  | nil =>
    change readMany read rest = _
    rw [readMany, ends]
  | @cons item line items lines first _ ih =>
    have shorter : (lineChars lines ++ rest).length <
        (line.toList ++ '\n' :: (lineChars lines ++ rest)).length := by
      simp only [List.length_append, List.length_cons]
      omega
    rw [lineChars_cons_append, readMany, reads item line _ first]
    simp only [if_pos shorter, ih]

/-! ### The lines of a text -/

/-- The lines of a text in which a line feed ends each line. -/
def linesOf (text : List Char) : List (List Char) :=
  (fields '\n' text).dropLast

/-- There is one field more than there are separators. -/
theorem length_fields (separator : Char) (text : List Char) :
    (fields separator text).length = text.count separator + 1 := by
  fun_induction fields separator text with
  | case1 => rfl
  | case2 rest ih => simp [ih]
  | case3 c rest apart none ih => exact absurd none (fields_ne_nil separator rest)
  | case4 c rest apart first others split ih =>
    rw [split] at ih
    simpa [apart] using ih

/-- A line without a line feed is cut off by the first one. -/
theorem fields_line {line : List Char} (single : '\n' ∉ line) (rest : List Char) :
    fields '\n' (line ++ '\n' :: rest) = line :: fields '\n' rest := by
  induction line with
  | nil => simp [fields]
  | cons c line ih =>
    simp only [List.mem_cons, not_or] at single
    simp [fields, Ne.symm single.1, ih single.2]

/-- Single lines are the lines of the text that they make. -/
theorem linesOf_lineChars {lines : List String} (single : ∀ line ∈ lines, '\n' ∉ line.toList) :
    linesOf (lineChars lines) = lines.map String.toList := by
  have cut : fields '\n' (lineChars lines) = lines.map String.toList ++ [[]] := by
    induction lines with
    | nil => rfl
    | cons line lines ih =>
      obtain ⟨here, later⟩ := List.forall_mem_cons.1 single
      have first := lineChars_cons_append line lines []
      simp only [List.append_nil] at first
      rw [first, fields_line here, ih later]
      rfl
  rw [linesOf, cut, List.dropLast_concat]

/-- A text has as many lines as line feeds. -/
theorem length_linesOf (text : List Char) : (linesOf text).length = text.count '\n' := by
  rw [linesOf, List.length_dropLast, length_fields, Nat.add_sub_cancel]

/-- Each written line makes one line, and so does every line feed inside it. -/
theorem count_lineChars (lines : List String) :
    (lineChars lines).count '\n' =
      lines.length + (lines.map fun line => line.toList.count '\n').sum := by
  induction lines with
  | nil => rfl
  | cons line lines ih =>
    have first := lineChars_cons_append line lines []
    simp only [List.append_nil] at first
    rw [first, List.count_append, List.count_cons_self, ih, List.length_cons, List.map_cons,
      List.sum_cons]
    omega

/-- A character occurs as often in what is written of a text as in the text, if this is so of each
single character. -/
theorem count_flatMap_of_keeps {write : Char → List Char} {c : Char}
    (keeps : ∀ d, (write d).count c = [d].count c) (text : List Char) :
    (text.flatMap write).count c = text.count c := by
  induction text with
  | nil => rfl
  | cons d rest ih =>
    rw [List.flatMap_cons, List.count_append, keeps, ih, ← List.count_append]
    rfl

end EventAtlas.Text
