import EventAtlas.Proofs.Text.Field
import EventAtlas.Proofs.Text.Keyword
import EventAtlas.Proofs.Text.Place
import EventAtlas.Proofs.Text.Search
import Mathlib.Data.List.ReduceOption

/-!
# Searching the beginnings of lines

A reader that passes over blanks at its front can start on a blank line and read what stands on a
later one. The search then goes on behind it, so that this line is read once all the same: a search
at the beginnings of lines finds what each line has by itself, line after line.
-/

namespace EventAtlas.Text

variable {α β : Type} {read : Reader α} {value : α} {text line after rest taken : List Char}

/-! ### Lines -/

/-- A text is a single line, or a line with a line feed and further lines behind it. -/
theorem exists_line (text : List Char) : '\n' ∉ text ∧ fields '\n' text = [text] ∨
    ∃ line rest, '\n' ∉ line ∧ text = line ++ '\n' :: rest ∧
      fields '\n' text = line :: fields '\n' rest := by
  by_cases single : '\n' ∈ text
  · obtain ⟨line, rest, rfl, first⟩ := List.eq_append_cons_of_mem single
    exact .inr ⟨line, rest, first, rfl, fields_line first rest⟩
  · exact .inl ⟨single, fields_of_not_mem single⟩

/-- Nothing or a line feed comes behind a line. -/
def EndsLine (after : List Char) : Prop :=
  ∀ c ∈ after.head?, c = '\n'

/-- The blanks in front of a line end on it, unless the line is blank. -/
theorem trimLeft_append_of_not_gap (inked : ¬ Gap line) (after : List Char) :
    trimLeft (line ++ after) = trimLeft line ++ after := by
  rw [trimLeft, trimLeft, List.dropWhile_append, if_neg]
  rw [List.isEmpty_iff, List.dropWhile_eq_nil_iff]
  exact inked

/-- A word at the front of a line and what follows is on the line. -/
theorem StartsSpelled.of_append {word : List Char} (ends : EndsLine after)
    (letters : ∀ c ∈ word, c.isAlpha = true) (starts : StartsSpelled word (line ++ after)) :
    StartsSpelled word line := by
  obtain ⟨piece, spells, rest, parted⟩ := starts
  refine ⟨piece, spells, ?_⟩
  cases after with
  | nil => exact ⟨rest, by rw [parted, List.append_nil]⟩
  | cons c after =>
    obtain rfl := ends c rfl
    -- A line feed counts as no letter, so the piece ends in front of it.
    have apart : '\n' ∉ piece := fun member =>
      absurd (letters _ (spells.foldCase_mem member)) (by decide)
    obtain ⟨between, rfl, -⟩ := exists_of_head_not_mem parted rfl apart
    exact ⟨between, rfl⟩

/-! ### Going on -/

/-- Behind the beginning of a line, the search goes on with the next line. -/
theorem go_false_append (single : '\n' ∉ line) (ends : EndsLine after) :
    findAllAtLineStarts.go read 0 false (line ++ after) =
      findAllAtLineStarts read (after.drop 1) := by
  induction line with
  | nil =>
    cases after with
    | nil => simp [findAllAtLineStarts, findAllAtLineStarts.go]
    | cons c rest =>
      obtain rfl := ends c rfl
      simp [findAllAtLineStarts, findAllAtLineStarts.go]
  | cons c line ih =>
    simp only [List.mem_cons, not_or] at single
    have inside : (c == '\n') = false := beq_eq_false_iff_ne.2 (Ne.symm single.1)
    simp [findAllAtLineStarts.go, inside, ih single.2]

/-- What was read is passed over. A line begins behind it if it ends with a line feed. -/
theorem go_skip_append (some : taken ≠ []) (fresh : Bool) :
    findAllAtLineStarts.go read taken.length fresh (taken ++ rest) =
      findAllAtLineStarts.go read 0 (taken.getLast some == '\n') rest := by
  induction taken generalizing fresh with
  | nil => exact absurd rfl some
  | cons c taken ih =>
    rw [List.length_cons, List.cons_append, findAllAtLineStarts.go]
    cases taken with
    | nil => rfl
    | cons d taken =>
      have more := List.cons_ne_nil d taken
      rw [ih more, List.getLast_cons more]

/-- Where something is read at the beginning of a line, the search goes on behind it. -/
theorem findAllAtLineStarts_append (some : taken ≠ [])
    (here : read (taken ++ rest) = .some (value, rest)) :
    findAllAtLineStarts read (taken ++ rest) =
      value :: findAllAtLineStarts.go read 0 (taken.getLast some == '\n') rest := by
  obtain ⟨c, others, rfl⟩ := List.exists_cons_of_ne_nil some
  have skipped : (others ++ rest).length - rest.length = others.length := by simp
  rw [List.cons_append] at here
  rw [findAllAtLineStarts, List.cons_append, findAllAtLineStarts.go]
  simp only [if_true, here, skipped]
  cases others with
  | nil => rfl
  | cons d others =>
    have more := List.cons_ne_nil d others
    rw [go_skip_append more, List.getLast_cons more]

/-- Where nothing is read at the beginning of a line, the search goes on with the next line. -/
theorem findAllAtLineStarts_of_none (single : '\n' ∉ line) (ends : EndsLine after)
    (nothing : read (line ++ after) = none) :
    findAllAtLineStarts read (line ++ after) = findAllAtLineStarts read (after.drop 1) := by
  cases line with
  | nil =>
    cases after with
    | nil => rfl
    | cons c rest =>
      obtain rfl := ends c rfl
      rw [List.nil_append] at nothing ⊢
      rw [findAllAtLineStarts, findAllAtLineStarts.go]
      simp [nothing, findAllAtLineStarts]
  | cons c line =>
    simp only [List.mem_cons, not_or] at single
    have inside : (c == '\n') = false := beq_eq_false_iff_ne.2 (Ne.symm single.1)
    rw [List.cons_append] at nothing
    rw [List.cons_append, findAllAtLineStarts, findAllAtLineStarts.go]
    simp only [if_true, nothing, inside]
    exact go_false_append single.2 ends

/-! ### What each line has -/

/-- Blanks in front of a text make no difference to what is read. -/
def SkipsBlanks (read : Reader α) : Prop :=
  ∀ ⦃gap⦄ text, Gap gap → read (gap ++ text) = read text

/-- What is read on a blank line is what is read on the next line. -/
theorem findAllAtLineStarts_blank_line (skips : SkipsBlanks read) (takes : Takes read)
    (blank : Gap line) (single : '\n' ∉ line) (ends : EndsLine after) :
    findAllAtLineStarts read (line ++ after) = findAllAtLineStarts read (after.drop 1) := by
  have breaks : Gap (line ++ after.take 1) := by
    intro c member
    rcases List.mem_append.1 member with inLine | first
    · exact blank c inLine
    · cases after with
      | nil => cases first
      | cons d rest =>
        obtain rfl := ends d rfl
        obtain rfl : c = '\n' := by simpa using first
        decide
  have parted : line ++ after = line ++ after.take 1 ++ after.drop 1 := by
    rw [List.append_assoc, List.take_append_drop]
  cases later : read (after.drop 1) with
  | none =>
    refine findAllAtLineStarts_of_none single ends ?_
    rw [parted, skips _ breaks, later]
  | some reading =>
    -- The same is read on both lines, and the search goes on at the same place.
    obtain ⟨value, left⟩ := reading
    obtain ⟨taken, some, next⟩ := takes later
    rw [next] at later parted ⊢
    have here : read (line ++ after.take 1 ++ taken ++ left) = .some (value, left) := by
      rw [List.append_assoc, skips _ breaks, later]
    rw [parted, ← List.append_assoc, findAllAtLineStarts_append (by simp [some]) here,
      findAllAtLineStarts_append some later, List.getLast_append_of_ne_nil _ some]

/-- What a line has for a reader, whatever lines come behind it. A blank line has nothing, even if
something is read from its beginning. -/
inductive ReadsLine (read : Reader α) : (line : List Char) → Option α → Prop
  | blank {line : List Char} (blank : Gap line) : ReadsLine read line none
  | nothing {line : List Char} (nothing : ∀ after, EndsLine after → read (line ++ after) = none) :
      ReadsLine read line none
  | value {front tail : List Char} {value : α} (some : front ≠ [])
      (reads : ∀ after, EndsLine after →
        read (front ++ (tail ++ after)) = .some (value, tail ++ after)) :
      ReadsLine read (front ++ tail) (.some value)

/-- A line adds what it has to what is found on the lines behind it. -/
theorem ReadsLine.findAllAtLineStarts_eq {found : Option α} (reads : ReadsLine read line found)
    (skips : SkipsBlanks read) (takes : Takes read) (single : '\n' ∉ line)
    (ends : EndsLine after) : findAllAtLineStarts read (line ++ after) =
      found.toList ++ findAllAtLineStarts read (after.drop 1) := by
  cases reads with
  | blank blank => exact findAllAtLineStarts_blank_line skips takes blank single ends
  | nothing nothing => exact findAllAtLineStarts_of_none single ends (nothing after ends)
  | @value front tail value some reads =>
    simp only [List.mem_append, not_or] at single
    have inside : (front.getLast some == '\n') = false := by
      rw [beq_eq_false_iff_ne]
      exact ne_of_mem_of_not_mem (List.getLast_mem some) single.1
    rw [List.append_assoc, findAllAtLineStarts_append some (reads after ends), inside,
      go_false_append single.2 ends]
    rfl

/-- A search at the beginnings of lines finds what the lines have, one after the other. -/
theorem map_findAllAtLineStarts_of_lines {f : α → β} (skips : SkipsBlanks read)
    (takes : Takes read) {items : List (Option β)}
    (lines : List.Forall₂ (fun line item => ∃ found, ReadsLine read line found ∧ found.map f = item)
      (fields '\n' text) items) :
    (findAllAtLineStarts read text).map f = items.reduceOption := by
  generalize cut : fields '\n' text = pieces at lines
  induction lines generalizing text with
  | nil => exact absurd cut (fields_ne_nil '\n' text)
  | @cons line first lines others reads later ih =>
    obtain ⟨found, reads, rfl⟩ := reads
    rcases exists_line text with ⟨single, whole⟩ | ⟨front, rest, single, rfl, parted⟩
    · rw [whole] at cut
      obtain ⟨rfl, rfl⟩ := List.cons.inj cut
      obtain rfl := List.forall₂_nil_left_iff.1 later
      have done : findAllAtLineStarts read (text ++ []) = found.toList ++ [] :=
        reads.findAllAtLineStarts_eq skips takes single (by simp [EndsLine])
      rw [List.append_nil] at done
      rw [done]
      cases found <;> rfl
    · rw [parted] at cut
      obtain ⟨rfl, rest_lines⟩ := List.cons.inj cut
      rw [reads.findAllAtLineStarts_eq skips takes single (by simp [EndsLine]),
        List.drop_one, List.tail_cons, List.map_append, ih rest_lines]
      cases found <;> rfl

end EventAtlas.Text
