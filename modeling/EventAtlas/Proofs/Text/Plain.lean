import EventAtlas.Proofs.Text.Keyword
import EventAtlas.Proofs.Text.Lower
import EventAtlas.Proofs.Text.Reader
import EventAtlas.Text.Digit
import EventAtlas.Text.Field
import EventAtlas.Text.Lower
import EventAtlas.Text.Word

/-!
# Plain texts

A text is plain if it has neither a bar nor a line feed, so that it can stand in a row of a table.
Readers pass over plain characters if whatever they accept is plain.
-/

namespace EventAtlas.Text

/-- A character that has no meaning in the rows of a table. -/
def IsPlain (c : Char) : Prop :=
  c ≠ '|' ∧ c ≠ '\n'

instance (c : Char) : Decidable (IsPlain c) :=
  inferInstanceAs (Decidable (c ≠ '|' ∧ c ≠ '\n'))

/-- A text of such characters. -/
def Plain (text : String) : Prop :=
  ∀ c ∈ text.toList, IsPlain c

instance (text : String) : Decidable (Plain text) :=
  inferInstanceAs (Decidable (∀ c ∈ text.toList, IsPlain c))

/-- A text is plain if it has no bar and no line feed. -/
theorem plain_iff_count {text : String} :
    Plain text ↔ text.toList.count '|' = 0 ∧ text.toList.count '\n' = 0 := by
  simp only [Plain, IsPlain, List.count_eq_zero]
  constructor
  · exact fun plain => ⟨fun bar => (plain _ bar).1 rfl, fun feed => (plain _ feed).2 rfl⟩
  · rintro ⟨noBar, noFeed⟩ c member
    exact ⟨ne_of_mem_of_not_mem member noBar, ne_of_mem_of_not_mem member noFeed⟩

/-- A text of plain characters. -/
theorem plain_ofList {chars : List Char} (plain : ∀ c ∈ chars, IsPlain c) :
    Plain (String.ofList chars) := by
  rwa [Plain, String.toList_ofList]

/-- Plain texts one after the other. -/
theorem Plain.append {first second : String} (left : Plain first) (right : Plain second) :
    Plain (first ++ second) := by
  intro c member
  rw [String.toList_append, List.mem_append] at member
  exact member.elim (left c) (right c)

/-- Plain texts with a plain text between them. -/
theorem plain_join {between : String} {parts : List String} (plain : Plain between)
    (plainParts : ∀ part ∈ parts, Plain part) : Plain (join between parts) := by
  induction parts with
  | nil => exact fun _ inside => by cases inside
  | cons part rest ih =>
    obtain ⟨here, later⟩ := List.forall_mem_cons.1 plainParts
    cases rest with
    | nil => exact here
    | cons next rest =>
      rw [join, String.intercalate_cons_cons]
      exact (here.append plain).append (ih later)

/-! ### Readers -/

/-- Only plain characters are passed over before the rest of a text. -/
def Passes (text rest : List Char) : Prop :=
  ∃ front, text = front ++ rest ∧ ∀ c ∈ front, IsPlain c

/-- Only plain characters are accepted. -/
def AcceptsPlain (accepts : Char → Bool) : Prop :=
  ∀ c, accepts c = true → IsPlain c

/-- It is enough that neither a bar nor a line feed is accepted. -/
theorem acceptsPlain_iff {accepts : Char → Bool} :
    AcceptsPlain accepts ↔ accepts '|' = false ∧ accepts '\n' = false := by
  constructor
  · intro plain
    constructor
    · exact Bool.eq_false_iff.2 fun accepted => (plain _ accepted).1 rfl
    · exact Bool.eq_false_iff.2 fun accepted => (plain _ accepted).2 rfl
  · rintro ⟨noBar, noFeed⟩ c accepted
    constructor
    · rintro rfl
      exact absurd accepted (by simp [noBar])
    · rintro rfl
      exact absurd accepted (by simp [noFeed])

section Passes

variable {text middle rest : List Char} {accepts : Char → Bool}

/-- What is passed over one after the other is passed over. -/
theorem Passes.trans (first : Passes text middle) (second : Passes middle rest) :
    Passes text rest := by
  obtain ⟨front, rfl, plain⟩ := first
  obtain ⟨more, rfl, others⟩ := second
  refine ⟨front ++ more, by simp, fun c member => ?_⟩
  exact (List.mem_append.1 member).elim (plain c) (others c)

/-- What was passed over is plain. -/
theorem Passes.take (passes : Passes text rest) :
    ∀ c ∈ text.take (text.length - rest.length), IsPlain c := by
  obtain ⟨front, rfl, plain⟩ := passes
  rwa [List.length_append, Nat.add_sub_cancel, List.take_left]

theorem passes_of_after? (plain : AcceptsPlain accepts) (read : after? accepts text = some rest) :
    Passes text rest := by
  obtain ⟨c, accepted, rfl⟩ := after?_eq_some_iff.1 read
  exact ⟨[c], rfl, by simpa using plain c accepted⟩

theorem passes_of_run? (plain : AcceptsPlain accepts) {run : List Char}
    (read : run? accepts text = some (run, rest)) : Passes text rest :=
  ⟨run, append_of_run? read, fun c member => plain c (accepts_of_run? read c member)⟩

/-- A bar and a line feed count as no other characters. -/
theorem isPlain_of_foldCase {c : Char} (plain : IsPlain (foldCase c)) : IsPlain c := by
  constructor
  · rintro rfl
    exact plain.1 rfl
  · rintro rfl
    exact plain.2 rfl

theorem passes_of_afterKeyword? {word : List Char} (plain : ∀ c ∈ word, IsPlain c)
    (read : afterKeyword? word text = some rest) : Passes text rest := by
  obtain ⟨front, spells, rfl⟩ := afterKeyword?_eq_some_iff.1 read
  exact ⟨front, rfl, fun c member => isPlain_of_foldCase (plain _ (spells.foldCase_mem member))⟩

end Passes

/-- The lower-case form of a character that counts as a plain character of ASCII is plain. -/
theorem isPlain_of_mem_lowerChar {c : Char} (ascii : (foldCase c).toNat < 128)
    (plain : IsPlain (foldCase c)) : ∀ d ∈ lowerChar c, IsPlain d := by
  intro d member
  rcases eq_foldCase_or_of_mem_lowerChar ascii member with rfl | wide
  · exact plain
  · constructor
    · rintro rfl
      exact absurd wide (by decide)
    · rintro rfl
      exact absurd wide (by decide)

/-- No field of a text has other characters than the text. -/
theorem mem_of_mem_fields {separator c : Char} {text field : List Char}
    (member : field ∈ fields separator text) (inside : c ∈ field) : c ∈ text := by
  fun_induction fields separator text generalizing field with
  | case1 =>
    rw [List.mem_singleton] at member
    subst member
    cases inside
  | case2 rest ih =>
    rcases List.mem_cons.1 member with rfl | later
    · cases inside
    · exact List.mem_cons_of_mem _ (ih later inside)
  | case3 d rest apart none ih => exact absurd none (fields_ne_nil separator rest)
  | case4 d rest apart first others split ih =>
    rcases List.mem_cons.1 member with rfl | later
    · rcases List.mem_cons.1 inside with rfl | deeper
      · exact List.mem_cons_self ..
      · exact List.mem_cons_of_mem _ (ih (by simp [split]) deeper)
    · exact List.mem_cons_of_mem _ (ih (by simp [split, later]) inside)

end EventAtlas.Text
