import EventAtlas.Proofs.Text.Run

/-!
# Searches that miss nothing

A search goes on behind what it read, so a place inside of what was read is not tried. Nothing is
lost by that if every reading at such a place gives the value that was found anyway: the search
then finds what is read at any place at all.
-/

namespace EventAtlas.Text

variable {α : Type} {read : Reader α} {value : α} {text first later lead inside : List Char}

/-- Every reading takes something off its text, and the readings inside of what it takes have its
value. -/
def ReadsAlike (read : Reader α) : Prop :=
  ∀ ⦃text value rest⦄, read text = some (value, rest) →
    ∃ found, found ≠ [] ∧ text = found ++ rest ∧
      ∀ ⦃lead inside other left⦄, found = lead ++ inside → inside ≠ [] →
        read (inside ++ rest) = some (other, left) → other = value

/-- A value is read at some place of a text. -/
def ReadAt (read : Reader α) (text : List Char) (value : α) : Prop :=
  ∃ before rest left, text = before ++ rest ∧ read rest = some (value, left)

/-- A text has the readings of its rest and the one at its front. -/
theorem readAt_cons_iff {c : Char} {rest : List Char} :
    ReadAt read (c :: rest) value ↔
      (∃ left, read (c :: rest) = some (value, left)) ∨ ReadAt read rest value := by
  constructor
  · rintro ⟨before, place, left, parted, found⟩
    cases before with
    | nil => exact .inl ⟨left, by rw [parted, List.nil_append, found]⟩
    | cons d before => exact .inr ⟨before, place, left, (List.cons.inj parted).2, found⟩
  · rintro (⟨left, found⟩ | ⟨before, place, left, rfl, found⟩)
    · exact ⟨[], c :: rest, left, rfl, found⟩
    · exact ⟨c :: before, place, left, rfl, found⟩

/-- What is read at a place of appended texts is read inside of the first or at a place of the
second. -/
theorem readAt_append_iff {found rest : List Char} : ReadAt read (found ++ rest) value ↔
    (∃ lead inside left, found = lead ++ inside ∧ inside ≠ [] ∧
      read (inside ++ rest) = some (value, left)) ∨ ReadAt read rest value := by
  induction found with
  | nil => simp
  | cons c found ih =>
    rw [List.cons_append, readAt_cons_iff, ih]
    constructor
    · rintro (⟨left, here⟩ | ⟨lead, inside, left, rfl, some, there⟩ | later)
      · exact .inl ⟨[], c :: found, left, rfl, by simp, here⟩
      · exact .inl ⟨c :: lead, inside, left, rfl, some, there⟩
      · exact .inr later
    · rintro (⟨lead, inside, left, split, some, there⟩ | later)
      · cases lead with
        | nil => exact .inl ⟨left, by rw [← List.cons_append, split]; exact there⟩
        | cons d lead =>
          exact .inr (.inl ⟨lead, inside, left, (List.cons.inj split).2, some, there⟩)
      · exact .inr (.inr later)

/-- So a search whose readings are alike finds what is read at any place. -/
theorem mem_findAll_iff_readAt (alike : ReadsAlike read) :
    value ∈ findAll read text ↔ ReadAt read text value := by
  -- The induction is on the length, since a reading is passed over as a whole.
  induction length : text.length using Nat.strong_induction_on generalizing text with
  | _ length ih =>
    subst length
    cases text with
    | nil =>
      refine iff_of_false (by simp [findAll, findAll.go]) ?_
      rintro ⟨before, place, left, parted, found⟩
      obtain ⟨taken, some, rfl, -⟩ := alike found
      simp [some] at parted
    | cons c rest =>
      cases here : read (c :: rest) with
      | none =>
        rw [findAll_of_none here, readAt_cons_iff, here, ih rest.length (by simp) rfl]
        simp
      | some reading =>
        obtain ⟨front, left⟩ := reading
        obtain ⟨taken, some, parted, inner⟩ := alike here
        rw [parted] at here ⊢
        have shorter : left.length < (c :: rest).length := by
          rw [parted, List.length_append]
          exact Nat.lt_add_of_pos_left (List.length_pos_of_ne_nil some)
        rw [findAll_append some here, List.mem_cons, ih left.length shorter rfl, readAt_append_iff]
        refine or_congr_left ⟨?_, ?_⟩
        · rintro rfl
          exact ⟨[], taken, left, rfl, some, here⟩
        · rintro ⟨lead, inside, beyond, split, some, there⟩
          exact inner split some there

/-! ### Readers of what is written -/

section Reads

variable {writes : α → List Char → Prop} {piece : List Char → Prop}

/-- A reader reads the values as they are written, and leaves what comes after them. -/
def Reads (read : Reader α) (writes : α → List Char → Prop) : Prop :=
  ∀ text value rest, read text = some (value, rest) ↔
    ∃ written, writes value written ∧ text = written ++ rest

/-- A piece of a certain kind stands somewhere in a text. -/
def StandsIn (piece : List Char → Prop) (text : List Char) : Prop :=
  ∃ before written after, text = before ++ (written ++ after) ∧ piece written

/-- What comes before or after a text makes no difference to the pieces in it. -/
theorem StandsIn.within (stands : StandsIn piece text) (before after : List Char) :
    StandsIn piece (before ++ text ++ after) := by
  obtain ⟨front, written, back, rfl, holds⟩ := stands
  exact ⟨before ++ front, written, back ++ after, by simp, holds⟩

/-- At one place only one value can be written. -/
theorem Reads.unique {other : α} {first second rest left : List Char} (reads : Reads read writes)
    (one : writes value first) (two : writes other second) (same : first ++ rest = second ++ left) :
    value = other := by
  have done : read (first ++ rest) = some (value, rest) := (reads ..).2 ⟨first, one, rfl⟩
  rw [(reads ..).2 ⟨second, two, same⟩] at done
  exact (Prod.mk.inj (Option.some.inj done)).1.symm

/-- If its readings are alike, a search finds the values that are written anywhere. -/
theorem mem_findAll_iff_standsIn (reads : Reads read writes) (alike : ReadsAlike read) :
    value ∈ findAll read text ↔ StandsIn (writes value) text := by
  rw [mem_findAll_iff_readAt alike]
  constructor
  · rintro ⟨before, place, left, rfl, found⟩
    obtain ⟨written, holds, rfl⟩ := (reads ..).1 found
    exact ⟨before, written, left, rfl, holds⟩
  · rintro ⟨before, written, after, rfl, holds⟩
    exact ⟨before, _, after, rfl, (reads ..).2 ⟨written, holds, rfl⟩⟩

end Reads

/-! ### Places and pieces -/

/-- A place that starts with a character that a piece does not hold is behind the piece. -/
theorem exists_of_head_not_mem {c : Char} (split : first ++ later = lead ++ inside)
    (head : c ∈ inside.head?) (apart : c ∉ first) :
    ∃ between, lead = first ++ between ∧ later = between ++ inside := by
  rcases List.append_eq_append_iff.1 split with behind | ⟨others, rfl, rfl⟩
  · exact behind
  · cases others with
    | nil => exact ⟨[], by simp, rfl⟩
    | cons d others =>
      obtain rfl : d = c := by simpa using head
      simp at apart

/-- A place behind a piece and a mark is behind the mark, or what stands there holds the mark. -/
theorem exists_of_append_cons {c : Char} (split : first ++ c :: later = lead ++ inside) :
    (∃ between, later = between ++ inside) ∨
      ∃ front, first = lead ++ front ∧ inside = front ++ c :: later := by
  rcases List.append_eq_append_iff.1 split with ⟨between, rfl, marked⟩ | before
  · cases between with
    | nil => exact .inr ⟨[], by simp, marked.symm⟩
    | cons d between => exact .inl ⟨between, (List.cons.inj marked).2⟩
  · exact .inr before

/-- The first mark of a text parts it in one way only. -/
theorem eq_of_first_mark {c : Char} {front rest : List Char}
    (split : first ++ c :: later = front ++ c :: rest) (apart : c ∉ first) (apart' : c ∉ front) :
    first = front ∧ later = rest := by
  obtain ⟨between, rfl, marked⟩ := exists_of_head_not_mem split rfl apart
  cases between with
  | nil => exact ⟨by simp, (List.cons.inj marked).2⟩
  | cons d between =>
    obtain rfl : c = d := (List.cons.inj marked).1
    simp at apart'

end EventAtlas.Text
