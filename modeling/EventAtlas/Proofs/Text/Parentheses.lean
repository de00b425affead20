import Mathlib.Data.List.Infix

/-!
# Parentheses

In a balanced text every parenthesis is closed behind where it was opened. Any other text closes one
that it did not open, or it does not and leaves one open.
-/

namespace EventAtlas.Text

variable {text inside rest : List Char} {c : Char}

/-- No parenthesis is closed that was not opened before. -/
def Opened (text : List Char) : Prop :=
  ∀ front, front <+: text → front.count ')' ≤ front.count '('

/-- Every parenthesis is closed behind where it was opened. -/
structure Balanced (text : List Char) : Prop where
  opened : Opened text
  closed : text.count '(' = text.count ')'

/-- Behind a balanced beginning, a parenthesis is closed that was not opened. -/
def ClosesEarly (text : List Char) : Prop :=
  ∃ whole more, Balanced whole ∧ text = whole ++ ')' :: more

/-- In front of a balanced end, a parenthesis is left open. -/
def StaysOpen (text : List Char) : Prop :=
  Opened text ∧ ∃ outer inner, Balanced inner ∧ text = outer ++ '(' :: inner

instance : Decidable (Opened text) :=
  decidable_of_iff (∀ front ∈ text.inits, front.count ')' ≤ front.count '(') <| by
    simp only [List.mem_inits, Opened]

instance : Decidable (Balanced text) :=
  decidable_of_iff (Opened text ∧ text.count '(' = text.count ')')
    ⟨fun ⟨opened, closed⟩ => ⟨opened, closed⟩, fun balanced => ⟨balanced.opened, balanced.closed⟩⟩

/-! ### How balanced texts are made -/

theorem balanced_nil : Balanced [] := by
  decide

/-- The beginnings of appended texts. -/
theorem prefix_append_cases {front first second : List Char} (starts : front <+: first ++ second) :
    front <+: first ∨ ∃ more, more <+: second ∧ front = first ++ more := by
  rcases List.prefix_or_prefix_of_prefix starts (List.prefix_append first second) with
    inside | ⟨more, rfl⟩
  · exact .inl inside
  · exact .inr ⟨more, (List.prefix_append_right_inj first).1 starts, rfl⟩

/-- Behind a balanced text, what is opened is counted anew. -/
theorem Balanced.opened_append (balanced : Balanced inside) (opened : Opened rest) :
    Opened (inside ++ rest) := by
  intro front starts
  rcases prefix_append_cases starts with within | ⟨more, begins, rfl⟩
  · exact balanced.opened front within
  · have counted := opened more begins
    rw [List.count_append, List.count_append, balanced.closed]
    omega

theorem Balanced.append (balanced : Balanced inside) (other : Balanced rest) :
    Balanced (inside ++ rest) where
  opened := balanced.opened_append other.opened
  closed := by rw [List.count_append, List.count_append, balanced.closed, other.closed]

/-- A character that is no parenthesis is balanced. -/
theorem balanced_singleton (noOpen : c ≠ '(') (noClose : c ≠ ')') : Balanced [c] where
  opened front starts := by
    rcases List.prefix_cons_iff.1 starts with rfl | ⟨more, rfl, none⟩
    · rfl
    · simp [List.prefix_nil.1 none, noClose]
  closed := by simp [noOpen, noClose]

/-- What is opened in front may be closed behind. -/
theorem Opened.cons (opened : Opened rest) : Opened ('(' :: rest) := by
  intro front starts
  rcases List.prefix_cons_iff.1 starts with rfl | ⟨more, rfl, begins⟩
  · rfl
  · have counted := opened more begins
    rw [List.count_cons_self, List.count_cons_of_ne (by decide)]
    omega

/-- A balanced text in parentheses is balanced. -/
theorem Balanced.enclosed (balanced : Balanced inside) : Balanced ('(' :: (inside ++ [')'])) where
  opened front starts := by
    rcases List.prefix_cons_iff.1 starts with rfl | ⟨more, rfl, begins⟩
    · rfl
    · rcases prefix_append_cases begins with within | ⟨last, ends, rfl⟩
      · have counted := balanced.opened more within
        rw [List.count_cons_self, List.count_cons_of_ne (by decide)]
        omega
      · have counted : last.count ')' ≤ [')'].count ')' := ends.sublist.count_le ')'
        rw [List.count_cons_self, List.count_cons_of_ne (by decide), List.count_append,
          List.count_append, balanced.closed]
        rw [List.count_singleton_self] at counted
        omega
  closed := by simp [balanced.closed]

/-! ### How a text fails to be balanced -/

/-- A text that closes early is not opened. -/
theorem ClosesEarly.not_opened (early : ClosesEarly text) : ¬ Opened text := by
  obtain ⟨whole, more, balanced, rfl⟩ := early
  intro opened
  have counted := opened (whole ++ [')']) ⟨more, by simp⟩
  rw [List.count_append, List.count_append, balanced.closed, List.count_singleton_self,
    List.count_singleton] at counted
  exact absurd counted (by simp)

/-- A text that stays open is not balanced. -/
theorem StaysOpen.not_balanced (stays : StaysOpen text) : ¬ Balanced text := by
  obtain ⟨opened, outer, inner, balanced, rfl⟩ := stays
  intro whole
  have counted := opened outer (List.prefix_append ..)
  have closed := whole.closed
  rw [List.count_append, List.count_append, List.count_cons_self,
    List.count_cons_of_ne (by decide), balanced.closed] at closed
  omega

/-- What comes behind a balanced text decides how the whole fails. -/
theorem Balanced.append_or (balanced : Balanced inside)
    (fate : Balanced rest ∨ ClosesEarly rest ∨ StaysOpen rest) :
    Balanced (inside ++ rest) ∨ ClosesEarly (inside ++ rest) ∨ StaysOpen (inside ++ rest) := by
  rcases fate with other | ⟨whole, more, other, rfl⟩ | ⟨opened, outer, inner, other, rfl⟩
  · exact .inl (balanced.append other)
  · exact .inr (.inl ⟨inside ++ whole, more, balanced.append other, by simp⟩)
  · exact .inr (.inr ⟨balanced.opened_append opened, inside ++ outer, inner, other, by simp⟩)

/-- A text is balanced, closes early or stays open. -/
theorem balanced_or (text : List Char) : Balanced text ∨ ClosesEarly text ∨ StaysOpen text := by
  -- The induction is on the length: what follows a group is shorter than the group with it.
  induction length : text.length using Nat.strong_induction_on generalizing text with
  | _ length ih =>
    subst length
    cases text with
    | nil => exact .inl balanced_nil
    | cons c rest =>
      have later := ih rest.length (by simp) rest rfl
      by_cases closes : c = ')'
      · subst closes
        exact .inr (.inl ⟨[], rest, balanced_nil, rfl⟩)
      by_cases opens : c = '('
      · subst opens
        rcases later with
          balanced | ⟨whole, more, balanced, rfl⟩ | ⟨opened, outer, inner, balanced, rfl⟩
        · exact .inr (.inr ⟨balanced.opened.cons, [], rest, balanced, rfl⟩)
        · have parted : '(' :: (whole ++ ')' :: more) = '(' :: (whole ++ [')']) ++ more := by simp
          rw [parted]
          exact balanced.enclosed.append_or (ih more.length (by simp; omega) more rfl)
        · exact .inr (.inr ⟨opened.cons, '(' :: outer, inner, balanced, rfl⟩)
      · exact (balanced_singleton opens closes).append_or later

/-- So a text that is not balanced fails in one of two ways. -/
theorem not_balanced_iff : ¬ Balanced text ↔ ClosesEarly text ∨ StaysOpen text := by
  refine ⟨(balanced_or text).resolve_left, ?_⟩
  rintro (early | stays) balanced
  · exact early.not_opened balanced.opened
  · exact stays.not_balanced balanced

example : ClosesEarly "$m); log($m".toList ∧ StaysOpen "f(0".toList :=
  ⟨⟨"$m".toList, "; log($m".toList, by decide, by decide⟩,
    by decide, ['f'], ['0'], by decide, by decide⟩

end EventAtlas.Text
