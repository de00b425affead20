import EventAtlas.Proofs.Text.Reader
import Mathlib.Data.List.DropRight

/-!
# Runs of accepted characters

A run is a stretch of accepted characters that cannot be made longer. A reader whose readings are
accepted and reach as far as characters are accepted stays within runs, so that searching a text for
its readings finds at most one in each run: the one at the first place of the run where it reads
anything.
-/

namespace EventAtlas.Text

variable {accepts : Char → Bool} {text before run after rest : List Char}

/-- A stretch of accepted characters, with nothing accepted next to it. -/
structure IsRun (accepts : Char → Bool) (before run after : List Char) : Prop where
  some : run ≠ []
  accepted : ∀ c ∈ run, accepts c = true
  left : ∀ c ∈ before.getLast?, accepts c = false
  right : ∀ c ∈ after.head?, accepts c = false

/-- What is taken while it is accepted ends where something else comes. -/
theorem takeWhile_append_of_right (accepted : ∀ c ∈ run, accepts c = true)
    (right : ∀ c ∈ after.head?, accepts c = false) : (run ++ after).takeWhile accepts = run := by
  have stops : after.takeWhile accepts = [] := by
    cases after with
    | nil => rfl
    | cons c rest => simp [right c rfl]
  rw [List.takeWhile_append_of_pos accepted, stops, List.append_nil]

/-- What is left then is all that comes. -/
theorem dropWhile_append_of_right (accepted : ∀ c ∈ run, accepts c = true)
    (right : ∀ c ∈ after.head?, accepts c = false) : (run ++ after).dropWhile accepts = after := by
  have stays : after.dropWhile accepts = after := by
    cases after with
    | nil => rfl
    | cons c rest => simp [right c rfl]
  rw [List.dropWhile_append_of_pos accepted, stays]

/-- What comes first in a text is of its first piece, unless that is empty. -/
theorem head?_append_of_forall {holds : Char → Prop} (front : ∀ c ∈ run, holds c)
    (right : ∀ c ∈ after.head?, holds c) : ∀ c ∈ (run ++ after).head?, holds c := by
  cases run with
  | nil => exact right
  | cons d run => simpa using front d (List.mem_cons_self ..)

/-- A piece that is not empty has what comes first. -/
theorem head?_append_of_ne_nil {holds : Char → Prop} (some : run ≠ [])
    (front : ∀ c ∈ run, holds c) (after : List Char) : ∀ c ∈ (run ++ after).head?, holds c := by
  rw [List.head?_append_of_ne_nil _ some]
  exact fun c head => front c (List.mem_of_mem_head? head)

/-- A run at the end of a text is dropped with what is accepted in front of it. -/
theorem rdropWhile_append_of_accepted (accepted : ∀ c ∈ run, accepts c = true) :
    (text ++ run).rdropWhile accepts = text.rdropWhile accepts := by
  induction run using List.reverseRecOn with
  | nil => rw [List.append_nil]
  | append_singleton run c ih =>
    obtain ⟨earlier, last⟩ := List.forall_mem_append.1 accepted
    rw [← List.append_assoc, List.rdropWhile_concat_pos _ _ _ (last c (List.mem_singleton_self c)),
      ih earlier]

/-- A run is read at the front of a text exactly if the text starts with it and it ends there. -/
theorem run?_eq_some_iff_append : run? accepts text = some (run, rest) ↔
    run ≠ [] ∧ text = run ++ rest ∧ (∀ c ∈ run, accepts c = true) ∧
      ∀ c ∈ rest.head?, accepts c = false := by
  constructor
  · intro read
    refine ⟨(run?_eq_some_iff.1 read).1, append_of_run? read, accepts_of_run? read, ?_⟩
    intro c first
    obtain ⟨-, -, rfl⟩ := run?_eq_some_iff.1 read
    have stopped := List.head?_dropWhile_not accepts text
    rw [Option.mem_def.1 first] at stopped
    simpa using stopped
  · rintro ⟨some, rfl, accepted, right⟩
    exact run?_eq_some_iff.2 ⟨some, (takeWhile_append_of_right accepted right).symm,
      (dropWhile_append_of_right accepted right).symm⟩

/-- Accepted characters stand in a run. -/
theorem exists_isRun (some : run ≠ []) (accepted : ∀ c ∈ run, accepts c = true)
    (before after : List Char) :
    ∃ outside lead tail beyond, before = outside ++ lead ∧ after = tail ++ beyond ∧
      IsRun accepts outside (lead ++ run ++ tail) beyond := by
  refine ⟨before.rdropWhile accepts, before.rtakeWhile accepts, after.takeWhile accepts,
    after.dropWhile accepts, ?_, List.takeWhile_append_dropWhile.symm, ?_, ?_, ?_, ?_⟩
  · have reversed := @List.takeWhile_append_dropWhile _ accepts before.reverse
    rw [List.rdropWhile, List.rtakeWhile, ← List.reverse_append, reversed, List.reverse_reverse]
  · simp [some]
  · intro c member
    simp only [List.mem_append] at member
    rcases member with (inLead | here) | inTail
    · exact List.mem_rtakeWhile_imp inLead
    · exact accepted c here
    · exact List.mem_takeWhile_imp inTail
  · intro c last
    obtain ⟨left, rfl⟩ := List.mem_getLast?_eq_getLast last
    exact Bool.eq_false_iff.2 (List.rdropWhile_last_not accepts _ left)
  · intro c first
    have stopped := List.head?_dropWhile_not accepts after
    rw [Option.mem_def.1 first] at stopped
    simpa using stopped

/-! ### Searching for what stays within runs -/

/-- What is read is accepted and reaches as far as characters are accepted. -/
def ReadsToEnd {α : Type} (accepts : Char → Bool) (read : Reader α) : Prop :=
  ∀ ⦃text value rest⦄, read text = some (value, rest) →
    ∃ found, found ≠ [] ∧ text = found ++ rest ∧ (∀ c ∈ found, accepts c = true) ∧
      ∀ c ∈ rest.head?, accepts c = false

section Search

variable {α : Type} {read : Reader α} {value : α}

/-- Characters that are passed over are left out of the search. -/
theorem go_length_append (found text : List Char) :
    findAll.go read found.length (found ++ text) = findAll.go read 0 text := by
  induction found with
  | nil => rfl
  | cons c rest ih => exact ih

/-- Where nothing is read, the search goes on with the next character. -/
theorem findAll_of_none {c : Char} (nothing : read (c :: rest) = none) :
    findAll read (c :: rest) = findAll read rest := by
  simp [findAll, findAll.go, nothing]

/-- Where something is read, the search goes on behind it. -/
theorem findAll_append {found : List Char} (nonempty : found ≠ [])
    (here : read (found ++ rest) = some (value, rest)) :
    findAll read (found ++ rest) = value :: findAll read rest := by
  obtain ⟨c, found, rfl⟩ := List.exists_cons_of_ne_nil nonempty
  have skipped : (found ++ rest).length - rest.length = found.length := by simp
  simp only [List.cons_append] at here ⊢
  simp only [findAll, findAll.go, here, skipped, go_length_append]

/-- A value is read at some place of a text, and nothing is read at an earlier place from which on
all characters are accepted. -/
def ReadFirst (accepts : Char → Bool) (read : Reader α) (text : List Char) (value : α) : Prop :=
  ∃ before rest left, text = before ++ rest ∧ read rest = some (value, left) ∧
    ∀ earlier between, before = earlier ++ between → between ≠ [] →
      (∀ c ∈ between, accepts c = true) → read (between ++ rest) = none

/-- Where nothing is read at the front, a text has the readings of what follows. -/
theorem readFirst_cons_iff {c : Char} (nothing : read (c :: rest) = none) :
    ReadFirst accepts read (c :: rest) value ↔ ReadFirst accepts read rest value := by
  constructor
  · rintro ⟨before, place, left, parted, found, first⟩
    cases before with
    | nil =>
      obtain rfl : c :: rest = place := parted
      rw [nothing] at found
      cases found
    | cons d before =>
      obtain ⟨rfl, rfl⟩ := List.cons.inj parted
      refine ⟨before, place, left, rfl, found, fun earlier between split => ?_⟩
      exact first (c :: earlier) between (by rw [split, List.cons_append])
  · rintro ⟨before, place, left, rfl, found, first⟩
    refine ⟨c :: before, place, left, rfl, found, fun earlier between split some accepted => ?_⟩
    cases earlier with
    | nil =>
      obtain rfl : c :: before = between := split
      exact nothing
    | cons d earlier => exact first earlier between (List.cons.inj split).2 some accepted

/-- Where something is read at the front, it is the only reading up to where it ends. -/
theorem readFirst_append_iff {found : List Char} {first : α} (nonempty : found ≠ [])
    (accepted : ∀ c ∈ found, accepts c = true) (right : ∀ c ∈ rest.head?, accepts c = false)
    (reads : ReadsToEnd accepts read) (here : read (found ++ rest) = some (first, rest)) :
    ReadFirst accepts read (found ++ rest) value ↔
      value = first ∨ ReadFirst accepts read rest value := by
  constructor
  · rintro ⟨before, place, left, parted, found', earliest⟩
    rcases List.append_eq_append_iff.1 parted with ⟨more, rfl, rfl⟩ | ⟨inside, rfl, rfl⟩
    · -- The place is where the reading ends or later.
      refine .inr ⟨more, place, left, rfl, found', fun earlier between split => ?_⟩
      exact earliest (found ++ earlier) between (by rw [split, List.append_assoc])
    · cases before with
      | nil =>
        rw [List.nil_append] at here
        rw [here] at found'
        cases found'
        exact .inl rfl
      | cons c before =>
        -- The place is further inside, so the reading at the front comes first.
        have none := earliest [] (c :: before) rfl (by simp) fun d member =>
          accepted d (List.mem_append_left _ member)
        rw [← List.append_assoc, here] at none
        cases none
  · rintro (rfl | ⟨before, place, left, rfl, found', earliest⟩)
    · refine ⟨[], found ++ rest, rest, rfl, here, fun earlier between split some => ?_⟩
      exact absurd (List.append_eq_nil_iff.1 split.symm).2 some
    · refine ⟨found ++ before, place, left, (List.append_assoc ..).symm, found',
        fun earlier between split some accepted' => ?_⟩
      rcases List.append_eq_append_iff.1 split with ⟨more, rfl, rfl⟩ | ⟨inside, rfl, rfl⟩
      · exact earliest more between rfl some accepted'
      · -- An earlier place in the reading is cut off from this one by what ends the reading.
        obtain ⟨c, head, inside⟩ : ∃ c, (before ++ place).head? = Option.some c ∧
            accepts c = true := by
          cases before with
          | nil =>
            obtain ⟨run, some, rfl, all, -⟩ := reads found'
            obtain ⟨c, others, rfl⟩ := List.exists_cons_of_ne_nil some
            exact ⟨c, rfl, all c (List.mem_cons_self ..)⟩
          | cons c before => exact ⟨c, rfl, accepted' c (by simp)⟩
        have other := right c head
        rw [inside] at other
        cases other

/-- What a search finds are the first readings. -/
theorem mem_findAll_iff_readFirst (reads : ReadsToEnd accepts read) :
    value ∈ findAll read text ↔ ReadFirst accepts read text value := by
  -- The induction is on the length, since a reading is passed over as a whole.
  induction length : text.length using Nat.strong_induction_on generalizing text with
  | _ length ih =>
    subst length
    cases text with
    | nil =>
      refine iff_of_false (by simp [findAll, findAll.go]) ?_
      rintro ⟨before, place, left, parted, found, -⟩
      obtain ⟨run, nonempty, rfl, -⟩ := reads found
      simp [nonempty] at parted
    | cons c rest =>
      cases here : read (c :: rest) with
      | none => rw [findAll_of_none here, readFirst_cons_iff here, ih rest.length (by simp) rfl]
      | some reading =>
        obtain ⟨first, left⟩ := reading
        obtain ⟨run, nonempty, parted, accepted, right⟩ := reads here
        rw [parted] at here ⊢
        have shorter : left.length < (c :: rest).length := by
          rw [parted, List.length_append]
          exact Nat.lt_add_of_pos_left (List.length_pos_of_ne_nil nonempty)
        rw [findAll_append nonempty here, List.mem_cons, ih left.length shorter rfl,
          readFirst_append_iff nonempty accepted right reads here]

/-- What a search finds is read in some run, at the first place of the run where anything is read,
and reaches to the end of the run. -/
theorem mem_findAll_iff_isRun (reads : ReadsToEnd accepts read) :
    value ∈ findAll read text ↔ ∃ before run after, text = before ++ run ++ after ∧
      IsRun accepts before run after ∧ ∃ front back, run = front ++ back ∧
        read (back ++ after) = some (value, after) ∧
        ∀ earlier later, run = earlier ++ later → earlier.length < front.length →
          read (later ++ after) = none := by
  rw [mem_findAll_iff_readFirst reads]
  constructor
  · rintro ⟨before, place, after, rfl, found, earliest⟩
    obtain ⟨back, nonempty, rfl, accepted, right⟩ := reads found
    obtain ⟨outside, front, tail, beyond, rfl, rfl, whole⟩ :=
      exists_isRun nonempty accepted before after
    -- Nothing that is accepted follows the reading.
    obtain rfl : tail = [] := by
      cases tail with
      | nil => rfl
      | cons c tail =>
        have other := right c rfl
        rw [whole.accepted c (by simp)] at other
        cases other
    rw [List.append_nil] at whole
    refine ⟨outside, front ++ back, beyond, by simp, whole, front, back, rfl, found, ?_⟩
    intro earlier later split shorter
    rcases List.append_eq_append_iff.1 split with ⟨more, rfl, rfl⟩ | ⟨between, rfl, rfl⟩
    · rw [List.length_append] at shorter
      omega
    · have none := earliest (outside ++ earlier) between (by simp)
        (by rintro rfl; simp at shorter) fun c member => whole.accepted c (by simp [member])
      simpa using none
  · rintro ⟨before, run, after, rfl, whole, front, back, rfl, found, earliest⟩
    refine ⟨before ++ front, back ++ after, after, by simp, found,
      fun earlier between split some accepted => ?_⟩
    rcases List.append_eq_append_iff.1 split with ⟨lead, rfl, rfl⟩ | ⟨outside, rfl, rfl⟩
    · have none := earliest lead (between ++ back) (by simp)
        (by simpa using List.length_pos_of_ne_nil some)
      simpa using none
    · -- A place before the run is cut off from it by what stands in front of the run.
      cases outside using List.reverseRecOn with
      | nil =>
        have none := earliest [] (front ++ back) (by simp) (List.length_pos_of_ne_nil some)
        simpa using none
      | append_singleton outside c =>
        have other := whole.left c (by simp)
        rw [accepted c (by simp)] at other
        cases other

end Search

end EventAtlas.Text
