import EventAtlas.Proofs.Text.Run

/-!
# Where a search reads

A search reads at the first place of a text where anything can be read, and goes on behind what it
read. So a stretch of places where nothing is read can be left out of the text, and between a place
where the search reads and the end of its reading before there is such a stretch.
-/

namespace EventAtlas.Text

variable {α : Type} {read : Reader α} {value : α} {lead rest text place : List Char}

/-! ### Stretches where nothing is read -/

/-- Nothing is read at the places of a stretch in front of a text. -/
def Unread (read : Reader α) (lead rest : List Char) : Prop :=
  ∀ ⦃front inside⦄, lead = front ++ inside → inside ≠ [] → read (inside ++ rest) = none

/-- The empty stretch has no places. -/
theorem Unread.nil : Unread read [] rest :=
  fun _ _ split some => absurd (List.append_eq_nil_iff.1 split.symm).2 some

/-- A stretch is unread if nothing is read at its front and the rest of it is unread. -/
theorem unread_cons_iff {c : Char} : Unread read (c :: lead) rest ↔
    read (c :: (lead ++ rest)) = none ∧ Unread read lead rest := by
  constructor
  · intro unread
    refine ⟨@unread [] _ rfl (by simp), fun front inside split some => ?_⟩
    exact @unread (c :: front) _ (by rw [split, List.cons_append]) some
  · rintro ⟨here, later⟩ front inside split some
    cases front with
    | nil =>
      obtain rfl : c :: lead = inside := split
      exact here
    | cons d front => exact later (List.cons.inj split).2 some

/-- A search passes over a stretch where nothing is read. -/
theorem findAll_of_unread (unread : Unread read lead rest) :
    findAll read (lead ++ rest) = findAll read rest := by
  induction lead with
  | nil => rfl
  | cons c lead ih =>
    obtain ⟨here, later⟩ := unread_cons_iff.1 unread
    rw [List.cons_append, findAll_of_none here, ih later]

/-! ### Places where something is read -/

/-- A reader that gives the text it was at together with what it read. -/
def noting (read : Reader α) : Reader (List Char × α) := fun text =>
  (read text).map fun found => ((text, found.1), found.2)

/-- A search that notes its places reads what it reads without noting them. -/
theorem map_snd_findAll_noting (read : Reader α) (text : List Char) :
    (findAll (noting read) text).map (·.2) = findAll read text := by
  have general : ∀ skip text, (findAll.go (noting read) skip text).map (·.2) =
      findAll.go read skip text := by
    intro skip text
    induction text generalizing skip with
    | nil => simp [findAll.go]
    | cons c rest ih =>
      cases skip with
      | succ skip => simp only [findAll.go, ih]
      | zero =>
        cases here : read (c :: rest) with
        | none => simp only [findAll.go, noting, here, Option.map_none, ih]
        | some found => simp only [findAll.go, noting, here, Option.map_some, List.map_cons, ih]
  exact general 0 text

/-- Every reading takes something off its text. -/
def Takes (read : Reader α) : Prop :=
  ∀ ⦃text value rest⦄, read text = some (value, rest) → ∃ taken, taken ≠ [] ∧ text = taken ++ rest

/-- A text ends with what is read there in front of the rest. -/
def EndsReading (read : Reader α) (text rest : List Char) : Prop :=
  ∃ earlier taken other, text = earlier ++ taken ∧ read (taken ++ rest) = some (other, rest)

/-- A place where a value is read: nothing is read in front of it, up to the end of the reading
before or to the front of the text. -/
def FoundAt (read : Reader α) (text place : List Char) (value : α) : Prop :=
  ∃ passed tried left, text = passed ++ (tried ++ place) ∧ read place = some (value, left) ∧
    Unread read tried place ∧ (passed = [] ∨ EndsReading read passed (tried ++ place))

/-- A place that is found in the rest of a text is found in the text, if nothing is read at its
front. -/
theorem FoundAt.cons {c : Char} (later : FoundAt read rest place value)
    (nothing : read (c :: rest) = none) : FoundAt read (c :: rest) place value := by
  obtain ⟨passed, tried, left, rfl, found, unread, none | ⟨earlier, taken, other, rfl, ends⟩⟩ :=
    later
  · subst none
    exact ⟨[], c :: tried, left, rfl, found, unread_cons_iff.2 ⟨nothing, unread⟩, .inl rfl⟩
  · exact ⟨c :: (earlier ++ taken), tried, left, rfl, found, unread,
      .inr ⟨c :: earlier, taken, other, rfl, ends⟩⟩

/-- A place that is found behind a reading is found from the front of the reading on. -/
theorem FoundAt.append {taken : List Char} {other : α} (later : FoundAt read rest place value)
    (here : read (taken ++ rest) = some (other, rest)) :
    FoundAt read (taken ++ rest) place value := by
  obtain ⟨passed, tried, left, rfl, found, unread, none | ⟨earlier, last, next, rfl, ends⟩⟩ :=
    later
  · subst none
    exact ⟨taken, tried, left, rfl, found, unread, .inr ⟨[], taken, other, rfl, here⟩⟩
  · exact ⟨taken ++ (earlier ++ last), tried, left, (List.append_assoc ..).symm, found, unread,
      .inr ⟨taken ++ earlier, last, next, (List.append_assoc ..).symm, ends⟩⟩

/-- The places that a search notes are found in this sense. -/
theorem foundAt_of_mem_findAll_noting (takes : Takes read)
    (noted : (place, value) ∈ findAll (noting read) text) : FoundAt read text place value := by
  -- The induction is on the length, since a reading is passed over as a whole.
  induction length : text.length using Nat.strong_induction_on generalizing text with
  | _ length ih =>
    subst length
    cases text with
    | nil => simp [findAll, findAll.go] at noted
    | cons c rest =>
      cases here : read (c :: rest) with
      | none =>
        have nothing : noting read (c :: rest) = none := by rw [noting, here, Option.map_none]
        rw [findAll_of_none nothing] at noted
        exact (ih rest.length (by simp) noted rfl).cons here
      | some reading =>
        obtain ⟨first, left⟩ := reading
        obtain ⟨taken, some, parted⟩ := takes here
        rw [parted] at here noted ⊢
        have there : noting read (taken ++ left) = Option.some ((taken ++ left, first), left) := by
          rw [noting, here, Option.map_some]
        rw [findAll_append some there] at noted
        rcases List.mem_cons.1 noted with same | later
        · obtain ⟨rfl, rfl⟩ := Prod.mk.inj same
          exact ⟨[], [], left, rfl, here, .nil, .inl rfl⟩
        · have shorter : left.length < (c :: rest).length := by
            rw [parted, List.length_append]
            exact Nat.lt_add_of_pos_left (List.length_pos_of_ne_nil some)
          exact (ih left.length shorter later rfl).append here

/-- A place where a value is read is noted, if no reading that starts in front of it goes on behind
it. -/
theorem mem_findAll_noting {before left : List Char} (takes : Takes read)
    (here : read place = some (value, left))
    (clear : ∀ ⦃front inside other left⦄, before = front ++ inside → inside ≠ [] →
      read (inside ++ place) = some (other, left) → place.length ≤ left.length) :
    (place, value) ∈ findAll (noting read) (before ++ place) := by
  induction length : before.length using Nat.strong_induction_on generalizing before with
  | _ length ih =>
    subst length
    cases before with
    | nil =>
      obtain ⟨taken, some, parted⟩ := takes here
      have there : noting read (taken ++ left) = Option.some ((place, value), left) := by
        rw [← parted, noting, here, Option.map_some]
      rw [List.nil_append, parted, findAll_append some there, ← parted]
      exact List.mem_cons_self ..
    | cons c before =>
      cases first : read (c :: (before ++ place)) with
      | none =>
        have nothing : noting read (c :: (before ++ place)) = none := by
          rw [noting, first, Option.map_none]
        rw [List.cons_append, findAll_of_none nothing]
        refine ih before.length (by simp) (fun front inside other left split => ?_) rfl
        exact @clear (c :: front) inside other left (by rw [split, List.cons_append])
      | some reading =>
        obtain ⟨other, after⟩ := reading
        have reach := @clear [] (c :: before) other after rfl (by simp) first
        obtain ⟨taken, some, parted⟩ := takes first
        have joined : (c :: before) ++ place = taken ++ after := parted
        obtain ⟨between, split, rfl⟩ : ∃ between, c :: before = taken ++ between ∧
            after = between ++ place := by
          rcases List.append_eq_append_iff.1 joined with ⟨more, longer, rest⟩ | shorter
          · have none : more = [] := by
              rw [rest, List.length_append] at reach
              exact List.length_eq_zero_iff.1 (by omega)
            subst none
            exact ⟨[], by simpa using longer.symm, rest.symm⟩
          · exact shorter
        have there : noting read (taken ++ (between ++ place)) =
            Option.some ((taken ++ (between ++ place), other), between ++ place) := by
          rw [← parted, noting, first, Option.map_some]
        rw [split, List.append_assoc, findAll_append some there]
        apply List.mem_cons_of_mem
        have shorter : between.length < (c :: before).length := by
          rw [split, List.length_append]
          exact Nat.lt_add_of_pos_left (List.length_pos_of_ne_nil some)
        refine ih between.length shorter (fun front inside other left parted => ?_) rfl
        exact @clear (taken ++ front) inside other left (by rw [split, parted, List.append_assoc])

end EventAtlas.Text
