import EventAtlas.Api.SdkCall
import EventAtlas.Proofs.NameSet
import EventAtlas.Proofs.Text.Keyword
import EventAtlas.Proofs.Text.Search

/-!
# Calls of the client library, as they are written

`Writes` says how a call may be written, and the reader reads exactly that. No call starts inside of
another one: the only other arrow of a call stands in front of its action, and no action is spelled
like a resource. So a search that passes over what it read finds every call there is.
-/

namespace EventAtlas.SdkCall

open Text

variable {text rest : List Char}

/-- How a call may be written: access to a resource, an arrow, an action and an opening parenthesis,
with gaps between them. -/
inductive Writes : (written resource action : List Char) → Prop
  | call {access resource action gap₁ gap₂ gap₃ gap₄ : List Char}
      (accessed : access = ['-', '>'] ∨ access = [':', ':'])
      (named : SpellsOne resources resource) (acted : SpellsOne actions action)
      (blank₁ : Gap gap₁) (blank₂ : Gap gap₂) (blank₃ : Gap gap₃) (blank₄ : Gap gap₄) :
      Writes (access ++ (gap₁ ++ (resource ++ (gap₂ ++
        (['-', '>'] ++ (gap₃ ++ (action ++ (gap₄ ++ ['(']))))))))
        resource action

/-- Access is an arrow or a scope mark. -/
theorem afterAccess?_eq_some_iff : afterAccess? text = some rest ↔
    ∃ access, (access = ['-', '>'] ∨ access = [':', ':']) ∧ text = access ++ rest := by
  rw [afterAccess?, afterArrow?, Option.or_eq_some_iff, afterWord?_eq_some_iff,
    afterWord?_eq_some_iff]
  constructor
  · rintro (rfl | ⟨-, rfl⟩)
    · exact ⟨_, .inl rfl, rfl⟩
    · exact ⟨_, .inr rfl, rfl⟩
  · rintro ⟨access, rfl | rfl, rfl⟩
    · exact .inl rfl
    · exact .inr ⟨rfl, rfl⟩

/-- No keyword is empty, and none holds a blank. -/
theorem inked_of_mem {word : String} (listed : word ∈ resources ++ actions) :
    word.toList ≠ [] ∧ ∀ c ∈ word.toList, isBlank c = false := by
  have checked : ∀ word ∈ resources ++ actions,
      word.toList ≠ [] ∧ ∀ c ∈ word.toList, isBlank c = false := by decide
  exact checked word listed

/-- What is read are the calls as they may be written. -/
theorem read_eq_some_iff {resource action : List Char} :
    read text = some ((resource, action), rest) ↔
      ∃ written, Writes written resource action ∧ text = written ++ rest := by
  have apart : ∀ first ∈ resources, ∀ second ∈ resources,
      first.toList <+: second.toList → first = second := by decide
  have apart' : ∀ first ∈ actions, ∀ second ∈ actions,
      first.toList <+: second.toList → first = second := by decide
  simp only [read, Option.bind_eq_bind, Option.bind_eq_some_iff, afterAccess?_eq_some_iff,
    afterArrow?, afterWord?_eq_some_iff, anyKeyword?_eq_some_iff apart,
    anyKeyword?_eq_some_iff apart', after?_eq_some_iff, beq_iff_eq]
  constructor
  · rintro ⟨_, ⟨access, accessed, rfl⟩, ⟨found, _⟩, ⟨named, resourced⟩, _, arrow, ⟨found', _⟩,
      ⟨acted, actioned⟩, _, ⟨_, rfl, opened⟩, same⟩
    obtain ⟨⟨rfl, rfl⟩, rfl⟩ : (found = resource ∧ found' = action) ∧ _ = rest := by
      simpa using same
    obtain ⟨gap₁, blank₁, rfl, -⟩ := trimLeft_eq_iff.1 resourced
    obtain ⟨gap₂, blank₂, rfl, -⟩ := trimLeft_eq_iff.1 arrow
    obtain ⟨gap₃, blank₃, rfl, -⟩ := trimLeft_eq_iff.1 actioned
    obtain ⟨gap₄, blank₄, rfl, -⟩ := trimLeft_eq_iff.1 opened
    exact ⟨_, .call accessed named acted blank₁ blank₂ blank₃ blank₄, by simp⟩
  · rintro ⟨_, ⟨accessed, named, acted, blank₁, blank₂, blank₃, blank₄⟩, rfl⟩
    simp only [List.append_assoc]
    have inked : ∀ word ∈ resources, word.toList ≠ [] ∧ ∀ c ∈ word.toList, isBlank c = false :=
      fun word listed => inked_of_mem (List.mem_append_left _ listed)
    have inked' : ∀ word ∈ actions, word.toList ≠ [] ∧ ∀ c ∈ word.toList, isBlank c = false :=
      fun word listed => inked_of_mem (List.mem_append_right _ listed)
    refine ⟨_, ⟨_, accessed, rfl⟩, (resource, _),
      ⟨named, trimLeft_append_spelled blank₁ named inked⟩,
      _, trimLeft_eq_iff.2 ⟨_, blank₂, rfl, by simp +decide⟩, (action, _),
      ⟨acted, trimLeft_append_spelled blank₃ acted inked'⟩, _,
      ⟨'(', rfl, trimLeft_eq_iff.2 ⟨_, blank₄, rfl, by simp +decide⟩⟩, rfl⟩

/-! ### Calls do not overlap -/

/-- The marks that calls are accessed by stand in no gap and in no keyword. -/
theorem not_mem_of_mark {c : Char} (mark : c ∈ ['-', '>', ':']) :
    (∀ gap, Gap gap → c ∉ gap) ∧
      (∀ piece, SpellsOne resources piece → c ∉ piece) ∧
      ∀ piece, SpellsOne actions piece → c ∉ piece := by
  have apart : ∀ c ∈ ['-', '>', ':'], isBlank c = false ∧
      ∀ word ∈ resources ++ actions, foldCase c ∉ word.toList := by decide
  obtain ⟨ink, foreign⟩ := apart c mark
  exact ⟨fun _ blank => blank.not_mem ink,
    fun _ spelled => (spelled.mono (List.subset_append_left ..)).not_mem foreign,
    fun _ spelled => (spelled.mono (List.subset_append_right ..)).not_mem foreign⟩

/-- How a call starts: a mark of two characters, a resource, and an arrow. -/
theorem Writes.starts {written resource action : List Char}
    (writes : Writes written resource action) :
    ∃ c d gap gap' more, (c = '-' ∧ d = '>' ∨ c = ':' ∧ d = ':') ∧ Gap gap ∧ Gap gap' ∧
      SpellsOne resources resource ∧
      written = c :: d :: (gap ++ (resource ++ (gap' ++ '-' :: more))) := by
  obtain ⟨rfl | rfl, named, -, blank₁, blank₂, -, -⟩ := writes
  · exact ⟨_, _, _, _, _, .inl ⟨rfl, rfl⟩, blank₁, blank₂, named, rfl⟩
  · exact ⟨_, _, _, _, _, .inr ⟨rfl, rfl⟩, blank₁, blank₂, named, rfl⟩

/-- A dash or a colon behind the front of a call is the second colon of a scope mark or starts the
arrow in front of the action. -/
theorem Writes.inside {written resource action lead inside : List Char} {c : Char}
    (writes : Writes written resource action) (split : written = lead ++ c :: inside)
    (mark : c = '-' ∨ c = ':') (behind : lead ≠ []) :
    (∃ gap piece more, Gap gap ∧ SpellsOne resources piece ∧ inside = gap ++ (piece ++ more)) ∨
    ∃ gap gap', Gap gap ∧ Gap gap' ∧ SpellsOne actions action ∧
      inside = '>' :: (gap ++ (action ++ (gap' ++ ['(']))) := by
  obtain @⟨access, _, _, gap₁, gap₂, gap₃, gap₄, accessed, named, acted, blank₁, blank₂, blank₃,
    blank₄⟩ := writes
  obtain ⟨noGap, noResource, noAction⟩ : _ :=
    not_mem_of_mark (c := c) (by rcases mark with rfl | rfl <;> simp)
  have noArrowEnd : c ∉ ['>'] := by rcases mark with rfl | rfl <;> simp
  have afterAccess {lead : List Char} (split : gap₁ ++ (resource ++ (gap₂ ++ (['-', '>'] ++
      (gap₃ ++ (action ++ (gap₄ ++ ['('])))))) = lead ++ c :: inside) :
      inside = '>' :: (gap₃ ++ (action ++ (gap₄ ++ ['(']))) := by
    obtain ⟨lead, -, split⟩ := exists_of_head_not_mem split rfl (noGap _ blank₁)
    obtain ⟨lead, -, split⟩ := exists_of_head_not_mem split rfl (noResource _ named)
    obtain ⟨lead, -, split⟩ := exists_of_head_not_mem split rfl (noGap _ blank₂)
    cases lead with
    | nil => exact (List.cons.inj split).2.symm
    | cons d lead =>
      -- Nothing behind the arrow is a dash or a colon.
      obtain ⟨lead, -, split⟩ := exists_of_head_not_mem (List.cons.inj split).2 rfl noArrowEnd
      obtain ⟨lead, -, split⟩ := exists_of_head_not_mem split rfl (noGap _ blank₃)
      obtain ⟨lead, -, split⟩ := exists_of_head_not_mem split rfl (noAction _ acted)
      obtain ⟨lead, -, split⟩ := exists_of_head_not_mem split rfl (noGap _ blank₄)
      have paren : c ∈ ['('] := by simp [split]
      rcases mark with rfl | rfl <;> simp at paren
  obtain ⟨d, lead, rfl⟩ := List.exists_cons_of_ne_nil behind
  rcases accessed with rfl | rfl
  · obtain ⟨lead, -, split⟩ := exists_of_head_not_mem (List.cons.inj split).2 rfl noArrowEnd
    exact .inr ⟨_, _, blank₃, blank₄, acted, afterAccess split⟩
  · cases lead with
    | nil => exact .inl ⟨_, _, _, blank₁, named, (List.cons.inj (List.cons.inj split).2).2.symm⟩
    | cons e lead =>
      have split := (List.cons.inj (List.cons.inj split).2).2
      exact .inr ⟨_, _, blank₃, blank₄, acted, afterAccess split⟩

/-- No call starts inside of another one. -/
theorem Writes.alone {written other lead inside resource action resource' action' left : List Char}
    (writes : Writes written resource action) (there : Writes other resource' action')
    (split : written = lead ++ inside) (behind : lead ≠ []) (nonempty : inside ≠ []) :
    inside ++ rest ≠ other ++ left := by
  intro same
  obtain ⟨c, inside, rfl⟩ := List.exists_cons_of_ne_nil nonempty
  obtain ⟨d, e, gap, gap', more, marks, blank, blank', named, rfl⟩ := there.starts
  obtain ⟨rfl, same⟩ : c = d ∧
      inside ++ rest = e :: (gap ++ (resource' ++ (gap' ++ '-' :: more))) ++ left :=
    List.cons.inj same
  have mark : c = '-' ∨ c = ':' := by
    rcases marks with ⟨rfl, -⟩ | ⟨rfl, -⟩ <;> simp
  rcases writes.inside split mark behind with
    ⟨gap₁, piece, others, blank₁, spelled, rfl⟩ | ⟨gap₁, gap₂, blank₁, blank₂, acted, rfl⟩
  · -- The second character of an access is no blank and no letter.
    obtain ⟨noGap, noResource, -⟩ : _ :=
      not_mem_of_mark (c := e) (by rcases marks with ⟨-, rfl⟩ | ⟨-, rfl⟩ <;> simp)
    have split : gap₁ ++ piece ++ (others ++ rest) = [] ++ e :: (gap ++ (resource' ++
        (gap' ++ '-' :: more)) ++ left) := by simpa using same
    obtain ⟨between, none, -⟩ := exists_of_head_not_mem split rfl
      (by simp [noGap _ blank₁, noResource _ spelled])
    obtain ⟨word, listed, spells⟩ := spelled
    refine (inked_of_mem (List.mem_append_left _ listed)).1 (spells.symm.trans ?_)
    rw [(List.append_eq_nil_iff.1 (List.append_eq_nil_iff.1 none.symm).1).2, List.map_nil]
  · -- The action would have to be a resource.
    have same : '>' = e ∧ gap₁ ++ (action ++ (gap₂ ++ '(' :: rest)) =
        gap ++ (resource' ++ (gap' ++ '-' :: (more ++ left))) := by simpa using same
    have trimmed := congrArg trimLeft same.2
    rw [trimLeft_append_spelled blank₁ acted fun word listed =>
        inked_of_mem (List.mem_append_right _ listed),
      trimLeft_append_spelled blank named fun word listed =>
        inked_of_mem (List.mem_append_left _ listed)] at trimmed
    have run := congrArg (List.takeWhile isLetterAnyCase) trimmed
    rw [takeWhile_spelled acted (by decide) blank₂ (by decide),
      takeWhile_spelled named (by decide) blank' (by decide)] at run
    subst run
    obtain ⟨word, listed, spells⟩ := named
    obtain ⟨word', listed', spells'⟩ := acted
    have distinct : ∀ word ∈ resources, ∀ word' ∈ actions, word.toList ≠ word'.toList := by
      decide
    exact distinct word listed word' listed' (spells.symm.trans spells')

/-- So the readings at the places of a call are that call. -/
theorem readsAlike_read : ReadsAlike read := by
  rintro text ⟨resource, action⟩ rest done
  obtain ⟨written, writes, rfl⟩ := read_eq_some_iff.1 done
  refine ⟨written, ?_, rfl, ?_⟩
  · obtain ⟨_, _, _, _, _, -, -, -, -, rfl⟩ := writes.starts
    simp
  · rintro lead inside ⟨resource', action'⟩ left split nonempty there
    obtain ⟨other, writes', same⟩ := read_eq_some_iff.1 there
    cases lead with
    | nil =>
      rw [← List.nil_append inside, ← split, done] at there
      exact (Prod.mk.inj (Option.some.inj there)).1.symm
    | cons c lead => exact absurd same (writes.alone writes' split (by simp) nonempty)

/-! ### Calls in a source -/

/-- The reader reads the calls that may be written. -/
theorem reads_read : Reads read fun call written => Writes written call.1 call.2 :=
  fun _ _ _ => read_eq_some_iff

/-- A call stands somewhere in a source. -/
def StandsIn (source : String) (resource action : List Char) : Prop :=
  Text.StandsIn (Writes · resource action) source.toList

/-- The calls that are found are those that stand anywhere in the source. -/
theorem mem_detect_iff {source call : String} : call ∈ detect source ↔
    ∃ resource action, StandsIn source resource action ∧ call = signature resource action := by
  rw [detect, NameSet.mem_ofList, List.mem_map]
  constructor
  · rintro ⟨⟨resource, action⟩, member, rfl⟩
    exact ⟨resource, action, (mem_findAll_iff_standsIn reads_read readsAlike_read).1 member, rfl⟩
  · rintro ⟨resource, action, stands, rfl⟩
    refine ⟨(resource, action), ?_, rfl⟩
    exact (mem_findAll_iff_standsIn reads_read readsAlike_read).2 stands

/-- At one place only one call can stand. -/
theorem Writes.unique {written other resource action resource' action' left : List Char}
    (writes : Writes written resource action) (writes' : Writes other resource' action')
    (same : written ++ rest = other ++ left) : resource = resource' ∧ action = action' := by
  have calls : (resource, action) = (resource', action') := reads_read.unique writes writes' same
  exact Prod.mk.inj calls

/-- What comes before or after a source makes no difference to the calls in it. -/
theorem StandsIn.within {source : String} {resource action : List Char}
    (stands : StandsIn source resource action) (before after : String) :
    StandsIn (before ++ source ++ after) resource action := by
  simpa [StandsIn] using Text.StandsIn.within stands before.toList after.toList

end EventAtlas.SdkCall
