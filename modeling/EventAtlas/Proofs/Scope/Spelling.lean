import EventAtlas.Proofs.ClassId
import EventAtlas.Proofs.Scope
import EventAtlas.Proofs.Text.Field
import EventAtlas.Proofs.Text.Keyword

/-!
# The spellings of an indexed class

A class of the index is found under its identifier, under any name that the imports make into the
identifier and under what stands of it behind the namespace, with blanks, question marks and
backslashes around it. This rests on identifiers that are made of segments: to cut such a one at a
backslash and to join it again changes nothing, and neither does the canonical form. Another class
is found in its place only where an earlier name is one of the index.
-/

namespace EventAtlas

open Text

/-- What stands between gaps is left when a text is trimmed, if it has no blanks. -/
theorem Text.trim_between {gap gap' inside : List Char} (blank : Text.Gap gap)
    (blank' : Text.Gap gap') (some : inside ≠ []) (inked : ∀ c ∈ inside, isBlank c = false) :
    trim (gap ++ (inside ++ gap')) = inside := by
  have front : ∀ c ∈ (inside ++ gap').head?, isBlank c = false := by
    intro c head
    rw [List.head?_append_of_ne_nil _ some] at head
    exact inked c (List.mem_of_mem_head? head)
  rw [trim_eq_rdropWhile, dropWhile_append_of_right blank front,
    rdropWhile_append_of_accepted blank', List.rdropWhile_eq_self_iff]
  intro nonempty
  rw [inked _ (List.getLast_mem nonempty)]
  exact Bool.false_ne_true

namespace ClassId

variable {id : ClassId} {name qualifier head rest written : String}

/-! ### Segments -/

/-- A segment of an identifier. -/
def IsSegment (text : List Char) : Prop :=
  text ≠ [] ∧ ∀ c ∈ text, isBlank c = false ∧ c ≠ '?' ∧ c ≠ separator

instance : DecidablePred IsSegment :=
  fun text => inferInstanceAs (Decidable (text ≠ [] ∧ ∀ c ∈ text, _))

/-- An identifier that is made of segments. -/
def Segmented (id : ClassId) : Prop :=
  ∀ segment ∈ fields separator id.toList, IsSegment segment

instance : DecidablePred Segmented :=
  fun _ => inferInstanceAs (Decidable (∀ segment ∈ _, _))

/-- The characters of a name in its namespace. -/
theorem toList_qualify (qualifier name : String) :
    (qualify qualifier name).toList = qualifier.toList ++ separator :: name.toList := by
  simp [qualify]

/-- A name in its namespace is made of segments if both are. -/
theorem segmented_qualify_iff :
    Segmented (qualify qualifier name) ↔ Segmented qualifier ∧ Segmented name := by
  rw [Segmented, toList_qualify, fields_append_separator, List.forall_mem_append]
  rfl

/-- There is no separator in a segment. -/
theorem IsSegment.separator_not_mem {text : List Char} (segment : IsSegment text) :
    separator ∉ text :=
  fun member => (segment.2 _ member).2.2 rfl

/-- A segment is an identifier. -/
theorem IsSegment.segmented (segment : IsSegment name.toList) : Segmented name := by
  rw [Segmented, fields_of_not_mem segment.separator_not_mem]
  exact List.forall_mem_singleton.2 segment

/-- No blank and no question mark is in an identifier that is made of segments. -/
theorem Segmented.inked (segmented : Segmented id) :
    ∀ c ∈ id.toList, isBlank c = false ∧ c ≠ '?' := by
  intro c member
  rcases @exists_field_of_mem separator c _ member with rfl | ⟨field, listed, inside⟩
  · decide
  · obtain ⟨ink, unmarked, -⟩ := (segmented field listed).2 c inside
    exact ⟨ink, unmarked⟩

/-- Such an identifier does not start with a separator, since no segment is empty. -/
theorem Segmented.exists_cons (segmented : Segmented id) :
    ∃ c rest, id.toList = c :: rest ∧ c ≠ separator := by
  unfold Segmented at segmented
  cases chars : id.toList with
  | nil =>
    rw [chars] at segmented
    exact absurd rfl (segmented [] (List.mem_singleton_self _)).1
  | cons c rest =>
    refine ⟨c, rest, rfl, ?_⟩
    rintro rfl
    rw [chars, fields, if_pos rfl] at segmented
    exact absurd rfl (segmented [] (List.mem_cons_self ..)).1

/-! ### Canonical spellings -/

/-- How an identifier may be written: blanks around it, and question marks and then separators in
front. -/
def Writes (written : String) (id : ClassId) : Prop :=
  ∃ gap marks slashes gap', Text.Gap gap ∧ (∀ c ∈ marks, c = '?') ∧
    (∀ c ∈ slashes, c = separator) ∧ Text.Gap gap' ∧
    written.toList = gap ++ (marks ++ (slashes ++ (id.toList ++ gap')))

/-- An identifier may be written as it is. -/
theorem Writes.self (id : ClassId) : Writes id id :=
  ⟨[], [], [], [], by decide, by decide, by decide, by decide, by simp⟩

/-- Every text is a way to write its canonical form. -/
theorem writes_canonical (written : String) : Writes written (canonical written) := by
  let text := written.toList
  have chars : (canonical written).toList = canonicalChars text := String.toList_ofList
  have begun : text = text.takeWhile isBlank ++ trimLeft text :=
    List.takeWhile_append_dropWhile.symm
  have ended : trimLeft text = trim text ++ (trimLeft text).rtakeWhile isBlank :=
    List.rdropWhile_append_rtakeWhile.symm
  have marked : trim text = (trim text).takeWhile (· == '?') ++ unmarked text :=
    List.takeWhile_append_dropWhile.symm
  have slashed : unmarked text =
      (unmarked text).takeWhile (· == separator) ++ canonicalChars text :=
    List.takeWhile_append_dropWhile.symm
  refine ⟨text.takeWhile isBlank, (trim text).takeWhile (· == '?'),
    (unmarked text).takeWhile (· == separator), (trimLeft text).rtakeWhile isBlank,
    ?_, ?_, ?_, ?_, ?_⟩
  · exact fun c member => List.mem_takeWhile_imp member
  · exact fun c member => by simpa using List.mem_takeWhile_imp member
  · exact fun c member => by simpa using List.mem_takeWhile_imp member
  · exact fun c member => List.mem_rtakeWhile_imp member
  · rw [chars, ← List.append_assoc (List.takeWhile _ (unmarked text)), ← slashed,
      ← List.append_assoc (List.takeWhile _ (trim text)), ← marked, ← ended]
    exact begun

/-- The identifier that a text writes is its canonical form. -/
theorem Writes.canonical_eq (writes : Writes written id) (segmented : Segmented id) :
    canonical written = id := by
  obtain ⟨gap, marks, slashes, gap', blank, marked, slashed, blank', parted⟩ := writes
  obtain ⟨first, others, chars, apart⟩ := segmented.exists_cons
  have inked : ∀ c ∈ marks ++ (slashes ++ id.toList), isBlank c = false := by
    intro c member
    simp only [List.mem_append] at member
    rcases member with inMarks | inSlashes | inId
    · rw [marked c inMarks]
      decide
    · rw [slashed c inSlashes]
      decide
    · exact (segmented.inked c inId).1
  have marksEnd : ∀ c ∈ (slashes ++ id.toList).head?, (c == '?') = false := by
    intro c head
    rw [beq_eq_false_iff_ne]
    rcases List.mem_append.1 (List.mem_of_mem_head? head) with inSlashes | inId
    · rw [slashed c inSlashes]
      decide
    · exact (segmented.inked c inId).2
  have slashesEnd : ∀ c ∈ id.toList.head?, (c == separator) = false := by
    intro c head
    obtain rfl : first = c := by simpa [chars] using head
    exact beq_eq_false_iff_ne.2 apart
  have regrouped : marks ++ (slashes ++ (id.toList ++ gap')) =
      marks ++ (slashes ++ id.toList) ++ gap' := by simp
  rw [canonical, canonicalChars_eq, unmarked, parted, regrouped,
    trim_between blank blank' (by simp [chars]) inked,
    dropWhile_append_of_right (by simpa using marked) marksEnd,
    dropWhile_append_of_right (by simpa using slashed) slashesEnd, String.ofList_toList]

/-- An identifier is the canonical form of the texts that write it, and of no others. -/
theorem canonical_eq_iff_writes (segmented : Segmented id) :
    canonical written = id ↔ Writes written id := by
  constructor
  · rintro rfl
    exact writes_canonical written
  · intro writes
    exact writes.canonical_eq segmented

/-! ### Identifiers that are cut and joined -/

/-- What stands in a namespace, or the namespace itself if nothing is given. -/
def within (qualifier rest : String) : ClassId :=
  if rest = "" then qualifier else qualify qualifier rest

/-- It is made of segments if both of its parts are, as far as there are two. -/
theorem segmented_within_iff :
    Segmented (within qualifier rest) ↔ Segmented qualifier ∧ (rest = "" ∨ Segmented rest) := by
  unfold within
  split
  · next none => simp [none]
  · next some => simp [segmented_qualify_iff, some]

/-- A name behind a segment is what the segment is cut off. -/
theorem splitFirst_within (segment : IsSegment head.toList) :
    splitFirst (within head rest) = (head, rest) := by
  have accepted : ∀ c ∈ head.toList, (c != separator) = true := by
    intro c member
    rw [bne_iff_ne]
    exact (segment.2 c member).2.2
  unfold within splitFirst
  dsimp only
  split
  · next none =>
    rw [List.takeWhile_eq_self_iff.2 accepted, List.dropWhile_eq_nil_iff.2 accepted, none]
    simp
  · have right : ∀ c ∈ (separator :: rest.toList).head?, (c != separator) = false := by simp
    rw [toList_qualify, takeWhile_append_of_right accepted right,
      dropWhile_append_of_right accepted right]
    simp

end ClassId

namespace Scope

open ClassId

variable {index : ApiIndex} {scope : Scope} {id : ClassId} {found : ApiClass}
  {short target space name rest written : String}

/-- What the imports make of a name that starts with an alias. -/
theorem imported?_within (segment : IsSegment short.toList)
    (imports : scope.imports.get? short = some target) :
    scope.imported? (within short rest) = some (within target rest) := by
  rw [imported?, splitFirst_within segment]
  dsimp only
  rw [imports]
  rfl

/-- What a name is in the namespace. -/
theorem local?_of_space (spaced : scope.space = some space) (segmented : Segmented space) :
    scope.local? name = some (qualify space name) := by
  have some : space ≠ "" := by
    rintro rfl
    revert segmented
    decide
  rw [local?, spaced]
  dsimp only
  rw [if_neg some]

/-- A name is looked up as it is, as what the imports make of it and in the namespace. -/
theorem find?_of_writes (writes : Writes written name) (segmented : Segmented name) :
    scope.find? index written =
      (name :: ((scope.imported? name).toList ++ (scope.local? name).toList)).findSome?
        index.get? := by
  rw [find?, candidates, writes.canonical_eq segmented]

/-- The ways to write a class of the index that lead to it. -/
structure FoundUnder (index : ApiIndex) (id : ClassId) (found : ApiClass) : Prop where
  /-- Under its identifier, with blanks, question marks and backslashes around it. -/
  itself : ∀ (scope : Scope) (written : String), Writes written id →
    scope.find? index written = some found
  /-- Under an alias of a beginning of its identifier, with the rest of it if there is one, unless
  the index holds a class of this name. -/
  imported : ∀ (scope : Scope) (short target rest written : String), IsSegment short.toList →
    scope.imports.get? short = some target → id = within target rest →
    Writes written (within short rest) → index.get? (within short rest) = none →
      scope.find? index written = some found
  /-- Under its name in the namespace, unless the index holds a class of this name, or another one
  of the name that the imports make of it. -/
  spaced : ∀ (scope : Scope) (space name written : String), scope.space = some space →
    id = qualify space name → Writes written name → index.get? name = none →
    (∀ other, scope.imported? name = some other → other ≠ id → index.get? other = none) →
      scope.find? index written = some found

/-- A class is found under its identifier. -/
theorem find?_itself (segmented : Segmented id) (held : index.get? id = some found)
    (writes : Writes written id) : scope.find? index written = some found := by
  rw [find?_of_writes writes segmented, List.findSome?_cons, held]

/-- A class is found under what the imports make into its identifier. -/
theorem find?_imported (segmented : Segmented (within target rest))
    (held : index.get? (within target rest) = some found) (segment : IsSegment short.toList)
    (imports : scope.imports.get? short = some target) (writes : Writes written (within short rest))
    (free : index.get? (within short rest) = none) : scope.find? index written = some found := by
  have segmented' : Segmented (within short rest) :=
    segmented_within_iff.2 ⟨segment.segmented, (segmented_within_iff.1 segmented).2⟩
  rw [find?_of_writes writes segmented', List.findSome?_cons, free,
    imported?_within segment imports, Option.toList_some, List.singleton_append,
    List.findSome?_cons, held]

/-- A class is found under its name in the namespace. -/
theorem find?_spaced (segmented : Segmented (qualify space name))
    (held : index.get? (qualify space name) = some found) (spaced : scope.space = some space)
    (writes : Writes written name) (free : index.get? name = none)
    (others : ∀ other, scope.imported? name = some other → other ≠ qualify space name →
      index.get? other = none) : scope.find? index written = some found := by
  obtain ⟨segmentedSpace, segmentedName⟩ := segmented_qualify_iff.1 segmented
  rw [find?_of_writes writes segmentedName, local?_of_space spaced segmentedSpace, ← held]
  apply findSome?_eq_of_only
  · simp
  · intro other member apart
    rcases List.mem_cons.1 member with rfl | later
    · exact free
    · rcases List.mem_append.1 later with imported | last
      · exact others other (Option.mem_toList.1 imported) apart
      · exact absurd (by simpa using last) apart

/-- A class of the index is found under all of its spellings. Whatever is looked up, what is found
stands under the first of the names that the index holds: the canonical form, what the imports make
of it, and what it is in the namespace. -/
theorem found_under (index : ApiIndex) :
    (∀ (id : ClassId) (found : ApiClass), Segmented id → index.get? id = some found →
      FoundUnder index id found ∧ ∀ written, canonical written = id ↔ Writes written id) ∧
      ∀ (scope : Scope) (written : String),
        scope.candidates written = canonical written ::
          ((scope.imported? (canonical written)).toList ++
            (scope.local? (canonical written)).toList) ∧
        ∀ other, scope.find? index written = some other ↔
          ∃ before name after, scope.candidates written = before ++ name :: after ∧
            (∀ earlier ∈ before, index.get? earlier = none) ∧ index.get? name = some other := by
  refine ⟨fun id found segmented held => ⟨⟨?_, ?_, ?_⟩, ?_⟩,
    fun scope written => ⟨rfl, fun other => find?_eq_some_iff⟩⟩
  · intro scope written writes
    exact find?_itself segmented held writes
  · rintro scope short target rest written segment imports rfl writes free
    exact find?_imported segmented held segment imports writes free
  · rintro scope space name written spaced rfl writes free others
    exact find?_spaced segmented held spaced writes free others
  · intro written
    exact canonical_eq_iff_writes segmented

/-- A scope with an alias for a class, one for its namespace, and the namespace itself. -/
def payScope : Scope where
  imports := .ofList [("C", "Pay\\Client"), ("P", "Pay")]
  space := some "Pay"

/-- The class is found under each of them, and under a decorated identifier. -/
theorem found_under_pay : ∃ found, Observer.payIndex.get? "Pay\\Client" = some found ∧
    payScope.find? Observer.payIndex " ?\\Pay\\Client" = some found ∧
    payScope.find? Observer.payIndex "C" = some found ∧
    payScope.find? Observer.payIndex "P\\Client" = some found ∧
    payScope.find? Observer.payIndex "Client" = some found := by
  have held : ∃ found, Observer.payIndex.get? "Pay\\Client" = some found := ⟨_, rfl⟩
  obtain ⟨found, held⟩ := held
  obtain ⟨⟨itself, imported, spaced⟩, -⟩ :=
    (found_under Observer.payIndex).1 _ found (by decide +kernel) held
  have decorated : Writes " ?\\Pay\\Client" "Pay\\Client" :=
    ⟨[' '], ['?'], ['\\'], [], by decide, by decide, by decide, by decide, by decide +kernel⟩
  refine ⟨found, held, itself _ _ decorated, ?_, ?_, ?_⟩
  · exact imported payScope "C" "Pay\\Client" "" "C" (by decide) rfl rfl (.self _) rfl
  · exact imported payScope "P" "Pay" "Client" "P\\Client" (by decide) rfl (by decide +kernel)
      (.self _) rfl
  · have none : payScope.imported? "Client" = none := by decide +kernel
    apply spaced payScope "Pay" "Client" "Client" rfl (by decide +kernel) (.self _) rfl
    simp [none]

end Scope

end EventAtlas
