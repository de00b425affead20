import EventAtlas.Proofs.Source.Parameter

/-!
# Types that are read whole

A type is read from a capital on, wherever that stands in a name. What stands in front of it tells
whether the whole name was read: nothing but a backslash may belong to the name. That is so exactly
if the name as written is a class type that starts with a capital of ASCII; of any other name only
an end is read.
-/

namespace EventAtlas

open Text

namespace Source

variable {parameters rest : List Char} {c : Char}

/-! ### Characters of names -/

/-- A letter, number or underscore of any script may stand in a name. -/
theorem isNameChar_of_isWord (word : isWord c = true) : isNameChar c = true := by
  rw [isNameChar, Bool.or_eq_true, decide_eq_true_eq]
  rcases Nat.lt_or_ge c.toNat 0x80 with ascii | wide
  · rw [isWord_eq_isAsciiWord ascii, isAsciiWord] at word
    rw [isTypeChar, word, Bool.true_or]
    exact .inl rfl
  · exact .inr wide

/-- A variable is made of characters of names. -/
theorem IsVariable.isNameChar {name : List Char} (named : IsVariable name) :
    ∀ c ∈ name, isNameChar c = true := by
  intro c member
  rw [Source.isNameChar, isTypeChar_of_isVariableChar (named.2 c member), Bool.true_or]

/-! ### Types at their places -/

/-- The name as it is written. -/
def WrittenType.written (type : WrittenType) : List Char :=
  type.lead ++ type.name.toList

instance : DecidablePred WrittenType.Whole :=
  fun _ => inferInstanceAs (Decidable (_ ∨ _))

/-- A class type as it may be written: with or without a backslash in front. -/
def IsWrittenType (written : List Char) : Prop :=
  ∃ root name, (root = [] ∨ root = ['\\']) ∧ IsTypeName name ∧ written = root ++ name

/-- A class type that is read, with the parameters up to it. -/
structure PlacedType where
  before : List Char
  name : String
deriving DecidableEq

namespace PlacedType

/-- What stands in front of the written name. -/
def outside (place : PlacedType) : List Char :=
  place.before.rdropWhile isNameChar

/-- The type as it is written there. -/
def type (place : PlacedType) : WrittenType where
  lead := place.before.rtakeWhile isNameChar
  name := place.name

/-- What stands in front of the written name, and what is left out of it when it is read. -/
theorem outside_append_lead (place : PlacedType) :
    place.outside ++ place.type.lead = place.before :=
  List.rdropWhile_append_rtakeWhile ..

/-- No name goes on in front of the written name. -/
theorem isNameChar_of_mem_getLast?_outside {place : PlacedType} :
    ∀ c ∈ place.outside.getLast?, isNameChar c = false := by
  intro c last
  obtain ⟨some, rfl⟩ := List.mem_getLast?_eq_getLast last
  exact Bool.eq_false_iff.2 (List.rdropWhile_last_not isNameChar _ some)

/-- In front of what is read whole there is no letter, number or underscore. -/
theorem apart_of_whole {place : PlacedType} (whole : place.type.Whole) :
    ∀ c ∈ place.before.getLast?, isWord c = false := by
  intro c last
  rw [Bool.eq_false_iff]
  intro word
  have parted := place.outside_append_lead
  rcases whole with none | slash
  · rw [none, List.append_nil] at parted
    rw [← parted] at last
    have other := isNameChar_of_mem_getLast?_outside c last
    rw [isNameChar_of_isWord word] at other
    cases other
  · rw [← parted, slash, List.getLast?_append] at last
    obtain rfl : '\\' = c := by simpa using last
    exact absurd word (by decide)

end PlacedType

/-- The class types that are read of a parameter list, in order, each at its place. -/
def typePlaces (parameters : List Char) : List PlacedType :=
  (findAll (noting readParameter) parameters).map fun found =>
    { before := parameters.take (parameters.length - found.1.length)
      name := String.ofList found.2 }

/-- They are the declared types. -/
theorem map_name_typePlaces (parameters : List Char) :
    (typePlaces parameters).map (·.name) = parameterTypes parameters := by
  rw [parameterTypes, ← map_snd_findAll_noting, typePlaces, List.map_map, List.map_map]
  rfl

/-- A type takes something off its text. -/
theorem takes_readParameter : Takes readParameter := by
  intro text type rest read
  obtain ⟨gap, name, -, -, -, -, -, rfl⟩ := readParameter_eq_some_iff.1 read
  exact ⟨type ++ (gap ++ '$' :: name), by simp, by simp⟩

/-- A type is read at a capital. -/
theorem exists_cons_of_readParameter {text type : List Char}
    (read : readParameter text = some (type, rest)) :
    ∃ first behind, text = first :: behind ∧ first.isUpper = true := by
  obtain ⟨gap, name, typed, -, -, -, -, rfl⟩ := readParameter_eq_some_iff.1 read
  cases type with
  | nil => exact typed.elim
  | cons first others => exact ⟨first, _, rfl, typed.1⟩

/-- What stands behind the place of a type, and how the search came to it. -/
theorem exists_foundAt_of_mem_typePlaces {place : PlacedType}
    (member : place ∈ typePlaces parameters) :
    ∃ rest, parameters = place.before ++ rest ∧
      FoundAt readParameter parameters rest place.name.toList := by
  obtain ⟨⟨rest, type⟩, noted, rfl⟩ := List.mem_map.1 member
  have found := foundAt_of_mem_findAll_noting takes_readParameter noted
  obtain ⟨passed, tried, left, parted, -⟩ := id found
  refine ⟨rest, ?_, by rwa [String.toList_ofList]⟩
  have whole : parameters = (passed ++ tried) ++ rest := by rw [parted, List.append_assoc]
  dsimp only
  rw [whole, List.length_append, Nat.add_sub_cancel, List.take_left]

/-! ### Where a name is left in the middle -/

/-- In front of the name at the end of a reading there is a dollar sign. -/
theorem exists_dollar_of_endsReading {passed : List Char}
    (ends : EndsReading readParameter passed rest) :
    ∃ front, passed.rdropWhile isNameChar = front ++ ['$'] := by
  obtain ⟨earlier, taken, type, rfl, read⟩ := ends
  obtain ⟨gap, name, -, -, -, named, -, parted⟩ := readParameter_eq_some_iff.1 read
  have same : taken ++ rest = type ++ gap ++ ['$'] ++ name ++ rest := by
    rw [parted]
    simp
  refine ⟨earlier ++ (type ++ gap), ?_⟩
  rw [List.append_cancel_right same, ← List.append_assoc, ← List.append_assoc,
    rdropWhile_append_of_accepted named.isNameChar, List.rdropWhile_concat_neg _ _ _ (by decide)]

/-- Nothing is read in front of the place of a type in its name, unless the name is the one of a
variable: there the search may have gone on behind an earlier reading. -/
theorem unread_lead {place : PlacedType} (member : place ∈ typePlaces parameters)
    (apart : place.outside.getLast? ≠ some '$') (parted : parameters = place.before ++ rest) :
    Unread readParameter place.type.lead rest := by
  obtain ⟨place', parted', passed, tried, left, split, -, unread, start⟩ :=
    exists_foundAt_of_mem_typePlaces member
  obtain rfl : place' = rest := List.append_cancel_left (parted'.symm.trans parted)
  intro front inner leadSplit some
  have places : place.outside ++ front ++ inner = passed ++ tried := by
    rw [List.append_assoc, ← leadSplit, place.outside_append_lead]
    exact List.append_cancel_right (parted.symm.trans (split.trans (List.append_assoc ..).symm))
  rcases List.append_eq_append_iff.1 places with ⟨early, behind, within⟩ | ⟨early, -, within⟩
  · rcases start with none | ends
    · rw [none] at behind
      obtain rfl := (List.append_eq_nil_iff.1 behind.symm).2
      exact @unread [] _ within.symm some
    · -- The earlier reading would end in the same name, so this would be the name of its variable.
      have named : ∀ c ∈ front ++ early, isNameChar c = true := by
        intro c among
        have inLead : c ∈ place.type.lead := by
          rw [leadSplit, within, ← List.append_assoc]
          exact List.mem_append_left tried among
        exact List.mem_rtakeWhile_imp inLead
      obtain ⟨other, dollar⟩ := exists_dollar_of_endsReading ends
      rw [behind, List.append_assoc, rdropWhile_append_of_accepted named, PlacedType.outside,
        List.rdropWhile_idempotent] at dollar
      exact absurd (by rw [PlacedType.outside, dollar, List.getLast?_concat]) apart
  · exact unread within some

/-- What is read whole is a class type as it may be written. -/
theorem isWrittenType_of_whole {type : WrittenType} (whole : type.Whole)
    (typed : IsTypeName type.name.toList) : IsWrittenType type.written :=
  ⟨type.lead, type.name.toList, whole, typed, rfl⟩

/-- A class type as it may be written is read whole, unless it is the name of a variable. -/
theorem whole_of_isWrittenType {place : PlacedType} (member : place ∈ typePlaces parameters)
    (apart : place.outside.getLast? ≠ some '$') (allowed : IsWrittenType place.type.written) :
    place.type.Whole := by
  obtain ⟨root, type, rooted, typed, same⟩ := allowed
  rcases List.append_eq_append_iff.1 same with ⟨more, leadRoot, -⟩ | ⟨inner, leadRoot, split⟩
  · -- What is left out is a part of the backslash.
    rcases rooted with none | slash
    · exact .inl (List.append_eq_nil_iff.1 (leadRoot.symm.trans none)).1
    · exact (List.append_eq_singleton_iff.1 (leadRoot.symm.trans slash)).imp And.left And.left
  rcases eq_or_ne inner [] with rfl | some
  · rw [WrittenType.Whole, leadRoot, List.append_nil]
    exact rooted
  -- Otherwise the type could be read from its own capital on.
  obtain ⟨rest, parted, _, _, left, -, read, -⟩ := exists_foundAt_of_mem_typePlaces member
  obtain ⟨gap, name, -, spaced, blank, named, stops, rfl⟩ := readParameter_eq_some_iff.1 read
  have earlier := readParameter_eq_some_iff.2
    ⟨gap, name, typed, spaced, blank, named, stops, (rfl : type ++ _ = _)⟩
  rw [split, List.append_assoc] at earlier
  cases (unread_lead member apart parted leadRoot some).symm.trans earlier

/-! ### Where a name is read whole -/

/-- In front of a type character that is read there is a character of a name or a dollar sign. -/
theorem isNameChar_of_adjacent {type gap name front back : List Char} {d e : Char}
    (typed : IsTypeName type) (blank : Text.Gap gap) (named : IsVariable name)
    (split : type ++ (gap ++ '$' :: name) = front ++ d :: e :: back)
    (accepted : isTypeChar e = true) : isNameChar d = true ∨ d = '$' := by
  by_contra! other
  obtain ⟨unnamed, unmarked⟩ := other
  have noType : d ∉ type := fun member => by
    rw [isNameChar, typed.accepted d member, Bool.true_or] at unnamed
    exact unnamed rfl
  have noName : d ∉ name := fun member => unnamed (named.isNameChar d member)
  obtain ⟨between, -, behind⟩ := exists_of_head_not_mem split rfl noType
  rcases exists_of_append_cons behind with ⟨early, inName⟩ | ⟨early, inGap, adjacent⟩
  · exact noName (by simp [inName])
  -- The first of the two is in the gap, so the second one is blank or the dollar sign.
  cases early with
  | nil => exact unmarked (List.cons.inj adjacent).1
  | cons _ early =>
    have next := (List.cons.inj adjacent).2
    cases early with
    | nil =>
      obtain rfl : e = '$' := (List.cons.inj next).1
      exact absurd accepted (by decide)
    | cons _ early =>
      obtain rfl := (List.cons.inj next).1
      have member : e ∈ gap := by simp [inGap]
      rw [isTypeChar_of_isBlank (blank e member)] at accepted
      cases accepted

/-- A reading that starts in front of a type character ends in front of it, where that comes behind
neither a name nor a dollar sign. -/
theorem length_le_of_readParameter {front behind type left : List Char} {e : Char}
    (ended : ∀ d ∈ front.getLast?, isNameChar d = false ∧ d ≠ '$') (nonempty : front ≠ [])
    (accepted : isTypeChar e = true)
    (read : readParameter (front ++ e :: behind) = some (type, left)) :
    (e :: behind).length ≤ left.length := by
  obtain ⟨gap, name, typed, -, blank, named, -, parted⟩ := readParameter_eq_some_iff.1 read
  by_contra! short
  have regrouped : front ++ e :: behind = type ++ (gap ++ '$' :: name) ++ left := by
    rw [parted]
    simp
  rcases List.append_eq_append_iff.1 regrouped with ⟨taken, split, rest⟩ | ⟨passed, -, rest⟩
  · cases taken with
    | nil =>
      rw [← List.nil_append left, ← rest] at short
      exact lt_irrefl _ short
    | cons d taken =>
      obtain rfl : e = d := (List.cons.inj rest).1
      obtain ⟨init, d, rfl⟩ := (List.eq_nil_or_concat' front).resolve_left nonempty
      have last : d ∈ (init ++ [d]).getLast? := by simp
      obtain ⟨unnamed, unmarked⟩ := ended d last
      rw [List.append_assoc, List.singleton_append] at split
      rcases isNameChar_of_adjacent typed blank named split accepted with inName | marked
      · rw [unnamed] at inName
        cases inName
      · exact unmarked marked
  · rw [rest, List.length_append] at short
    omega

/-- A reading that starts in front of a type ends in front of it, if the type is read whole. -/
theorem length_le_of_whole {place : PlacedType} {front inside type left left' : List Char}
    (whole : place.type.Whole) (apart : place.outside.getLast? ≠ some '$')
    (read : readParameter rest = some (place.name.toList, left))
    (split : place.before = front ++ inside) (nonempty : inside ≠ [])
    (earlier : readParameter (inside ++ rest) = some (type, left')) :
    rest.length ≤ left'.length := by
  obtain ⟨first, behind, rfl, upper⟩ := exists_cons_of_readParameter read
  -- The earlier reading does not start at the backslash, but in front of the written name.
  obtain ⟨others, ends, rfl⟩ : ∃ others, others <:+ place.outside ∧
      inside = others ++ place.type.lead := by
    rw [← place.outside_append_lead] at split
    rcases List.append_eq_append_iff.1 split with ⟨more, -, short⟩ | ⟨others, longer, rfl⟩
    · refine ⟨[], List.nil_suffix, ?_⟩
      rcases whole with none | slash
      · exact absurd (List.append_eq_nil_iff.1 (short.symm.trans none)).2 nonempty
      · rcases List.append_eq_singleton_iff.1 (short.symm.trans slash) with ⟨-, all⟩ | ⟨-, none⟩
        · rw [all, slash, List.nil_append]
        · exact absurd none nonempty
    · exact ⟨others, ⟨front, longer.symm⟩, rfl⟩
  have some : others ≠ [] := by
    rintro rfl
    rcases whole with none | slash
    · exact nonempty none
    · rw [slash] at earlier
      obtain ⟨c, _, begins, capital⟩ := exists_cons_of_readParameter earlier
      obtain rfl : '\\' = c := (List.cons.inj begins).1
      exact absurd capital (by decide)
  have ended : ∀ d ∈ others.getLast?, isNameChar d = false ∧ d ≠ '$' := by
    intro d last
    have same : d ∈ place.outside.getLast? := by
      obtain ⟨front, longer⟩ := ends
      rwa [← longer, List.getLast?_append_of_ne_nil _ some]
    refine ⟨PlacedType.isNameChar_of_mem_getLast?_outside d same, ?_⟩
    rintro rfl
    exact apart same
  rw [List.append_assoc] at earlier
  rcases whole with none | slash
  · rw [none] at earlier
    exact length_le_of_readParameter ended some (isTypeChar_of_isUpper upper) earlier
  · rw [slash] at earlier
    have reach := length_le_of_readParameter ended some (by decide) earlier
    exact (Nat.le_succ _).trans reach

/-- A type that is read whole is found. -/
theorem mem_typePlaces_of_whole {place : PlacedType} {left : List Char}
    (whole : place.type.Whole) (apart : place.outside.getLast? ≠ some '$')
    (read : readParameter rest = some (place.name.toList, left)) :
    place ∈ typePlaces (place.before ++ rest) := by
  have noted : (rest, place.name.toList) ∈
      findAll (noting readParameter) (place.before ++ rest) := by
    apply mem_findAll_noting takes_readParameter read
    intro front inside other left' split nonempty earlier
    exact length_le_of_whole whole apart read split nonempty earlier
  refine List.mem_map.2 ⟨_, noted, ?_⟩
  dsimp only
  rw [List.length_append, Nat.add_sub_cancel, List.take_left, String.ofList_toList]

end Source

namespace Observer

open Source

/-- The class types that a source declares, in order, each at its place in the parameters. -/
def placedTypes (source : String) : List PlacedType :=
  match constructorParameters? source with
  | some parameters => typePlaces parameters
  | none => []

/-- They are read of the parameters of the constructor. -/
theorem exists_of_mem_placedTypes {source : String} {place : PlacedType}
    (member : place ∈ placedTypes source) :
    ∃ parameters, constructorParameters? source = some parameters ∧
      place ∈ typePlaces parameters := by
  unfold placedTypes at member
  cases found : constructorParameters? source with
  | none => simp [found] at member
  | some parameters =>
    rw [found] at member
    exact ⟨parameters, rfl, member⟩

/-- A type stands at a place of the parameters: behind it come blanks and a variable. -/
def StandsIn (source : String) (place : PlacedType) : Prop :=
  ∃ parameters gap name after, constructorParameters? source = some parameters ∧
    parameters = place.before ++ (place.name.toList ++ (gap ++ '$' :: (name ++ after))) ∧
    IsTypeName place.name.toList ∧ gap ≠ [] ∧ Text.Gap gap ∧ IsVariable name ∧
    ∀ c ∈ after.head?, isVariableChar c = false

/-- The types at their places are the declared types. -/
theorem map_name_placedTypes (source : String) :
    (placedTypes source).map (·.name) = declaredTypes source := by
  unfold placedTypes declaredTypes
  cases constructorParameters? source with
  | none => rfl
  | some parameters => exact map_name_typePlaces parameters

/-- A type that is read stands at its place. -/
theorem standsIn_of_mem_placedTypes {source : String} {place : PlacedType}
    (member : place ∈ placedTypes source) : StandsIn source place := by
  obtain ⟨parameters, found, listed⟩ := exists_of_mem_placedTypes member
  obtain ⟨rest, parted, _, _, left, -, read, -⟩ := exists_foundAt_of_mem_typePlaces listed
  obtain ⟨gap, name, typed, spaced, blank, named, stops, rfl⟩ := readParameter_eq_some_iff.1 read
  exact ⟨parameters, gap, name, left, found, parted, typed, spaced, blank, named, stops⟩

/-- A type that stands at a place where it would be read whole is read there. -/
theorem mem_placedTypes_of_standsIn {source : String} {place : PlacedType}
    (whole : place.type.Whole) (apart : place.outside.getLast? ≠ some '$')
    (stands : StandsIn source place) : place ∈ placedTypes source := by
  obtain ⟨parameters, gap, name, after, found, parted, typed, spaced, blank, named, stops⟩ := stands
  have read := readParameter_eq_some_iff.2 ⟨gap, name, typed, spaced, blank, named, stops, rfl⟩
  rw [placedTypes, found, parted]
  exact mem_typePlaces_of_whole whole apart read

/-- The services that a source adds are types that stand in front of variables. One is read whole,
and so from a place with no letter, number or underscore in front, exactly if the name as written
is a class type that starts with a capital of ASCII, with or without a backslash; and all that could
be read whole are read. This leaves out names that are the name of a variable themselves. -/
theorem recorded_whole_iff (index : ApiIndex) (observer : Observer) (source : String) :
    (collect index observer source).services =
        observer.services ++ (placedTypes source).map (·.name) ∧
      (∀ place ∈ placedTypes source, StandsIn source place ∧
        (place.type.Whole → ∀ c ∈ place.before.getLast?, isWord c = false) ∧
        (place.outside.getLast? ≠ some '$' →
          (place.type.Whole ↔ IsWrittenType place.type.written))) ∧
      ∀ place : PlacedType, place.type.Whole → place.outside.getLast? ≠ some '$' →
        (place ∈ placedTypes source ↔ StandsIn source place) := by
  refine ⟨by rw [collect_services, map_name_placedTypes], fun place member => ?_,
    fun place whole apart => ?_⟩
  · have stands := standsIn_of_mem_placedTypes member
    refine ⟨stands, PlacedType.apart_of_whole, fun apart => ⟨fun whole => ?_, fun allowed => ?_⟩⟩
    · obtain ⟨_, _, _, _, -, -, typed, -⟩ := stands
      exact isWrittenType_of_whole whole typed
    · obtain ⟨_, -, listed⟩ := exists_of_mem_placedTypes member
      exact whole_of_isWrittenType listed apart allowed
  · exact ⟨standsIn_of_mem_placedTypes, mem_placedTypes_of_standsIn whole apart⟩

/-- A source that declares a class type with a backslash in front and one that starts with a small
letter. -/
def fragmentText : String :=
  "function __construct(\\Pay\\Client $a, myClient $b) \x7b\x7d"

/-- The place of its first type. -/
def rootedPlace : PlacedType where
  before := "\\".toList
  name := "Pay\\Client"

/-- The place of its second type, of which an end is read. -/
def brokenPlace : PlacedType where
  before := "\\Pay\\Client $a, my".toList
  name := "Client"

/-- The types that are read of it. -/
theorem placedTypes_fragmentText : placedTypes fragmentText = [rootedPlace, brokenPlace] := by
  decide +kernel

/-- The first type stands there and is a class type as it may be written, the second one is none. -/
theorem recorded_whole_iff_fragment :
    rootedPlace ∈ placedTypes fragmentText ∧ brokenPlace ∈ placedTypes fragmentText ∧
      rootedPlace.type.Whole ∧ rootedPlace.outside.getLast? ≠ some '$' ∧
      brokenPlace.outside.getLast? ≠ some '$' ∧ StandsIn fragmentText rootedPlace ∧
      IsWrittenType rootedPlace.type.written ∧ ¬ IsWrittenType brokenPlace.type.written := by
  obtain ⟨-, told, found_iff⟩ := recorded_whole_iff .empty (.new "Asks") fragmentText
  have rooted : rootedPlace ∈ placedTypes fragmentText := by simp [placedTypes_fragmentText]
  have broken : brokenPlace ∈ placedTypes fragmentText := by simp [placedTypes_fragmentText]
  have apart : rootedPlace.outside.getLast? ≠ some '$' := by decide +kernel
  have apart' : brokenPlace.outside.getLast? ≠ some '$' := by decide +kernel
  have whole : rootedPlace.type.Whole := by decide +kernel
  have part : ¬ brokenPlace.type.Whole := by decide +kernel
  exact ⟨rooted, broken, whole, apart, apart', (found_iff _ whole apart).1 rooted,
    ((told _ rooted).2.2 apart).1 whole,
    fun allowed => part (((told _ broken).2.2 apart').2 allowed)⟩

/-- So a service can be an end of a name with a letter in front of it. -/
theorem fragment_recorded :
    ¬ ∀ source, ∀ place ∈ placedTypes source, ∀ c ∈ place.before.getLast?, isWord c = false := by
  intro all
  have broken : brokenPlace ∈ placedTypes fragmentText := by simp [placedTypes_fragmentText]
  exact absurd (all fragmentText _ broken 'y' (by decide +kernel)) (by decide +kernel)

end Observer

end EventAtlas
