import EventAtlas.Proofs.Observer
import EventAtlas.Proofs.Source.Constructor
import EventAtlas.Proofs.Text.Keyword
import EventAtlas.Proofs.Text.Place
import EventAtlas.Proofs.Text.Search

/-!
# Parameter lists as they are written

`WritesParameter` says how a parameter may be written and which class type it declares: modifiers, a
type, a variable and a default value. A type is read where a capital starts a run of type characters
in front of blanks and a dollar sign, so no reading starts in front of the type, and what stands
behind a variable is cut off from the next dollar sign by a comma. So the types that are found in a
list of parameters are the class types that its parameters declare.
-/

namespace EventAtlas

open Text

namespace Text

variable {text rest : List Char}

/-- Blanks are passed exactly if the text starts with some; nothing blank comes after them. -/
theorem afterBlanks?_eq_some_iff : afterBlanks? text = some rest ↔
    ∃ gap, gap ≠ [] ∧ Text.Gap gap ∧ text = gap ++ rest ∧ ∀ c ∈ rest.head?, isBlank c = false := by
  rw [afterBlanks?, Option.map_eq_some_iff]
  constructor
  · rintro ⟨⟨gap, left⟩, read, rfl⟩
    obtain ⟨some, parted, blank, stops⟩ := run?_eq_some_iff_append.1 read
    exact ⟨gap, some, blank, parted, stops⟩
  · rintro ⟨gap, some, blank, parted, stops⟩
    exact ⟨(gap, rest), run?_eq_some_iff_append.2 ⟨some, parted, blank, stops⟩, rfl⟩

end Text

namespace Source

variable {text type rest lead : List Char} {c : Char}

/-! ### What is read of a parameter -/

/-- A class type without a backslash in front: a capital and at least one more type character. -/
def IsTypeName : List Char → Prop
  | [] => False
  | first :: others => first.isUpper = true ∧ others ≠ [] ∧ ∀ c ∈ others, isTypeChar c = true

instance : DecidablePred IsTypeName
  | [] => .isFalse id
  | first :: others => inferInstanceAs
      (Decidable (first.isUpper = true ∧ others ≠ [] ∧ ∀ c ∈ others, isTypeChar c = true))

/-- The name of a variable. -/
def IsVariable (name : List Char) : Prop :=
  name ≠ [] ∧ ∀ c ∈ name, isVariableChar c = true

instance : DecidablePred IsVariable :=
  fun name => inferInstanceAs (Decidable (name ≠ [] ∧ ∀ c ∈ name, _))

/-- A class type has type characters only. -/
theorem IsTypeName.accepted (named : IsTypeName type) : ∀ c ∈ type, isTypeChar c = true := by
  cases type with
  | nil => exact named.elim
  | cons first others =>
    obtain ⟨upper, -, accepted⟩ := named
    exact List.forall_mem_cons.2 ⟨isTypeChar_of_isUpper upper, accepted⟩

/-- No blank is a type character. -/
theorem isTypeChar_of_isBlank (blank : isBlank c = true) : isTypeChar c = false := by
  rw [Bool.eq_false_iff]
  intro accepted
  rw [isBlank_of_isTypeChar accepted] at blank
  cases blank

/-- A type is read exactly if a class type, blanks and a variable stand there. -/
theorem readParameter_eq_some_iff : readParameter text = some (type, rest) ↔
    ∃ gap name, IsTypeName type ∧ gap ≠ [] ∧ Text.Gap gap ∧ IsVariable name ∧
      (∀ c ∈ rest.head?, isVariableChar c = false) ∧
      text = type ++ (gap ++ '$' :: (name ++ rest)) := by
  simp only [readParameter, Option.bind_eq_bind, Option.bind_eq_some_iff, after?_eq_some_iff,
    afterBlanks?_eq_some_iff, beq_iff_eq]
  constructor
  · rintro ⟨_, ⟨first, upper, rfl⟩, ⟨others, _⟩, typed, _, ⟨gap, some, blank, rfl, -⟩, _,
      ⟨_, rfl, rfl⟩, ⟨name, left⟩, named, same⟩
    obtain ⟨someType, rfl, accepted, -⟩ := run?_eq_some_iff_append.1 typed
    obtain ⟨someName, rfl, acceptedName, stops⟩ := run?_eq_some_iff_append.1 named
    obtain ⟨rfl, rfl⟩ := Prod.mk.inj (Option.some.inj same)
    have taken : (first :: (others ++ (gap ++ '$' :: (name ++ left)))).take
        ((first :: (others ++ (gap ++ '$' :: (name ++ left)))).length -
          (gap ++ '$' :: (name ++ left)).length) = first :: others := by
      rw [← List.cons_append, List.length_append, Nat.add_sub_cancel, List.take_left]
    rw [taken]
    exact ⟨gap, name, ⟨upper, someType, accepted⟩, some, blank, ⟨someName, acceptedName⟩, stops,
      by simp⟩
  · rintro ⟨gap, name, typed, some, blank, ⟨someName, acceptedName⟩, stops, rfl⟩
    cases type with
    | nil => exact typed.elim
    | cons first others =>
      obtain ⟨upper, someType, accepted⟩ := typed
      have stopsType : ∀ c ∈ (gap ++ '$' :: (name ++ rest)).head?, isTypeChar c = false := by
        obtain ⟨d, gap, rfl⟩ := List.exists_cons_of_ne_nil some
        intro c head
        obtain rfl : d = c := by simpa using head
        exact isTypeChar_of_isBlank (blank d (List.mem_cons_self ..))
      refine ⟨others ++ (gap ++ '$' :: (name ++ rest)), ⟨first, upper, rfl⟩,
        (others, gap ++ '$' :: (name ++ rest)),
        run?_eq_some_iff_append.2 ⟨someType, rfl, accepted, stopsType⟩,
        '$' :: (name ++ rest), ⟨gap, some, blank, rfl, by simp +decide⟩, name ++ rest,
        ⟨'$', rfl, rfl⟩, (name, rest),
        run?_eq_some_iff_append.2 ⟨someName, rfl, acceptedName, stops⟩, ?_⟩
      rw [List.length_append, Nat.add_sub_cancel, List.take_left]

/-! ### Where nothing is read -/

/-- No type is read in front of a capital. -/
theorem unread_of_small (small : ∀ c ∈ lead, c.isUpper = false) :
    Unread readParameter lead rest := by
  intro front inside split some
  rw [Option.eq_none_iff_forall_ne_some]
  rintro ⟨type, left⟩ read
  obtain ⟨_, _, named, -, -, -, -, parted⟩ := readParameter_eq_some_iff.1 read
  obtain ⟨c, inside, rfl⟩ := List.exists_cons_of_ne_nil some
  cases type with
  | nil => exact named
  | cons first others =>
    obtain rfl : c = first := (List.cons.inj parted).1
    have lower := small c (by simp [split])
    rw [named.1] at lower
    cases lower

/-- No type is read where no dollar sign comes before the next comma. -/
theorem unread_of_closed (apart : '$' ∉ lead) (closed : ∀ c ∈ rest.head?, c = ',') :
    Unread readParameter lead rest := by
  intro front inside split some
  rw [Option.eq_none_iff_forall_ne_some]
  rintro ⟨type, left⟩ read
  obtain ⟨gap, name, named, -, blank, -, -, parted⟩ := readParameter_eq_some_iff.1 read
  have apartInside : '$' ∉ inside := fun member => apart (by simp [split, member])
  cases rest with
  | nil =>
    rw [List.append_nil] at parted
    simp [parted] at apartInside
  | cons d rest =>
    obtain rfl : d = ',' := closed d rfl
    have noComma : ',' ∉ type ++ gap := by
      rw [List.mem_append]
      rintro (inType | inGap)
      · exact absurd (named.accepted _ inType) (by decide)
      · exact absurd (blank _ inGap) (by decide)
    -- The comma comes behind the type and the blanks, so the dollar sign comes before it.
    rw [← List.append_assoc] at parted
    obtain ⟨between, rfl, marked⟩ := exists_of_head_not_mem parted.symm rfl noComma
    cases between with
    | nil => exact absurd (List.cons.inj marked).1 (by decide)
    | cons e between =>
      obtain rfl : '$' = e := (List.cons.inj marked).1
      simp at apartInside

/-- A search for types passes over a stretch where none is read. -/
theorem parameterTypes_of_unread (unread : Unread readParameter lead rest) :
    parameterTypes (lead ++ rest) = parameterTypes rest := by
  rw [parameterTypes, parameterTypes, findAll_of_unread unread]

/-- A type that stands in front of blanks and a variable comes first. -/
theorem parameterTypes_typed {gap name : List Char} (typed : IsTypeName type) (some : gap ≠ [])
    (blank : Text.Gap gap) (named : IsVariable name)
    (stops : ∀ c ∈ rest.head?, isVariableChar c = false) :
    parameterTypes (type ++ (gap ++ '$' :: (name ++ rest))) =
      String.ofList type :: parameterTypes rest := by
  have whole : type ++ (gap ++ '$' :: (name ++ rest)) =
      type ++ (gap ++ '$' :: name) ++ rest := by simp
  have read := readParameter_eq_some_iff.2 ⟨gap, name, typed, some, blank, named, stops, rfl⟩
  rw [whole] at read ⊢
  rw [parameterTypes, findAll_append (by simp) read, List.map_cons, parameterTypes]

/-! ### How parameters may be written -/

/-- The words that may stand in front of the type of a parameter. -/
def parameterModifiers : List String := ["public", "protected", "private", "readonly"]

/-- Modifiers with the blanks behind them. There may be no blanks, as a question mark can follow a
modifier at once. -/
inductive WritesModifiers : List Char → Prop
  | none : WritesModifiers []
  | next {modifier : String} {gap others : List Char} (listed : modifier ∈ parameterModifiers)
      (blank : Text.Gap gap) (more : WritesModifiers others) :
      WritesModifiers (modifier.toList ++ (gap ++ others))

/-- The type of a parameter, and the class that it names. A type that names none is a word without
capitals, or there is no type. -/
inductive WritesType : (written : List Char) → (declared : Option String) → Prop
  | builtIn {mark word : List Char} (marked : mark = [] ∨ mark = ['?'])
      (small : ∀ c ∈ word, isVariableChar c = true ∧ c.isUpper = false) :
      WritesType (mark ++ word) none
  | named {mark root name : List Char} (marked : mark = [] ∨ mark = ['?'])
      (rooted : root = [] ∨ root = ['\\']) (named : IsTypeName name) :
      WritesType (mark ++ (root ++ name)) (some (String.ofList name))

/-- The default value of a parameter, if it has one. It may name classes and constants. -/
inductive WritesDefault : List Char → Prop
  | none : WritesDefault []
  | value {gap value : List Char} (blank : Text.Gap gap) (apart : '$' ∉ value)
      (shut : ')' ∉ value) :
      WritesDefault (gap ++ '=' :: value)

/-- How a parameter may be written, and the class type that it declares. There are blanks between a
class type and the variable. -/
inductive WritesParameter : (written : List Char) → (declared : Option String) → Prop
  | parameter {modifiers type gap name value : List Char} {declared : Option String}
      (modified : WritesModifiers modifiers) (typed : WritesType type declared)
      (blank : Text.Gap gap) (spaced : declared.isSome = true → gap ≠ []) (named : IsVariable name)
      (defaulted : WritesDefault value) :
      WritesParameter (modifiers ++ (type ++ (gap ++ '$' :: (name ++ value)))) declared

/-- A list of parameters with commas between them and blanks around them, and the class types that
they declare. -/
inductive WritesParameters : (written : List Char) → (declared : List String) → Prop
  | none {gap : List Char} (blank : Text.Gap gap) : WritesParameters gap []
  | last {gap gap' written : List Char} {declared : Option String} (blank : Text.Gap gap)
      (parameter : WritesParameter written declared) (blank' : Text.Gap gap') :
      WritesParameters (gap ++ (written ++ gap')) declared.toList
  | more {gap gap' written rest : List Char} {declared : Option String} {others : List String}
      (blank : Text.Gap gap) (parameter : WritesParameter written declared) (blank' : Text.Gap gap')
      (later : WritesParameters rest others) :
      WritesParameters (gap ++ (written ++ (gap' ++ ',' :: rest))) (declared.toList ++ others)

/-! ### What is found in what is written -/

/-- Neither a capital nor the end of a parameter list. -/
def IsQuiet (c : Char) : Prop :=
  c.isUpper = false ∧ c ≠ ')'

instance : DecidablePred IsQuiet :=
  fun c => inferInstanceAs (Decidable (c.isUpper = false ∧ c ≠ ')'))

/-- What is no type character is no capital. -/
theorem isUpper_of_isTypeChar (other : isTypeChar c = false) : c.isUpper = false := by
  rw [Bool.eq_false_iff]
  intro upper
  rw [isTypeChar_of_isUpper upper] at other
  cases other

/-- Blanks are quiet. -/
theorem isQuiet_of_isBlank (blank : isBlank c = true) : IsQuiet c := by
  refine ⟨isUpper_of_isTypeChar (isTypeChar_of_isBlank blank), ?_⟩
  rintro rfl
  exact absurd blank (by decide)

/-- Modifiers and the blanks behind them are quiet. -/
theorem WritesModifiers.isQuiet {written : List Char} (writes : WritesModifiers written) :
    ∀ c ∈ written, IsQuiet c := by
  have words : ∀ modifier ∈ parameterModifiers, ∀ c ∈ modifier.toList, IsQuiet c := by decide
  induction writes with
  | none => simp
  | next listed blank _ ih =>
    intro c member
    rw [List.mem_append, List.mem_append] at member
    rcases member with inWord | inGap | later
    · exact words _ listed c inWord
    · exact isQuiet_of_isBlank (blank c inGap)
    · exact ih c later

/-- A question mark and a backslash are quiet. -/
theorem isQuiet_of_mark {mark : List Char} {sign : Char} (marked : mark = [] ∨ mark = [sign])
    (quiet : IsQuiet sign) : ∀ c ∈ mark, IsQuiet c := by
  rcases marked with rfl | rfl
  · simp
  · simpa using quiet

/-- A variable character is a type character and does not end a parameter list. -/
theorem isTypeChar_of_isVariableChar (accepted : isVariableChar c = true) :
    isTypeChar c = true := by
  rw [isVariableChar] at accepted
  rw [isTypeChar, accepted, Bool.true_or]

/-- Nothing in a type ends the list of parameters. -/
theorem WritesType.paren_not_mem {written : List Char} {declared : Option String}
    (writes : WritesType written declared) : ')' ∉ written := by
  have noMark {mark : List Char} {sign : Char} (marked : mark = [] ∨ mark = [sign])
      (quiet : IsQuiet sign) : ')' ∉ mark :=
    fun member => (isQuiet_of_mark marked quiet _ member).2 rfl
  cases writes with
  | builtIn marked small =>
    have noWord : ')' ∉ _ := fun member => absurd (small _ member).1 (by decide)
    simp [noMark marked (by decide), noWord]
  | named marked rooted named =>
    have noName : ')' ∉ _ := fun member => absurd (named.accepted _ member) (by decide)
    simp [noMark marked (by decide), noMark rooted (by decide), noName]

/-- What ends a variable also ends it with blanks in between. -/
theorem isVariableChar_of_gap {gap : List Char} (blank : Text.Gap gap)
    (stops : ∀ c ∈ rest.head?, isVariableChar c = false) :
    ∀ c ∈ (gap ++ rest).head?, isVariableChar c = false := by
  intro c head
  cases gap with
  | nil => exact stops c head
  | cons d gap =>
    obtain rfl : d = c := by simpa using head
    have other := isTypeChar_of_isBlank (blank d (List.mem_cons_self ..))
    rw [Bool.eq_false_iff]
    intro accepted
    rw [isTypeChar_of_isVariableChar accepted] at other
    cases other

/-- A default value ends the variable in front of it, and so does what comes behind the parameter
if there is none. -/
theorem WritesDefault.stops {value gap : List Char} (writes : WritesDefault value)
    (blank : Text.Gap gap) (closed : ∀ c ∈ rest.head?, c = ',') :
    ∀ c ∈ (value ++ (gap ++ rest)).head?, isVariableChar c = false := by
  cases writes with
  | none =>
    rw [List.nil_append]
    refine isVariableChar_of_gap blank fun c head => ?_
    rw [closed c head]
    decide
  | value blank' apart shut =>
    rw [List.append_assoc, List.cons_append]
    exact isVariableChar_of_gap blank' (by simp +decide)

/-- No dollar sign and no end of the list is in a default value. -/
theorem WritesDefault.apart {value : List Char} (writes : WritesDefault value) :
    '$' ∉ value ∧ ')' ∉ value := by
  cases writes with
  | none => simp
  | value blank apart shut =>
    have noGap : ∀ c, isBlank c = false → c ∉ _ := fun c ink => blank.not_mem ink
    simp [apart, shut, noGap '$' (by decide), noGap ')' (by decide)]

/-- Nothing in a parameter ends the list. -/
theorem WritesParameter.paren_not_mem {written : List Char} {declared : Option String}
    (writes : WritesParameter written declared) : ')' ∉ written := by
  obtain ⟨modified, typed, blank, -, named, defaulted⟩ := writes
  have noModifiers : ')' ∉ _ := fun member => (modified.isQuiet _ member).2 rfl
  have noGap : ')' ∉ _ := blank.not_mem (by decide)
  have noName : ')' ∉ _ := fun member => absurd (named.2 _ member) (by decide)
  simp [noModifiers, noGap, noName, defaulted.apart.2, typed.paren_not_mem]

/-- In what is written of a parameter, the class type that it declares is found, and nothing else
up to what comes behind it. -/
theorem WritesParameter.found {written gap : List Char} {declared : Option String}
    (writes : WritesParameter written declared) (blank : Text.Gap gap)
    (closed : ∀ c ∈ rest.head?, c = ',') :
    parameterTypes (written ++ (gap ++ rest)) = declared.toList ++ parameterTypes rest := by
  obtain @⟨modifiers, type, gap', name, value, _, modified, typed, blank', spaced, named,
    defaulted⟩ := writes
  have gapApart : '$' ∉ gap := blank.not_mem (by decide)
  cases typed with
  | @builtIn mark word marked small =>
    have nameApart : '$' ∉ name := fun member => absurd (named.2 _ member) (by decide)
    have front : ∀ c ∈ modifiers ++ (mark ++ word) ++ gap' ++ ['$'], c.isUpper = false := by
      intro c member
      simp only [List.mem_append, List.mem_singleton] at member
      rcases member with ((inModifiers | inMark | inWord) | inGap) | rfl
      · exact (modified.isQuiet c inModifiers).1
      · exact (isQuiet_of_mark marked (by decide) c inMark).1
      · exact (small c inWord).2
      · exact (isQuiet_of_isBlank (blank' c inGap)).1
      · decide
    have behind : '$' ∉ name ++ value ++ gap := by simp [nameApart, defaulted.apart.1, gapApart]
    calc parameterTypes (modifiers ++ (mark ++ word ++ (gap' ++ '$' :: (name ++ value))) ++
          (gap ++ rest))
        = parameterTypes (modifiers ++ (mark ++ word) ++ gap' ++ ['$'] ++
            (name ++ value ++ gap ++ rest)) := by simp
      _ = parameterTypes (name ++ value ++ gap ++ rest) :=
        parameterTypes_of_unread (unread_of_small front)
      _ = parameterTypes rest := parameterTypes_of_unread (unread_of_closed behind closed)
  | @named mark root type marked rooted typed =>
    have front : ∀ c ∈ modifiers ++ mark ++ root, c.isUpper = false := by
      intro c member
      simp only [List.mem_append] at member
      rcases member with (inModifiers | inMark) | inRoot
      · exact (modified.isQuiet c inModifiers).1
      · exact (isQuiet_of_mark marked (by decide) c inMark).1
      · exact (isQuiet_of_mark rooted (by decide) c inRoot).1
    have behind : '$' ∉ value ++ gap := by simp [defaulted.apart.1, gapApart]
    have stops := defaulted.stops blank closed
    calc parameterTypes (modifiers ++ (mark ++ (root ++ type) ++
          (gap' ++ '$' :: (name ++ value))) ++ (gap ++ rest))
        = parameterTypes (modifiers ++ mark ++ root ++
            (type ++ (gap' ++ '$' :: (name ++ (value ++ (gap ++ rest)))))) := by simp
      _ = parameterTypes (type ++ (gap' ++ '$' :: (name ++ (value ++ (gap ++ rest))))) :=
        parameterTypes_of_unread (unread_of_small front)
      _ = String.ofList type :: parameterTypes (value ++ (gap ++ rest)) :=
        parameterTypes_typed typed (spaced rfl) blank' named stops
      _ = String.ofList type :: parameterTypes rest := by
        rw [← List.append_assoc, parameterTypes_of_unread (unread_of_closed behind closed)]

/-- In a list of parameters, the class types are found that its parameters declare. -/
theorem WritesParameters.found {written : List Char} {declared : List String}
    (writes : WritesParameters written declared) : parameterTypes written = declared := by
  have skipped {gap rest : List Char} (blank : Text.Gap gap) :
      parameterTypes (gap ++ rest) = parameterTypes rest :=
    parameterTypes_of_unread (unread_of_small fun c member =>
      (isQuiet_of_isBlank (blank c member)).1)
  induction writes with
  | @none gap blank =>
    rw [← List.append_nil gap, skipped blank]
    rfl
  | @last gap gap' written declared blank parameter blank' =>
    have found : parameterTypes (written ++ (gap' ++ [])) = declared.toList ++ [] :=
      parameter.found blank' (by simp)
    rw [List.append_nil, List.append_nil] at found
    rw [skipped blank, found]
  | @more gap gap' written rest declared others blank parameter blank' later ih =>
    have comma : Unread readParameter [','] rest := unread_of_small (by simp +decide)
    have behind : parameterTypes (',' :: rest) = others := (parameterTypes_of_unread comma).trans ih
    rw [skipped blank, parameter.found blank' (by simp), behind]

/-- Nothing in a list of parameters ends it. -/
theorem WritesParameters.paren_not_mem {written : List Char} {declared : List String}
    (writes : WritesParameters written declared) : ')' ∉ written := by
  have noGap {gap : List Char} (blank : Text.Gap gap) : ')' ∉ gap := blank.not_mem (by decide)
  induction writes with
  | none blank => exact noGap blank
  | last blank parameter blank' => simp [noGap blank, noGap blank', parameter.paren_not_mem]
  | more blank parameter blank' later ih =>
    simp [noGap blank, noGap blank', parameter.paren_not_mem, ih]

/-! ### Constructors -/

/-- The parameters of a constructor are read exactly if its head stands there: the text between its
parentheses, of which the closing one is the first. -/
theorem readConstructor_eq_some_iff {parameters : List Char} :
    readConstructor text = some (parameters, rest) ↔
      ∃ gap gap', gap ≠ [] ∧ Text.Gap gap ∧ Text.Gap gap' ∧ ')' ∉ parameters ∧
        text = "function".toList ++ (gap ++ ("__construct".toList ++
          (gap' ++ '(' :: (parameters ++ ')' :: rest)))) := by
  simp only [readConstructor, Option.bind_eq_bind, Option.bind_eq_some_iff, afterWord?_eq_some_iff,
    afterBlanks?_eq_some_iff, after?_eq_some_iff, beq_iff_eq]
  constructor
  · rintro ⟨_, rfl, _, ⟨gap, some, blank, rfl, -⟩, _, rfl, inside, ⟨_, rfl, opened⟩, _,
      ⟨_, rfl, closed⟩, same⟩
    obtain ⟨rfl, rfl⟩ := Prod.mk.inj (Option.some.inj same)
    obtain ⟨gap', blank', rfl, -⟩ := trimLeft_eq_iff.1 opened
    have parted := List.takeWhile_append_dropWhile (p := (· != ')')) (l := inside)
    rw [closed] at parted
    refine ⟨gap, gap', some, blank, blank', fun member => ?_, by rw [parted]⟩
    simpa using List.mem_takeWhile_imp member
  · rintro ⟨gap, gap', some, blank, blank', shut, rfl⟩
    have accepted : ∀ c ∈ parameters, (c != ')') = true := by
      intro c member
      simpa using ne_of_mem_of_not_mem member shut
    have right : ∀ c ∈ (')' :: rest).head?, (c != ')') = false := by simp
    refine ⟨_, rfl, _, ⟨gap, some, blank, rfl, by simp +decide⟩, _, rfl,
      parameters ++ ')' :: rest,
      ⟨'(', rfl, trimLeft_eq_iff.2 ⟨gap', blank', rfl, by simp +decide⟩⟩, rest, ⟨')', rfl, ?_⟩, ?_⟩
    · exact dropWhile_append_of_right accepted right
    · rw [takeWhile_append_of_right accepted right]

/-- A text whose first constructor has a list of parameters that declare class types. -/
inductive WritesConstructor : (written : List Char) → (declared : List String) → Prop
  | first {before gap gap' parameters after : List Char} {declared : List String}
      (earlier : ¬ "__construct".toList <:+: before) (some : gap ≠ []) (blank : Text.Gap gap)
      (blank' : Text.Gap gap') (writes : WritesParameters parameters declared) :
      WritesConstructor (before ++ ("function".toList ++ (gap ++ ("__construct".toList ++
        (gap' ++ '(' :: (parameters ++ ')' :: after)))))) declared

/-- No constructor is read in front of the first one. -/
theorem unread_of_earlier {before gap after : List Char}
    (earlier : ¬ "__construct".toList <:+: before) :
    Unread readConstructor before ("function".toList ++ (gap ++ after)) := by
  intro front inside split some
  rw [Option.eq_none_iff_forall_ne_some]
  rintro ⟨parameters, left⟩ read
  obtain ⟨gap₁, gap₂, -, blank, -, -, parted⟩ := readConstructor_eq_some_iff.1 read
  have word : "function".toList = 'f' :: "unction".toList := by decide
  obtain ⟨c, inside, rfl⟩ := List.exists_cons_of_ne_nil some
  rw [word, List.cons_append, List.cons_append, List.cons_append] at parted
  obtain ⟨rfl, same⟩ := List.cons.inj parted
  -- Only the first character of a head is an `f`, so the head ends in front of the next one.
  have only : 'f' ∉ "unction".toList ++ (gap₁ ++ "__construct".toList) := by
    simp only [List.mem_append, not_or]
    exact ⟨by decide, blank.not_mem (by decide), by decide⟩
  have headed : "unction".toList ++ (gap₁ ++ "__construct".toList) ++
      (gap₂ ++ '(' :: (parameters ++ ')' :: left)) =
        inside ++ 'f' :: ("unction".toList ++ (gap ++ after)) := by
    rw [same]
    simp only [List.append_assoc]
  obtain ⟨between, rfl, -⟩ := exists_of_head_not_mem headed rfl only
  refine earlier ⟨front ++ 'f' :: ("unction".toList ++ gap₁), between, ?_⟩
  rw [split]
  simp only [List.append_assoc, List.cons_append]

/-- The first constructor of a text is read. -/
theorem WritesConstructor.parameters {source : String} {declared : List String}
    (writes : WritesConstructor source.toList declared) :
    ∃ parameters, constructorParameters? source = some parameters ∧
      WritesParameters parameters declared := by
  unfold constructorParameters?
  generalize source.toList = written at writes
  obtain @⟨before, gap, gap', parameters, after, _, earlier, some, blank, blank', listed⟩ := writes
  have whole : "function".toList ++ (gap ++ ("__construct".toList ++
      (gap' ++ '(' :: (parameters ++ ')' :: after)))) =
      "function".toList ++ gap ++ "__construct".toList ++ gap' ++ '(' :: (parameters ++ [')']) ++
        after := by simp only [List.append_assoc, List.cons_append, List.nil_append]
  have read := readConstructor_eq_some_iff.2
    ⟨gap, gap', some, blank, blank', listed.paren_not_mem, whole.symm⟩
  refine ⟨parameters, ?_, listed⟩
  rw [findAll_of_unread (unread_of_earlier earlier), whole, findAll_append (by simp) read,
    List.head?_cons]

end Source

namespace Observer

open Source

/-- The services that a source adds are the class types that the parameters of its first constructor
declare, one for each of them and in their order. -/
theorem services_of_parameters (index : ApiIndex) (observer : Observer) {source : String}
    {declared : List String} (writes : WritesConstructor source.toList declared) :
    (collect index observer source).services = observer.services ++ declared := by
  obtain ⟨parameters, found, listed⟩ := writes.parameters
  rw [collect_services, declaredTypes, found]
  exact congrArg _ listed.found

/-- A parameter with modifiers and a type that allows null. -/
theorem writesParameter_client :
    WritesParameter "private readonly ?\\Pay\\Client $client".toList (some "Pay\\Client") := by
  have parted : "private readonly ?\\Pay\\Client $client".toList =
      "private".toList ++ ([' '] ++ ("readonly".toList ++ ([' '] ++ []))) ++
        (['?'] ++ (['\\'] ++ "Pay\\Client".toList) ++
          ([' '] ++ '$' :: ("client".toList ++ []))) := by
    decide
  rw [parted]
  exact .parameter (.next (by decide) (by decide) (.next (by decide) (by decide) .none))
    (.named (.inr rfl) (.inr rfl) (by decide)) (by decide) (by decide) (by decide) .none

/-- A parameter that names a class in its default value only. -/
theorem writesParameter_mode : WritesParameter "string $mode = Mode::LIVE".toList none := by
  have parted : "string $mode = Mode::LIVE".toList =
      [] ++ ([] ++ "string".toList ++ ([' '] ++ '$' :: ("mode".toList ++
        ([' '] ++ '=' :: " Mode::LIVE".toList)))) := by
    decide
  rw [parted]
  exact .parameter .none (.builtIn (.inl rfl) (by decide)) (by decide) (by decide) (by decide)
    (.value (by decide) (by decide) (by decide))

/-- A list of both, over several lines. -/
def askingParameters : String :=
  "\n  private readonly ?\\Pay\\Client $client,\n  string $mode = Mode::LIVE\n"

/-- It declares one class type. -/
theorem writesParameters_asking :
    WritesParameters askingParameters.toList ["Pay\\Client"] := by
  have parted : askingParameters.toList =
      "\n  ".toList ++ ("private readonly ?\\Pay\\Client $client".toList ++ ([] ++ ',' ::
        ("\n  ".toList ++ ("string $mode = Mode::LIVE".toList ++ "\n".toList)))) := by
    decide +kernel
  rw [parted]
  exact .more (by decide) writesParameter_client (by decide)
    (.last (by decide) writesParameter_mode (by decide))

/-- A source that asks for them. -/
def askingText : String :=
  "<?php\nabstract public function __construct(" ++ askingParameters ++ ");"

/-- No earlier constructor stands in it. -/
theorem writesConstructor_asking : WritesConstructor askingText.toList ["Pay\\Client"] := by
  have earlier : ¬ "__construct".toList <:+: "<?php\nabstract public ".toList := by
    intro inside
    have member : '_' ∈ "<?php\nabstract public ".toList := inside.subset (by decide)
    exact absurd member (by decide)
  have parted : askingText.toList = "<?php\nabstract public ".toList ++ ("function".toList ++
      ([' '] ++ ("__construct".toList ++ ([] ++ '(' :: (askingParameters.toList ++
        ')' :: [';']))))) := by
    decide +kernel
  rw [parted]
  exact .first earlier (by simp) (by decide) (by decide) writesParameters_asking

/-- The class type is its only service. -/
theorem services_of_parameters_asking :
    (collect .empty (.new "Asks") askingText).services = ["Pay\\Client"] :=
  services_of_parameters .empty (.new "Asks") writesConstructor_asking

end Observer

end EventAtlas
