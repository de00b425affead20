import EventAtlas.Proofs.Scope.Spelling
import EventAtlas.Proofs.Source.Parameter
import EventAtlas.Proofs.Text.LineStart
import EventAtlas.Source.Header

/-!
# Headers as they are written

The first word of a line tells whether it can declare a namespace or a class: only such lines begin
with one of five words. In a text whose other lines begin with none of them, a search finds the
declaration of each line once, whatever blank lines, modifiers and texts stand around it, so that
the text stands for a class exactly if it has one line of each kind.
-/

namespace EventAtlas

open Text

namespace Text

variable {α : Type} {read : Reader α} {text line after word rest indent : List Char}

/-! ### The first word of a line -/

/-- The first word of a text: what stands between its first blanks and the next ones. -/
def firstWord (text : List Char) : List Char :=
  (trimLeft text).takeWhile fun c => !isBlank c

/-- A word with blanks around it is the first one. -/
theorem firstWord_eq (blank : Gap indent) (some : word ≠ []) (ink : ∀ c ∈ word, isBlank c = false)
    (stops : ∀ c ∈ rest.head?, isBlank c = true) : firstWord (indent ++ (word ++ rest)) = word := by
  have begun : trimLeft (indent ++ (word ++ rest)) = word ++ rest :=
    trimLeft_eq_iff.2 ⟨indent, blank, rfl, head?_append_of_ne_nil some ink rest⟩
  rw [firstWord, begun]
  exact takeWhile_append_of_right (by simpa using ink) (by simpa using stops)

/-- The first word of a line that has one is on the line. -/
theorem firstWord_append (inked : ¬ Gap line) (ends : EndsLine after) :
    firstWord (line ++ after) = firstWord line := by
  rw [firstWord, trimLeft_append_of_not_gap inked, firstWord]
  induction trimLeft line with
  | nil =>
    cases after with
    | nil => rfl
    | cons c rest =>
      obtain rfl := ends c rfl
      rfl
  | cons c rest ih => rw [List.cons_append, List.takeWhile_cons, List.takeWhile_cons, ih]

/-- A line has nothing for a reader that reads nothing where it has this first word. -/
theorem readsLine_none_of_firstWord
    (nothing : ∀ text, firstWord text = firstWord line → read text = none) :
    ReadsLine read line none := by
  by_cases blank : Gap line
  · exact .blank blank
  · exact .nothing fun after ends => nothing _ (firstWord_append blank ends)

end Text

namespace Source

variable {text rest name : List Char}

/-! ### What is read of a namespace -/

/-- No blank is in the name of a namespace. -/
theorem isBlank_of_isNamespaceChar {c : Char} (accepted : isNamespaceChar c = true) :
    isBlank c = false := by
  simp only [isNamespaceChar, Bool.and_eq_true, Bool.not_eq_true'] at accepted
  exact accepted.2

/-- A namespace is read exactly if it is declared behind blanks. -/
theorem readNamespace_eq_some_iff : readNamespace text = some (name, rest) ↔
    ∃ indent gap gap' mark, Text.Gap indent ∧ gap ≠ [] ∧ Text.Gap gap ∧ name ≠ [] ∧
      (∀ c ∈ name, isNamespaceChar c = true) ∧ Text.Gap gap' ∧ (mark = ';' ∨ mark = '{') ∧
      text = indent ++ ("namespace".toList ++ (gap ++ (name ++ (gap' ++ mark :: rest)))) := by
  simp only [readNamespace, Option.bind_eq_bind, Option.bind_eq_some_iff, afterWord?_eq_some_iff,
    afterBlanks?_eq_some_iff, after?_eq_some_iff, Bool.or_eq_true, beq_iff_eq]
  constructor
  · rintro ⟨_, opened, _, ⟨gap, some, blank, rfl, -⟩, ⟨_, left⟩, ran, _, ⟨mark, marked, closed⟩,
      same⟩
    obtain ⟨indent, indented, rfl, -⟩ := trimLeft_eq_iff.1 opened
    obtain ⟨named, rfl, accepted, -⟩ := run?_eq_some_iff_append.1 ran
    obtain ⟨rfl, rfl⟩ := Prod.mk.inj (Option.some.inj same)
    obtain ⟨gap', blank', rfl, -⟩ := trimLeft_eq_iff.1 closed
    exact ⟨indent, gap, gap', mark, indented, some, blank, named, accepted, blank', marked, rfl⟩
  · rintro ⟨indent, gap, gap', mark, indented, some, blank, named, accepted, blank', marked, rfl⟩
    have ink := head?_append_of_ne_nil named
      (fun c member => isBlank_of_isNamespaceChar (accepted c member)) (gap' ++ mark :: rest)
    have stops : ∀ c ∈ (gap' ++ mark :: rest).head?, isNamespaceChar c = false := by
      refine head?_append_of_forall (fun c member => ?_) ?_
      · simp [isNamespaceChar, blank' c member]
      · rcases marked with rfl | rfl <;> simp [isNamespaceChar]
    have closed : trimLeft (gap' ++ mark :: rest) = mark :: rest :=
      trimLeft_eq_iff.2 ⟨gap', blank', rfl, by rcases marked with rfl | rfl <;> simp +decide⟩
    refine ⟨_, trimLeft_eq_iff.2 ⟨indent, indented, rfl,
      head?_append_of_ne_nil (by decide) (by decide) _⟩, _,
      ⟨gap, some, blank, rfl, ink⟩, _, run?_eq_some_iff_append.2 ⟨named, rfl, accepted, stops⟩, _,
      ⟨mark, marked, closed⟩, rfl⟩

/-- A namespace is read only behind its word. -/
theorem readNamespace_eq_none (apart : firstWord text ≠ "namespace".toList) :
    readNamespace text = none := by
  rw [Option.eq_none_iff_forall_ne_some]
  rintro ⟨name, rest⟩ read
  obtain ⟨indent, gap, gap', mark, indented, some, blank, -, -, -, -, rfl⟩ :=
    readNamespace_eq_some_iff.1 read
  exact apart (firstWord_eq indented (by decide) (by decide) (head?_append_of_ne_nil some blank _))

/-! ### What is read of a class -/

/-- Modifiers of a class with the blanks behind them. -/
inductive WritesClassModifiers : List Char → Prop
  | none : WritesClassModifiers []
  | next {modifier : String} {gap others : List Char} (listed : modifier ∈ classModifiers)
      (some : gap ≠ []) (blank : Text.Gap gap) (more : WritesClassModifiers others) :
      WritesClassModifiers (modifier.toList ++ (gap ++ others))

/-- A modifier is a word. -/
theorem classModifiers_inked : ∀ modifier ∈ classModifiers,
    modifier.toList ≠ [] ∧ ∀ c ∈ modifier.toList, isBlank c = false := by
  decide

/-- A modifier at the front of a text is its first word. -/
theorem firstWord_modifier {modifier : String} {gap : List Char}
    (listed : modifier ∈ classModifiers) (some : gap ≠ []) (blank : Text.Gap gap)
    (rest : List Char) :
    firstWord (modifier.toList ++ (gap ++ rest)) = modifier.toList := by
  obtain ⟨named, inked⟩ := classModifiers_inked modifier listed
  have none : Text.Gap [] := by decide
  exact firstWord_eq none named inked (head?_append_of_ne_nil some blank rest)

/-- A modifier is passed exactly if the text starts with it. -/
theorem afterModifier?_eq_some_iff : afterModifier? text = some rest ↔
    ∃ modifier ∈ classModifiers, ∃ gap, gap ≠ [] ∧ Text.Gap gap ∧
      text = modifier.toList ++ (gap ++ rest) ∧ ∀ c ∈ rest.head?, isBlank c = false := by
  have passed : ∀ {left}, afterModifier? text = some left → ∃ modifier ∈ classModifiers, ∃ gap,
      gap ≠ [] ∧ Text.Gap gap ∧ text = modifier.toList ++ (gap ++ left) ∧
        ∀ c ∈ left.head?, isBlank c = false := by
    intro left read
    obtain ⟨modifier, listed, found⟩ := List.exists_of_findSome?_eq_some read
    obtain ⟨_, begun, blanks⟩ := Option.bind_eq_some_iff.1 found
    obtain ⟨gap, some, blank, rfl, ink⟩ := afterBlanks?_eq_some_iff.1 blanks
    exact ⟨modifier, listed, gap, some, blank, afterWord?_eq_some_iff.1 begun, ink⟩
  refine ⟨passed, ?_⟩
  rintro ⟨modifier, listed, gap, some, blank, rfl, ink⟩
  have here : (afterWord? modifier.toList (modifier.toList ++ (gap ++ rest))).bind afterBlanks? =
      .some rest := by
    rw [afterWord?_append]
    exact afterBlanks?_eq_some_iff.2 ⟨gap, some, blank, rfl, ink⟩
  cases found : afterModifier? (modifier.toList ++ (gap ++ rest)) with
  | none =>
    have refused := List.findSome?_eq_none_iff.1 found modifier listed
    rw [here] at refused
    cases refused
  | some left =>
    obtain ⟨other, listed', gap', some', blank', parted, ink'⟩ := passed found
    -- Both modifiers are the first word of the text.
    have first := firstWord_modifier listed some blank rest
    rw [parted, firstWord_modifier listed' some' blank' left] at first
    rw [first] at parted
    have same := List.append_cancel_left parted
    rw [eq_of_gap_append blank blank' ink ink' same]

/-- No modifier is passed where another word comes first. -/
theorem afterModifier?_eq_none
    (apart : ∀ modifier ∈ classModifiers, firstWord text ≠ modifier.toList) :
    afterModifier? text = none := by
  rw [Option.eq_none_iff_forall_ne_some]
  intro rest passed
  obtain ⟨modifier, listed, gap, some, blank, rfl, -⟩ := afterModifier?_eq_some_iff.1 passed
  exact apart modifier listed (firstWord_modifier listed some blank rest)

/-- What is left of a text without its modifiers comes behind them. -/
theorem exists_modifiers (text : List Char) :
    ∃ modifiers, WritesClassModifiers modifiers ∧ text = modifiers ++ afterModifiers text := by
  fun_induction afterModifiers text with
  | case1 text rest found shorter ih =>
    obtain ⟨modifier, listed, gap, some, blank, rfl, -⟩ := afterModifier?_eq_some_iff.1 found
    obtain ⟨others, writes, parted⟩ := ih
    refine ⟨_, .next listed some blank writes, ?_⟩
    rw [List.append_assoc, List.append_assoc, ← parted]
  | case2 text rest found =>
    obtain ⟨modifier, listed, gap, some, blank, rfl, -⟩ := afterModifier?_eq_some_iff.1 found
    exact ⟨_, .next listed some blank .none, by simp⟩
  | case3 text => exact ⟨[], .none, rfl⟩

/-- Behind modifiers and in front of something else, a text starts with a word. -/
theorem WritesClassModifiers.inked {modifiers : List Char} (writes : WritesClassModifiers modifiers)
    (ink : ∀ c ∈ text.head?, isBlank c = false) :
    ∀ c ∈ (modifiers ++ text).head?, isBlank c = false := by
  cases writes with
  | none => exact ink
  | next listed some blank more =>
    obtain ⟨some, inked⟩ := classModifiers_inked _ listed
    rw [List.append_assoc]
    exact head?_append_of_ne_nil some inked _

/-- All modifiers in front of a text are passed if it starts with none itself. -/
theorem WritesClassModifiers.afterModifiers_append {modifiers : List Char}
    (writes : WritesClassModifiers modifiers) (ink : ∀ c ∈ text.head?, isBlank c = false)
    (last : afterModifier? text = .none) : afterModifiers (modifiers ++ text) = text := by
  induction writes with
  | none => rw [List.nil_append, afterModifiers, last]
  | @next modifier gap others listed some blank more ih =>
    have passed : afterModifier? (modifier.toList ++ (gap ++ others) ++ text) =
        .some (others ++ text) :=
      afterModifier?_eq_some_iff.2 ⟨modifier, listed, gap, some, blank, by simp, more.inked ink⟩
    have shorter : (others ++ text).length <
        (modifier.toList ++ (gap ++ others) ++ text).length := by
      have := List.length_pos_iff.2 some
      simp only [List.length_append]
      omega
    rw [afterModifiers, passed]
    dsimp only
    rw [if_pos shorter, ih]

/-- A class is read exactly if it is declared behind blanks and modifiers. -/
theorem readClass_eq_some_iff : readClass text = some (name, rest) ↔
    ∃ indent modifiers gap, Text.Gap indent ∧ WritesClassModifiers modifiers ∧ gap ≠ [] ∧
      Text.Gap gap ∧ name ≠ [] ∧ (∀ c ∈ name, isWord c = true) ∧
      (∀ c ∈ rest.head?, isWord c = false) ∧
      text = indent ++ (modifiers ++ ("class".toList ++ (gap ++ (name ++ rest)))) := by
  simp only [readClass, Option.bind_eq_bind, Option.bind_eq_some_iff, afterWord?_eq_some_iff,
    afterBlanks?_eq_some_iff, run?_eq_some_iff_append]
  constructor
  · rintro ⟨_, opened, _, ⟨gap, some, blank, rfl, -⟩, named, rfl, words, stops⟩
    obtain ⟨indent, indented, parted, -⟩ := trimLeft_eq_iff.1 (Eq.refl (trimLeft text))
    obtain ⟨modifiers, writes, behind⟩ := exists_modifiers (trimLeft text)
    rw [opened] at behind
    rw [behind] at parted
    exact ⟨indent, modifiers, gap, indented, writes, some, blank, named, words, stops, parted⟩
  · rintro ⟨indent, modifiers, gap, indented, writes, some, blank, named, words, stops, rfl⟩
    have ink : ∀ c ∈ ("class".toList ++ (gap ++ (name ++ rest))).head?, isBlank c = false :=
      head?_append_of_ne_nil (by decide) (by decide) _
    have first : firstWord ([] ++ ("class".toList ++ (gap ++ (name ++ rest)))) = "class".toList :=
      firstWord_eq (by decide) (by decide) (by decide) (head?_append_of_ne_nil some blank _)
    have last : afterModifier? ("class".toList ++ (gap ++ (name ++ rest))) = none :=
      afterModifier?_eq_none (by rw [← List.nil_append ("class".toList ++ _), first]; decide)
    have begun : trimLeft (indent ++ (modifiers ++ ("class".toList ++ (gap ++ (name ++ rest))))) =
        modifiers ++ ("class".toList ++ (gap ++ (name ++ rest))) :=
      trimLeft_eq_iff.2 ⟨indent, indented, rfl, writes.inked ink⟩
    refine ⟨gap ++ (name ++ rest), ?_, name ++ rest, ⟨gap, some, blank, rfl, ?_⟩, named, rfl, words,
      stops⟩
    · rw [begun, writes.afterModifiers_append ink last]
    · exact head?_append_of_ne_nil named (fun c member => isBlank_of_isWord (words c member)) rest

/-- The words with which a line that declares a class can begin. -/
def classWords : List String := "class" :: classModifiers

/-- A declaration of a class begins with one of them. -/
theorem firstWord_class {indent modifiers gap : List Char} (indented : Text.Gap indent)
    (writes : WritesClassModifiers modifiers) (some : gap ≠ []) (blank : Text.Gap gap) :
    ∃ word ∈ classWords, firstWord (indent ++ (modifiers ++ ("class".toList ++ (gap ++ rest)))) =
      word.toList := by
  cases writes with
  | none => exact ⟨"class", by decide, firstWord_eq indented (by decide) (by decide)
      (head?_append_of_ne_nil some blank rest)⟩
  | @next modifier between others listed some' blank' more =>
    obtain ⟨named, inked⟩ := classModifiers_inked modifier listed
    refine ⟨modifier, List.mem_cons_of_mem _ listed, ?_⟩
    rw [List.append_assoc, List.append_assoc]
    exact firstWord_eq indented named inked (head?_append_of_ne_nil some' blank' _)

/-- A class is read only where one of those words comes first. -/
theorem readClass_eq_none (apart : ∀ word ∈ classWords, firstWord text ≠ word.toList) :
    readClass text = none := by
  rw [Option.eq_none_iff_forall_ne_some]
  rintro ⟨name, rest⟩ read
  obtain ⟨indent, modifiers, gap, indented, writes, some, blank, -, -, -, rfl⟩ :=
    readClass_eq_some_iff.1 read
  obtain ⟨word, listed, first⟩ := firstWord_class indented writes some blank
  exact apart word listed first

/-! ### Headers line by line -/

/-- Blanks in front of a namespace make no difference, and it has at least its mark. -/
theorem skips_takes_readNamespace : SkipsBlanks readNamespace ∧ Takes readNamespace := by
  constructor
  · intro gap text blank
    rw [readNamespace, trimLeft_gap_append blank]
    rfl
  · rintro text name rest read
    obtain ⟨indent, gap, gap', mark, -, -, -, -, -, -, -, rfl⟩ := readNamespace_eq_some_iff.1 read
    exact ⟨indent ++ ("namespace".toList ++ (gap ++ (name ++ (gap' ++ [mark])))), by simp, by simp⟩

/-- Blanks in front of a class make no difference, and it has at least its word. -/
theorem skips_takes_readClass : SkipsBlanks readClass ∧ Takes readClass := by
  constructor
  · intro gap text blank
    rw [readClass, trimLeft_gap_append blank]
    rfl
  · rintro text name rest read
    obtain ⟨indent, modifiers, gap, -, -, -, -, -, -, -, rfl⟩ := readClass_eq_some_iff.1 read
    exact ⟨indent ++ (modifiers ++ ("class".toList ++ (gap ++ name))), by simp, by simp⟩

/-- What a line declares. -/
inductive Header
  | space (name : ClassId)
  | named (name : String)

/-- The namespace that is declared, if it is one. -/
def Header.space? : Header → Option ClassId
  | .space name => some name
  | .named _ => none

/-- The name of the class that is declared, if it is one. -/
def Header.named? : Header → Option String
  | .space _ => none
  | .named name => some name

/-- How a line may declare a namespace or a class. Anything may stand behind the mark that ends the
one, and anything that does not go on with the name of the other. -/
inductive WritesHeader : (line : List Char) → Header → Prop
  | space {indent gap gap' tail : List Char} {mark : Char} {name : ClassId}
      (indented : Text.Gap indent) (some : gap ≠ []) (blank : Text.Gap gap)
      (segmented : ClassId.Segmented name) (accepted : ∀ c ∈ name.toList, isNamespaceChar c = true)
      (blank' : Text.Gap gap') (marked : mark = ';' ∨ mark = '{') :
      WritesHeader (indent ++ ("namespace".toList ++ (gap ++ (name.toList ++
        (gap' ++ mark :: tail))))) (.space name)
  | named {indent modifiers gap tail : List Char} {name : String} (indented : Text.Gap indent)
      (modified : WritesClassModifiers modifiers) (some : gap ≠ []) (blank : Text.Gap gap)
      (named : name.toList ≠ []) (words : ∀ c ∈ name.toList, isWord c = true)
      (stops : ∀ c ∈ tail.head?, isWord c = false) :
      WritesHeader (indent ++ (modifiers ++ ("class".toList ++ (gap ++ (name.toList ++ tail)))))
        (.named name)

/-- A line declares something, or it does not begin with a word of declarations. -/
inductive WritesHeaderLine : (line : List Char) → Option Header → Prop
  | declares {line : List Char} {header : Header} (writes : WritesHeader line header) :
      WritesHeaderLine line (some header)
  | other {line : List Char}
      (apart : ∀ word ∈ "namespace" :: classWords, firstWord line ≠ word.toList) :
      WritesHeaderLine line none

variable {line : List Char} {header : Option Header}

/-- A line has its namespace for the reader of namespaces, or nothing. -/
theorem WritesHeaderLine.readsNamespace (writes : WritesHeaderLine line header) :
    ∃ found, ReadsLine readNamespace line found ∧
      found.map (fun name => ClassId.canonical (String.ofList name)) =
        header.bind Header.space? := by
  cases writes with
  | declares writes =>
    cases writes with
    | @space indent gap gap' tail mark name indented some blank segmented accepted blank' marked =>
      have canonical : ClassId.canonical (String.ofList name.toList) = name := by
        rw [String.ofList_toList, (ClassId.Writes.self name).canonical_eq segmented]
      refine ⟨.some name.toList, ?_, congrArg Option.some canonical⟩
      have parted : indent ++ ("namespace".toList ++ (gap ++ (name.toList ++
          (gap' ++ mark :: tail)))) = indent ++ ("namespace".toList ++ (gap ++ (name.toList ++
            (gap' ++ [mark])))) ++ tail := by simp
      rw [parted]
      obtain ⟨first, others, chars, -⟩ := segmented.exists_cons
      exact .value (by simp) fun after _ => readNamespace_eq_some_iff.2 ⟨indent, gap, gap', mark,
        indented, some, blank, by simp [chars], accepted, blank', marked, by simp⟩
    | named indented modified some blank =>
      refine ⟨none, readsLine_none_of_firstWord fun text same => readNamespace_eq_none ?_, rfl⟩
      obtain ⟨word, listed, first⟩ := firstWord_class indented modified some blank
      have apart : ∀ word ∈ classWords, word.toList ≠ "namespace".toList := by decide
      rw [same, first]
      exact apart word listed
  | other apart =>
    refine ⟨none, readsLine_none_of_firstWord fun text same => readNamespace_eq_none ?_, rfl⟩
    rw [same]
    exact apart _ (List.mem_cons_self ..)

/-- A line has its class for the reader of classes, or nothing. -/
theorem WritesHeaderLine.readsClass (writes : WritesHeaderLine line header) :
    ∃ found, ReadsLine readClass line found ∧
      found.map String.ofList = header.bind Header.named? := by
  cases writes with
  | declares writes =>
    cases writes with
    | space indented some blank =>
      refine ⟨none, readsLine_none_of_firstWord fun text same => readClass_eq_none ?_, rfl⟩
      rw [same, firstWord_eq indented (by decide) (by decide) (head?_append_of_ne_nil some blank _)]
      decide
    | @named indent modifiers gap tail name indented modified some blank named words stops =>
      refine ⟨.some name.toList, ?_, congrArg Option.some String.ofList_toList⟩
      have parted : indent ++ (modifiers ++ ("class".toList ++ (gap ++ (name.toList ++ tail)))) =
          indent ++ (modifiers ++ ("class".toList ++ (gap ++ name.toList))) ++ tail := by simp
      rw [parted]
      refine .value (by simp) fun after ends => readClass_eq_some_iff.2 ⟨indent, modifiers, gap,
        indented, modified, some, blank, named, words, ?_, by simp⟩
      cases tail with
      | nil =>
        intro c head
        rw [ends c head]
        decide
      | cons c tail => exact stops
  | other apart =>
    refine ⟨none, readsLine_none_of_firstWord fun text same => readClass_eq_none ?_, rfl⟩
    rw [same]
    exact fun word listed => apart word (List.mem_cons_of_mem _ listed)

/-- The namespaces and the classes that a text declares are those of its lines. -/
theorem declared_of_lines {source : String} {headers : List (Option Header)}
    (lines : List.Forall₂ WritesHeaderLine (fields '\n' source.toList) headers) :
    (namespaces source).map ClassId.canonical = headers.reduceOption.filterMap Header.space? ∧
      classes source = headers.reduceOption.filterMap Header.named? := by
  have gathered {α : Type} (pick : Header → Option α) :
      (headers.map (·.bind pick)).reduceOption = headers.reduceOption.filterMap pick := by
    simp only [List.reduceOption, List.filterMap_map, List.filterMap_filterMap]
    rfl
  obtain ⟨skips, takes⟩ := skips_takes_readNamespace
  obtain ⟨skips', takes'⟩ := skips_takes_readClass
  constructor
  · rw [namespaces, List.map_map, ← gathered]
    exact map_findAllAtLineStarts_of_lines skips takes
      (List.forall₂_map_right_iff.2 (lines.imp fun _ _ writes => writes.readsNamespace))
  · rw [classes, ← gathered]
    exact map_findAllAtLineStarts_of_lines skips' takes'
      (List.forall₂_map_right_iff.2 (lines.imp fun _ _ writes => writes.readsClass))

/-- A text stands for a class exactly if one of its lines declares a namespace and one of them a
class. -/
theorem stands_for_of_lines {source : String} {headers : List (Option Header)}
    (lines : List.Forall₂ WritesHeaderLine (fields '\n' source.toList) headers) :
    (∀ id, classId? source = some id ↔ ∃ space name,
      headers.reduceOption.filterMap Header.space? = [space] ∧
      headers.reduceOption.filterMap Header.named? = [name] ∧ id = ClassId.qualify space name) ∧
    (classId? source = none ↔ ¬ ((headers.reduceOption.filterMap Header.space?).length = 1 ∧
      (headers.reduceOption.filterMap Header.named?).length = 1)) := by
  obtain ⟨spaces, names⟩ := declared_of_lines lines
  rw [← spaces, ← names, List.length_map]
  unfold classId?
  split
  · next space name single single' =>
    simp only [single, single', List.map_cons, List.map_nil, List.cons.injEq, and_true]
    constructor
    · intro id
      constructor
      · intro same
        exact ⟨_, _, rfl, rfl, (Option.some.inj same).symm⟩
      · rintro ⟨_, _, rfl, rfl, rfl⟩
        rfl
    · simp
  · next other =>
    have apart : ¬ ((namespaces source).length = 1 ∧ (classes source).length = 1) := by
      rintro ⟨one, one'⟩
      obtain ⟨space, single⟩ := List.length_eq_one_iff.1 one
      obtain ⟨name, single'⟩ := List.length_eq_one_iff.1 one'
      exact other space name single single'
    refine ⟨fun id => ?_, by simp [apart]⟩
    simp only [reduceCtorEq, false_iff]
    rintro ⟨space, name, single, single', -⟩
    refine apart ⟨?_, by simp [single']⟩
    rw [← List.length_map ClassId.canonical, single]
    rfl

/-- A text with blank lines, modifiers and words of declarations inside its other lines. -/
def cardText : String :=
  "<?php\n\n // a final class\n  namespace Pay\\Model ;\n\n\tfinal  readonly class Card extends Base"

/-- The line of its namespace. -/
theorem writesHeader_model :
    WritesHeader "  namespace Pay\\Model ;".toList (.space "Pay\\Model") := by
  have parted : "  namespace Pay\\Model ;".toList = "  ".toList ++ ("namespace".toList ++
      ([' '] ++ ("Pay\\Model".toList ++ ([' '] ++ ';' :: [])))) := by
    decide
  rw [parted]
  exact .space (by decide) (by decide) (by decide) (by decide) (by decide) (by decide) (.inl rfl)

/-- The line of its class. -/
theorem writesHeader_card :
    WritesHeader "\tfinal  readonly class Card extends Base".toList (.named "Card") := by
  have parted : "\tfinal  readonly class Card extends Base".toList = "\t".toList ++
      ("final".toList ++ ("  ".toList ++ ("readonly".toList ++ (" ".toList ++ []))) ++
        ("class".toList ++ ([' '] ++ ("Card".toList ++ " extends Base".toList)))) := by
    decide
  have stops : ∀ c ∈ " extends Base".toList.head?, isWord c = false := by
    intro c first
    obtain rfl : ' ' = c := Option.some.inj first
    decide
  rw [parted]
  exact .named (by decide) (.next (by decide) (by decide) (by decide)
    (.next (by decide) (by decide) (by decide) .none)) (by decide) (by decide) (by decide)
    (by decide) stops

/-- It stands for the class in the namespace. -/
theorem stands_for_of_lines_card : classId? cardText = some "Pay\\Model\\Card" := by
  have cut : fields '\n' cardText.toList = ["<?php".toList, [], " // a final class".toList,
      "  namespace Pay\\Model ;".toList, [],
      "\tfinal  readonly class Card extends Base".toList] := by
    decide +kernel
  have lines : List.Forall₂ WritesHeaderLine (fields '\n' cardText.toList)
      [none, none, none, some (.space "Pay\\Model"), none, some (.named "Card")] := by
    rw [cut]
    exact .cons (.other (by decide)) <| .cons (.other (by decide)) <|
      .cons (.other (by decide)) <| .cons (.declares writesHeader_model) <|
        .cons (.other (by decide)) <| .cons (.declares writesHeader_card) .nil
  exact ((stands_for_of_lines lines).1 _).2 ⟨_, _, rfl, rfl, by decide⟩

end Source

end EventAtlas
