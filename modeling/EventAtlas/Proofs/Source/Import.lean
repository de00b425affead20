import EventAtlas.Proofs.Roster
import EventAtlas.Proofs.Scope.Spelling
import EventAtlas.Proofs.Source.Parameter
import EventAtlas.Proofs.Text.LineStart
import EventAtlas.Source.Import

/-!
# Imports as they are written

`WritesImport` says how a line may import a class: with a keyword in any case, blanks where they may
stand, and an alias or none. The lines between may be anything that does not begin with the keyword.
What is found in such a text are the imports of its lines in their order. Blank lines in front of
one of them are read with it, which neither hides it nor counts it twice.
-/

namespace EventAtlas

open Text

/-- A word character of ASCII may stand in an import. -/
theorem Source.isImportChar_of_isAsciiWord {c : Char} (word : isAsciiWord c = true) :
    isImportChar c = true := by
  simp only [isAsciiWord, Char.isAlphanum, Bool.or_eq_true] at word
  rcases word with (letter | digit) | line
  · simp [isImportChar, isLetterAnyCase_of_isAlpha letter]
  · simp [isImportChar, digit]
  · simp [isImportChar, line]

namespace ClassId

variable {id : ClassId} {c : Char}

/-- An identifier is made of segments that hold nothing but letters, digits and underscores of
ASCII. -/
def PlainSegments (id : ClassId) : Prop :=
  ∀ segment ∈ fields separator id.toList, segment ≠ [] ∧ ∀ c ∈ segment, isAsciiWord c = true

instance : DecidablePred PlainSegments :=
  fun _ => inferInstanceAs (Decidable (∀ segment ∈ _, _ ∧ _))

/-- Such segments are segments. -/
theorem PlainSegments.segmented (plain : PlainSegments id) : Segmented id := by
  intro segment listed
  obtain ⟨some, words⟩ := plain segment listed
  refine ⟨some, fun c member => ?_⟩
  have word := words c member
  have bounds := toNat_of_isAsciiWord word
  refine ⟨isBlank_of_toNat (by omega) (by omega), ?_, ?_⟩
  all_goals
    rintro rfl
    revert word
    decide

/-- They have at least one character. -/
theorem PlainSegments.ne_nil (plain : PlainSegments id) : id.toList ≠ [] := by
  obtain ⟨c, rest, chars, -⟩ := plain.segmented.exists_cons
  rw [chars]
  exact List.cons_ne_nil c rest

/-- All of their characters may stand in an import. -/
theorem PlainSegments.isImportChar (plain : PlainSegments id) :
    ∀ c ∈ id.toList, Source.isImportChar c = true := by
  intro c member
  rcases @exists_field_of_mem separator c _ member with rfl | ⟨segment, listed, inside⟩
  · decide
  · exact Source.isImportChar_of_isAsciiWord ((plain segment listed).2 c inside)

end ClassId

namespace Source

variable {text rest name clause : List Char} {given : Option (List Char)} {c : Char}

/-! ### What is read of an import -/

/-- How the alias of an import may be written, if there is one. -/
inductive WritesAlias : (written : List Char) → (given : Option (List Char)) → Prop
  | none : WritesAlias [] none
  | given {gap keyword gap' short : List Char} (some : gap ≠ []) (blank : Text.Gap gap)
      (spells : Spells "as".toList keyword) (some' : gap' ≠ []) (blank' : Text.Gap gap')
      (named : short ≠ []) (words : ∀ c ∈ short, isWord c = true) :
      WritesAlias (gap ++ (keyword ++ (gap' ++ short))) (.some short)

/-- An alias is read exactly if it stands there. -/
theorem readAlias_eq_some_iff {short : List Char} : readAlias text = some (short, rest) ↔
    ∃ clause, WritesAlias clause (some short) ∧ text = clause ++ rest ∧
      ∀ c ∈ rest.head?, isWord c = false := by
  simp only [readAlias, Option.bind_eq_bind, Option.bind_eq_some_iff, afterKeyword?_eq_some_iff,
    afterBlanks?_eq_some_iff, run?_eq_some_iff_append]
  constructor
  · rintro ⟨_, ⟨gap, some, blank, rfl, -⟩, _, ⟨keyword, spells, rfl⟩, _,
      ⟨gap', some', blank', rfl, -⟩, named, rfl, words, stops⟩
    exact ⟨_, .given some blank spells some' blank' named words, by simp, stops⟩
  · rintro ⟨_, writes, rfl, stops⟩
    cases writes with | given some blank spells some' blank' named words =>
    have ink : ∀ c ∈ (short ++ rest).head?, isBlank c = false :=
      head?_append_of_ne_nil named (fun c member => isBlank_of_isWord (words c member)) rest
    refine ⟨_, ⟨_, some, blank, by simp only [List.append_assoc], ?_⟩, _, ⟨_, spells, rfl⟩, _,
      ⟨_, some', blank', rfl, ink⟩, named, rfl, words, stops⟩
    exact spells.inked (by decide) (by decide) _

/-- No blank is in a name that is imported. -/
theorem isBlank_of_isImportChar (accepted : isImportChar c = true) : isBlank c = false := by
  rw [Bool.eq_false_iff]
  intro blank
  have noLetter := isLetterAnyCase_of_isBlank blank
  have noDigit : isTypeChar c = false := isTypeChar_of_isBlank blank
  simp only [isTypeChar, Char.isAlphanum, Bool.or_eq_false_iff] at noDigit
  simp [isImportChar, noLetter, noDigit.1.1.2, noDigit.1.2, noDigit.2, ClassId.separator]
    at accepted

/-- Behind an alias or without one, a semicolon follows or blanks do. -/
theorem WritesAlias.ends {accepts : Char → Bool} {gap : List Char}
    (writes : WritesAlias clause given) (rest : List Char) (blank : Text.Gap gap)
    (inked : ∀ c, accepts c = true → isBlank c = false) (mark : accepts ';' = false) :
    ∀ c ∈ (clause ++ (gap ++ ';' :: rest)).head?, accepts c = false := by
  have apart {gap : List Char} (blank : Text.Gap gap) : ∀ c ∈ gap, accepts c = false := by
    intro c member
    rw [Bool.eq_false_iff]
    intro accepted
    exact blank.not_mem (inked c accepted) member
  cases writes with
  | none =>
    rw [List.nil_append]
    exact head?_append_of_forall (apart blank) (by simp [mark])
  | given some blank' =>
    rw [List.append_assoc]
    exact head?_append_of_ne_nil some (apart blank') _

/-- An alias is read in front of the semicolon if there is one, and no other one. -/
theorem WritesAlias.readAlias_eq {gap : List Char} (writes : WritesAlias clause given)
    (rest : List Char) (blank : Text.Gap gap) :
    readAlias (clause ++ (gap ++ ';' :: rest)) = given.map (·, gap ++ ';' :: rest) := by
  cases writes with
  | none =>
    rw [List.nil_append, Option.map_none, Option.eq_none_iff_forall_ne_some]
    rintro ⟨short, left⟩ read
    obtain ⟨_, writes, parted, -⟩ := readAlias_eq_some_iff.1 read
    cases writes with | given some blank' spells some' blank'' named words =>
    rw [List.append_assoc, List.append_assoc] at parted
    have same := eq_of_gap_append blank blank' (by simp +decide)
      (spells.inked (by decide) (by decide) _) parted
    -- The keyword would have to start with the semicolon.
    obtain ⟨c, others, rfl, folded, -⟩ := spells_cons_iff.1 spells
    obtain rfl : ';' = c := (List.cons.inj same).1
    exact absurd folded (by decide)
  | given some blank' spells some' blank'' named words =>
    have stops : ∀ c ∈ (gap ++ ';' :: rest).head?, isWord c = false :=
      WritesAlias.none.ends rest blank (fun c => isBlank_of_isWord) (by decide)
    exact readAlias_eq_some_iff.2
      ⟨_, .given some blank' spells some' blank'' named words, rfl, stops⟩

/-- An import is read exactly if it stands there behind blanks: the keyword, a name, an alias if
there is one, and a semicolon. -/
theorem readImport_eq_some_iff : readImport text = some ((name, given), rest) ↔
    ∃ indent keyword gap clause gap', Text.Gap indent ∧ Spells "use".toList keyword ∧ gap ≠ [] ∧
      Text.Gap gap ∧ name ≠ [] ∧ (∀ c ∈ name, isImportChar c = true) ∧ WritesAlias clause given ∧
      Text.Gap gap' ∧
      text = indent ++ (keyword ++ (gap ++ (name ++ (clause ++ (gap' ++ ';' :: rest))))) := by
  simp only [readImport, Option.bind_eq_bind, Option.bind_eq_some_iff, afterKeyword?_eq_some_iff,
    afterBlanks?_eq_some_iff, after?_eq_some_iff, beq_iff_eq]
  constructor
  · rintro ⟨_, ⟨keyword, spells, opened⟩, _, ⟨gap, some, blank, rfl, -⟩, ⟨_, left⟩, ran, _,
      ⟨_, rfl, closed⟩, same⟩
    obtain ⟨indent, indented, rfl, -⟩ := trimLeft_eq_iff.1 opened
    obtain ⟨named, rfl, accepted, -⟩ := run?_eq_some_iff_append.1 ran
    obtain ⟨pair, rfl⟩ := Prod.mk.inj (Option.some.inj same)
    obtain ⟨rfl, chosen⟩ := Prod.mk.inj pair
    obtain ⟨gap', blank', ended, -⟩ := trimLeft_eq_iff.1 closed
    cases aliased : readAlias left with
    | none =>
      rw [aliased] at chosen ended
      obtain rfl : none = given := chosen
      obtain rfl : left = gap' ++ ';' :: _ := ended
      exact ⟨indent, keyword, gap, [], gap', indented, spells, some, blank, named, accepted, .none,
        blank', rfl⟩
    | some reading =>
      obtain ⟨short, behind⟩ := reading
      rw [aliased] at chosen ended
      obtain rfl : .some short = given := chosen
      obtain rfl : behind = gap' ++ ';' :: _ := ended
      obtain ⟨clause, writes, rfl, -⟩ := readAlias_eq_some_iff.1 aliased
      exact ⟨indent, keyword, gap, clause, gap', indented, spells, some, blank, named, accepted,
        writes, blank', rfl⟩
  · rintro ⟨indent, keyword, gap, clause, gap', indented, spells, some, blank, named, accepted,
      writes, blank', whole⟩
    subst whole
    have ink := spells.inked (by decide) (by decide)
      (gap ++ (name ++ (clause ++ (gap' ++ ';' :: rest))))
    have inkName := head?_append_of_ne_nil named
      (fun c member => isBlank_of_isImportChar (accepted c member))
      (clause ++ (gap' ++ ';' :: rest))
    have stops := writes.ends rest blank' (fun c => isBlank_of_isImportChar) (by decide)
    have closed : trimLeft (gap' ++ ';' :: rest) = ';' :: rest :=
      trimLeft_eq_iff.2 ⟨gap', blank', rfl, by simp +decide⟩
    refine ⟨_, ⟨keyword, spells, trimLeft_eq_iff.2 ⟨indent, indented, rfl, ink⟩⟩, _,
      ⟨gap, some, blank, rfl, inkName⟩, (name, clause ++ (gap' ++ ';' :: rest)),
      run?_eq_some_iff_append.2 ⟨named, rfl, accepted, stops⟩, ?_⟩
    simp only [writes.readAlias_eq rest blank']
    cases writes with
    | none => exact ⟨rest, ⟨';', rfl, closed⟩, rfl⟩
    | given => exact ⟨rest, ⟨';', rfl, closed⟩, rfl⟩

/-- Blanks in front of an import make no difference. -/
theorem skipsBlanks_readImport : SkipsBlanks readImport := by
  intro gap text blank
  rw [readImport, trimLeft_gap_append blank]
  rfl

/-- An import has at least its semicolon. -/
theorem takes_readImport : Takes readImport := by
  rintro text ⟨name, given⟩ rest read
  obtain ⟨indent, keyword, gap, clause, gap', -, -, -, -, -, -, -, -, rfl⟩ :=
    readImport_eq_some_iff.1 read
  refine ⟨indent ++ (keyword ++ (gap ++ (name ++ (clause ++ (gap' ++ [';']))))), by simp, by simp⟩

/-- Nothing is read where the keyword does not come first. -/
theorem readImport_eq_none (apart : ¬ StartsSpelled "use".toList (trimLeft text)) :
    readImport text = none := by
  rw [startsSpelled_iff, Bool.not_eq_true, Option.isSome_eq_false_iff, Option.isNone_iff_eq_none]
    at apart
  rw [readImport, apart]
  rfl

/-! ### Imports line by line -/

/-- The class that a file imports, and the alias if one is given. -/
structure Import where
  target : ClassId
  given : Option String

/-- The name under which it is imported: the alias, or the last segment of the identifier. -/
def Import.short (item : Import) : String :=
  item.given.getD (.ofList ((fields ClassId.separator item.target.toList).getLast
    (fields_ne_nil _ _)))

/-- How a line may import a class. The identifier may have a backslash in front, and anything may
stand behind the semicolon. -/
inductive WritesImport : (line : List Char) → Import → Prop
  | written {indent keyword gap root clause gap' tail : List Char} {target : ClassId}
      {given : Option String} (indented : Text.Gap indent) (spells : Spells "use".toList keyword)
      (some : gap ≠ []) (blank : Text.Gap gap) (rooted : root = [] ∨ root = [ClassId.separator])
      (plain : ClassId.PlainSegments target) (writes : WritesAlias clause (given.map String.toList))
      (blank' : Text.Gap gap') :
      WritesImport (indent ++ (keyword ++ (gap ++ (root ++ target.toList ++
        (clause ++ (gap' ++ ';' :: tail)))))) ⟨target, given⟩

/-- A line imports a class, or it is not one that begins with the keyword. -/
inductive WritesImportLine : (line : List Char) → Option Import → Prop
  | imports {line : List Char} {item : Import} (writes : WritesImport line item) :
      WritesImportLine line (some item)
  | other {line : List Char} (apart : ¬ StartsSpelled "use".toList (trimLeft line)) :
      WritesImportLine line none

/-- The entry of an import is its name and its class. -/
theorem importEntry_eq {root : List Char} {target : ClassId} {given : Option String}
    (rooted : root = [] ∨ root = [ClassId.separator]) (plain : ClassId.PlainSegments target) :
    importEntry (root ++ target.toList) (given.map String.toList) =
      ((Import.mk target given).short, target) := by
  have writes : ClassId.Writes (.ofList (root ++ target.toList)) target := by
    refine ⟨[], [], root, [], by decide, by decide, fun c member => ?_, by decide, by simp⟩
    rcases rooted with rfl | rfl
    · cases member
    · exact List.mem_singleton.1 member
  have canonical := writes.canonical_eq plain.segmented
  cases given with
  | none => simp only [importEntry, Option.map_none, canonical, ClassId.shortName_eq,
      Import.short, Option.getD_none]
  | some short => simp only [importEntry, Option.map_some, canonical, String.ofList_toList,
      Import.short, Option.getD_some]

/-- A line has its import for the reader, or nothing. -/
theorem WritesImportLine.readsLine {line : List Char} {item : Option Import}
    (writes : WritesImportLine line item) :
    ∃ found, ReadsLine readImport line found ∧
      found.map (fun found => importEntry found.1 found.2) =
        item.map fun item => (item.short, item.target) := by
  cases writes with
  | imports writes =>
    cases writes with
    | @written indent keyword gap root clause gap' tail target given indented spells some blank
        rooted plain writes blank' =>
    refine ⟨.some (root ++ target.toList, given.map String.toList), ?_,
      congrArg Option.some (importEntry_eq rooted plain)⟩
    have parted : indent ++ (keyword ++ (gap ++ (root ++ target.toList ++
        (clause ++ (gap' ++ ';' :: tail))))) = indent ++ (keyword ++ (gap ++
          (root ++ target.toList ++ (clause ++ (gap' ++ [';']))))) ++ tail := by simp
    rw [parted]
    refine .value (by simp) fun after _ => readImport_eq_some_iff.2 ⟨indent, keyword, gap, clause,
      gap', indented, spells, some, blank, by simp [plain.ne_nil], ?_, writes, blank', by simp⟩
    intro c member
    rcases List.mem_append.1 member with inRoot | inTarget
    · rcases rooted with rfl | rfl
      · cases inRoot
      · rw [List.mem_singleton.1 inRoot]
        decide
    · exact plain.isImportChar c inTarget
  | other apart =>
    refine ⟨none, ?_, rfl⟩
    by_cases blank : Text.Gap line
    · exact .blank blank
    · refine .nothing fun after ends => readImport_eq_none ?_
      rw [trimLeft_append_of_not_gap blank]
      exact fun starts => apart (starts.of_append ends (by decide))

/-- The imports of a text are those of its lines. Under each name the last one counts. -/
theorem imports_of_lines {source : String} {items : List (Option Import)}
    (lines : List.Forall₂ WritesImportLine (fields '\n' source.toList) items) :
    imports source =
        .ofList (items.reduceOption.map fun item => (item.short, item.target)) ∧
      ∀ short target, (imports source).get? short = some target ↔
        ∃ before item after, items.reduceOption = before ++ item :: after ∧
          item.short = short ∧ item.target = target ∧
            ∀ later ∈ after, later.short ≠ short := by
  have found : (findAllAtLineStarts readImport source.toList).map
      (fun found => importEntry found.1 found.2) =
        (items.map (Option.map fun item => (item.short, item.target))).reduceOption :=
    map_findAllAtLineStarts_of_lines skipsBlanks_readImport takes_readImport
      (List.forall₂_map_right_iff.2 (lines.imp fun _ _ writes => writes.readsLine))
  have whole : imports source =
      .ofList (items.reduceOption.map fun item => (item.short, item.target)) := by
    rw [imports, found, List.reduceOption_map]
  refine ⟨whole, fun short target => ?_⟩
  rw [whole, Roster.get?_ofList_eq_some_iff]
  constructor
  · rintro ⟨before, after, parted, last⟩
    obtain ⟨earlier, others, listed, rfl, here⟩ := List.map_eq_append_iff.1 parted
    obtain ⟨item, later, rfl, entered, rfl⟩ := List.map_eq_cons_iff.1 here
    obtain ⟨rfl, rfl⟩ := Prod.mk.inj entered
    exact ⟨earlier, item, later, listed, rfl, rfl,
      fun other member => last _ (List.mem_map_of_mem member)⟩
  · rintro ⟨before, item, after, listed, rfl, rfl, last⟩
    refine ⟨_, _, by rw [listed, List.map_append, List.map_cons], fun entry member => ?_⟩
    obtain ⟨later, behind, rfl⟩ := List.mem_map.1 member
    exact last later behind

/-- A text with imports in several spellings, one name of them twice. -/
def sharedName : String :=
  "<?php\n\n  Use \\Pay\\Client aS C;\nfinal class X {}\nuse Pay\\as ;\nuse Other\\C;"

/-- The first of its imports. -/
theorem writesImport_client :
    WritesImport "  Use \\Pay\\Client aS C;".toList ⟨"Pay\\Client", some "C"⟩ := by
  have parted : "  Use \\Pay\\Client aS C;".toList =
      "  ".toList ++ ("Use".toList ++ ([' '] ++ (['\\'] ++ "Pay\\Client".toList ++
        ([' '] ++ ("aS".toList ++ ([' '] ++ "C".toList)) ++ ([] ++ ';' :: []))))) := by
    decide
  rw [parted]
  exact .written (by decide) (by decide) (by decide) (by decide) (.inr rfl) (by decide)
    (.given (by decide) (by decide) (by decide) (by decide) (by decide) (by decide) (by decide))
    (by decide)

/-- An identifier whose last segment is the other keyword. -/
theorem writesImport_as : WritesImport "use Pay\\as ;".toList ⟨"Pay\\as", none⟩ := by
  have parted : "use Pay\\as ;".toList = [] ++ ("use".toList ++ ([' '] ++
      ([] ++ "Pay\\as".toList ++ ([] ++ ([' '] ++ ';' :: []))))) := by
    decide
  rw [parted]
  exact .written (by decide) (by decide) (by decide) (by decide) (.inl rfl) (by decide) .none
    (by decide)

/-- The import that replaces the first one. -/
theorem writesImport_other : WritesImport "use Other\\C;".toList ⟨"Other\\C", none⟩ := by
  have parted : "use Other\\C;".toList = [] ++ ("use".toList ++ ([' '] ++
      ([] ++ "Other\\C".toList ++ ([] ++ ([] ++ ';' :: []))))) := by
    decide
  rw [parted]
  exact .written (by decide) (by decide) (by decide) (by decide) (.inl rfl) (by decide) .none
    (by decide)

/-- The name stands for the class that is imported last. -/
theorem imports_of_lines_sharedName : (imports sharedName).get? "C" = some "Other\\C" ∧
    (imports sharedName).get? "as" = some "Pay\\as" := by
  have cut : fields '\n' sharedName.toList = ["<?php".toList, [],
      "  Use \\Pay\\Client aS C;".toList, "final class X {}".toList, "use Pay\\as ;".toList,
      "use Other\\C;".toList] := by
    decide +kernel
  have lines : List.Forall₂ WritesImportLine (fields '\n' sharedName.toList)
      [none, none, some ⟨"Pay\\Client", some "C"⟩, none, some ⟨"Pay\\as", none⟩,
        some ⟨"Other\\C", none⟩] := by
    rw [cut]
    exact .cons (.other (by decide)) <| .cons (.other (by decide)) <|
      .cons (.imports writesImport_client) <| .cons (.other (by decide)) <|
        .cons (.imports writesImport_as) <| .cons (.imports writesImport_other) .nil
  obtain ⟨-, found⟩ := imports_of_lines lines
  constructor
  · exact (found _ _).2 ⟨[⟨"Pay\\Client", some "C"⟩, ⟨"Pay\\as", none⟩], _, [], rfl, by decide,
      rfl, by simp⟩
  · exact (found _ _).2 ⟨[⟨"Pay\\Client", some "C"⟩], _, [⟨"Other\\C", none⟩], rfl, by decide,
      rfl, by decide⟩

end Source

end EventAtlas
