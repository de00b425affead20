import EventAtlas.Api.WrapperCall
import EventAtlas.Proofs.Api.Endpoint
import EventAtlas.Proofs.Api.SdkCall

/-!
# Calls through the wrapper, as they are written

`Writes` says how a call with a literal path may be written, and the reader reads exactly that. What
stands between the parenthesis and the first comma is not looked at, so calls may start inside of
one another. Then they have the comma and the path in common, so that a search that passes over what
it read still finds every path there is.
-/

namespace EventAtlas.WrapperCall

open Text

variable {text rest name gap argument literal host path : List Char}

/-- The names of the wrapper in small letters. -/
def names : List String := ["performhttpcall", "performhttpcalltofullurl"]

/-- The addresses of the service in small letters. -/
def addresses : List String := ["http://api.mollie.com/", "https://api.mollie.com/"]

/-- A literal path: a version, without the slash in front of it, and what comes after it. -/
def IsPath (path : List Char) : Prop :=
  ∃ version more, '/' :: path = version ++ more ∧ Endpoint.IsVersion version ∧ more ≠ [] ∧
    ∀ c ∈ more, isPathChar c = true

/-- A literal between quotation marks: a path, after the address of the service or without one. -/
inductive Quotes : (literal host path : List Char) → Prop
  | quoted {gap host path : List Char} {opening closing : Char} (blank : Gap gap)
      (opens : isQuote opening = true) (addressed : host = [] ∨ SpellsOne addresses host)
      (isPath : IsPath path) (closes : isQuote closing = true) :
      Quotes (gap ++ opening :: (host ++ (path ++ [closing]))) host path

/-- How a call may be written: the name of the wrapper, and in parentheses something without a
comma, a comma, and a literal path. What comes after the literal is left open. -/
inductive Writes : (written argument host path : List Char) → Prop
  | call {name gap argument literal host path : List Char} (named : SpellsOne names name)
      (blank : Gap gap) (some : argument ≠ []) (single : ',' ∉ argument)
      (quotes : Quotes literal host path) :
      Writes (name ++ (gap ++ '(' :: (argument ++ ',' :: literal))) argument host path

/-! ### Names and addresses -/

/-- What is passed as a name is a name. -/
theorem exists_of_afterName? (read : afterName? text = some rest) :
    ∃ name, SpellsOne names name ∧ text = name ++ rest := by
  simp only [afterName?, Option.bind_eq_bind, Option.bind_eq_some_iff] at read
  obtain ⟨others, passed, same⟩ := read
  obtain ⟨name, spells, rfl⟩ := afterKeyword?_eq_some_iff.1 passed
  cases longer : afterKeyword? "tofullurl".toList others with
  | none =>
    rw [longer] at same
    exact ⟨name, ⟨_, List.mem_cons_self .., spells⟩, by rw [← Option.some.inj same]; rfl⟩
  | some left =>
    rw [longer] at same
    obtain ⟨more, spells', rfl⟩ := afterKeyword?_eq_some_iff.1 longer
    refine ⟨name ++ more, ⟨_, List.mem_cons_of_mem _ (List.mem_cons_self ..),
      spells_append_iff.2 ⟨name, more, rfl, spells, spells'⟩⟩, ?_⟩
    rw [← Option.some.inj same, List.append_assoc]
    rfl

/-- A name is passed where it ends. -/
theorem afterName?_append (named : SpellsOne names name)
    (ends : ∀ c ∈ rest.head?, foldCase c ≠ 't') : afterName? (name ++ rest) = some rest := by
  obtain ⟨word, listed, spells⟩ := named
  simp only [names, List.mem_cons, List.not_mem_nil, or_false] at listed
  rcases listed with rfl | rfl
  · have passed : afterKeyword? "performhttpcall".toList (name ++ rest) = some rest :=
      afterKeyword?_eq_some_iff.2 ⟨name, spells, rfl⟩
    have stops : afterKeyword? "tofullurl".toList rest = none := afterKeyword?_eq_none ends
    simp only [afterName?, passed, stops, Option.bind_eq_bind, Option.bind_some, Option.getD_none]
  · obtain ⟨one, other, rfl, spells, spells'⟩ := spells_append_iff.1
      (show Spells ("performhttpcall".toList ++ "tofullurl".toList) name from spells)
    have passed : afterKeyword? "performhttpcall".toList (one ++ other ++ rest) =
        some (other ++ rest) :=
      afterKeyword?_eq_some_iff.2 ⟨one, spells, List.append_assoc ..⟩
    have goes : afterKeyword? "tofullurl".toList (other ++ rest) = some rest :=
      afterKeyword?_eq_some_iff.2 ⟨other, spells', rfl⟩
    simp only [afterName?, passed, goes, Option.bind_eq_bind, Option.bind_some, Option.getD_some]

/-- What is passed as an address is an address. -/
theorem exists_of_afterHost? (read : afterHost? text = some rest) :
    ∃ host, SpellsOne addresses host ∧ text = host ++ rest := by
  simp only [afterHost?, Option.bind_eq_bind, Option.bind_eq_some_iff] at read
  obtain ⟨others, passed, same⟩ := read
  obtain ⟨scheme, spells, rfl⟩ := afterKeyword?_eq_some_iff.1 passed
  cases secure : afterKeyword? ['s'] others with
  | none =>
    rw [secure] at same
    obtain ⟨server, spells', rfl⟩ := afterKeyword?_eq_some_iff.1 same
    exact ⟨scheme ++ server, ⟨_, List.mem_cons_self ..,
      spells_append_iff.2 ⟨scheme, server, rfl, spells, spells'⟩⟩, (List.append_assoc ..).symm⟩
  | some left =>
    rw [secure] at same
    obtain ⟨letter, spells'', rfl⟩ := afterKeyword?_eq_some_iff.1 secure
    obtain ⟨server, spells', rfl⟩ := afterKeyword?_eq_some_iff.1 same
    exact ⟨scheme ++ (letter ++ server), ⟨_, List.mem_cons_of_mem _ (List.mem_cons_self ..),
      spells_append_iff.2 ⟨scheme, _, rfl, spells,
        spells_append_iff.2 ⟨letter, server, rfl, spells'', spells'⟩⟩⟩, by simp⟩

/-- An address is passed. -/
theorem afterHost?_append (addressed : SpellsOne addresses host) :
    afterHost? (host ++ rest) = some rest := by
  obtain ⟨word, listed, spells⟩ := addressed
  simp only [addresses, List.mem_cons, List.not_mem_nil, or_false] at listed
  rcases listed with rfl | rfl
  · obtain ⟨scheme, server, rfl, spells, spells'⟩ := spells_append_iff.1
      (show Spells ("http".toList ++ "://api.mollie.com/".toList) host from spells)
    have passed : afterKeyword? "http".toList (scheme ++ server ++ rest) = some (server ++ rest) :=
      afterKeyword?_eq_some_iff.2 ⟨scheme, spells, List.append_assoc ..⟩
    have plain : afterKeyword? ['s'] (server ++ rest) = none := by
      obtain ⟨colon, more, rfl, folded, -⟩ := spells_cons_iff.1 spells'
      refine afterKeyword?_eq_none fun c first => ?_
      obtain rfl : colon = c := by simpa using first
      rw [folded]
      decide
    have goes : afterKeyword? "://api.mollie.com/".toList (server ++ rest) = some rest :=
      afterKeyword?_eq_some_iff.2 ⟨server, spells', rfl⟩
    simp only [afterHost?, passed, plain, goes, Option.bind_eq_bind, Option.bind_some,
      Option.getD_none]
  · obtain ⟨scheme, secured, rfl, first, second⟩ := spells_append_iff.1
      (show Spells ("http".toList ++ (['s'] ++ "://api.mollie.com/".toList)) host from spells)
    obtain ⟨letter, server, rfl, second, third⟩ := spells_append_iff.1 second
    have passed : afterKeyword? "http".toList (scheme ++ (letter ++ server) ++ rest) =
        some (letter ++ (server ++ rest)) :=
      afterKeyword?_eq_some_iff.2 ⟨scheme, first, by simp⟩
    have secure : afterKeyword? ['s'] (letter ++ (server ++ rest)) = some (server ++ rest) :=
      afterKeyword?_eq_some_iff.2 ⟨letter, second, rfl⟩
    have goes : afterKeyword? "://api.mollie.com/".toList (server ++ rest) = some rest :=
      afterKeyword?_eq_some_iff.2 ⟨server, third, rfl⟩
    simp only [afterHost?, passed, secure, goes, Option.bind_eq_bind, Option.bind_some,
      Option.getD_some]

/-! ### Literals -/

theorem isQuote_iff {c : Char} : isQuote c = true ↔ c = '"' ∨ c = '\'' := by
  simp [isQuote]

/-- The characters of a literal path are the letter of the version, digits, and path characters. -/
theorem isPath_iff : IsPath path ↔ ∃ letter digits more,
    path = letter :: (digits ++ '/' :: more) ∧ (letter = 'v' ∨ letter = 'V') ∧ digits ≠ [] ∧
      (∀ c ∈ digits, isDecimalDigit c = true) ∧ more ≠ [] ∧ ∀ c ∈ more, isPathChar c = true := by
  constructor
  · rintro ⟨_, more, same, ⟨letter, digits, rfl, inCase, some, digit⟩, goes, accepted⟩
    exact ⟨letter, digits, more, by simpa using same, inCase, some, digit, goes, accepted⟩
  · rintro ⟨letter, digits, more, rfl, inCase, some, digit, goes, accepted⟩
    exact ⟨_, more, by simp, ⟨letter, digits, rfl, inCase, some, digit⟩, goes, accepted⟩

/-- All characters of a literal path are path characters. -/
theorem IsPath.isPathChar (isPath : IsPath path) : ∀ c ∈ path, isPathChar c = true := by
  obtain ⟨version, more, same, isVersion, -, accepted⟩ := isPath
  intro c member
  have inside : c ∈ version ++ more := same ▸ List.mem_cons_of_mem _ member
  rcases List.mem_append.1 inside with inVersion | behind
  · simp [WrapperCall.isPathChar, isVersion.isPathChar c inVersion]
  · exact accepted c behind

/-- A literal path does not start like an address. -/
theorem IsPath.afterHost?_append (isPath : IsPath path) : afterHost? (path ++ rest) = none := by
  obtain ⟨letter, digits, more, rfl, inCase, -⟩ := isPath_iff.1 isPath
  have other : ∀ c ∈ (letter :: (digits ++ '/' :: more) ++ rest).head?, foldCase c ≠ 'h' := by
    rcases inCase with rfl | rfl <;> simp +decide
  have stops : afterKeyword? "http".toList (letter :: (digits ++ '/' :: more) ++ rest) = none :=
    afterKeyword?_eq_none other
  rw [afterHost?, stops]
  rfl

/-- The end of the reader: a path, with or without an address, and the quotation mark that
closes it. -/
def readQuoted : Reader (List Char) := fun text => do
  let path := (afterHost? text).getD text
  let text ← Endpoint.afterVersion? path
  let (_, text) ← run? isPathChar text
  let rest ← after? isQuote text
  some (path.take (path.length - text.length), rest)

/-- A path is read up to the quotation mark. -/
theorem readQuoted_eq_some_iff : readQuoted text = some (path, rest) ↔
    ∃ host closing, (host = [] ∨ SpellsOne addresses host) ∧ IsPath path ∧ isQuote closing = true ∧
      text = host ++ (path ++ closing :: rest) := by
  have noPathChar {closing : Char} (closes : isQuote closing = true) :
      isPathChar closing = false := by
    rcases isQuote_iff.1 closes with rfl | rfl <;> decide
  have taken (path left : List Char) : (path ++ left).take ((path ++ left).length - left.length) =
      path := by simp
  simp only [readQuoted, Option.bind_eq_bind, Option.bind_eq_some_iff, after?_eq_some_iff,
    Endpoint.afterVersion?_eq_some_iff]
  constructor
  · rintro ⟨_, ⟨letter, digits, shown, inCase, some, digit⟩, ⟨more, _⟩, ran, left,
      ⟨closing, closes, rfl⟩, same⟩
    obtain ⟨goes, rfl, accepted, -⟩ := run?_eq_some_iff_append.1 ran
    have parted : letter :: (digits ++ '/' :: (more ++ closing :: left)) =
        letter :: (digits ++ '/' :: more) ++ closing :: left := by simp
    rw [shown, parted, taken, Option.some.injEq, Prod.mk.injEq] at same
    obtain ⟨rfl, rfl⟩ := same
    have isPath : IsPath (letter :: (digits ++ '/' :: more)) :=
      isPath_iff.2 ⟨letter, digits, more, rfl, inCase, some, digit, goes, accepted⟩
    cases address : afterHost? text with
    | none =>
      rw [address, Option.getD_none, parted] at shown
      exact ⟨[], closing, .inl rfl, isPath, closes, shown⟩
    | some left =>
      rw [address, Option.getD_some, parted] at shown
      obtain ⟨host, addressed, rfl⟩ := exists_of_afterHost? address
      exact ⟨host, closing, .inr addressed, isPath, closes, by rw [shown]⟩
  · rintro ⟨host, closing, addressed, isPath, closes, rfl⟩
    have shown : (afterHost? (host ++ (path ++ closing :: rest))).getD
        (host ++ (path ++ closing :: rest)) = path ++ closing :: rest := by
      rcases addressed with rfl | addressed
      · rw [List.nil_append, isPath.afterHost?_append, Option.getD_none]
      · rw [afterHost?_append addressed, Option.getD_some]
    rw [shown]
    obtain ⟨letter, digits, more, rfl, inCase, some, digit, goes, accepted⟩ := isPath_iff.1 isPath
    have ran : run? isPathChar (more ++ closing :: rest) = .some (more, closing :: rest) :=
      run?_eq_some_iff_append.2 ⟨goes, rfl, accepted, by simpa using noPathChar closes⟩
    exact ⟨_, ⟨letter, digits, by simp, inCase, some, digit⟩, _, ran, rest, ⟨closing, closes, rfl⟩,
      by rw [taken]⟩

/-! ### Calls -/

/-- No mark that may stand after a name goes on with it. -/
theorem afterName?_name (named : SpellsOne names name) (blank : Gap gap) :
    afterName? (name ++ (gap ++ '(' :: rest)) = some (gap ++ '(' :: rest) := by
  refine afterName?_append named fun c first => ?_
  cases gap with
  | nil =>
    obtain rfl : '(' = c := by simpa using first
    decide
  | cons d gap =>
    obtain rfl : d = c := by simpa using first
    have blank := blank d (List.mem_cons_self ..)
    rw [foldCase_of_isBlank blank]
    rintro rfl
    exact absurd blank (by decide)

/-- What is read are the calls as they may be written. -/
theorem read_eq_some_iff : read text = some (path, rest) ↔
    ∃ written argument host, Writes written argument host path ∧ text = written ++ rest := by
  have parted : read text = (do
      let text ← afterName? text
      let text ← after? (· == '(') (trimLeft text)
      let (_, text) ← run? (· != ',') text
      let text ← after? (· == ',') text
      let text ← after? isQuote (trimLeft text)
      readQuoted text) := rfl
  simp only [parted, Option.bind_eq_bind, Option.bind_eq_some_iff, after?_eq_some_iff, beq_iff_eq]
  constructor
  · rintro ⟨_, passed, _, ⟨_, rfl, opened⟩, ⟨argument, _⟩, ran, _, ⟨_, rfl, rfl⟩, _,
      ⟨opening, opens, literal⟩, quoted⟩
    obtain ⟨name, named, rfl⟩ := exists_of_afterName? passed
    obtain ⟨gap, blank, rfl, -⟩ := trimLeft_eq_iff.1 opened
    obtain ⟨some, rfl, single, -⟩ := run?_eq_some_iff_append.1 ran
    obtain ⟨gap', blank', rfl, -⟩ := trimLeft_eq_iff.1 literal
    obtain ⟨host, closing, addressed, isPath, closes, rfl⟩ := readQuoted_eq_some_iff.1 quoted
    have noComma : ',' ∉ argument := fun member => by simpa using single _ member
    exact ⟨_, argument, host, .call named blank some noComma
      (.quoted blank' opens addressed isPath closes), by simp⟩
  · rintro ⟨_, argument, host, @⟨name, gap, _, _, _, _, named, blank, some, single,
      @⟨gap', _, _, opening, closing, blank', opens, addressed, isPath, closes⟩⟩, rfl⟩
    have ran (rest : List Char) :
        run? (· != ',') (argument ++ ',' :: rest) = .some (argument, ',' :: rest) := by
      refine run?_eq_some_iff_append.2 ⟨some, rfl, fun c member => ?_, by simp⟩
      rw [bne_iff_ne]
      rintro rfl
      exact single member
    have noBlank : isBlank opening = false := by
      rcases isQuote_iff.1 opens with rfl | rfl <;> decide
    have quoted : readQuoted (host ++ (path ++ closing :: rest)) = .some (path, rest) :=
      readQuoted_eq_some_iff.2 ⟨host, closing, addressed, isPath, closes, rfl⟩
    have literal : trimLeft (gap' ++ opening :: (host ++ (path ++ closing :: rest))) =
        opening :: (host ++ (path ++ closing :: rest)) :=
      trimLeft_eq_iff.2 ⟨gap', blank', rfl, by simpa using noBlank⟩
    simp only [List.append_assoc, List.cons_append, List.nil_append]
    exact ⟨_, afterName?_name named blank, _,
      ⟨'(', rfl, trimLeft_eq_iff.2 ⟨gap, blank, rfl, by simp +decide⟩⟩, (argument, _), ran _, _,
      ⟨',', rfl, rfl⟩, _, ⟨opening, opens, literal⟩, quoted⟩

/-! ### Calls that overlap -/

/-- No literal holds a parenthesis. -/
theorem Quotes.paren_not_mem (quotes : Quotes literal host path) : '(' ∉ literal := by
  obtain ⟨blank, opens, addressed, isPath, closes⟩ := quotes
  have noQuote {c : Char} (quote : isQuote c = true) : '(' ≠ c := by
    rcases isQuote_iff.1 quote with rfl | rfl <;> decide
  have noAddress : ∀ word ∈ addresses, foldCase '(' ∉ word.toList := by decide
  have noHost : '(' ∉ host := by
    rcases addressed with rfl | addressed
    · exact List.not_mem_nil
    · exact addressed.not_mem noAddress
  have noPath : '(' ∉ path := fun member => absurd (isPath.isPathChar _ member) (by decide)
  simp [blank.not_mem (c := '(') (by decide), noQuote opens, noHost, noPath, noQuote closes]

/-- Names and gaps hold no comma and no quotation mark. -/
theorem not_mem_front {c : Char} (mark : c = ',' ∨ isQuote c = true) (named : SpellsOne names name)
    (blank : Gap gap) : c ∉ name ∧ c ∉ gap := by
  have apart : ∀ c ∈ [',', '"', '\''],
      isBlank c = false ∧ ∀ word ∈ names, foldCase c ∉ word.toList := by decide
  obtain ⟨ink, foreign⟩ := apart c (by simpa [isQuote_iff] using mark)
  exact ⟨named.not_mem foreign, blank.not_mem ink⟩

/-- No call starts inside of the literal of another one, since the literal ends before the
parenthesis of that call. -/
theorem Quotes.alone {lead inside written argument' host' path' left : List Char}
    (quotes : Quotes literal host path) (split : literal = lead ++ inside) (nonempty : inside ≠ [])
    (there : Writes written argument' host' path') : inside ++ rest ≠ written ++ left := by
  intro same
  have noParen : '(' ∉ inside := fun member =>
    quotes.paren_not_mem (split ▸ List.mem_append_right _ member)
  obtain ⟨front, closing, rfl, closes⟩ : ∃ front closing, inside = front ++ [closing] ∧
      isQuote closing = true := by
    obtain @⟨gap, _, _, opening, closing, -, -, -, -, closes⟩ := quotes
    have shut : gap ++ opening :: (host ++ (path ++ [closing])) =
        gap ++ opening :: (host ++ path) ++ [closing] := by simp
    have last : inside.getLast? = some closing := by
      rw [← List.getLast?_append_of_ne_nil lead nonempty, ← split, shut, List.getLast?_concat]
    obtain ⟨front, rfl⟩ := List.getLast?_eq_some_iff.1 last
    exact ⟨front, closing, rfl, closes⟩
  obtain @⟨name, gap, argument, literal, _, _, named, blank, -, -, -⟩ := there
  obtain ⟨noName, noGap⟩ := not_mem_front (.inr closes) named blank
  have behindName : name ++ (gap ++ '(' :: (argument' ++ ',' :: literal ++ left)) =
      front ++ closing :: rest := by simpa using same.symm
  obtain ⟨between, rfl, behindGap⟩ := exists_of_head_not_mem behindName rfl noName
  obtain ⟨behind, rfl, paren⟩ := exists_of_head_not_mem behindGap rfl noGap
  cases behind with
  | nil =>
    obtain rfl : '(' = closing := (List.cons.inj paren).1
    exact absurd closes (by decide)
  | cons d behind =>
    obtain rfl : '(' = d := (List.cons.inj paren).1
    exact noParen (by simp)

/-- The front of a call, up to its comma, holds no other comma. -/
theorem comma_not_mem_front (named : SpellsOne names name) (blank : Gap gap)
    (single : ',' ∉ argument) : ',' ∉ name ++ (gap ++ '(' :: argument) := by
  obtain ⟨noName, noGap⟩ := not_mem_front (.inl rfl) named blank
  simp [noName, noGap, single]

/-- What is read inside of a call is the path of that call. -/
theorem readsAlike_read : ReadsAlike read := by
  intro text path rest done
  obtain ⟨_, argument, host, @⟨name, gap, _, literal, _, _, named, blank, some, single, quotes⟩,
    rfl⟩ := read_eq_some_iff.1 done
  refine ⟨_, by simp, rfl, fun lead inside path' left split nonempty there => ?_⟩
  obtain ⟨_, argument', host', writes', same⟩ := read_eq_some_iff.1 there
  have split : name ++ (gap ++ '(' :: argument) ++ ',' :: literal = lead ++ inside := by
    simpa using split
  rcases exists_of_append_cons split with ⟨more, rfl⟩ | ⟨front, whole, rfl⟩
  · exact absurd same (quotes.alone rfl nonempty writes')
  · -- The other call starts in front of the comma, so that it has the same comma and literal.
    obtain @⟨name', gap', _, literal', _, _, named', blank', some', single', quotes'⟩ := writes'
    have noComma : ',' ∉ front := fun member =>
      comma_not_mem_front named blank single (whole ▸ List.mem_append_right _ member)
    have parted : front ++ ',' :: (literal ++ rest) =
        name' ++ (gap' ++ '(' :: argument') ++ ',' :: (literal' ++ left) := by simpa using same
    obtain ⟨rfl, -⟩ := eq_of_first_mark parted noComma (comma_not_mem_front named' blank' single')
    have writes : Writes (name' ++ (gap' ++ '(' :: (argument' ++ ',' :: literal)))
        argument' host path :=
      .call named' blank' some' single' quotes
    have reparted : name' ++ (gap' ++ '(' :: argument') ++ ',' :: literal ++ rest =
        name' ++ (gap' ++ '(' :: (argument' ++ ',' :: literal)) ++ rest := by simp
    have here := read_eq_some_iff.2 ⟨_, argument', host, writes, reparted⟩
    exact (Prod.mk.inj (Option.some.inj (here.symm.trans there))).1.symm

/-! ### Calls in a source -/

/-- The reader reads the paths of the calls that may be written. -/
theorem reads_read :
    Reads read fun path written => ∃ argument host, Writes written argument host path :=
  fun _ _ _ => read_eq_some_iff.trans
    ⟨fun ⟨written, argument, host, writes, same⟩ => ⟨written, ⟨argument, host, writes⟩, same⟩,
      fun ⟨written, ⟨argument, host, writes⟩, same⟩ => ⟨written, argument, host, writes, same⟩⟩

/-- A call stands somewhere in a source. -/
def StandsIn (source : String) (argument host path : List Char) : Prop :=
  Text.StandsIn (Writes · argument host path) source.toList

/-- The calls that are found are those that stand anywhere in the source. -/
theorem mem_detect_iff {source call : String} : call ∈ detect source ↔
    ∃ argument host path, StandsIn source argument host path ∧ call = signature path := by
  rw [detect, NameSet.mem_ofList, List.mem_map]
  constructor
  · rintro ⟨path, member, rfl⟩
    obtain ⟨before, written, after, parted, argument, host, writes⟩ :=
      (mem_findAll_iff_standsIn reads_read readsAlike_read).1 member
    exact ⟨argument, host, path, ⟨before, written, after, parted, writes⟩, rfl⟩
  · rintro ⟨argument, host, path, ⟨before, written, after, parted, writes⟩, rfl⟩
    refine ⟨path, (mem_findAll_iff_standsIn reads_read readsAlike_read).2 ?_, rfl⟩
    exact ⟨before, written, after, parted, argument, host, writes⟩

/-- Calls of different paths are noted differently. -/
theorem signature_inj {path path' : List Char} : signature path = signature path' ↔ path = path' :=
  (String.append_right_inj _).trans String.ofList_inj

/-- A path is found exactly if a call with it stands somewhere in the source. -/
theorem signature_mem_detect_iff {source : String} :
    signature path ∈ detect source ↔ ∃ argument host, StandsIn source argument host path := by
  rw [mem_detect_iff]
  constructor
  · rintro ⟨argument, host, path', stands, same⟩
    exact ⟨argument, host, signature_inj.1 same ▸ stands⟩
  · rintro ⟨argument, host, stands⟩
    exact ⟨argument, host, path, stands, rfl⟩

/-- At one place only one path can be called. -/
theorem Writes.unique {written other argument argument' host host' path path' left : List Char}
    (writes : Writes written argument host path) (writes' : Writes other argument' host' path')
    (same : written ++ rest = other ++ left) : path = path' :=
  reads_read.unique ⟨argument, host, writes⟩ ⟨argument', host', writes'⟩ same

/-- What comes before or after a source makes no difference to the calls in it. -/
theorem StandsIn.within {source : String} {argument host path : List Char}
    (stands : StandsIn source argument host path) (before after : String) :
    StandsIn (before ++ source ++ after) argument host path := by
  simpa [StandsIn] using Text.StandsIn.within stands before.toList after.toList

end EventAtlas.WrapperCall

/-! ### Calls of both kinds -/

namespace EventAtlas

/-- Both searches find the calls that may be read at any place of a source, also at the places that
they pass over, and at one place only one call may be read. So neither an earlier call nor text
around a source hides a call in it. -/
theorem calls_at_every_place (source : String) :
    (∀ call, call ∈ SdkCall.detect source ↔ ∃ resource action,
      SdkCall.StandsIn source resource action ∧ call = SdkCall.signature resource action) ∧
    (∀ call, call ∈ WrapperCall.detect source ↔ ∃ argument host path,
      WrapperCall.StandsIn source argument host path ∧ call = WrapperCall.signature path) ∧
    (∀ {first second resource resource' action action' after after'},
      SdkCall.Writes first resource action → SdkCall.Writes second resource' action' →
      first ++ after = second ++ after' → resource = resource' ∧ action = action') ∧
    (∀ {first second argument argument' host host' path path' after after'},
      WrapperCall.Writes first argument host path →
      WrapperCall.Writes second argument' host' path' →
      first ++ after = second ++ after' → path = path') ∧
    ∀ before after,
      (∀ call ∈ SdkCall.detect source, call ∈ SdkCall.detect (before ++ source ++ after)) ∧
      ∀ call ∈ WrapperCall.detect source,
        call ∈ WrapperCall.detect (before ++ source ++ after) := by
  refine ⟨fun call => SdkCall.mem_detect_iff, fun call => WrapperCall.mem_detect_iff,
    fun one two => one.unique two, fun one two => one.unique two,
    fun before after => ⟨fun call found => ?_, fun call found => ?_⟩⟩
  · obtain ⟨resource, action, stands, rfl⟩ := SdkCall.mem_detect_iff.1 found
    exact SdkCall.mem_detect_iff.2 ⟨resource, action, stands.within before after, rfl⟩
  · obtain ⟨argument, host, path, stands, rfl⟩ := WrapperCall.mem_detect_iff.1 found
    exact WrapperCall.mem_detect_iff.2 ⟨argument, host, path, stands.within before after, rfl⟩

/-- A call in the argument of another one is found, and no other path is called in its place. -/
theorem calls_at_every_place_nested :
    "performHttpCall: v2/a" ∈ WrapperCall.detect "performHttpCall(performHttpCall(0, 'v2/a'), 1)" ∧
    ∀ {second argument host path after}, WrapperCall.Writes second argument host path →
      "performHttpCall(0, 'v2/a'), 1)".toList = second ++ after → path = "v2/a".toList := by
  have quotes : WrapperCall.Quotes ([' '] ++ '\'' :: ([] ++ ("v2/a".toList ++ ['\'']))) []
      "v2/a".toList :=
    .quoted (by decide) rfl (.inl rfl)
      ⟨"/v2/".toList, ['a'], by simp, ⟨'v', ['2'], by simp, .inl rfl, by simp, by decide⟩,
        by simp, by decide⟩ rfl
  have inner : WrapperCall.Writes
      ("performHttpCall".toList ++ ([] ++ '(' :: (['0'] ++ ',' :: _))) ['0'] [] "v2/a".toList :=
    .call (by decide) (by decide) (by simp) (by simp) quotes
  refine ⟨((calls_at_every_place _).2.1 _).2 ⟨_, _, _,
    ⟨"performHttpCall(".toList, _, "), 1)".toList, by decide, inner⟩,
    by decide⟩, fun {_ _ _ _ after} other same => ?_⟩
  exact ((calls_at_every_place "").2.2.2.1 inner other
    (show _ ++ "), 1)".toList = _ ++ after by simpa using same)).symm

end EventAtlas
