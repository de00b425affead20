import EventAtlas.Proofs.Text.Blank
import EventAtlas.Proofs.Text.Line
import EventAtlas.Proofs.Text.Run
import EventAtlas.Text.Reader

/-!
# Words in any case and the gaps between them

A reader of keywords is told by the pieces that a text is made of: keywords spelled in some case,
and gaps of blanks around them. No blank counts as a letter, so each piece ends where the next one
begins, and a text is made up in one way only.
-/

namespace EventAtlas.Text

variable {text gap piece rest word : List Char} {words : List String} {c d : Char}

/-! ### Cases of a character -/

/-- The characters beyond ASCII that count as a letter of ASCII. -/
def sharedLetters : List Char := ['\u017f', '\u212a', '\u0130', '\u0131']

/-- But for those, a character counts as its small form. -/
theorem foldCase_eq_toLower (other : c ∉ sharedLetters) : foldCase c = c.toLower := by
  simp only [sharedLetters, List.mem_cons, List.not_mem_nil, or_false, not_or] at other
  simp [foldCase, other]

/-- Those are no blanks, and they count as small letters. -/
theorem of_mem_sharedLetters (shared : c ∈ sharedLetters) :
    isBlank c = false ∧ isWord c = true ∧ (foldCase c).isLower = true := by
  simp only [sharedLetters, List.mem_cons, List.not_mem_nil, or_false] at shared
  rcases shared with rfl | rfl | rfl | rfl <;> decide +kernel

/-- The code points of the capitals. -/
theorem toNat_of_isUpper (capital : c.isUpper = true) : 65 ≤ c.toNat ∧ c.toNat ≤ 90 := by
  have inside : c.val ≥ 'A'.val ∧ c.val ≤ 'Z'.val := of_decide_eq_true capital
  exact ⟨UInt32.le_iff_toNat_le.1 inside.1, UInt32.le_iff_toNat_le.1 inside.2⟩

/-- What is no capital is its own small form. -/
theorem toLower_eq_self (other : ¬ c.isUpper = true) : c.toLower = c := by
  unfold Char.toLower
  split
  · next capital => exact absurd (decide_eq_true capital) other
  · rfl

/-- The small form of a capital comes 32 places behind it. -/
theorem toNat_toLower_of_isUpper (capital : c.isUpper = true) :
    c.toLower.toNat = c.toNat + 32 := by
  have bounds := toNat_of_isUpper capital
  unfold Char.toLower
  split
  · change (c.toNat + 32) % 2 ^ 32 = c.toNat + 32
    omega
  · next other => exact absurd (of_decide_eq_true capital) other

/-- The small form of a capital is a small letter. -/
theorem isLower_toLower_of_isUpper (capital : c.isUpper = true) : c.toLower.isLower = true := by
  have bounds := toNat_of_isUpper capital
  have value := toNat_toLower_of_isUpper capital
  have above : 97 ≤ c.toLower.toNat := by omega
  have below : c.toLower.toNat ≤ 122 := by omega
  exact Bool.and_eq_true_iff.2 ⟨decide_eq_true (UInt32.le_iff_toNat_le.2 above),
    decide_eq_true (UInt32.le_iff_toNat_le.2 below)⟩

/-- What counts as no small letter is itself. -/
theorem eq_of_foldCase_eq (folded : foldCase c = d) (mark : d.isLower = false) : c = d := by
  by_cases shared : c ∈ sharedLetters
  · rw [← folded, (of_mem_sharedLetters shared).2.2] at mark
    cases mark
  · rw [foldCase_eq_toLower shared] at folded
    by_cases capital : c.isUpper = true
    · rw [← folded, isLower_toLower_of_isUpper capital] at mark
      cases mark
    · rw [← folded, toLower_eq_self capital]

/-- What counts as a letter is a word character. -/
theorem isWord_of_foldCase (letter : (foldCase c).isAlpha = true) : isWord c = true := by
  by_cases shared : c ∈ sharedLetters
  · exact (of_mem_sharedLetters shared).2.1
  · have alpha : c.isAlpha = true := by
      by_cases capital : c.isUpper = true
      · exact Bool.or_eq_true_iff.2 (.inl capital)
      · rwa [foldCase_eq_toLower shared, toLower_eq_self capital] at letter
    have word : isAsciiWord c = true := by simp [isAsciiWord, Char.isAlphanum, alpha]
    have bounds := toNat_of_isAsciiWord word
    rwa [isWord_eq_isAsciiWord (by omega)]

/-- A blank counts as itself. -/
theorem foldCase_of_isBlank (blank : isBlank c = true) : foldCase c = c := by
  have other : c ∉ sharedLetters := fun shared => by
    rw [(of_mem_sharedLetters shared).1] at blank
    cases blank
  rw [foldCase_eq_toLower other]
  refine toLower_eq_self fun capital => ?_
  have bounds := toNat_of_isUpper capital
  rw [isBlank_of_toNat (by omega) (by omega)] at blank
  cases blank

/-- No blank counts as a letter. -/
theorem isLetterAnyCase_of_isBlank (blank : isBlank c = true) : isLetterAnyCase c = false := by
  rw [isLetterAnyCase, foldCase_of_isBlank blank, Bool.eq_false_iff]
  intro letter
  have word : isAsciiWord c = true := by simp [isAsciiWord, Char.isAlphanum, letter]
  have bounds := toNat_of_isAsciiWord word
  rw [isBlank_of_toNat (by omega) (by omega)] at blank
  cases blank

/-- A letter counts as one. -/
theorem isLetterAnyCase_of_isAlpha (letter : c.isAlpha = true) :
    isLetterAnyCase c = true := by
  have word : isAsciiWord c = true := by simp [isAsciiWord, Char.isAlphanum, letter]
  have bounds := toNat_of_isAsciiWord word
  have own : c ∉ sharedLetters := by
    intro shared
    simp only [sharedLetters, List.mem_cons, List.not_mem_nil, or_false] at shared
    rcases shared with rfl | rfl | rfl | rfl <;> revert bounds <;> decide
  rw [isLetterAnyCase, foldCase_eq_toLower own]
  by_cases capital : c.isUpper = true
  · exact Bool.or_eq_true_iff.2 (.inr (isLower_toLower_of_isUpper capital))
  · rwa [toLower_eq_self capital]

/-! ### Spelled words -/

/-- A piece of a text spells a word if it is the word in some case. The word is given in small
letters. -/
def Spells (word piece : List Char) : Prop :=
  piece.map foldCase = word

instance : Decidable (Spells word piece) :=
  inferInstanceAs (Decidable (_ = _))

/-- A piece of a text spells one of several words. -/
def SpellsOne (words : List String) (piece : List Char) : Prop :=
  ∃ word ∈ words, Spells word.toList piece

instance : Decidable (SpellsOne words piece) :=
  inferInstanceAs (Decidable (∃ word ∈ words, _))

/-- A word is passed exactly if the text starts with it. -/
theorem afterWord?_eq_some_iff : afterWord? word text = some rest ↔ text = word ++ rest := by
  constructor
  · intro read
    induction word generalizing text with
    | nil => exact (Option.some.inj read)
    | cons w word ih =>
      cases text with
      | nil => cases read
      | cons c others =>
        rw [afterWord?] at read
        split at read
        · next same => rw [same, ih read, List.cons_append]
        · cases read
  · rintro rfl
    exact afterWord?_append word rest

/-- A keyword is passed exactly if the text starts with a piece that spells it. -/
theorem afterKeyword?_eq_some_iff : afterKeyword? word text = some rest ↔
    ∃ piece, Spells word piece ∧ text = piece ++ rest := by
  constructor
  · intro read
    induction word generalizing text with
    | nil => exact ⟨[], rfl, Option.some.inj read⟩
    | cons w word ih =>
      cases text with
      | nil => cases read
      | cons c others =>
        rw [afterKeyword?] at read
        split at read
        · next same =>
          obtain ⟨piece, spells, rfl⟩ := ih read
          exact ⟨c :: piece, by rw [Spells, List.map_cons, same, spells], rfl⟩
        · cases read
  · rintro ⟨piece, rfl, rfl⟩
    induction piece with
    | nil => rfl
    | cons c piece ih => rw [List.map_cons, List.cons_append, afterKeyword?, if_pos rfl, ih]

/-- Where a text goes on with something else, a keyword is not passed. -/
theorem afterKeyword?_eq_none {w : Char} (other : ∀ c ∈ text.head?, foldCase c ≠ w) :
    afterKeyword? (w :: word) text = none := by
  cases text with
  | nil => rfl
  | cons c rest => rw [afterKeyword?, if_neg (other c rfl)]

/-- The characters of a spelled word count as those of the word. -/
theorem Spells.foldCase_mem (spells : Spells word piece) (member : c ∈ piece) :
    foldCase c ∈ word :=
  spells ▸ List.mem_map_of_mem member

/-- A piece has as many characters as the word that it spells. -/
theorem Spells.length_eq (spells : Spells word piece) : piece.length = word.length := by
  rw [← spells, List.length_map]

/-- A word is spelled character by character. -/
theorem spells_cons_iff {w : Char} : Spells (w :: word) piece ↔
    ∃ c rest, piece = c :: rest ∧ foldCase c = w ∧ Spells word rest :=
  List.map_eq_cons_iff

/-- Words one after the other are spelled one after the other. -/
theorem spells_append_iff {first second : List Char} : Spells (first ++ second) piece ↔
    ∃ one other, piece = one ++ other ∧ Spells first one ∧ Spells second other :=
  List.map_eq_append_iff

/-- A spelled word has no blank. -/
theorem Spells.isBlank_of_mem (spells : Spells word piece)
    (letters : ∀ c ∈ word, isBlank c = false) : ∀ c ∈ piece, isBlank c = false := by
  intro c member
  have ink := letters _ (spells.foldCase_mem member)
  rw [Bool.eq_false_iff]
  intro blank
  rw [foldCase_of_isBlank blank, blank] at ink
  cases ink

/-- A spelled word is not empty. -/
theorem Spells.ne_nil (spells : Spells word piece) (some : word ≠ []) : piece ≠ [] := by
  rintro rfl
  exact some spells.symm

/-- A text that begins with a spelled word does not begin with a blank. -/
theorem Spells.inked (spells : Spells word piece) (some : word ≠ [])
    (letters : ∀ c ∈ word, isBlank c = false) (rest : List Char) :
    ∀ c ∈ (piece ++ rest).head?, isBlank c = false :=
  head?_append_of_ne_nil (spells.ne_nil some) (spells.isBlank_of_mem letters) rest

/-- A text starts with a word in some case. -/
def StartsSpelled (word text : List Char) : Prop :=
  ∃ piece, Spells word piece ∧ piece <+: text

/-- That is so if the word is passed. -/
theorem startsSpelled_iff : StartsSpelled word text ↔ (afterKeyword? word text).isSome = true := by
  rw [Option.isSome_iff_exists]
  constructor
  · rintro ⟨piece, spells, rest, rfl⟩
    exact ⟨rest, afterKeyword?_eq_some_iff.2 ⟨piece, spells, rfl⟩⟩
  · rintro ⟨rest, passed⟩
    obtain ⟨piece, spells, rfl⟩ := afterKeyword?_eq_some_iff.1 passed
    exact ⟨piece, spells, rest, rfl⟩

instance : Decidable (StartsSpelled word text) :=
  decidable_of_iff _ startsSpelled_iff.symm

/-- What spells one of some words spells one of more words. -/
theorem SpellsOne.mono {others : List String} (spelled : SpellsOne words piece)
    (more : words ⊆ others) : SpellsOne others piece :=
  spelled.imp fun _ ⟨listed, spells⟩ => ⟨more listed, spells⟩

/-- A character that counts as none of the words' is in none of their pieces. -/
theorem SpellsOne.not_mem (spelled : SpellsOne words piece)
    (apart : ∀ word ∈ words, foldCase c ∉ word.toList) : c ∉ piece := by
  obtain ⟨word, listed, spells⟩ := spelled
  exact fun member => apart word listed (spells.foldCase_mem member)

/-- A spelled word that begins another spelled word does so in small letters as well. -/
theorem Spells.begins {first second one other : List Char} (spells : Spells first one)
    (spells' : Spells second other) (starts : one <+: other) : first <+: second :=
  spells ▸ spells' ▸ starts.map foldCase

/-- Of several words, one that a text starts with is read. -/
theorem spelled_of_anyKeyword? (read : anyKeyword? words text = some (piece, rest)) :
    SpellsOne words piece ∧ text = piece ++ rest := by
  obtain ⟨word, listed, found⟩ := List.exists_of_findSome?_eq_some read
  obtain ⟨left, passed, same⟩ := Option.map_eq_some_iff.1 found
  obtain ⟨front, spells, rfl⟩ := afterKeyword?_eq_some_iff.1 passed
  rw [← String.length_toList, ← spells.length_eq, List.take_left] at same
  obtain ⟨rfl, rfl⟩ := Prod.mk.inj same
  exact ⟨⟨word, listed, spells⟩, rfl⟩

/-- Of words of which none begins another one, the one that a text starts with is read, and it is
the only one. -/
theorem anyKeyword?_eq_some_iff
    (apart : ∀ first ∈ words, ∀ second ∈ words, first.toList <+: second.toList → first = second) :
    anyKeyword? words text = some (piece, rest) ↔
      SpellsOne words piece ∧ text = piece ++ rest := by
  refine ⟨spelled_of_anyKeyword?, ?_⟩
  rintro ⟨⟨word, listed, spells⟩, parted⟩
  cases found : anyKeyword? words text with
  | none =>
    have passed := afterKeyword?_eq_some_iff.2 ⟨piece, spells, parted⟩
    have refused := List.findSome?_eq_none_iff.1 found word listed
    rw [passed] at refused
    cases refused
  | some reading =>
    obtain ⟨front, left⟩ := reading
    obtain ⟨⟨other, listed', spells'⟩, parted'⟩ := spelled_of_anyKeyword? found
    -- Both pieces stand at the front of the text, so that one of them begins the other.
    have same : other = word := by
      rcases List.prefix_or_prefix_of_prefix ⟨left, parted'.symm⟩ ⟨rest, parted.symm⟩ with
        shorter | longer
      · exact apart other listed' word listed (spells'.begins spells shorter)
      · exact (apart word listed other listed' (spells.begins spells' longer)).symm
    have length : front.length = piece.length := by
      rw [spells'.length_eq, spells.length_eq, same]
    obtain ⟨rfl, rfl⟩ := List.append_inj (parted'.symm.trans parted) length
    rfl

/-! ### Gaps -/

/-- A gap is a piece of a text that holds nothing but blanks. -/
def Gap (piece : List Char) : Prop :=
  ∀ c ∈ piece, isBlank c = true

instance : Decidable (Gap piece) :=
  inferInstanceAs (Decidable (∀ c ∈ piece, _))

/-- What is left of a text without its leading blanks comes after a gap, and nothing blank comes
first. -/
theorem trimLeft_eq_iff : trimLeft text = rest ↔
    ∃ gap, Gap gap ∧ text = gap ++ rest ∧ ∀ c ∈ rest.head?, isBlank c = false := by
  constructor
  · rintro rfl
    refine ⟨text.takeWhile isBlank, fun c member => List.mem_takeWhile_imp member,
      List.takeWhile_append_dropWhile.symm, fun c first => ?_⟩
    have stopped := List.head?_dropWhile_not isBlank text
    rw [trimLeft, Option.mem_def] at first
    rw [first] at stopped
    simpa using stopped
  · rintro ⟨gap, blank, rfl, stops⟩
    exact dropWhile_append_of_right blank stops

/-- Blanks in front of a text are removed with those at its beginning. -/
theorem trimLeft_gap_append (blank : Gap gap) (text : List Char) :
    trimLeft (gap ++ text) = trimLeft text :=
  List.dropWhile_append_of_pos blank

/-- What comes behind gaps can be told if it does not start with a blank. -/
theorem eq_of_gap_append {gap' first second : List Char} (blank : Gap gap) (blank' : Gap gap')
    (ink : ∀ c ∈ first.head?, isBlank c = false) (ink' : ∀ c ∈ second.head?, isBlank c = false)
    (same : gap ++ first = gap' ++ second) : first = second :=
  (trimLeft_eq_iff.2 ⟨gap, blank, rfl, ink⟩).symm.trans
    (trimLeft_eq_iff.2 ⟨gap', blank', same, ink'⟩)

/-- A character that is not blank is in no gap. -/
theorem Gap.not_mem (blank : Gap gap) (ink : isBlank c = false) : c ∉ gap := by
  intro member
  rw [blank c member] at ink
  cases ink

/-- A word of letters ends where a gap and a mark come after it. -/
theorem takeWhile_spelled (spelled : SpellsOne words piece)
    (letters : ∀ word ∈ words, ∀ c ∈ word.toList, c.isAlpha = true) (blank : Gap gap)
    (mark : isLetterAnyCase c = false) :
    (piece ++ (gap ++ c :: rest)).takeWhile isLetterAnyCase = piece := by
  obtain ⟨word, listed, spells⟩ := spelled
  refine takeWhile_append_of_right (fun d member => ?_) fun d first => ?_
  · exact letters word listed _ (spells.foldCase_mem member)
  · cases gap with
    | nil =>
      obtain rfl : c = d := by simpa using first
      exact mark
    | cons e gap =>
      obtain rfl : e = d := by simpa using first
      exact isLetterAnyCase_of_isBlank (blank e (List.mem_cons_self ..))

/-- A gap does not reach into a spelled word that comes after it. -/
theorem trimLeft_append_spelled (blank : Gap gap) (spelled : SpellsOne words piece)
    (inked : ∀ word ∈ words, word.toList ≠ [] ∧ ∀ c ∈ word.toList, isBlank c = false) :
    trimLeft (gap ++ (piece ++ rest)) = piece ++ rest := by
  obtain ⟨word, listed, spells⟩ := spelled
  obtain ⟨some, letters⟩ := inked word listed
  exact trimLeft_eq_iff.2 ⟨gap, blank, rfl, spells.inked some letters rest⟩

end EventAtlas.Text
