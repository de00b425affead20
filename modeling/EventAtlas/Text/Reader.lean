import EventAtlas.Text.Blank
import EventAtlas.Text.Fold

/-!
# Reading a text from its front

A reader looks at the front of a text. It gives what it read together with the rest, or
nothing when the text does not start as it expects. `findAll` applies a reader at every
place of a text from left to right and passes over what was read; `findAllAtLineStarts`
applies it only where a line begins.
-/

namespace EventAtlas.Text

/-- A reader of values of type `α`. -/
abbrev Reader (α : Type) := List Char → Option (α × List Char)

/-- The rest of a text that starts with a character satisfying `accepts`. -/
def after? (accepts : Char → Bool) : List Char → Option (List Char)
  | [] => none
  | c :: rest => if accepts c then some rest else none

/-- The rest of a text that starts with `word`, letter for letter. -/
def afterWord? : (word : List Char) → List Char → Option (List Char)
  | [], rest => some rest
  | _ :: _, [] => none
  | w :: word, c :: rest => if c = w then afterWord? word rest else none

/-- The rest of a text that starts with `word` in any case. The word is given in small
letters. -/
def afterKeyword? : (word : List Char) → List Char → Option (List Char)
  | [], rest => some rest
  | _ :: _, [] => none
  | w :: word, c :: rest => if foldCase c = w then afterKeyword? word rest else none

/-- The first of several words, taken in any case, that a text starts with: the characters
as they stand in the text, and the rest. -/
def anyKeyword? (words : List String) : Reader (List Char) := fun text =>
  words.findSome? fun word =>
    (afterKeyword? word.toList text).map fun rest => (text.take word.length, rest)

/-- The longest run at the front of a text whose characters all satisfy `accepts`, which has
to hold at least one. -/
def run? (accepts : Char → Bool) : Reader (List Char) := fun text =>
  match text.takeWhile accepts with
  | [] => none
  | run => some (run, text.dropWhile accepts)

/-- The rest of a text that starts with at least one blank, after all its blanks. -/
def afterBlanks? (text : List Char) : Option (List Char) :=
  (run? isBlank text).map (·.2)

/-- What `read` reads at each place of a text, from left to right, where a place inside what
was read is not tried again. -/
def findAll {α : Type} (read : Reader α) (text : List Char) : List α :=
  go 0 text
where
  /-- Goes on after `skip` more characters. -/
  go : Nat → List Char → List α
    | _, [] => []
    | skip + 1, _ :: rest => go skip rest
    | 0, c :: rest =>
      match read (c :: rest) with
      | some (value, left) => value :: go (rest.length - left.length) rest
      | none => go 0 rest

/-- What `read` reads at the beginnings of lines of a text, from left to right. A line begins
at the front of the text and after each line feed; a beginning inside what was read is not
tried again. -/
def findAllAtLineStarts {α : Type} (read : Reader α) (text : List Char) : List α :=
  go 0 true text
where
  /-- Goes on after `skip` more characters; `fresh` says that a line begins here. -/
  go : Nat → Bool → List Char → List α
    | _, _, [] => []
    | skip + 1, _, c :: rest => go skip (c == '\n') rest
    | 0, fresh, c :: rest =>
      match if fresh then read (c :: rest) else none with
      | some (value, left) => value :: go (rest.length - left.length) (c == '\n') rest
      | none => go 0 (c == '\n') rest

end EventAtlas.Text
