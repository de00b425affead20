import EventAtlas.Text.Utf8

/-!
# Halves of surrogate pairs

Texts that come from outside may hold halves of surrogate pairs, which are no characters. A
character that the texts do not hold otherwise stands for each of them. Such a text can be taken
apart and put together like any other, but it cannot be written.
-/

namespace EventAtlas.Text

/-- Which characters stand for halves of surrogate pairs, with the codes of the halves. -/
abbrev Halves := Char → Option Nat

/-- Halves that stand next to each other in a text. -/
structure HalfRun where
  /-- The code of the first half. -/
  code : Nat
  /-- The number of characters before it. -/
  position : Nat
  /-- The number of halves. -/
  count : Nat
deriving DecidableEq, Repr

namespace Halves

/-- No character stands for a half. -/
def none : Halves := fun _ => .none

/-- The first halves in a text. -/
def firstRun? (halves : Halves) (text : List Char) : Option HalfRun :=
  match text.dropWhile fun c => (halves c).isNone with
  | [] => .none
  | c :: rest => (halves c).map fun code =>
    { code := code
      position := text.length - (rest.length + 1)
      count := (rest.takeWhile fun c => (halves c).isSome).length + 1 }

/-- The bytes of a text. Halves have none. -/
def encode (halves : Halves) (text : String) : Except HalfRun Bytes :=
  match halves.firstRun? text.toList with
  | .none => .ok (Utf8.encode text)
  | some run => .error run

end Halves

end EventAtlas.Text
