/-!
# Line ends

A text file may end its lines with a line feed, a carriage return, or both. Reading it as
text turns each of these into one line feed.
-/

namespace EventAtlas.Text

/-- A text with every line end written as one line feed. -/
def unifyLineEnds : List Char → List Char
  | [] => []
  | '\r' :: '\n' :: rest => '\n' :: unifyLineEnds rest
  | c :: rest => (if c = '\r' then '\n' else c) :: unifyLineEnds rest

/-- A text without the line feed at its end. -/
def withoutLastBreak (text : List Char) : List Char :=
  if text.getLast? = some '\n' then text.dropLast else text

end EventAtlas.Text
