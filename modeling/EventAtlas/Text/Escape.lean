/-!
# Escaping for markup

The three characters that markup gives a meaning of its own are written as references.
-/

namespace EventAtlas.Text

/-- How a character is written inside markup. -/
def escapeChar (c : Char) : List Char :=
  if c = '&' then "&amp;".toList
  else if c = '<' then "&lt;".toList
  else if c = '>' then "&gt;".toList
  else [c]

/-- A text as it is written inside markup. -/
def escape (text : List Char) : List Char :=
  text.flatMap escapeChar

end EventAtlas.Text
