import EventAtlas.Text.CodeRange

/-!
# Blank characters

White space of every script, the four ASCII separators U+001C to U+001F, and the next-line
control. Trimming a text removes the blanks at both of its ends and nothing else.
-/

namespace EventAtlas.Text

/-- The blank characters. -/
def blankRanges : List CodeRange := [
  (0x9, 0xd), (0x1c, 0x20), (0x85, 0x85), (0xa0, 0xa0), (0x1680, 0x1680), (0x2000, 0x200a),
  (0x2028, 0x2029), (0x202f, 0x202f), (0x205f, 0x205f), (0x3000, 0x3000)]

/-- Whether a character is blank. -/
def isBlank (c : Char) : Bool :=
  blankRanges.any (·.holds c)

/-- A text without the blanks it starts with. -/
def trimLeft (text : List Char) : List Char :=
  text.dropWhile isBlank

/-- A text without the blanks it ends with. -/
def trimRight (text : List Char) : List Char :=
  (text.reverse.dropWhile isBlank).reverse

/-- A text without the blanks at its ends. -/
def trim (text : List Char) : List Char :=
  trimRight (trimLeft text)

end EventAtlas.Text
