import EventAtlas.Xml.Token

/-!
# Marks of document types

The text of a document type is cut into marks, and the marks are put together into
declarations later. Where a mark may stand, outside the brackets, between declarations or
inside one, tells where the document type ends.
-/

namespace EventAtlas.Xml

/-- A mark in the text of a document type. -/
inductive Mark where
  /-- The opening of a declaration, with its keyword. -/
  | opening (keyword : String)
  | closing
  /-- A name; `prefixed` says that it has a prefix. -/
  | name (text : String) ( prefixed : Bool)
  /-- A name with a sign of repetition. -/
  | repeated
  /-- A word that is no name. -/
  | word
  /-- A word after a number sign. -/
  | keyword (text : String)
  /-- A quoted text, with the number of characters that follow it. -/
  | literal (text : List Char) (left : Nat)
  | openGroup
  /-- The end of a group, with its sign of repetition. -/
  | closeGroup (sign : Option Char)
  | comma
  | bar
  | openSubset
  | closeSubset
  | percent
  /-- A reference to a parameter entity. -/
  | parameter
deriving DecidableEq, Repr

namespace Mark

/-- Whether what follows a mark is a space or one of the given characters. -/
def endsBefore (ends : List Char) : List Char → Bool
  | c :: _ => isSpace c || ends.contains c
  | [] => false

/-- Reads a quoted text after its opening quote. -/
def readLiteral (quote : Char) (text : List Char) : Except Fault (Option Mark × List Char) :=
  match text.dropWhile (· != quote) with
  | _ :: rest =>
    if endsBefore ['>', '%', '['] rest then
      .ok (some (.literal (text.takeWhile (· != quote)) rest.length), rest)
    else .error .badDoctype
  | [] => .error .badDoctype

/-- Reads what follows the opening of a declaration: its keyword. -/
def readOpening (text : List Char) : Except Fault (Option Mark × List Char) :=
  let keyword := text.takeWhile isNameStart
  let mark : Option Mark := some (.opening (String.ofList keyword))
  if keyword = [] then .error .badDoctype
  else match text.dropWhile isNameStart with
    | '%' :: rest =>
      match rest with
      | c :: _ => if isSpace c ∨ c = '%' then .error .badDoctype else .ok (mark, '%' :: rest)
      | [] => .error .badDoctype
    | c :: rest => if isSpace c then .ok (mark, c :: rest) else .error .badDoctype
    | [] => .error .badDoctype

/-- Reads what follows a percent sign. -/
def readPercent (text : List Char) : Except Fault (Option Mark × List Char) :=
  match text with
  | c :: _ =>
    if isSpace c ∨ c = '%' then .ok (some .percent, text)
    else do
      let (_, rest) ← Token.readName text
      match rest with
      | ';' :: rest => return (some .parameter, rest)
      | _ => .error .badDoctype
  | [] => .error .badDoctype

/-- Reads what follows a number sign. -/
def readKeyword (text : List Char) : Except Fault (Option Mark × List Char) := do
  let (found, rest) ← Token.readName text
  if endsBefore [')', '>', '%', '|'] rest then
    return (some (.keyword (String.ofList found)), rest)
  else .error .badDoctype

/-- Reads what follows a closing parenthesis. -/
def readCloseGroup (text : List Char) : Except Fault (Option Mark × List Char) :=
  match text with
  | '*' :: rest => .ok (some (.closeGroup (some '*')), rest)
  | '+' :: rest => .ok (some (.closeGroup (some '+')), rest)
  | '?' :: rest => .ok (some (.closeGroup (some '?')), rest)
  | text =>
    if endsBefore ['>', ',', '|', ')'] text then .ok (some (.closeGroup none), text)
    else .error .badDoctype

/-- The mark of a word: a name with at most one prefix, or a word that is no name. -/
def ofWord (word : List Char) : Mark :=
  let isName := word.head?.any isNameStart
  let colons := word.count ':'
  if isName ∧ colons = 0 then .name (String.ofList word) false
  else if isName ∧ colons = 1 ∧ word.getLast? ≠ some ':' then .name (String.ofList word) true
  else .word

/-- Reads a word. A name may be followed by a sign of repetition. -/
def readWord (text : List Char) : Except Fault (Option Mark × List Char) :=
  let word := text.takeWhile fun c => isNameChar c || c == ':'
  let rest := text.dropWhile fun c => isNameChar c || c == ':'
  if word = [] then .error .badDoctype
  else match rest with
    | c :: after =>
      if c = '*' ∨ c = '+' ∨ c = '?' then
        if ofWord word = .word then .error .badDoctype else .ok (some .repeated, after)
      else if endsBefore ['>', ')', ',', '|', '[', '%'] rest then .ok (some (ofWord word), rest)
      else .error .badDoctype
    | [] => .error .badDoctype

/-- Reads the next mark of a text that is not empty. -/
def readNext (text : List Char) : Except Fault (Option Mark × List Char) := do
  match text with
  | '<' :: '!' :: '-' :: '-' :: rest => return (none, ← Token.afterComment rest)
  | '<' :: '?' :: rest => return (none, ← Token.afterInstruction rest)
  | '<' :: '!' :: rest => readOpening rest
  | '>' :: rest => return (some .closing, rest)
  | '"' :: rest => readLiteral '"' rest
  | '\'' :: rest => readLiteral '\'' rest
  | '%' :: rest => readPercent rest
  | '#' :: rest => readKeyword rest
  | '(' :: rest => return (some .openGroup, rest)
  | ')' :: rest => readCloseGroup rest
  | ',' :: rest => return (some .comma, rest)
  | '|' :: rest => return (some .bar, rest)
  | '[' :: rest => return (some .openSubset, rest)
  | ']' :: ']' :: '>' :: _ => .error .badDoctype
  | ']' :: rest => return (some .closeSubset, rest)
  | text => readWord text

/-- Where in a document type a mark stands. -/
inductive Place where
  /-- Outside the brackets. -/
  | outside
  /-- Between declarations. -/
  | between
  /-- Inside a declaration. -/
  | inside
deriving DecidableEq

/-- The place after a mark; none where the document type ends. -/
def nextPlace (place : Place) (mark : Option Mark) : Except Fault (Option Place) :=
  match place, mark with
  | .outside, some .closing => .ok none
  | .outside, some .openSubset => .ok (some .between)
  | .outside, none => .error .badDoctype
  | .outside, some _ => .ok (some .outside)
  | .between, none => .ok (some .between)
  | .between, some (.opening _) => .ok (some .inside)
  | .between, some .closeSubset => .ok (some .outside)
  | .between, some .parameter => .ok (some .between)
  | .between, some _ => .error .badDoctype
  | .inside, some .closing => .ok (some .between)
  | .inside, some (.opening _) | .inside, none => .error .badDoctype
  | .inside, some _ => .ok (some .inside)

/-- The marks of a document type, from after its opening up to its end, and the text after
it. -/
def all (place : Place) (text : List Char) : Except Fault (List Mark × List Char) :=
  match text with
  | [] => .error .badDoctype
  | c :: rest =>
    if isSpace c then all place rest
    else do
      let (mark, tail) ← readNext (c :: rest)
      match ← nextPlace place mark with
      | none => return (mark.toList, tail)
      | some place =>
        if tail.length < (c :: rest).length then
          let (marks, rest) ← all place tail
          return (mark.toList ++ marks, rest)
        else .error .badDoctype
termination_by text.length
decreasing_by all_goals simp only [List.length_cons] at *; omega

end Mark

end EventAtlas.Xml
