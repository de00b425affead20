import EventAtlas.Yaml.Cursor

/-!
# Plain scalars

A text without quotes. It ends before a comment, before a colon that ends a word, and, inside
brackets, before the characters that structure them. It goes on over several lines as long as
they are indented; each line break between its lines becomes a space, and of several line
breaks the first is dropped.
-/

namespace EventAtlas.Yaml.Scalar

/-- A character that structures collections in brackets. -/
def isFlowMark (c : Char) : Bool :=
  c == ',' || c == '?' || c == '[' || c == ']' || c == '{' || c == '}'

/-- Whether a colon before a text ends a plain scalar. -/
def colonEnds (inFlow : Bool) (rest : List Char) : Bool :=
  endsWord rest ||
    (inFlow && endsBefore (fun c => c == ',' || c == '[' || c == ']' || c == '{' || c == '}') rest)

/-- The characters of a plain scalar up to the next blank or to its end. -/
def plainRun (inFlow : Bool) : List Char → List Char
  | [] => []
  | c :: rest =>
    if isBlank c || isBreak c || (c == ':' && colonEnds inFlow rest) || (inFlow && isFlowMark c)
    then []
    else c :: plainRun inFlow rest

/-- What stands between two parts of a plain scalar: the text that it becomes, and whether a
line ended there. -/
structure Gap where
  text : List Char
  ended : Bool
deriving DecidableEq, Repr

/-- The line breaks at a place, with the spaces between them; none if a mark between documents
follows one. -/
def plainBreaks (cursor : Cursor) : Option (List Char) × Cursor :=
  match _here : cursor.rest with
  | c :: _ =>
    if c = ' ' then plainBreaks cursor.next
    else if isBreak c then
      if separatesDocuments cursor.next.rest then (none, cursor.next)
      else
        let (breaks, after) := plainBreaks cursor.next
        (breaks.map (breakText c :: ·), after)
    else (some [], cursor)
  | [] => (some [], cursor)
termination_by cursor.rest.length
decreasing_by
  all_goals exact Cursor.length_next_lt (by simp [_here])

/-- The text that a line break and those after it become. -/
def foldBreaks (first : Char) (others : List Char) : List Char :=
  if first ≠ '\n' then first :: others
  else if others = [] then [' ']
  else others

/-- What stands at a place between two parts of a plain scalar, and the place after it. -/
def plainGap (cursor : Cursor) : Gap × Cursor :=
  let (spaces, after) := cursor.takeWhile (· == ' ')
  match after.afterBreak? with
  | none => (⟨spaces, false⟩, after)
  | some (first, after) =>
    if separatesDocuments after.rest then (⟨[], true⟩, after)
    else match plainBreaks after with
      | (some others, after) => (⟨foldBreaks first others, true⟩, after)
      | (none, after) => (⟨[], true⟩, after)

/-- What reading a plain scalar gives: its text, the place after it, and whether a line ended
behind its last part. -/
structure Plain where
  text : List Char
  after : Cursor
  ended : Bool

/-- Reads a plain scalar whose lines start at column `indent` or later. -/
def readPlain (inFlow : Bool) (indent : Nat) (cursor : Cursor) : Plain :=
  match plainRun inFlow cursor.rest with
  | [] => ⟨[], cursor, false⟩
  | c :: run =>
    let (gap, after) := plainGap (cursor.skip (run.length + 1))
    let stop := gap.text = [] || after.rest.head? = some '#' ||
      (!inFlow && decide (after.column < indent)) || (plainRun inFlow after.rest).isEmpty
    if stop then ⟨c :: run, after, gap.ended⟩
    else if after.rest.length < cursor.rest.length then
      let others := readPlain inFlow indent after
      ⟨c :: run ++ gap.text ++ others.text, others.after, others.ended⟩
    else ⟨c :: run, after, gap.ended⟩
termination_by cursor.rest.length

end EventAtlas.Yaml.Scalar
