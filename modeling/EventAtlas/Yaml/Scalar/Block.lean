import EventAtlas.Yaml.Cursor
import EventAtlas.Yaml.Fault

/-!
# Block scalars

A text of whole lines, below a header that says whether line breaks are kept or folded, how far
the lines are indented, and what becomes of the line breaks at the end.
-/

namespace EventAtlas.Yaml.Scalar

/-- What becomes of the line breaks at the end of a block. -/
inductive Chomping where
  /-- All go. -/
  | strip
  /-- The first one stays. -/
  | clip
  /-- All stay. -/
  | keep
deriving DecidableEq, Repr

/-- The header of a block: chomping, and how much further than the surrounding block its lines
are indented, if the header says so. -/
structure BlockHeader where
  chomping : Chomping
  increment : Option Nat
deriving DecidableEq, Repr

/-- The chomping that a sign stands for. -/
def chompingOf : Char → Option Chomping
  | '+' => some .keep
  | '-' => some .strip
  | _ => none

/-- The indentation that a digit stands for. A block is indented. -/
def incrementOf (c : Char) : Except Fault (Option Nat) :=
  if c = '0' then .error .badBlockHeader
  else if c.isDigit then .ok (some (c.toNat - '0'.toNat))
  else .ok none

/-- Reads the signs of a header: a sign of chomping and a digit, in either order. -/
def readSigns (cursor : Cursor) : Except Fault (BlockHeader × Cursor) :=
  match cursor.rest with
  | [] => .ok (⟨.clip, none⟩, cursor)
  | first :: rest =>
    match chompingOf first with
    | some chomping => do
      match rest with
      | [] => return (⟨chomping, none⟩, cursor.next)
      | second :: _ =>
        match ← incrementOf second with
        | some increment => return (⟨chomping, some increment⟩, cursor.skip 2)
        | none => return (⟨chomping, none⟩, cursor.next)
    | none => do
      match ← incrementOf first with
      | none => return (⟨.clip, none⟩, cursor)
      | some increment =>
        match rest.head?.bind chompingOf with
        | some chomping => return (⟨chomping, some increment⟩, cursor.skip 2)
        | none => return (⟨.clip, some increment⟩, cursor.next)

/-- Reads a header with the rest of its line. -/
def readHeader (cursor : Cursor) : Except Fault (BlockHeader × Cursor) := do
  let (header, after) ← readSigns cursor
  if !endsPart after.rest then throw .badBlockHeader
  let after := after.skipSpaces.skipComment
  if !endsLine after.rest then throw .badBlockHeader
  return (header, after.next)

/-- The empty lines at the front of a block, the column of the longest run of spaces among
them and before the first line that is not empty, and the place after them. -/
def leadingBreaks (cursor : Cursor) (widest : Nat) : List Char × Nat × Cursor :=
  match _here : cursor.rest with
  | c :: _ =>
    if c = ' ' then leadingBreaks cursor.next (max widest cursor.next.column)
    else if isBreak c then
      let (breaks, widest, after) := leadingBreaks cursor.next widest
      (breakText c :: breaks, widest, after)
    else ([], widest, cursor)
  | [] => ([], widest, cursor)
termination_by cursor.rest.length
decreasing_by
  all_goals exact Cursor.length_next_lt (by simp [_here])

/-- The place after the spaces at a place, as far as a column. -/
def skipIndent (indent : Nat) (cursor : Cursor) : Cursor :=
  cursor.skip (min (indent - cursor.column) (cursor.rest.takeWhile (· == ' ')).length)

/-- The empty lines between two lines of a block, and the place at which the next one starts
once its indentation is passed. -/
def blockBreaks (indent : Nat) (cursor : Cursor) : List Char × Cursor :=
  let start := skipIndent indent cursor
  match start.afterBreak? with
  | none => ([], start)
  | some (found, after) =>
    if after.rest.length < cursor.rest.length then
      let (others, after) := blockBreaks indent after
      (found :: others, after)
    else ([found], after)
termination_by cursor.rest.length

/-- Whether a line of a block starts at a place. -/
def startsLine (indent : Nat) (cursor : Cursor) : Bool :=
  cursor.column = indent && cursor.rest ≠ []

/-- Whether a text starts with a blank. -/
def startsBlank (text : List Char) : Bool :=
  text.head?.any isBlank

/-- The line breaks between two lines of a block as they stand in its text. -/
def joinBreaks (folded : Bool) (line next : List Char) (first : List Char)
    (others : List Char) : List Char :=
  if folded && first = ['\n'] && !startsBlank line && !startsBlank next then
    if others = [] then [' '] else others
  else first ++ others

/-- The line breaks at the end of a block that stay. -/
def chompBreaks (chomping : Chomping) (first others : List Char) : List Char :=
  match chomping with
  | .strip => []
  | .clip => first
  | .keep => first ++ others

/-- Reads the lines of a block from the start of its first line. -/
def readLines (folded : Bool) (chomping : Chomping) (indent : Nat) (cursor : Cursor) :
    List Char × Cursor :=
  let (line, lineEnd) := cursor.takeWhile (!isBreak ·)
  let (first, after) := match lineEnd.afterBreak? with
    | some (found, after) => ([found], after)
    | none => ([], lineEnd)
  let (others, after) := blockBreaks indent after
  if startsLine indent after && after.rest.length < cursor.rest.length then
    let (text, last) := readLines folded chomping indent after
    (line ++ joinBreaks folded line after.rest first others ++ text, last)
  else (line ++ chompBreaks chomping first others, after)
termination_by cursor.rest.length
decreasing_by
  simp_all

/-- Reads a block after its mark. `floor` is the least column at which its lines may start. -/
def readBlock (folded : Bool) (floor : Nat) (cursor : Cursor) :
    Except Fault (List Char × Cursor) := do
  let (header, after) ← readHeader cursor
  let least := max floor 1
  let (breaks, indent, after) := match header.increment with
    | some increment =>
      let indent := least + increment - 1
      let (breaks, after) := blockBreaks indent after
      (breaks, indent, after)
    | none =>
      let (breaks, widest, after) := leadingBreaks after 0
      (breaks, max least widest, after)
  if startsLine indent after then
    let (text, last) := readLines folded header.chomping indent after
    return (breaks ++ text, last)
  else return (chompBreaks header.chomping [] breaks, after)

end EventAtlas.Yaml.Scalar
