import EventAtlas.Text.Field

/-!
# File patterns

A pattern is matched against paths part by part. Inside a part, `*` stands for any text, `?`
for any character, and a bracketed set for one character in it or, after `!`, outside it. The
part `**` stands for any number of directories.
-/

namespace EventAtlas.Glob

/-- A piece of a bracketed set. -/
inductive SetPiece where
  /-- A character that stands for itself. -/
  | char (c : Char)
  /-- A hyphen between the ends of a range. -/
  | to
deriving DecidableEq, Repr

/-- A set of characters. -/
structure CharSet where
  negated : Bool
  ranges : List (Char × Char)
deriving DecidableEq, Repr

/-- Whether a character is in a set. -/
def CharSet.holds (set : CharSet) (c : Char) : Bool :=
  set.negated != set.ranges.any fun range => range.1 ≤ c && c ≤ range.2

/-- A piece of a part. -/
inductive Piece where
  /-- Any text. -/
  | many
  /-- Any character. -/
  | one
  /-- A character that stands for itself. -/
  | char (c : Char)
  /-- A character of a set. -/
  | set (set : CharSet)
deriving DecidableEq, Repr

/-- Cuts the inside of a bracketed set at the hyphens that make ranges. A hyphen at the front
makes none, and neither do the two characters after a hyphen that does. `guarded` counts the
characters that still cannot make a range; `chunk` holds the characters since the last cut, in
reverse. -/
def chunks : (guarded : Nat) → (chunk : List Char) → List Char → List (List Char)
  | _, chunk, [] => [chunk.reverse]
  | guarded, chunk, c :: rest =>
    if c = '-' ∧ guarded = 0 then chunk.reverse :: chunks 2 [] rest
    else chunks (guarded - 1) (c :: chunk) rest

/-- Puts a hyphen that stands at the end of a set to the characters before it. -/
def settleLast : List (List Char) → List (List Char)
  | [] => []
  | [last] => [last]
  | [chunk, []] => [chunk ++ ['-']]
  | chunk :: rest => chunk :: settleLast rest

/-- Joins two chunks whose range would be empty, without its ends. -/
def joinEmptyRange (chunk : List Char) (rest : List (List Char)) : List (List Char) :=
  match chunk.getLast?, rest with
  | some low, (high :: after) :: others =>
    if high < low then (chunk.dropLast ++ after) :: others else chunk :: rest
  | _, _ => chunk :: rest

/-- The pieces of a bracketed set, from its chunks. -/
def setPieces (chunks : List (List Char)) : List SetPiece :=
  ([SetPiece.to].intercalate (chunks.map (·.map SetPiece.char)))

/-- The ranges that the pieces of a set stand for. -/
def setRanges : List SetPiece → List (Char × Char)
  | [] => []
  | .char low :: .to :: .char high :: rest => (low, high) :: setRanges rest
  | .char c :: rest => (c, c) :: setRanges rest
  | .to :: rest => ('-', '-') :: setRanges rest

/-- The piece that the inside of a bracketed set stands for. A set that becomes empty when its
empty ranges are left out holds nothing; a negated one holds everything. -/
def setPiece (inside : List Char) : Piece :=
  let guarded := if inside.head? = some '!' then 2 else 1
  let chunks := (settleLast (chunks guarded [] inside)).foldr joinEmptyRange []
  match setPieces chunks with
  | .char '!' :: pieces => .set ⟨true, setRanges pieces⟩
  | pieces => .set ⟨false, setRanges pieces⟩

/-- The inside of a bracketed set and what follows it, if the set is closed. A closing bracket
right after the opening one, or after its `!`, belongs to the inside. -/
def closeSet? (text : List Char) : Option (List Char × List Char) :=
  let mark := if text.head? = some '!' then ['!'] else []
  let text := text.drop mark.length
  let first := if text.head? = some ']' then [']'] else []
  let text := text.drop first.length
  match text.dropWhile (· != ']') with
  | _ :: rest => some (mark ++ first ++ text.takeWhile (· != ']'), rest)
  | [] => none

/-- What follows a closed set is shorter than the text. -/
theorem closeSet?_shorter {text inside rest : List Char}
    (closed : closeSet? text = some (inside, rest)) : rest.length < text.length := by
  unfold closeSet? at closed
  simp only at closed
  split at closed
  · next after dropped =>
    simp only [Option.some.injEq, Prod.mk.injEq] at closed
    obtain ⟨-, rfl⟩ := closed
    have bound := (List.dropWhile_sublist (p := fun c : Char => c != ']')
      (l := (text.drop (if text.head? = some '!' then ['!'] else []).length).drop
        (if (text.drop (if text.head? = some '!' then ['!'] else []).length).head? = some ']'
          then [']'] else []).length)).length_le
    rw [dropped] at bound
    simp only [List.length_cons, List.length_drop] at bound
    omega
  · exact absurd closed (by simp)

/-- The pieces of a part. A bracket that is not closed stands for itself. -/
def pieces (part : List Char) : List Piece :=
  match part with
  | [] => []
  | '*' :: rest => .many :: pieces rest
  | '?' :: rest => .one :: pieces rest
  | '[' :: rest =>
    match closed : closeSet? rest with
    | some (inside, rest') =>
      have := closeSet?_shorter closed
      setPiece inside :: pieces rest'
    | none => .char '[' :: pieces rest
  | c :: rest => .char c :: pieces rest
termination_by part.length

/-- Whether a name matches the pieces of a part from end to end. -/
def accepts : List Piece → List Char → Bool
  | [], name => name.isEmpty
  | .many :: rest, [] => accepts rest []
  | .many :: rest, c :: name => accepts rest (c :: name) || accepts (.many :: rest) name
  | _ :: _, [] => false
  | .one :: rest, _ :: name => accepts rest name
  | .char expected :: rest, c :: name => c == expected && accepts rest name
  | .set set :: rest, c :: name => set.holds c && accepts rest name
termination_by pieces name => (pieces.length, name.length)

/-- A part of a pattern. -/
inductive Part where
  /-- Any number of directories. -/
  | deep
  /-- A name with wildcards. -/
  | wild (pieces : List Piece)
  /-- A name. -/
  | exact (name : String)
  /-- The end of a pattern that asks for a directory. -/
  | directory
deriving DecidableEq, Repr

/-- Whether two stars stand side by side in a part. -/
def hasDoubleStar : List Char → Bool
  | '*' :: '*' :: _ => true
  | _ :: rest => hasDoubleStar rest
  | [] => false

/-- Whether a part has to be matched and not just looked up. -/
def hasWildcard (part : List Char) : Bool :=
  part.any fun c => c == '*' || c == '?' || c == '['

/-- Reads a part. A part with two stars side by side has to consist of just them. -/
def part? (text : List Char) : Option Part :=
  if text = ['*', '*'] then some .deep
  else if hasDoubleStar text then none
  else if hasWildcard text then some (.wild (pieces text))
  else some (.exact (String.ofList text))

/-- Reads a pattern that starts with no slash. Empty parts and parts of a single dot make no
difference; a slash at the end asks for a directory. -/
def ofPattern? (pattern : List Char) : Option (List Part) := do
  let written := (Text.fields '/' pattern).filter fun part => part ≠ [] ∧ part ≠ ['.']
  let parts ← written.mapM part?
  return if pattern.getLast? = some '/' then parts ++ [.directory] else parts

end EventAtlas.Glob
