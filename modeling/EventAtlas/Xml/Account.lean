import EventAtlas.Number.Binary64
import EventAtlas.Xml.Fault

/-!
# What entities add to a document

The bytes of a document are counted as they are read, and so are the bytes of the texts that
entities put into it. After each step what the entities have added has to be in proportion to
what has been read of the document up to there.
-/

namespace EventAtlas.Xml

/-- How many bytes of a document have been read, and how many its entities have added. -/
structure Account where
  read : Nat
  added : Nat
deriving DecidableEq, Repr

namespace Account

/-- The number of bytes below which nothing is out of proportion. -/
def floor : Nat := 8 * 1024 * 1024

/-- How many times as long as what was read of a document the whole may become. -/
def factor : Nat := 100

/-- The number nearest to a number that has at most twenty-four binary digits before its
zeros. -/
def single (n : Nat) : Nat :=
  let unit := Nat.pow 2 (n.log2 - 23)
  Binary64.roundDiv n unit * unit

/-- Whether what was added is in proportion. The numbers are divided in single precision, where
everything up to `2 ^ -18` above the factor is the factor. -/
def tolerated (account : Account) : Bool :=
  let whole := account.read + account.added
  whole < floor || single whole * Nat.pow 2 18 ≤ (factor * Nat.pow 2 18 + 1) * single account.read

end Account

/-- A computation that expands entities: it counts what is read and what is added. -/
abbrev Expansion := StateT Account (Except Fault)

namespace Expansion

/-- Goes on if what was added is in proportion. -/
def check : Expansion Unit := do
  if (← get).tolerated then return () else throw .expansionLimit

/-- The document has been read up to a place. -/
def readTo (bytes : Nat) : Expansion Unit := do
  modify fun account => { account with read := bytes }
  check

/-- Counts bytes, which are those of the document itself or were added to it. -/
def count (direct : Bool) (bytes : Nat) : Expansion Unit := do
  modify fun account =>
    if direct then { account with read := account.read + bytes }
    else { account with added := account.added + bytes }
  check

/-- Counts the character for which one of the names stands that every document knows. Whether it
is in proportion is seen in the next step. -/
def countNamed : Expansion Unit :=
  modify fun account => { account with added := account.added + 1 }

end Expansion

/-- A stretch of a text, by the numbers of characters that follow its two ends. -/
structure Span where
  before : Nat
  after : Nat
deriving DecidableEq, Repr

/-- How a text is counted: whether it is that of the document itself, and how many bytes are
read at each place, by the number of characters that follow. -/
structure Gauge where
  direct : Bool
  place : Nat → Nat

namespace Gauge

/-- The sums of the fronts of a list, with what is there already. -/
def sums : (sum : Nat) → List Nat → List Nat
  | sum, [] => [sum]
  | sum, n :: rest => sum :: sums (sum + n) rest

/-- The gauge of a text whose characters take these numbers of bytes, after bytes that are not
part of it. -/
def ofWidths (direct : Bool) (start : Nat) (widths : List Nat) : Gauge :=
  let places := (sums start widths).toArray
  { direct := direct
    place := fun left => places.getD (places.size - 1 - left) start }

/-- The gauge of the text of an entity. -/
def ofText (text : List Char) : Gauge :=
  ofWidths false 0 (text.map Char.utf8Size)

/-- The gauge of a part of a text, which a number of characters follow. -/
def ofPart (gauge : Gauge) (left : Nat) : Gauge :=
  { gauge with place := fun rest => gauge.place (rest + left) }

/-- Counts a stretch of a text. -/
def count (gauge : Gauge) (span : Span) : Expansion Unit :=
  Expansion.count gauge.direct (gauge.place span.after - gauge.place span.before)

end Gauge

end EventAtlas.Xml
