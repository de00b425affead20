import EventAtlas.Text.Lower

/-!
# Slugs

The slug of a label keeps the ASCII letters and digits of its lower-case form and puts one
underscore for each stretch of anything else.
-/

namespace EventAtlas.Flow

/-- A character that slugs keep. -/
def isSlugChar (c : Char) : Bool :=
  ('a' ≤ c && c ≤ 'z') || ('0' ≤ c && c ≤ '9')

/-- Keeps the slug characters of a text and puts one underscore for each stretch of others.
`inGap` says that the stretch at the front already has its underscore. -/
def collapse : (inGap : Bool) → List Char → List Char
  | _, [] => []
  | inGap, c :: rest =>
    if isSlugChar c then c :: collapse false rest
    else if inGap then collapse true rest
    else '_' :: collapse true rest

/-- The slug of a label. -/
def slug (label : String) : String :=
  String.ofList (collapse false (Text.lower label.toList))

end EventAtlas.Flow
