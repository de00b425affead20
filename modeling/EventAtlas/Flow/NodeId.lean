import EventAtlas.Flow.Slug

/-!
# Node identifiers

Every node of a diagram needs an identifier that the diagram language accepts. It comes from
the label; when it is taken or means something to the language, a number is appended, counting
from two. The same label of the same kind always gets the same identifier.
-/

namespace EventAtlas.Flow

/-- Words that diagram languages give a meaning of their own. -/
def reservedIds : List String :=
  ["end", "graph", "flowchart", "subgraph", "direction", "style", "classdef", "class", "click",
    "linkstyle", "default"]

/-- The identifiers given out so far, by kind and label, in order. -/
structure NodeIds where
  assigned : List ((String × String) × String)

namespace NodeIds

/-- No identifier is given out. -/
def empty : NodeIds where
  assigned := []

/-- The identifiers given out. -/
def used (ids : NodeIds) : List String :=
  ids.assigned.map Prod.snd

/-- Whether an identifier cannot be given out. -/
def isTaken (ids : NodeIds) (id : String) : Bool :=
  ids.used.contains id || reservedIds.contains id

/-- What the identifiers of a label start with: its slug, or the kind if the slug is empty. -/
def base (kind label : String) : String :=
  if slug label = "" then kind else slug label

/-- The `n`-th identifier for a base, counting from zero: the base itself, then the base with
two, three and so on. -/
def candidate (base : String) : Nat → String
  | 0 => base
  | n + 1 => base ++ "_" ++ toString (n + 2)

/-- The first candidate from the `n`-th on that is not taken, looking at no more than `tries`
candidates before the one that is returned in any case. -/
def firstFree (ids : NodeIds) (base : String) : (tries n : Nat) → String
  | 0, n => candidate base n
  | tries + 1, n =>
    if ids.isTaken (candidate base n) then ids.firstFree base tries (n + 1)
    else candidate base n

/-- The identifier for a label of a kind, and the identifiers given out after that. Only the
base can be a reserved word, so one more try than there are used identifiers is enough. -/
def request (ids : NodeIds) (kind label : String) : String × NodeIds :=
  match ids.assigned.lookup (kind, label) with
  | some id => (id, ids)
  | none =>
    let id := ids.firstFree (base kind label) (ids.used.length + 1) 0
    (id, { assigned := ids.assigned ++ [((kind, label), id)] })

/-- Answers a list of requests one after the other. -/
def requestAll : NodeIds → List (String × String) → List String
  | _, [] => []
  | ids, (kind, label) :: rest =>
    let (id, ids) := ids.request kind label
    id :: requestAll ids rest

end NodeIds

end EventAtlas.Flow
