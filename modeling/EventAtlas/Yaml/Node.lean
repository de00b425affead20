import EventAtlas.Text.Newline
import EventAtlas.Yaml.Tag
import EventAtlas.Yaml.Timestamp
import EventAtlas.Yaml.Written

/-!
# Nodes

A node is a value whose tag is known and whose aliases are replaced by what they stand for. An
alias inside the very value that its anchor names would never end and is left as a loop.
-/

namespace EventAtlas.Yaml

/-- A value with its tag. -/
inductive Node where
  | scalar (tag : Tag) (text : List Char)
  | sequence (tag : Tag) (items : List Node)
  | mapping (tag : Tag) (pairs : List (Node × Node))
  /-- A value that stands around this place. -/
  | loop

namespace Node

/-- The tag of a node. A loop leads to a collection. -/
def tag : Node → Tag
  | scalar tag _ | sequence tag _ | mapping tag _ => tag
  | loop => .seq

/-- The tag that a plain scalar has by its form. The empty text stands for nothing. -/
def plainTag (written : List Char) : Tag :=
  let text := Text.withoutLastBreak written
  let word := String.ofList text
  if written = [] then .null
  else if Tag.boolWords.contains word then .bool
  else if Tag.isFloat text then .float
  else if Tag.isInt text then .int
  else if word = "<<" then .merge
  else if Tag.nullWords.contains word then .null
  else if (TimestampText.read text).any (·.isPlain) then .timestamp
  else if word = "=" then .value
  else if Tag.signWords.contains word then .other Tag.signName
  else .str

/-- The tag that was written, unless it only says that there is none. -/
def givenTag (properties : Properties) : Option Tag :=
  match properties.tag with
  | none | some "!" => none
  | some name => some (Tag.ofName name)

/-- The tag of a scalar. Quoted texts are texts, unless an exclamation mark says otherwise. -/
def scalarTag (properties : Properties) (text : List Char) (plain : Bool) : Tag :=
  (givenTag properties).getD (if plain || properties.tag.isSome then plainTag text else .str)

/-- What anchors stand for; a value that is not complete is none. -/
abbrev Anchors := List (String × Option Node)

/-- Adds an anchor for a value that is not complete. Its name must not be taken. -/
def openAnchor (anchors : Anchors) : Option String → Except Fault Anchors
  | none => .ok anchors
  | some name =>
    if (anchors.lookup name).isSome then .error (.repeatedAnchor name)
    else .ok ((name, none) :: anchors)

/-- Completes the value of an anchor. -/
def closeAnchor (anchors : Anchors) (name : Option String) (node : Node) : Anchors :=
  match name with
  | none => anchors
  | some name => (name, some node) :: anchors

/-- The node that an alias stands for. -/
def follow (anchors : Anchors) (name : String) : Except Fault Node :=
  match anchors.lookup name with
  | some (some node) => .ok node
  | some none => .ok .loop
  | none => .error (.undefinedAlias name)

mutual

/-- The node of a written value, and the anchors that are known after it. -/
def ofWritten (anchors : Anchors) : Written → Except Fault (Node × Anchors)
  | .alias name => do return (← follow anchors name, anchors)
  | .scalar properties text plain => do
    let anchors ← openAnchor anchors properties.anchor
    let node := Node.scalar (scalarTag properties text plain) text
    return (node, closeAnchor anchors properties.anchor node)
  | .sequence properties items => do
    let anchors ← openAnchor anchors properties.anchor
    let (items, anchors) ← ofItems anchors items
    let node := Node.sequence ((givenTag properties).getD .seq) items
    return (node, closeAnchor anchors properties.anchor node)
  | .mapping properties pairs => do
    let anchors ← openAnchor anchors properties.anchor
    let (pairs, anchors) ← ofPairs anchors pairs
    let node := Node.mapping ((givenTag properties).getD .map) pairs
    return (node, closeAnchor anchors properties.anchor node)

/-- The nodes of written values, one after the other. -/
def ofItems (anchors : Anchors) : List Written → Except Fault (List Node × Anchors)
  | [] => .ok ([], anchors)
  | item :: rest => do
    let (node, anchors) ← ofWritten anchors item
    let (nodes, anchors) ← ofItems anchors rest
    return (node :: nodes, anchors)

/-- The nodes of written pairs, one after the other. -/
def ofPairs (anchors : Anchors) : List (Written × Written) →
    Except Fault (List (Node × Node) × Anchors)
  | [] => .ok ([], anchors)
  | (key, value) :: rest => do
    let (key, anchors) ← ofWritten anchors key
    let (value, anchors) ← ofWritten anchors value
    let (pairs, anchors) ← ofPairs anchors rest
    return ((key, value) :: pairs, anchors)

end

end Node

end EventAtlas.Yaml
