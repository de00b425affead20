import EventAtlas.Number.Numeral
import EventAtlas.Text.Base64
import EventAtlas.Yaml.Node
import EventAtlas.Yaml.Token.Lexer
import EventAtlas.Yaml.Value

/-!
# Loading values

A text is loaded by way of its tokens, its written value and its node. The values of a node are
taken from the outside to the inside: of several flaws the one that is nearest to the outside
counts, and of those the first.
-/

namespace EventAtlas.Yaml

/-- A flaw in a node and how deep inside it is found. -/
structure Flaw where
  depth : Nat
  refusal : Refusal

/-- What taking a value from a node gives. -/
abbrev Attempt (α : Type) := Except Flaw α

namespace Attempt

variable {α β : Type}

/-- A flaw of the form of a node. -/
def flawed (depth : Nat) (fault : Fault) : Attempt α :=
  .error ⟨depth, .malformed fault⟩

/-- Two values, or the flaw that counts. -/
def both : Attempt α → Attempt β → Attempt (α × β)
  | .ok first, .ok second => .ok (first, second)
  | .error flaw, .ok _ => .error flaw
  | .ok _, .error flaw => .error flaw
  | .error first, .error second =>
    .error (if second.depth < first.depth then second else first)

/-- A value in front of others. -/
def cons (first : Attempt α) (rest : Attempt (List α)) : Attempt (List α) :=
  (both first rest).map fun (value, values) => value :: values

/-- Values in front of others. -/
def append (first second : Attempt (List α)) : Attempt (List α) :=
  (both first second).map fun (values, others) => values ++ others

end Attempt

namespace Node

/-- The text of a scalar. A mapping stands for the scalar under its sign for that. -/
def scalarText? : Node → Option (List Char)
  | .scalar _ text => some text
  | .mapping _ pairs => among pairs
  | .sequence _ _ | .loop => none
where
  /-- The scalar under the sign of a mapping. -/
  among : List (Node × Node) → Option (List Char)
    | [] => none
    | (key, value) :: rest => if key.tag = .value then scalarText? value else among rest

/-- The truth value of a word. -/
def boolOf (text : List Char) : Except Refusal Value :=
  let word := String.ofList (Text.lower text)
  if ["yes", "true", "on"].contains word then .ok (.bool true)
  else if ["no", "false", "off"].contains word then .ok (.bool false)
  else .error (.notBoolean (String.ofList text))

/-- The number that parts in base sixty make, the last one first. -/
def sexagesimal : List Int → Int
  | [] => 0
  | last :: rest => last + 60 * sexagesimal rest

/-- The whole number of an unsigned text. -/
def unsignedInt? (text : List Char) : Option Int :=
  match text with
  | ['0'] => some 0
  | '0' :: 'b' :: digits => Numeral.int? 2 digits
  | '0' :: 'x' :: digits => Numeral.int? 16 digits
  | '0' :: digits => Numeral.int? 8 ('0' :: digits)
  | digits =>
    if digits.contains ':' then
      ((Text.fields ':' digits).mapM (Numeral.int? 10)).map fun parts => sexagesimal parts.reverse
    else Numeral.int? 10 digits

/-- The whole number of a text, in any of its notations. -/
def intOf (text : List Char) : Except Refusal Value :=
  let digits := text.filter (· != '_')
  let (negative, unsigned) := Numeral.splitSign digits
  if unsigned = [] then .error .emptyNumber
  else match unsignedInt? unsigned with
    | some value => .ok (.int (if negative then -value else value))
    | none => .error (.malformed (.wrongForm "int"))

/-- The floating point number that parts in base sixty make, the last one first. -/
def sexagesimalFloat (parts : List Binary64) : Binary64 :=
  (parts.zipIdx.foldl (fun total (part, place) => total.add (part.scale (Nat.pow 60 place)))
    (.zero false))

/-- The most parts that a floating point number in base sixty may have. The weight of one more
would be 60 ^ 174, which is beyond all floating point numbers. -/
def maxSexagesimalParts : Nat := 174

/-- The floating point number of an unsigned text. -/
def unsignedFloat? (text : List Char) : Option Binary64 :=
  if text = ".inf".toList then some (.infinite false)
  else if text = ".nan".toList then some .nan
  else if text.contains ':' then
    ((Text.fields ':' text).mapM Numeral.float?).map fun parts => sexagesimalFloat parts.reverse
  else Numeral.float? text

/-- The floating point number of a text. -/
def floatOf (text : List Char) : Except Refusal Value :=
  let digits := Text.lower (text.filter (· != '_'))
  let (negative, unsigned) := Numeral.splitSign digits
  if digits = [] then .error .emptyNumber
  else match unsignedFloat? unsigned with
    | some value =>
      if maxSexagesimalParts < (Text.fields ':' unsigned).length then .error .hugePlace
      else .ok (.float (if negative then value.neg else value))
    | none => .error (.malformed (.wrongForm "float"))

/-- The bytes of a text in base 64. -/
def bytesOf (text : List Char) : Except Refusal Value :=
  match if text.all (·.toNat < 128) then Text.Base64.decode? text else none with
  | some content => .ok (.bytes content)
  | none => .error (.malformed (.wrongForm "binary"))

/-- The date or the moment of a text. -/
def timestampOf (text : List Char) : Except Refusal Value :=
  match TimestampText.read (Text.withoutLastBreak text) with
  | none => .error (.notTimestamp (String.ofList text))
  | some written =>
    match written.value? with
    | some (.inl date) => .ok (.date date)
    | some (.inr moment) => .ok (.moment moment)
    | none => .error (.malformed (.wrongForm "timestamp"))

/-- The value of a text with the tag of a scalar. -/
def scalarValue (tag : Tag) (text : List Char) : Except Refusal Value :=
  match tag with
  | .null => .ok .null
  | .bool => boolOf text
  | .int => intOf text
  | .float => floatOf text
  | .binary => bytesOf text
  | .timestamp => timestampOf text
  | .str => .ok (.text (String.ofList text))
  | tag => .error (.malformed (.unknownTag tag.name))

/-- The value of a collection with the tag of a scalar, which a mapping may stand for. A timestamp
has to be written as a scalar. -/
def scalarOf (depth : Nat) (tag : Tag) (node : Node) : Attempt Value :=
  match tag, node.scalarText? with
  | .merge, _ | .value, _ | .other _, _ => Attempt.flawed depth (.unknownTag tag.name)
  | _, none => Attempt.flawed depth (.wrongForm tag.name)
  | .timestamp, some _ => .error ⟨depth, .timestampOfMapping⟩
  | tag, some text => (scalarValue tag text).mapError (Flaw.mk depth)

/-- Whether the values of pairs that are to be taken over are mappings, or lists of them. -/
def checkMerges (depth : Nat) : List (Node × Node) → Attempt Unit
  | [] => .ok ()
  | (key, value) :: rest =>
    if key.tag = .merge then
      match value with
      | .mapping _ pairs => do checkMerges depth pairs; checkMerges depth rest
      | .sequence _ items => do checkAll items; checkMerges depth rest
      | .loop => checkMerges depth rest
      | .scalar _ _ => Attempt.flawed depth (.wrongForm "merge")
    else checkMerges depth rest
where
  /-- Whether items are mappings. -/
  checkAll : List Node → Attempt Unit
    | [] => .ok ()
    | .mapping _ pairs :: rest => do checkMerges depth pairs; checkAll rest
    | _ :: _ => Attempt.flawed depth (.wrongForm "merge")

mutual

/-- The value of a node. -/
def value (depth : Nat) (node : Node) : Attempt Value :=
  match node with
  | .loop => .ok .loop
  | .scalar tag text =>
    match tag with
    | .seq | .map | .omap | .pairs | .set => Attempt.flawed (depth + 1) (.wrongForm tag.name)
    | tag => (scalarValue tag text).mapError (Flaw.mk depth)
  | .sequence tag items =>
    match tag with
    | .seq => (values (depth + 1) items).map .list
    | .omap | .pairs => (pairValues (depth + 1) items).map .list
    | .map | .set => Attempt.flawed (depth + 1) (.wrongForm tag.name)
    | tag => scalarOf depth tag (.sequence .seq [])
  | .mapping tag pairs =>
    match tag with
    | .map => (entries (depth + 1) pairs).map fun pairs => .table (Value.entriesOf pairs)
    | .set =>
      (entries (depth + 1) pairs).map fun pairs =>
        .set ((Value.entriesOf pairs).map Prod.fst)
    | .seq | .omap | .pairs => Attempt.flawed (depth + 1) (.wrongForm tag.name)
    | tag => scalarOf depth tag (.mapping tag pairs)

/-- The values of nodes. -/
def values (depth : Nat) : List Node → Attempt (List Value)
  | [] => .ok []
  | node :: rest => Attempt.cons (value depth node) (values depth rest)

/-- The pairs that a list of mappings with one entry each stands for. -/
def pairValues (depth : Nat) : List Node → Attempt (List Value)
  | [] => .ok []
  | .mapping _ [(key, item)] :: rest =>
    Attempt.cons
      ((Attempt.both (value depth key) (value depth item)).map fun (key, item) => .pair key item)
      (pairValues depth rest)
  | _ :: _ => Attempt.flawed depth (.wrongForm "pairs")

/-- The pairs of a mapping, those that are taken over first. -/
def entries (depth : Nat) (pairs : List (Node × Node)) : Attempt (List (Value × Value)) :=
  (Attempt.both (checkMerges depth pairs)
    (Attempt.append (merged depth pairs) (own depth pairs))).map Prod.snd

/-- The pairs that a mapping has by itself. -/
def own (depth : Nat) : List (Node × Node) → Attempt (List (Value × Value))
  | [] => .ok []
  | (key, item) :: rest =>
    if key.tag = .merge then own depth rest
    else Attempt.cons (Attempt.both (keyValue depth key) (value depth item)) (own depth rest)

/-- The value of a key, which is no collection. The sign for the value of a mapping is a text
where it is a key. -/
def keyValue (depth : Nat) (key : Node) : Attempt Value :=
  if key.tag.isCollection then Attempt.flawed depth .collectionAsKey
  else match key with
    | .scalar .value text => .ok (.text (String.ofList text))
    | key => value depth key

/-- The pairs that a mapping takes over from others. -/
def merged (depth : Nat) : List (Node × Node) → Attempt (List (Value × Value))
  | [] => .ok []
  | (key, item) :: rest =>
    if key.tag = .merge then
      match item with
      | .mapping _ pairs =>
        Attempt.append (Attempt.append (merged depth pairs) (own depth pairs)) (merged depth rest)
      | .sequence _ items => Attempt.append (mergedItems depth items) (merged depth rest)
      | _ => merged depth rest
    else merged depth rest

/-- The pairs of several mappings, the last one first. -/
def mergedItems (depth : Nat) : List Node → Attempt (List (Value × Value))
  | [] => .ok []
  | .mapping _ pairs :: rest =>
    Attempt.append (mergedItems depth rest)
      (Attempt.append (merged depth pairs) (own depth pairs))
  | _ :: rest => mergedItems depth rest

end

end Node

/-- The value in a text; a text without a document stands for nothing. -/
def load (text : List Char) : Except Refusal Value := do
  if !text.all isPrintable then throw (.malformed .unprintable)
  let tokens ← (Token.ofText text).mapError .ofFault
  match ← (Written.ofTokens tokens).mapError .malformed with
  | none => return .null
  | some written =>
    let (node, _) ← (Node.ofWritten [] written).mapError .malformed
    (node.value 0).mapError (·.refusal)

end EventAtlas.Yaml
