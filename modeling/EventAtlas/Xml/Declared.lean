import EventAtlas.Xml.Mark

/-!
# Declarations of document types

The marks between the brackets of a document type are put together into declarations. Those of
elements and notations are checked and dropped. After a reference to a parameter entity, which
is never looked up, declarations no longer count unless the document stands alone.
-/

namespace EventAtlas.Xml

/-- What a general entity stands for. -/
inductive EntityValue where
  /-- A text of the document. -/
  | text (chars : List Char)
  /-- Something outside the document. -/
  | outside
deriving DecidableEq, Repr

/-- A declaration that counts for reading the document. -/
inductive Declared where
  | entity (name : String) (value : EntityValue)
  /-- An attribute of an element: whether its value is kept as written, and the value it has
  when it is not given, with the number of characters that follow it in the document. -/
  | rule (element name : String) (verbatim : Bool)
      (default : Option (List (ValuePiece × Span) × Nat))
  /-- A reference to a parameter entity, which may declare anything. -/
  | parameter
deriving DecidableEq, Repr

namespace Declared

/-- A character that a public identifier may hold. -/
def isPublicChar (c : Char) : Bool :=
  c.isAlphanum || c == ' ' || c == '\n' || "-'()+,./:=?;!*#@$_%".toList.contains c

/-- The text of an entity's value. Character references are replaced; references to entities
are checked and stay. -/
def entityText (text : List Char) : Except Fault (List Char) :=
  match text with
  | [] => .ok []
  | '%' :: _ => .error .badDoctype
  | '&' :: rest => do
    let (piece, after) ← Token.readReference rest
    if after.length < rest.length then
      let replaced := match piece with
        | .reference c => [c]
        | _ => '&' :: rest.take (rest.length - after.length)
      return replaced ++ (← entityText after)
    else .error .badDoctype
  | c :: rest => do return c :: (← entityText rest)
termination_by text.length

/-- Reads where something outside the document is found. -/
def readExternal : List Mark → Except Fault (Unit × List Mark)
  | .name "SYSTEM" false :: .literal _ _ :: rest => .ok ((), rest)
  | .name "PUBLIC" false :: .literal id _ :: .literal _ _ :: rest =>
    if id.all isPublicChar then .ok ((), rest) else .error .badDoctype
  | _ => .error .badDoctype

/-- Reads the value of a general entity after its name, with the end of the declaration. The
text is looked at only when declarations `count`. -/
def readEntityValue (count : Bool) : List Mark → Except Fault (EntityValue × List Mark)
  | .literal text _ :: .closing :: rest => do
    return (.text (← if count then entityText text else .ok []), rest)
  | marks => do
    match ← readExternal marks with
    | (_, .closing :: rest) => return (.outside, rest)
    | (_, .name "NDATA" false :: .name _ false :: .closing :: rest) => return (.outside, rest)
    | _ => .error .badDoctype

/-- Reads the declaration of an entity. A parameter entity is checked and dropped. -/
def readEntity (count : Bool) : List Mark → Except Fault (List Declared × List Mark)
  | .percent :: .name _ false :: .literal text _ :: .closing :: rest => do
    let _ ← if count then entityText text else .ok []
    return ([], rest)
  | .percent :: .name _ false :: marks => do
    match ← readExternal marks with
    | (_, .closing :: rest) => return ([], rest)
    | _ => .error .badDoctype
  | .name name false :: marks => do
    let (value, rest) ← readEntityValue count marks
    return (if count then [.entity name value] else [], rest)
  | _ => .error .badDoctype

/-- Reads the declaration of a notation. -/
def readNotation : List Mark → Except Fault (Unit × List Mark)
  | .name _ false :: .name "PUBLIC" false :: .literal id _ :: .closing :: rest =>
    if id.all isPublicChar then .ok ((), rest) else .error .badDoctype
  | .name _ false :: marks => do
    match ← readExternal marks with
    | (_, .closing :: rest) => return ((), rest)
    | _ => .error .badDoctype
  | _ => .error .badDoctype

/-- What joins the members of a group. -/
inductive Joint where
  | sequence
  | choice
deriving DecidableEq

/-- Reads the content of an element from inside its outermost group. `groups` holds what joins
the members of each open group, as far as it is known; `member` says that a member has to
follow. -/
def readGroups :
    (member : Bool) → (groups : List (Option Joint)) → List Mark → Except Fault (Unit × List Mark)
  | true, groups, .openGroup :: rest => readGroups true (none :: groups) rest
  | true, groups, .name _ _ :: rest => readGroups false groups rest
  | true, groups, .repeated :: rest => readGroups false groups rest
  | false, group :: groups, .comma :: rest =>
    if group = some .choice then .error .badDoctype
    else readGroups true (some .sequence :: groups) rest
  | false, group :: groups, .bar :: rest =>
    if group = some .sequence then .error .badDoctype
    else readGroups true (some .choice :: groups) rest
  | false, [_], .closeGroup _ :: rest => .ok ((), rest)
  | false, _ :: groups, .closeGroup _ :: rest => readGroups false groups rest
  | _, _, _ => .error .badDoctype

/-- Reads the names that may stand between the text of an element, up to the end of the
group. -/
def readMixed : List Mark → Except Fault (Unit × List Mark)
  | .closeGroup (some '*') :: rest => .ok ((), rest)
  | .bar :: .name _ _ :: rest => readMixed rest
  | _ => .error .badDoctype

/-- Reads the content of an element. -/
def readContent : List Mark → Except Fault (Unit × List Mark)
  | .name "EMPTY" false :: rest => .ok ((), rest)
  | .name "ANY" false :: rest => .ok ((), rest)
  | .openGroup :: .keyword "PCDATA" :: .closeGroup none :: rest => .ok ((), rest)
  | .openGroup :: .keyword "PCDATA" :: rest => readMixed rest
  | .openGroup :: rest => readGroups true [none] rest
  | _ => .error .badDoctype

/-- Reads the declaration of an element. -/
def readElement : List Mark → Except Fault (Unit × List Mark)
  | .name _ _ :: marks => do
    match ← readContent marks with
    | (_, .closing :: rest) => return ((), rest)
    | _ => .error .badDoctype
  | _ => .error .badDoctype

/-- The attribute types that a single word names, apart from the plain one. -/
def tokenTypes : List String :=
  ["ID", "IDREF", "IDREFS", "ENTITY", "ENTITIES", "NMTOKEN", "NMTOKENS"]

/-- Reads the alternatives of an attribute, up to the end of the group. -/
def readAlternatives (names : Bool) : List Mark → Except Fault (Unit × List Mark)
  | mark :: joint :: rest =>
    let fits := match mark with
      | .name _ hasPrefix => !(names && hasPrefix)
      | .word => !names
      | _ => false
    if !fits then .error .badDoctype
    else match joint with
      | .bar => readAlternatives names rest
      | .closeGroup none => .ok ((), rest)
      | _ => .error .badDoctype
  | _ => .error .badDoctype

/-- Reads the type of an attribute: whether its value is kept as written. -/
def readType : List Mark → Except Fault (Bool × List Mark)
  | .name "CDATA" false :: rest => .ok (true, rest)
  | .name "NOTATION" false :: .openGroup :: rest => do
    let (_, rest) ← readAlternatives true rest
    return (false, rest)
  | .name name false :: rest =>
    if tokenTypes.contains name then .ok (false, rest) else .error .badDoctype
  | .openGroup :: rest => do
    let (_, rest) ← readAlternatives false rest
    return (false, rest)
  | _ => .error .badDoctype

/-- Reads what value an attribute has when it is not given. -/
def readDefault (count : Bool) :
    List Mark → Except Fault (Option (List (ValuePiece × Span) × Nat) × List Mark)
  | .keyword "IMPLIED" :: rest => .ok (none, rest)
  | .keyword "REQUIRED" :: rest => .ok (none, rest)
  | .keyword "FIXED" :: .literal text left :: rest => value text left rest
  | .literal text left :: rest => value text left rest
  | _ => .error .badDoctype
where
  /-- The value of a quoted text, looked at only when declarations count. -/
  value (text : List Char) (left : Nat) (rest : List Mark) :
      Except Fault (Option (List (ValuePiece × Span) × Nat) × List Mark) := do
    if count then return (some (← Token.pieces text, left), rest)
    else return (none, rest)

/-- Reads the attributes of an element, with the end of the declaration. -/
def readAttributes (count : Bool) (element : String) (marks : List Mark) :
    Except Fault (List Declared × List Mark) :=
  match marks with
  | .closing :: rest => .ok ([], rest)
  | .name name _ :: marks' => do
    let (verbatim, rest) ← readType marks'
    let (default, rest) ← readDefault count rest
    if rest.length ≤ marks'.length then
      let (rules, rest) ← readAttributes count element rest
      return (.rule element name verbatim default :: rules, rest)
    else .error .badDoctype
  | _ => .error .badDoctype
termination_by marks.length

/-- Reads the next declaration of a subset that is not at its end. -/
def readNext (count : Bool) : List Mark → Except Fault (List Declared × List Mark)
  | .parameter :: rest => .ok ([.parameter], rest)
  | .opening "ENTITY" :: rest => readEntity count rest
  | .opening "ATTLIST" :: .name element _ :: rest => do
    let (rules, rest) ← readAttributes count element rest
    return (if count then rules else [], rest)
  | .opening "ELEMENT" :: rest => do
    let (_, rest) ← readElement rest
    return ([], rest)
  | .opening "NOTATION" :: rest => do
    let (_, rest) ← readNotation rest
    return ([], rest)
  | _ => .error .badDoctype

/-- Reads the declarations of a subset up to its closing bracket. After a reference to a
parameter entity they count only if the document stands alone. -/
def readSubset (standalone count : Bool) (marks : List Mark) :
    Except Fault (List Declared × List Mark) :=
  match marks with
  | .closeSubset :: rest => .ok ([], rest)
  | marks => do
    let (declared, rest) ← readNext count marks
    let count := count && (standalone || !declared.contains .parameter)
    if rest.length < marks.length then
      let (others, rest) ← readSubset standalone count rest
      return (declared ++ others, rest)
    else .error .badDoctype
termination_by marks.length

end Declared

end EventAtlas.Xml
