import EventAtlas.Number.Numeral
import EventAtlas.Text.Utf8
import EventAtlas.Yaml.Cursor
import EventAtlas.Yaml.Fault
import EventAtlas.Yaml.Token

/-!
# Properties and directives

How anchors, aliases, tags and directives are written.
-/

namespace EventAtlas.Yaml.Token

/-- Reads the name of an anchor or alias after its mark. -/
def readAnchorName (cursor : Cursor) : Except Fault (String × Cursor) :=
  let (name, after) := cursor.takeWhile isWordChar
  if name = [] then .error .badAnchor
  else if endsBefore (fun c => isBlank c || isBreak c || "?:,]\x7d%@\x60".toList.contains c)
      after.rest then
    .ok (String.ofList name, after)
  else .error .badAnchor

/-- A character of the suffix of a tag. -/
def isTagChar (c : Char) : Bool :=
  isWordChar c || ";/?:@&=+$,.!~*'()[]".toList.contains c

/-- Reads the bytes that are written as percent signs with two digits each. -/
def readTagBytes (cursor : Cursor) : Except Fault (Text.Bytes × Cursor) :=
  match cursor.rest with
  | '%' :: high :: low :: _ =>
    if isHexDigit high ∧ isHexDigit low then
      let after := cursor.skip 3
      if after.rest.length < cursor.rest.length then do
        let (others, after) ← readTagBytes after
        return (UInt8.ofNat (numberOf 16 [high, low]) :: others, after)
      else .error .badTag
    else .error .badTag
  | '%' :: _ => .error .badTag
  | _ => .ok ([], cursor)
termination_by cursor.rest.length

/-- Reads the suffix of a tag, which may be empty. -/
def readTagChars (cursor : Cursor) : Except Fault (List Char × Cursor) :=
  match cursor.rest with
  | [] => .ok ([], cursor)
  | c :: _ => do
    let (chunk, after) ←
      if c = '%' then do
        let (bytes, after) ← readTagBytes cursor
        match Text.Utf8.decode? bytes with
        | some chunk => pure (chunk, after)
        | none => .error .badTag
      else if isTagChar c then pure ([c], cursor.next)
      else pure ([], cursor)
    if after.rest.length < cursor.rest.length then
      let (others, after) ← readTagChars after
      return (chunk ++ others, after)
    else return ([], cursor)
termination_by cursor.rest.length

/-- Reads the suffix of a tag. It is not left out. -/
def readTagSuffix (cursor : Cursor) : Except Fault (String × Cursor) := do
  let (suffix, after) ← readTagChars cursor
  if after.rest.length < cursor.rest.length then return (String.ofList suffix, after)
  else .error .badTag

/-- Reads the handle of a tag: an exclamation mark, or a word between two of them. -/
def readTagHandle (cursor : Cursor) : Except Fault (String × Cursor) :=
  match cursor.rest with
  | '!' :: rest =>
    let word := rest.takeWhile isWordChar
    match rest.drop word.length with
    | '!' :: _ => .ok (String.ofList ('!' :: word ++ ['!']), cursor.skip (word.length + 2))
    | ' ' :: _ => if word = [] then .ok ("!", cursor.next) else .error .badTag
    | _ => .error .badTag
  | _ => .error .badTag

/-- Whether a second exclamation mark stands in the tag that a text starts with. -/
def hasHandle (rest : List Char) : Bool :=
  (rest.takeWhile fun c => c != ' ' && !isBreak c).contains '!'

/-- Reads a tag: one in angle brackets, a lone exclamation mark, or a handle and a suffix. -/
def readTag (cursor : Cursor) : Except Fault (TagText × Cursor) := do
  let rest := cursor.next.rest
  let (found, after) ←
    if rest.head? = some '<' then do
      let (suffix, after) ← readTagSuffix (cursor.skip 2)
      match after.rest with
      | '>' :: _ => pure ((⟨none, suffix⟩ : TagText), after.next)
      | _ => .error .badTag
    else if endsWord rest then pure ((⟨none, "!"⟩ : TagText), cursor.next)
    else do
      let (handle, after) ←
        if hasHandle rest then readTagHandle cursor else pure ("!", cursor.next)
      let (suffix, after) ← readTagSuffix after
      pure ((⟨some handle, suffix⟩ : TagText), after)
  if endsPart after.rest then return (found, after) else .error .badTag

/-- Reads a number of a version. -/
def readVersionNumber (cursor : Cursor) : Except Fault (Nat × Cursor) :=
  let (digits, after) := cursor.takeWhile Char.isDigit
  if digits = [] ∨ Numeral.maxDecimalDigits < digits.length then .error .badDirective
  else .ok (numberOf 10 digits, after)

/-- Reads the version that a directive requires. -/
def readVersion (cursor : Cursor) : Except Fault (Directive × Cursor) := do
  let (major, after) ← readVersionNumber cursor.skipSpaces
  match after.rest with
  | '.' :: _ =>
    let (minor, after) ← readVersionNumber after.next
    if endsPart after.rest then return (.version major minor, after) else .error .badDirective
  | _ => .error .badDirective

/-- Reads the tag handle that a directive declares, and what it stands for. -/
def readHandle (cursor : Cursor) : Except Fault (Directive × Cursor) := do
  let (handle, after) ← readTagHandle cursor.skipSpaces
  if after.rest.head? ≠ some ' ' then throw .badDirective
  let (expansion, after) ← readTagSuffix after.skipSpaces
  if endsPart after.rest then return (.handle handle expansion, after)
  else .error .badDirective

/-- Reads a directive after its percent sign, with the rest of its line. -/
def readDirective (cursor : Cursor) : Except Fault (Directive × Cursor) := do
  let (name, after) := cursor.takeWhile isWordChar
  if name = [] || !endsPart after.rest then throw .badDirective
  let (found, after) ←
    if name = "YAML".toList then readVersion after
    else if name = "TAG".toList then readHandle after
    else pure (Directive.other, (after.takeWhile (!isBreak ·)).2)
  let after := after.skipSpaces.skipComment
  if endsLine after.rest then return (found, after.next) else .error .badDirective

end EventAtlas.Yaml.Token
