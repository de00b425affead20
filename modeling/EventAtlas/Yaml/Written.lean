import EventAtlas.Yaml.Fault
import EventAtlas.Yaml.Token

/-!
# Values as written

Tokens are put together into a value as it is written: with its anchors and tags, and with
aliases that are not yet looked up. A value that is left out is an empty plain scalar.
-/

namespace EventAtlas.Yaml

/-- What may be attached to a value: an anchor and a tag, whose handle is already replaced. -/
structure Properties where
  anchor : Option String
  tag : Option String
deriving DecidableEq, Repr

/-- A value as it is written. -/
inductive Written where
  | alias (name : String)
  | scalar (properties : Properties) (text : List Char) (plain : Bool)
  | sequence (properties : Properties) (items : List Written)
  | mapping (properties : Properties) (pairs : List (Written × Written))

namespace Written

/-- Nothing is attached. -/
def bare : Properties where
  anchor := none
  tag := none

/-- A value that is left out. -/
def empty : Written :=
  .scalar bare [] true

/-- What the handles of tags stand for. -/
abbrev Handles := List (String × String)

/-- The handles that need no declaration. -/
def standardHandles : Handles :=
  [("!", "!"), ("!!", "tag:yaml.org,2002:")]

/-- The tag that a written tag means. -/
def tagOf (handles : Handles) (tag : TagText) : Except Fault String :=
  match tag.handle with
  | none => .ok tag.suffix
  | some handle =>
    match handles.lookup handle with
    | some expansion => .ok (expansion ++ tag.suffix)
    | none => .error .badTag

/-- Reads what is attached to a value: an anchor and a tag in either order. -/
def readProperties (handles : Handles) : List Token → Except Fault (Properties × List Token)
  | .anchor name :: .tag tag :: rest | .tag tag :: .anchor name :: rest => do
    return (⟨some name, some (← tagOf handles tag)⟩, rest)
  | .anchor name :: rest => .ok (⟨some name, none⟩, rest)
  | .tag tag :: rest => do return (⟨none, some (← tagOf handles tag)⟩, rest)
  | rest => .ok (bare, rest)

/-- Whether the next token ends an entry of a block sequence without a value. -/
def endsEntry : List Token → Bool
  | .entry :: _ | .blockEnd :: _ => true
  | _ => false

/-- Whether the next token ends an entry of a sequence without its own indentation. -/
def endsInlineEntry : List Token → Bool
  | .entry :: _ | .key :: _ | .value :: _ | .blockEnd :: _ => true
  | _ => false

/-- Whether the next token ends a key or a value of a block mapping. -/
def endsPair : List Token → Bool
  | .key :: _ | .value :: _ | .blockEnd :: _ => true
  | _ => false

/-- Whether the next token ends a key between brackets that `close` ends. -/
def endsFlowKey (close : Token) : List Token → Bool
  | .value :: _ | .comma :: _ => true
  | token :: _ => token = close
  | [] => false

/-- Whether the next token ends a value between brackets that `close` ends. -/
def endsFlowValue (close : Token) : List Token → Bool
  | .comma :: _ => true
  | token :: _ => token = close
  | [] => false

/-- Where a value stands. -/
inductive Position where
  /-- Between brackets. -/
  | flow
  /-- In a block. -/
  | block
  /-- In a pair of a block, where a sequence needs no further indentation. -/
  | pair
deriving DecidableEq

/-- The tokens from the start of the next entry between brackets: entries after the first
follow a comma. -/
def afterComma (first : Bool) (tokens : List Token) : Except Fault (List Token) :=
  if first then .ok tokens
  else match tokens with
    | .comma :: rest => .ok rest
    | _ => .error .badStructure

mutual

/-- Reads a value. -/
def readValue (handles : Handles) (position : Position) (tokens : List Token) :
    Except Fault (Written × List Token) :=
  match tokens with
  | .alias name :: rest => .ok (.alias name, rest)
  | tokens => do
    let (properties, rest) ← readProperties handles tokens
    if rest.length ≤ tokens.length then readContent handles position properties rest
    else .error .badStructure
termination_by 5 * tokens.length + 2
decreasing_by all_goals omega

/-- Reads a value after what is attached to it. -/
def readContent (handles : Handles) (position : Position) (properties : Properties)
    (tokens : List Token) : Except Fault (Written × List Token) :=
  match tokens with
  | .scalar text plain :: rest => .ok (.scalar properties text plain, rest)
  | .flowSequenceStart :: rest => do
    let (items, rest) ← readFlowItems handles true rest
    return (.sequence properties items, rest)
  | .flowMappingStart :: rest => do
    let (pairs, rest) ← readFlowPairs handles true rest
    return (.mapping properties pairs, rest)
  | tokens =>
    match position, tokens with
    | .pair, .entry :: rest => do
      let (items, rest) ← readInlineItems handles (.entry :: rest)
      return (.sequence properties items, rest)
    | .block, .blockSequenceStart :: rest | .pair, .blockSequenceStart :: rest => do
      let (items, rest) ← readItems handles rest
      return (.sequence properties items, rest)
    | .block, .blockMappingStart :: rest | .pair, .blockMappingStart :: rest => do
      let (pairs, rest) ← readPairs handles rest
      return (.mapping properties pairs, rest)
    | _, _ =>
      if properties = bare then .error .badStructure
      else .ok (.scalar properties [] true, tokens)
termination_by 5 * tokens.length + 1
decreasing_by all_goals simp only [List.length_cons]; omega

/-- Reads the entries of a block sequence, with its end. -/
def readItems (handles : Handles) (tokens : List Token) :
    Except Fault (List Written × List Token) :=
  match tokens with
  | .blockEnd :: rest => .ok ([], rest)
  | .entry :: rest => do
    let (item, after) ← if endsEntry rest then .ok (empty, rest) else readValue handles .block rest
    if after.length ≤ rest.length then
      let (items, after) ← readItems handles after
      return (item :: items, after)
    else .error .badStructure
  | _ => .error .badStructure
termination_by 5 * tokens.length
decreasing_by all_goals simp only [List.length_cons]; omega

/-- Reads the entries of a sequence without its own indentation. -/
def readInlineItems (handles : Handles) (tokens : List Token) :
    Except Fault (List Written × List Token) :=
  match tokens with
  | .entry :: rest => do
    let (item, after) ←
      if endsInlineEntry rest then .ok (empty, rest) else readValue handles .block rest
    if after.length ≤ rest.length then
      let (items, after) ← readInlineItems handles after
      return (item :: items, after)
    else .error .badStructure
  | rest => .ok ([], rest)
termination_by 5 * tokens.length
decreasing_by all_goals simp only [List.length_cons]; omega

/-- Reads the pairs of a block mapping, with its end. -/
def readPairs (handles : Handles) (tokens : List Token) :
    Except Fault (List (Written × Written) × List Token) :=
  match tokens with
  | .blockEnd :: rest => .ok ([], rest)
  | .key :: rest => do
    let (key, after) ← if endsPair rest then .ok (empty, rest) else readValue handles .pair rest
    if after.length ≤ rest.length then
      let (value, last) ← readPairValue handles after
      if last.length ≤ rest.length then
        let (pairs, last) ← readPairs handles last
        return ((key, value) :: pairs, last)
      else .error .badStructure
    else .error .badStructure
  | _ => .error .badStructure
termination_by 5 * tokens.length
decreasing_by all_goals simp only [List.length_cons]; omega

/-- Reads the value of a pair of a block mapping, which may be left out. -/
def readPairValue (handles : Handles) (tokens : List Token) :
    Except Fault (Written × List Token) :=
  match tokens with
  | .value :: rest => if endsPair rest then .ok (empty, rest) else readValue handles .pair rest
  | rest => .ok (empty, rest)
termination_by 5 * tokens.length
decreasing_by all_goals simp only [List.length_cons]; omega

/-- Reads the entries of a sequence in brackets, with its end. -/
def readFlowItems (handles : Handles) (first : Bool) (tokens : List Token) :
    Except Fault (List Written × List Token) :=
  match tokens with
  | .flowSequenceEnd :: rest => .ok ([], rest)
  | tokens => do
    let start ← afterComma first tokens
    if start.head? = some .flowSequenceEnd then return ([], start.tail)
    else if start.length ≤ tokens.length then
      let (item, after) ← readFlowItem handles start
      if after.length < tokens.length then
        let (items, after) ← readFlowItems handles false after
        return (item :: items, after)
      else .error .badStructure
    else .error .badStructure
termination_by 5 * tokens.length + 4
decreasing_by all_goals omega

/-- Reads an entry of a sequence in brackets. A pair there is a mapping by itself. -/
def readFlowItem (handles : Handles) (tokens : List Token) :
    Except Fault (Written × List Token) :=
  match tokens with
  | .key :: rest => do
    let (pair, after) ← readFlowPair handles .flowSequenceEnd rest
    return (.mapping bare [pair], after)
  | tokens => readValue handles .flow tokens
termination_by 5 * tokens.length + 3
decreasing_by
  · simp only [List.length_cons]; omega
  · omega

/-- Reads the pairs of a mapping in braces, with its end. -/
def readFlowPairs (handles : Handles) (first : Bool) (tokens : List Token) :
    Except Fault (List (Written × Written) × List Token) :=
  match tokens with
  | .flowMappingEnd :: rest => .ok ([], rest)
  | tokens => do
    let start ← afterComma first tokens
    if start.head? = some .flowMappingEnd then return ([], start.tail)
    else if start.length ≤ tokens.length then
      let (pair, after) ← readFlowEntry handles start
      if after.length < tokens.length then
        let (pairs, after) ← readFlowPairs handles false after
        return (pair :: pairs, after)
      else .error .badStructure
    else .error .badStructure
termination_by 5 * tokens.length + 4
decreasing_by all_goals omega

/-- Reads an entry of a mapping in braces. A key there may stand alone. -/
def readFlowEntry (handles : Handles) (tokens : List Token) :
    Except Fault ((Written × Written) × List Token) :=
  match tokens with
  | .key :: rest => readFlowPair handles .flowMappingEnd rest
  | tokens => do
    let (key, after) ← readValue handles .flow tokens
    return ((key, empty), after)
termination_by 5 * tokens.length + 3
decreasing_by
  · simp only [List.length_cons]; omega
  · omega

/-- Reads a pair between brackets after the mark of its key. -/
def readFlowPair (handles : Handles) (close : Token) (tokens : List Token) :
    Except Fault ((Written × Written) × List Token) := do
  let (key, after) ←
    if endsFlowKey close tokens then .ok (empty, tokens) else readValue handles .flow tokens
  match after with
  | .value :: rest =>
    if rest.length < tokens.length then
      if endsFlowValue close rest then return ((key, empty), rest)
      else
        let (value, rest) ← readValue handles .flow rest
        return ((key, value), rest)
    else .error .badStructure
  | rest => return ((key, empty), rest)
termination_by 5 * tokens.length + 3
decreasing_by all_goals omega

end

/-- The handles that directives declare, in addition to the standard ones. -/
def handlesOf (directives : List Directive) : Except Fault Handles := do
  let declared := directives.filterMap fun directive =>
    match directive with
    | .handle name expansion => some (name, expansion)
    | _ => none
  let names := declared.map Prod.fst
  if names.eraseDups.length = names.length then return declared ++ standardHandles
  else throw .badDirective

/-- Checks that directives ask for one version of the language at most, which has to be one
that is known. -/
def checkVersions (directives : List Directive) : Except Fault Unit :=
  let versions := directives.filterMap fun directive =>
    match directive with
    | .version major _ => some major
    | _ => none
  if versions.length ≤ 1 && versions.all (· = 1) then .ok () else .error .badDirective

/-- Checks that a text ends after its first document. -/
def checkEnd (tokens : List Token) : Except Fault Unit :=
  match tokens.dropWhile (· = .documentEnd) with
  | [.streamEnd] => .ok ()
  | _ => .error .severalDocuments

/-- The directives in front of tokens, and the tokens after them. -/
def splitDirectives : List Token → List Directive × List Token
  | .directive directive :: rest =>
    let (directives, rest) := splitDirectives rest
    (directive :: directives, rest)
  | rest => ([], rest)

/-- Reads the content of a document whose start is marked. -/
def readMarked (handles : Handles) (tokens : List Token) :
    Except Fault (Written × List Token) :=
  match tokens with
  | .directive _ :: _ | .documentStart :: _ | .documentEnd :: _ | .streamEnd :: _ =>
    .ok (empty, tokens)
  | _ => readValue handles .block tokens

/-- The value in the only document of tokens; none if there is no document. -/
def ofTokens (tokens : List Token) : Except Fault (Option Written) := do
  match tokens with
  | [.streamEnd] => return none
  | .directive _ :: _ | .documentStart :: _ =>
    let (directives, rest) := splitDirectives tokens
    checkVersions directives
    let handles ← handlesOf directives
    match rest with
    | .documentStart :: rest =>
      let (written, rest) ← readMarked handles rest
      checkEnd rest
      return some written
    | _ => .error .badStructure
  | tokens =>
    let (written, rest) ← readValue standardHandles .block tokens
    checkEnd rest
    return some written

end Written

end EventAtlas.Yaml
