import EventAtlas.Api.Endpoint

/-!
# Calls through the HTTP wrapper

A module may send requests through a wrapper, as in `performHttpCall($method, 'v2/payments')`.
When the second argument starts with a literal path, the path is noted. Any mention of the
wrapper or of the client object also counts as an indirect call: its endpoint may be computed
while the module runs.
-/

namespace EventAtlas.WrapperCall

/-- A character of a literal path after its version. -/
def isPathChar (c : Char) : Bool :=
  Endpoint.isPathChar c || c == '-'

/-- A quotation mark around a literal. -/
def isQuote (c : Char) : Bool :=
  c == '"' || c == '\''

/-- The rest of a text after the name of the wrapper, with or without its suffix. -/
def afterName? (text : List Char) : Option (List Char) := do
  let text ← Text.afterKeyword? "performhttpcall".toList text
  some ((Text.afterKeyword? "tofullurl".toList text).getD text)

/-- The rest of a text after the address of the service. -/
def afterHost? (text : List Char) : Option (List Char) := do
  let text ← Text.afterKeyword? "http".toList text
  let text := (Text.afterKeyword? ['s'] text).getD text
  Text.afterKeyword? "://api.mollie.com/".toList text

/-- Reads a call of the wrapper whose second argument begins with a literal path. What is read
is the path. -/
def read : Text.Reader (List Char) := fun text => do
  let text ← afterName? text
  let text ← Text.after? (· == '(') (Text.trimLeft text)
  let (_, text) ← Text.run? (· != ',') text
  let text ← Text.after? (· == ',') text
  let text ← Text.after? isQuote (Text.trimLeft text)
  let path := (afterHost? text).getD text
  let text ← Endpoint.afterVersion? path
  let (_, text) ← Text.run? isPathChar text
  let rest ← Text.after? isQuote text
  some (path.take (path.length - text.length), rest)

/-- How a wrapper call with a literal path is noted. -/
def signature (path : List Char) : String :=
  "performHttpCall: " ++ String.ofList path

/-- The wrapper calls with literal paths that stand in a source text. -/
def detect (source : String) : NameSet :=
  .ofList ((Text.findAll read source.toList).map signature)

/-- How an indirect call is noted. -/
def indirectMark : String := "custom Mollie SDK wrapper call"

/-- The names whose mention counts as an indirect call. -/
def indirectTokens : List String := ["mollieApiClient", "performHttpCall"]

/-- Whether a word occurs somewhere in a text. -/
def occurs (word : List Char) : List Char → Bool
  | [] => word.isEmpty
  | c :: rest => word.isPrefixOf (c :: rest) || occurs word rest

/-- Whether a source text mentions the wrapper or the client object, letter for letter. -/
def hasIndirect (source : String) : Bool :=
  indirectTokens.any fun token => occurs token.toList source.toList

end EventAtlas.WrapperCall
