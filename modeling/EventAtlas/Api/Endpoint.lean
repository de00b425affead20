import EventAtlas.NameSet
import EventAtlas.Text.Digit
import EventAtlas.Text.Reader
import EventAtlas.Text.Word

/-!
# Endpoints in source text

An endpoint is a versioned path such as `/v2/payments/:id`. It is found wherever it stands in
a source text, in code, strings and comments alike, and it reaches as far as its characters do.
-/

namespace EventAtlas.Endpoint

/-- A character of the path after the version. -/
def isPathChar (c : Char) : Bool :=
  Text.isWord c || c == '/' || c == ':'

/-- The rest of a text after a version such as `v2/`, in either case. -/
def afterVersion? (text : List Char) : Option (List Char) := do
  let text ← Text.afterKeyword? ['v'] text
  let (_, text) ← Text.run? Text.isDecimalDigit text
  Text.after? (· == '/') text

/-- Reads an endpoint: a slash, a version, and at least one character of the path. -/
def read : Text.Reader (List Char) := fun text => do
  let inside ← Text.after? (· == '/') text
  let path ← afterVersion? inside
  let (_, rest) ← Text.run? isPathChar path
  some (text.take (text.length - rest.length), rest)

/-- The endpoints that stand in a source text, spelled as they stand there. -/
def detect (source : String) : NameSet :=
  .ofList ((Text.findAll read source.toList).map String.ofList)

end EventAtlas.Endpoint
