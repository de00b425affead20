/-!
# Tokens of YAML

A text is a sequence of tokens. Blocks that are marked by indentation have tokens for their
starts and ends, which no character of the text stands for.
-/

namespace EventAtlas.Yaml

/-- A tag as written: a handle, which may be left out, and the rest. -/
structure TagText where
  handle : Option String
  suffix : String
deriving DecidableEq, Repr

/-- A line that says how to read the document after it. -/
inductive Directive where
  /-- The version of the language. -/
  | version (major minor : Nat)
  /-- What a tag handle stands for. -/
  | handle (name expansion : String)
  /-- A line without meaning. -/
  | other
deriving DecidableEq, Repr

/-- A token. -/
inductive Token where
  | directive (directive : Directive)
  | documentStart
  | documentEnd
  | streamEnd
  | blockSequenceStart
  | blockMappingStart
  | blockEnd
  | flowSequenceStart
  | flowSequenceEnd
  | flowMappingStart
  | flowMappingEnd
  /-- A comma between the entries of a collection in brackets. -/
  | comma
  /-- A hyphen before an entry of a sequence. -/
  | entry
  | key
  | value
  | alias (name : String)
  | anchor (name : String)
  | tag (text : TagText)
  /-- A text; `plain` says that it is written without quotes and not as a block. -/
  | scalar (text : List Char) (plain : Bool)
deriving DecidableEq, Repr

end EventAtlas.Yaml
