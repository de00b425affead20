/-!
# Faults of YAML texts

What keeps a text from being read as a single value, and what keeps it from being loaded.
-/

namespace EventAtlas.Yaml

/-- Why a text is not one value. -/
inductive Fault where
  /-- Bytes that make no character. -/
  | badBytes
  /-- A character that no text may hold. -/
  | unprintable
  /-- A character that starts no part of a text. -/
  | strayCharacter
  /-- A key that is not followed by a colon on its line. -/
  | missingColon
  /-- An entry, a key or a value at a place where none can start. -/
  | misplaced
  /-- A directive that is malformed, repeated, or of another version of the language. -/
  | badDirective
  /-- An anchor or alias without a name, or with something else attached to its name. -/
  | badAnchor
  /-- A malformed tag, or one whose handle is not declared. -/
  | badTag
  /-- A quoted text without an end, or cut by a mark between documents. -/
  | unclosedQuote
  /-- A backslash before something that it does not escape. -/
  | badEscape
  /-- An escape by a number that no machine word holds. -/
  | hugeEscape
  /-- A malformed header of a block of text. -/
  | badBlockHeader
  /-- Parts in an order that makes no value. -/
  | badStructure
  /-- An alias for an anchor that is not there. -/
  | undefinedAlias (name : String)
  /-- An anchor whose name is taken. -/
  | repeatedAnchor (name : String)
  /-- A second document. -/
  | severalDocuments
  /-- A tag that no value has. -/
  | unknownTag (name : String)
  /-- A value whose form does not fit its tag. -/
  | wrongForm (tag : String)
  /-- A collection as a key. -/
  | collectionAsKey
deriving DecidableEq, Repr

namespace Fault

/-- The words for a fault. -/
def message : Fault → String
  | .badBytes => "not UTF-8"
  | .unprintable => "unprintable character"
  | .strayCharacter => "a character that cannot start anything"
  | .missingColon => "a key without a colon"
  | .misplaced => "not allowed in this place"
  | .badDirective => "bad directive"
  | .badAnchor => "bad anchor"
  | .badTag => "bad tag"
  | .unclosedQuote => "unclosed quote"
  | .badEscape => "unknown escape"
  | .hugeEscape => "an escape by a number that is too large"
  | .badBlockHeader => "bad block header"
  | .badStructure => "unexpected structure"
  | .undefinedAlias name => "undefined alias " ++ name
  | .repeatedAnchor name => "repeated anchor " ++ name
  | .severalDocuments => "more than one document"
  | .unknownTag name => "unknown tag " ++ name
  | .wrongForm tag => "wrong form of value for " ++ tag
  | .collectionAsKey => "a collection as a key"

end Fault

/-- Why a text cannot be loaded. -/
inductive Refusal where
  /-- The text is not a value. -/
  | malformed (fault : Fault)
  /-- A value is marked as a truth value but is none. -/
  | notBoolean (written : String)
  /-- A value is marked as a timestamp but is none. -/
  | notTimestamp (written : String)
  /-- A value is marked as a number but has no digits. -/
  | emptyNumber
  /-- A mapping that stands for a scalar is marked as a timestamp. -/
  | timestampOfMapping
  /-- A character is written by a number that no machine word holds. -/
  | hugeEscape
  /-- A number in base sixty has a place whose weight no floating point number holds. -/
  | hugePlace
  /-- The text is nested too deep to be followed. -/
  | tooDeep
deriving DecidableEq, Repr

/-- The refusal for a fault. A number that is too large is no matter of form. -/
def Refusal.ofFault : Fault → Refusal
  | .hugeEscape => .hugeEscape
  | fault => .malformed fault

end EventAtlas.Yaml
