/-!
# Faults of documents

What makes a document ill formed, and what is wrong with an encoding that cannot be followed.
-/

namespace EventAtlas.Xml

/-- Why a document is not well formed. -/
inductive Fault where
  /-- Bytes that make no character, or a character that no document may hold. -/
  | badCharacter
  /-- The declaration at the front is malformed or contradicts the bytes. -/
  | badDeclaration
  /-- Markup that does not follow the grammar. -/
  | badMarkup
  /-- A document type declaration that does not follow the grammar. -/
  | badDoctype
  /-- A character reference to something that is no character. -/
  | badReference
  /-- An end tag that does not match its start tag, or an entity that cuts an element. -/
  | mismatchedTag
  /-- Two attributes of the same name. -/
  | duplicateAttribute (name : String)
  /-- A prefix without a namespace, or a forbidden use of a reserved one. -/
  | badNamespace
  /-- An entity without a text: it is not declared, or stands outside the document. -/
  | noEntityText (name : String)
  /-- An entity whose text leads back to itself. -/
  | recursiveEntity (name : String)
  /-- Entities whose texts are out of proportion. -/
  | expansionLimit
  /-- Anything but one element, comments and instructions at the outermost level. -/
  | badOutermost
deriving DecidableEq, Repr

namespace Fault

/-- The words for a fault. -/
def message : Fault → String
  | .badCharacter => "not a character of a document"
  | .badDeclaration => "malformed declaration"
  | .badMarkup => "malformed markup"
  | .badDoctype => "malformed document type"
  | .badReference => "reference to no character"
  | .mismatchedTag => "mismatched tag"
  | .duplicateAttribute name => "duplicate attribute " ++ name
  | .badNamespace => "misused namespace prefix"
  | .noEntityText name => "undefined entity " ++ name
  | .recursiveEntity name => "recursive entity " ++ name
  | .expansionLimit => "entities expand too far"
  | .badOutermost => "a document is one element"

end Fault

/-- Why a declared encoding cannot be followed, although it does not contradict the document. -/
inductive EncodingFault where
  /-- Nobody knows the name. -/
  | unknown (name : String)
  /-- The name is that of a code for something other than texts. -/
  | notText (name : String)
  /-- A character may take several bytes. -/
  | multiByte
  /-- Reading the bytes fails, whichever they are. -/
  | unreadable (detail : String)
deriving DecidableEq, Repr

/-- The words for a fault of an encoding. -/
def EncodingFault.message : EncodingFault → String
  | .unknown name => "unknown encoding: " ++ name
  | .notText name =>
    "'" ++ name ++ "' is not a text encoding; use codecs.decode() to handle arbitrary codecs"
  | .multiByte => "multi-byte encodings are not supported"
  | .unreadable detail => detail

end EventAtlas.Xml
