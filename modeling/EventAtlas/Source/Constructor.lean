import EventAtlas.Text.Reader

/-!
# Constructor parameters

The services of a class are the class types of its constructor's parameters. The parameter
list runs from the parenthesis after `__construct` to the next closing one.
-/

namespace EventAtlas.Source

/-- Reads a constructor's head: the text between its parentheses. -/
def readConstructor : Text.Reader (List Char) := fun text => do
  let text ← Text.afterWord? "function".toList text
  let text ← Text.afterBlanks? text
  let text ← Text.afterWord? "__construct".toList text
  let text ← Text.after? (· == '(') (Text.trimLeft text)
  let parameters := text.takeWhile (· != ')')
  let rest ← Text.after? (· == ')') (text.dropWhile (· != ')'))
  some (parameters, rest)

/-- A character of a class type. -/
def isTypeChar (c : Char) : Bool :=
  c.isAlphanum || c == '_' || c == '\\'

/-- A character of a variable name. -/
def isVariableChar (c : Char) : Bool :=
  c.isAlphanum || c == '_'

/-- Reads a typed parameter: a class type of at least two characters, which starts with a
capital, then blanks and a variable. What is read is the type. -/
def readParameter : Text.Reader (List Char) := fun text => do
  let inside ← Text.after? Char.isUpper text
  let (_, text') ← Text.run? isTypeChar inside
  let variableText ← Text.afterBlanks? text'
  let name ← Text.after? (· == '$') variableText
  let (_, rest) ← Text.run? isVariableChar name
  some (text.take (text.length - text'.length), rest)

/-- The parameter list of the first constructor of a source text. -/
def constructorParameters? (source : String) : Option (List Char) :=
  (Text.findAll readConstructor source.toList).head?

/-- The class types declared by a parameter list, in order. -/
def parameterTypes (parameters : List Char) : List String :=
  (Text.findAll readParameter parameters).map String.ofList

end EventAtlas.Source
