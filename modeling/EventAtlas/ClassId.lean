import EventAtlas.Text.Blank

/-!
# Class identifiers

A class is known by its namespace and its name, joined by backslashes. Sources write the same
class in several ways: with blanks around it, with a question mark that allows null, with
leading backslashes. `canonical` is the form under which classes are looked up.
-/

namespace EventAtlas

/-- A class name with its namespace, such as `Vendor\Module\Model\Payments`. -/
abbrev ClassId := String

namespace ClassId

/-- The character between the segments of a class identifier. -/
def separator : Char := '\\'

/-- The canonical form of the characters of a class identifier. -/
def canonicalChars (written : List Char) : List Char :=
  ((Text.trim written).dropWhile (· == '?')).dropWhile (· == separator)

/-- The lookup form of a class identifier: first the blanks around it go, then the question
marks in front, then the backslashes in front. -/
def canonical (written : String) : ClassId :=
  String.ofList (canonicalChars written.toList)

/-- The characters after the last separator, or all of them. -/
def lastSegmentChars (id : List Char) : List Char :=
  (id.reverse.takeWhile (· != separator)).reverse

/-- The last segment: the class name without its namespace. -/
def shortName (id : ClassId) : String :=
  String.ofList (lastSegmentChars id.toList)

/-- The first segment, and what follows its separator. -/
def splitFirst (id : ClassId) : String × String :=
  let chars := id.toList
  (String.ofList (chars.takeWhile (· != separator)),
    String.ofList ((chars.dropWhile (· != separator)).drop 1))

/-- A namespace and what stands in it. -/
def qualify (qualifier name : String) : ClassId :=
  qualifier ++ String.singleton separator ++ name

/-- Whether the identifier names a class inside some namespace. -/
def isQualified (id : ClassId) : Bool :=
  id.toList.contains separator

end ClassId

end EventAtlas
