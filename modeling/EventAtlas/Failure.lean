import EventAtlas.Path
import EventAtlas.Text.Halves
import EventAtlas.Text.Quoted
import EventAtlas.Xml.Fault

/-!
# Failures

Every way in which documenting a module can fail, each with its cause. `Failure.message` is
the only place that words them. Failures that a user can mend are kept apart from those that
point at a wrong setting or a broken file by `Failure.isMendable`.
-/

namespace EventAtlas

/-- Why the file system refused an operation on a path. -/
inductive FileCause where
  | exists
  | isDirectory
  | notDirectory
  | notFound
  | nameTooLong
  | notPermitted
deriving DecidableEq, Repr

namespace FileCause

/-- The number under which the system reports the cause. -/
def code : FileCause → Nat
  | .exists => 17
  | .isDirectory => 21
  | .notDirectory => 20
  | .notFound => 2
  | .nameTooLong => 36
  | .notPermitted => 13

/-- The system's words for the cause. -/
def text : FileCause → String
  | .exists => "File exists"
  | .isDirectory => "Is a directory"
  | .notDirectory => "Not a directory"
  | .notFound => "No such file or directory"
  | .nameTooLong => "File name too long"
  | .notPermitted => "Permission denied"

/-- Whether the cause means that there is nothing to be found. -/
def isAbsence : FileCause → Bool
  | .notFound | .notDirectory => true
  | _ => false

end FileCause

/-- Why the module could not be documented. -/
inductive Failure where
  /-- The scan found no class that uses the service. -/
  | noApiClasses
  /-- The path of the module leads to no directory. -/
  | noModule (path : Path)
  /-- No diagram format has the requested name. -/
  | unknownDiagram (requested : String) (available : List String)
  /-- The requested diagram format is a collection and not a name. -/
  | diagramNotAName
  /-- The file extension makes a pattern in which `**` is part of a longer component. -/
  | splitDeepWildcard
  /-- No directory on the way up holds a configuration file of the name. -/
  | configNotFound (name : String) (start : Path)
  /-- The configuration file cannot be read as a document. -/
  | malformedConfig (path : Path) (detail : String)
  /-- The configuration file holds something other than a mapping. -/
  | configNotMapping (path : Path)
  /-- The configuration names no module directory. -/
  | moduleUndefined
  /-- The module directory of the configuration does not exist. -/
  | moduleMissing (path : Path)
  /-- A setting that has to be a path is something else. -/
  | settingNotText (setting : String)
  /-- A table of node styles is something other than a table. -/
  | stylesNotTable (setting : String)
  /-- The repository address is something other than a text. -/
  | addressNotText
  /-- A value is marked as a truth value but is none. -/
  | notBoolean (written : String)
  /-- A value is marked as a point in time but is none. -/
  | notTimestamp (written : String)
  /-- A value is marked as a number but is empty. -/
  | emptyNumber
  /-- A mapping is marked as a point in time. -/
  | timestampOfMapping
  /-- A character is written by a number that is too large. -/
  | hugeEscape
  /-- A number in base sixty has too many places. -/
  | hugePlace
  /-- A document is nested too deep. -/
  | tooDeep
  /-- The file system refused an operation. -/
  | file (cause : FileCause) (path : String)
  /-- A path holds the character that ends paths. -/
  | nulInPath
  /-- A markup file declares an encoding that cannot be followed. -/
  | encoding (fault : Xml.EncodingFault)
  /-- A text that is to be written holds halves of surrogate pairs. -/
  | unwritable (halves : Text.HalfRun)
deriving DecidableEq, Repr

namespace Failure

/-- The words for a failure. -/
def message : Failure → String
  | .noApiClasses =>
    "No API classes detected, check the detection patterns against the module source."
  | .noModule path => "Module directory not found or not a directory: " ++ path.toString
  | .unknownDiagram requested available =>
    "Unknown diagram type '" ++ requested ++ "'. Available types: " ++ Text.join ", " available
  | .diagramNotAName => "the diagram type is not a name"
  | .splitDeepWildcard => "Invalid pattern: '**' can only be an entire path component"
  | .configNotFound name start =>
    "Could not find '" ++ name ++ "' in any parent directory of " ++ start.toString ++ "."
  | .malformedConfig path detail => "Error parsing '" ++ path.toString ++ "': " ++ detail
  | .configNotMapping path =>
    "Error parsing '" ++ path.toString ++ "': Config file is not a valid dictionary."
  | .moduleUndefined => "'module_dir' is not defined in the configuration file."
  | .moduleMissing path =>
    "The directory for 'module_dir' does not exist: " ++ path.toString
  | .settingNotText setting => "'" ++ setting ++ "' is not a path"
  | .stylesNotTable setting => "'" ++ setting ++ "' is not a table"
  | .addressNotText => "the repository address is not a text"
  | .notBoolean written => Text.quoted written ++ " is not a truth value"
  | .notTimestamp written => Text.quoted written ++ " is not a point in time"
  | .emptyNumber => "string index out of range"
  | .timestampOfMapping => "a mapping is not a point in time"
  | .hugeEscape => "a character has too large a number"
  | .hugePlace => "int too large to convert to float"
  | .tooDeep => "maximum recursion depth exceeded"
  | .file cause path =>
    "[Errno " ++ toString cause.code ++ "] " ++ cause.text ++ ": " ++ Text.quoted path
  | .nulInPath => "embedded null byte"
  | .encoding fault => fault.message
  | .unwritable halves =>
    "'utf-8' codec can't encode character" ++
      (if halves.count = 1 then
        " '\\u" ++ String.ofList (Text.hexPadded 4 halves.code) ++ "' in position " ++
          toString halves.position
      else
        "s in position " ++ toString halves.position ++ "-" ++
          toString (halves.position + halves.count - 1)) ++
      ": surrogates not allowed"

/-- Whether the failure tells a user what to mend: a wrong value or a missing file. The
others are reported as unexpected. -/
def isMendable : Failure → Bool
  | .diagramNotAName | .settingNotText _ | .stylesNotTable _ | .addressNotText => false
  | .notBoolean _ | .notTimestamp _ | .emptyNumber => false
  | .encoding (.unknown _) | .encoding (.notText _) => false
  | .timestampOfMapping | .hugeEscape | .hugePlace | .tooDeep => false
  | .file cause _ => cause = .notFound
  | _ => true

end Failure

end EventAtlas
