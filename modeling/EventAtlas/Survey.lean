import EventAtlas.Path.Glob
import EventAtlas.Text.Lower
import EventAtlas.Trace
import EventAtlas.Tree

/-!
# Surveys

A survey says which module to look at and how. It finds the module's source files by a
pattern, and its event configurations by their name, both in the order of their paths.
-/

namespace EventAtlas

/-- Which module to look at and how. -/
structure Survey where
  moduleDir : Path
  /-- The end of the names of source files; it may hold wildcards. -/
  extension : String
  /-- Whether event configurations count only below a directory named `etc`. -/
  requireEtc : Bool
  /-- Whether to tell what is passed over. -/
  verbose : Bool
deriving DecidableEq, Repr

namespace Survey

/-- A place that a pattern has led to, with the path that leads there. -/
structure Found where
  location : Location
  path : Path

/-- The directories at a found place and below it. -/
def foundDirectories (tree : Tree) (found : Found) : List Found :=
  (tree.directoriesFrom found.location).map fun location =>
    { location := location
      path := { found.path with
        parts := found.path.parts ++ location.drop found.location.length } }

/-- What stands directly inside a found place under a name that is accepted. -/
def foundChildren (tree : Tree) (accepts : String → Bool) (found : Found) : List Found :=
  ((tree.childNames found.location).filter accepts).map fun name =>
    { location := found.location ++ [name]
      path := found.path.child name }

/-- The paths that a pattern leads to from a found place. -/
def select (tree : Tree) : List Glob.Part → Found → Except Failure (List Path)
  | [], found => .ok [found.path]
  | .directory :: _, found => .ok [found.path]
  | .deep :: rest, found => do
    let selected ← (foundDirectories tree found).mapM (select tree rest)
    return selected.flatten.eraseDups
  | .wild pieces :: rest, found => do
    let children := foundChildren tree (fun name => Glob.accepts pieces name.toList) found
    let entered := children.filter fun child => rest = [] ∨ tree.isDirectory child.location
    return (← entered.mapM (select tree rest)).flatten
  | .exact name :: rest, found =>
    let path := found.path.child name
    match tree.walk found.location [name] with
    | .ok location =>
      if rest = [] ∨ tree.isDirectory location then select tree rest { location, path }
      else .ok []
    | .error .nameTooLong => .error (.file .nameTooLong path.toString)
    | .error _ => .ok []

/-- The paths below a directory that match a pattern, in order. There are none when the
directory does not exist. -/
def search (workspace : Workspace) (moduleDir : Path) (pattern : List Glob.Part) :
    Except Failure (List Path) := do
  if ← workspace.isDirectory moduleDir then
    match workspace.locate moduleDir with
    | .ok location =>
      let paths ← select workspace.tree (.deep :: pattern) { location, path := moduleDir }
      return paths.mergeSort Path.le
    | .error _ => return []
  else
    return []

/-- The pattern of source files: any name that ends with the extension. -/
def sourcePattern (survey : Survey) : Except Failure (List Glob.Part) :=
  match Glob.ofPattern? ('*' :: survey.extension.toList) with
  | some pattern => .ok pattern
  | none => .error .splitDeepWildcard

/-- The source files of the module, in the order of their paths. -/
def sourceFiles (workspace : Workspace) (survey : Survey) : Except Failure (List Path) := do
  let pattern ← survey.sourcePattern
  (← search workspace survey.moduleDir pattern).filterM workspace.isFile

/-- The name of event configurations, in small letters. -/
def configName : String := "events.xml"

/-- Whether a path has the name of an event configuration, in any case. -/
def hasConfigName (path : Path) : Bool :=
  Text.lower path.name.toList = configName.toList

/-- Whether a path lies below a directory named `etc` inside the module. -/
def isBelowEtc (survey : Survey) (path : Path) : Bool :=
  match path.relativeTo? survey.moduleDir with
  | some inside => inside.parts.dropLast.contains "etc"
  | none => false

/-- The event configurations of the module, in the order of their paths. -/
def configFiles (workspace : Workspace) (survey : Survey) : Except Failure (List Path) := do
  let paths ← search workspace survey.moduleDir [.wild [.many]]
  let files ← paths.filterM workspace.isFile
  return files.filter fun path =>
    hasConfigName path && (!survey.requireEtc || survey.isBelowEtc path)

end Survey

end EventAtlas
