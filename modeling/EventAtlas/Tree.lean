import EventAtlas.Failure
import EventAtlas.Roster
import EventAtlas.Text.Newline

/-!
# File trees

A tree holds directories and files under their locations. A workspace is a tree seen from a
current directory: there, paths can be followed. Following a path goes part by part, and each
part but the last has to lead to a directory. There are no links, so two dots always lead back
to the directory above. Some files and directories are locked: they can be seen but not opened.
-/

namespace EventAtlas

/-- A place in a tree: the names that lead to it from the root. -/
abbrev Location := List String

/-- What stands at a place. -/
inductive Entry where
  | file (content : Text.Bytes)
  | directory
  /-- A file that may be neither read nor written. -/
  | lockedFile
  /-- A directory that may be neither listed nor entered. Nothing is known of what is inside. -/
  | lockedDirectory
deriving DecidableEq

namespace Entry

/-- Whether an entry is a directory, locked or not. -/
def isDirectory : Entry → Bool
  | .directory | .lockedDirectory => true
  | .file _ | .lockedFile => false

/-- Whether an entry is a file, locked or not. -/
def isFile (entry : Entry) : Bool :=
  !entry.isDirectory

end Entry

/-- The entries of a tree by location. The root is a directory and has no entry. -/
abbrev Tree := Roster Location Entry

namespace Tree

/-- What stands at a location. -/
def at? (tree : Tree) : Location → Option Entry
  | [] => some .directory
  | location => tree.get? location

/-- Whether a directory stands at a location. -/
def isDirectory (tree : Tree) (location : Location) : Bool :=
  (tree.at? location).any Entry.isDirectory

/-- The names of what stands directly inside a location. -/
def childNames (tree : Tree) (location : Location) : List String :=
  tree.keys.filterMap fun key =>
    if key.dropLast = location then key.getLast? else none

/-- The directories at a location and below it. -/
def directoriesFrom (tree : Tree) (location : Location) : List Location :=
  location :: (tree.entries.filter fun entry =>
    entry.2.isDirectory ∧ location.isPrefixOf entry.1 ∧ entry.1 ≠ location).map Prod.fst

/-- Makes the directories that lead to a location. -/
def withParents (tree : Tree) (location : Location) : Tree :=
  (List.range location.length).foldl (fun tree length =>
    let above := location.take length
    if (tree.at? above).isSome then tree else tree.put above .directory) tree

/-- The tree with a file and the directories that lead to it. -/
def addFile (tree : Tree) (location : Location) (file : Entry) : Tree :=
  (tree.withParents location).put location file

/-- The tree with a directory and the directories that lead to it. -/
def addDirectory (tree : Tree) (location : Location) : Tree :=
  let tree := tree.withParents location
  if (tree.at? location).isSome then tree else tree.put location .directory

/-- The tree without a location and what lies below it. -/
def remove (tree : Tree) (location : Location) : Tree :=
  tree.filterKeys fun key => !location.isPrefixOf key

/-- The files of the tree by location. -/
def files (tree : Tree) : List (Location × Text.Bytes) :=
  tree.entries.filterMap fun entry =>
    match entry.2 with
    | .file content => some (entry.1, content)
    | _ => none

/-- The files that are new or hold something else than in an earlier tree. -/
def filesSince (tree earlier : Tree) : List (Location × Text.Bytes) :=
  tree.files.filter fun entry => earlier.at? entry.1 ≠ some (.file entry.2)

/-- The most bytes that a name may take. -/
def maxNameBytes : Nat := 255

/-- The most bytes that a path may take. -/
def maxPathBytes : Nat := 4095

/-- Follows the parts of a path from a location. -/
def walk (tree : Tree) (location : Location) : List String → Except FileCause Location
  | [] => .ok location
  | part :: rest =>
    match tree.at? location with
    | none => .error .notFound
    | some (.file _) | some .lockedFile => .error .notDirectory
    | some .lockedDirectory => .error .notPermitted
    | some .directory =>
      if part = ".." then tree.walk location.dropLast rest
      else if maxNameBytes < part.utf8ByteSize then .error .nameTooLong
      else if (tree.at? (location ++ [part])).isNone then .error .notFound
      else tree.walk (location ++ [part]) rest

/-- The content of the file at a location. -/
def read (tree : Tree) (location : Location) : Except FileCause Text.Bytes :=
  match tree.at? location with
  | none => .error .notFound
  | some (.file content) => .ok content
  | some .directory => .error .isDirectory
  | some .lockedFile | some .lockedDirectory => .error .notPermitted

/-- The tree with a file at a location, new or in place of an old one. -/
def write (tree : Tree) (location : Location) (content : Text.Bytes) : Except FileCause Tree :=
  match tree.at? location with
  | none | some (.file _) => .ok (tree.put location (.file content))
  | some .directory | some .lockedDirectory => .error .isDirectory
  | some .lockedFile => .error .notPermitted

end Tree

/-- A tree seen from a directory that can be entered. -/
structure Workspace where
  tree : Tree
  current : Location

namespace Workspace

/-- The path of the current directory from the root. -/
def currentPath (workspace : Workspace) : Path where
  anchor := .root
  parts := workspace.current

/-- The absolute path that a path means here. -/
def resolve (workspace : Workspace) (path : Path) : Path :=
  workspace.currentPath.resolve path

/-- Where following a path starts. -/
def start (workspace : Workspace) (path : Path) : Location :=
  if path.isAbsolute then [] else workspace.current

/-- The location that a path leads to. -/
def locate (workspace : Workspace) (path : Path) : Except FileCause Location :=
  if Tree.maxPathBytes < path.toString.utf8ByteSize then .error .nameTooLong
  else workspace.tree.walk (workspace.start path) path.parts

/-- Whether a path holds the character that ends paths. -/
def hasNul (path : Path) : Bool :=
  path.parts.any fun part => part.toList.contains '\x00'

/-- What a path leads to, if it leads anywhere. It is a failure if the path cannot be followed
for any other cause than that nothing is there. -/
def find? (workspace : Workspace) (path : Path) : Except Failure (Option Entry) :=
  if hasNul path then .ok none
  else match workspace.locate path with
    | .ok location => .ok (workspace.tree.at? location)
    | .error cause => if cause.isAbsence then .ok none else .error (.file cause path.toString)

/-- Whether a path leads to a file. -/
def isFile (workspace : Workspace) (path : Path) : Except Failure Bool := do
  return (← workspace.find? path).any Entry.isFile

/-- Whether a path leads to a directory. -/
def isDirectory (workspace : Workspace) (path : Path) : Except Failure Bool := do
  return (← workspace.find? path).any Entry.isDirectory

/-- The content of the file that a path leads to. -/
def read (workspace : Workspace) (path : Path) : Except Failure Text.Bytes :=
  if hasNul path then .error .nulInPath
  else match workspace.locate path >>= workspace.tree.read with
    | .ok content => .ok content
    | .error cause => .error (.file cause path.toString)

/-- The text of the source file that a path leads to; none if it cannot be read. What is not
UTF-8 is replaced, and all line ends become line feeds. -/
def readSource? (workspace : Workspace) (path : Path) : Except Failure (Option String) :=
  match workspace.read path with
  | .ok content =>
    .ok (some (String.ofList (Text.unifyLineEnds (Text.Utf8.decodeLossy content))))
  | .error (.file _ _) => .ok none
  | .error failure => .error failure

/-- The directory around the last part of a path. -/
def directoryAround (workspace : Workspace) (path : Path) : Except FileCause Location := do
  if Tree.maxPathBytes < path.toString.utf8ByteSize then .error .nameTooLong
  let around ← workspace.tree.walk (workspace.start path) path.parts.dropLast
  match workspace.tree.at? around with
  | some .directory => return around
  | some .lockedDirectory => .error .notPermitted
  | some (.file _) | some .lockedFile => .error .notDirectory
  | none => .error .notFound

/-- Where a new entry at a path would stand, once the directory around it is there. -/
def placeFor (workspace : Workspace) (path : Path) : Except FileCause Location := do
  let around ← workspace.directoryAround path
  match path.parts.getLast? with
  | none => return workspace.start path
  | some ".." => workspace.locate path
  | some name =>
    if Tree.maxNameBytes < name.utf8ByteSize then .error .nameTooLong
    return around ++ [name]

/-- Makes one directory. -/
def makeDirectory (workspace : Workspace) (path : Path) : Except FileCause Workspace := do
  let place ← workspace.placeFor path
  if (workspace.tree.at? place).isSome then .error .exists
  return { workspace with tree := workspace.tree.put place .directory }

/-- Makes a directory unless it is there. Gives the workspace as it is afterwards, and the
cause if the directory is still not there. -/
def ensureDirectory (workspace : Workspace) (path : Path) : Workspace × Except FileCause Unit :=
  match workspace.makeDirectory path with
  | .ok workspace => (workspace, .ok ())
  | .error cause =>
    match workspace.isDirectory path with
    | .ok true => (workspace, .ok ())
    | _ => (workspace, .error cause)

/-- The paths to make before a path can be made, from the one that stands outermost, ending
with the path itself: the path and those above it, as far as nothing is found there. -/
def missingChain (workspace : Workspace) (path : Path) : Nat → List Path
  | 0 => [path]
  | fuel + 1 =>
    match workspace.makeDirectory path with
    | .error .notFound =>
      if path.parent = path then [path] else workspace.missingChain path.parent fuel ++ [path]
    | _ => [path]

/-- Makes a directory and those above it that are missing. What was made before a failure
stays. -/
def makeDirectories (workspace : Workspace) (path : Path) : Workspace × Except Failure Unit :=
  if hasNul path then (workspace, .error .nulInPath)
  else go workspace (workspace.missingChain path path.parts.length)
where
  /-- Makes the directories of a chain one after the other. -/
  go (workspace : Workspace) : List Path → Workspace × Except Failure Unit
    | [] => (workspace, .ok ())
    | path :: rest =>
      match workspace.ensureDirectory path with
      | (workspace, .ok ()) => go workspace rest
      | (workspace, .error cause) => (workspace, .error (.file cause path.toString))

/-- Writes a file. -/
def writeFile (workspace : Workspace) (path : Path) (content : Text.Bytes) :
    Except FileCause Workspace := do
  let place ← workspace.placeFor path
  return { workspace with tree := ← workspace.tree.write place content }

/-- Writes a text into a file that is named by `shown`, when `write` writes its bytes. The file
is opened before the text is encoded, so one that cannot be encoded leaves it empty. -/
def writeEncoded (workspace : Workspace) (halves : Text.Halves) (text shown : String)
    (write : Text.Bytes → Except FileCause Workspace) : Workspace × Except Failure Unit :=
  let encoded := halves.encode text
  match write (encoded.toOption.getD []) with
  | .ok after => (after, encoded.mapError .unwritable >>= fun _ => .ok ())
  | .error cause => (workspace, .error (.file cause shown))

/-- Writes a text into a file. Gives the workspace as it is afterwards. -/
def writeText (workspace : Workspace) (halves : Text.Halves) (path : Path) (text : String) :
    Workspace × Except Failure Unit :=
  if hasNul path then (workspace, .error .nulInPath)
  else workspace.writeEncoded halves text path.toString (workspace.writeFile path)

/-- Where a file at a written path would stand. A path that ends with a slash or a single dot can
only lead to a directory. -/
def placeForWritten (workspace : Workspace) (written : String) : Except FileCause Location :=
  let path := Path.ofString written
  match (Text.fields '/' written.toList).getLast? with
  | some [] => do
    let _ ← workspace.directoryAround path
    throw .isDirectory
  | some ['.'] => do
    match workspace.tree.at? (← workspace.locate path) with
    | some .directory => throw .isDirectory
    | some .lockedDirectory => throw .notPermitted
    | _ => throw .notDirectory
  | _ => workspace.placeFor path

/-- Writes a text into the file at a written path. Gives the workspace as it is afterwards. -/
def writeTextAt (workspace : Workspace) (halves : Text.Halves) (written text : String) :
    Workspace × Except Failure Unit :=
  if written.toList.contains '\x00' then (workspace, .error .nulInPath)
  else workspace.writeEncoded halves text written fun content => do
    let place ← workspace.placeForWritten written
    return { workspace with tree := ← workspace.tree.write place content }

end Workspace

end EventAtlas
