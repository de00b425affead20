import EventAtlas.CommandLine
import Std.Time.Format

/-!
# The program

The program is called with options and is given, on its standard input, a listing of the files
that it may look at: one path on each line, where a path that ends with a slash stands for a
directory. It reads those files, runs the command line on them, and writes what has changed. A
file that may not be read is taken to be locked.
Everything that is decided is decided in `CommandLine.run`.
-/

namespace EventAtlas.Main

/-- Whether the arguments ask for something that needs files. -/
def needsFiles (arguments : List String) : Bool :=
  match CommandLine.Command.ofArguments arguments with
  | .ok (.document _) => true
  | _ => false

/-- The tree with what a line of a listing names. -/
def addListed (current : Path) (tree : Tree) (written : String) : IO Tree := do
  let location := (current.resolve (.ofString written)).parts
  if written = "" then return tree
  else if written.endsWith "/" then return tree.addDirectory location
  else match ← (IO.FS.readBinFile written).toBaseIO with
    | .ok content => return tree.addFile location (.file content.toList)
    | .error (.permissionDenied ..) => return tree.addFile location .lockedFile
    | .error problem => throw problem

/-- The listed files, seen from the current directory. -/
def workspace (listing : List String) : IO Workspace := do
  let current := Path.ofString (toString (← IO.currentDir))
  let tree ← listing.foldlM (addListed current) (Tree.addDirectory .empty current.parts)
  return { tree, current := current.parts }

/-- Writes the files that a run has made or changed. -/
def publish (before after : Workspace) : IO Unit :=
  (after.tree.filesSince before.tree).forM fun (location, content) => do
    let path : Path := { anchor := .root, parts := location }
    IO.FS.createDirAll path.parent.toString
    IO.FS.writeBinFile path.toString ⟨content.toArray⟩

end EventAtlas.Main

open EventAtlas in
/-- Runs the program. -/
def main (arguments : List String) : IO UInt32 := do
  let listing ← if Main.needsFiles arguments then (← IO.getStdin).lines else pure #[]
  let before ← Main.workspace listing.toList
  let time := (← Std.Time.PlainDateTime.now).format "uuuu-MM-dd HH:mm:ss"
  let outcome := CommandLine.run .standard before time arguments
  outcome.lines.forM IO.println
  Main.publish before outcome.workspace
  IO.eprint outcome.errorText
  return outcome.exitCode.toUInt32
