import EventAtlas.Diagram
import EventAtlas.Tree

/-!
# Saving diagrams

A diagram can be written into a file of its own.
-/

namespace EventAtlas.Diagram

/-- Writes the diagram of the observers into a file. Gives the workspace as it is afterwards and
the text of the diagram. An empty target stands for no file. -/
def save (diagram : Diagram) (workspace : Workspace) (halves : Text.Halves)
    (observers : Observers) (target : String) : Workspace × Except Failure String :=
  match diagram.generate observers with
  | .error failure => (workspace, .error failure)
  | .ok text =>
    if target = "" then (workspace, .ok text)
    else
      let (after, written) := workspace.writeTextAt halves target text
      (after, written.map fun _ => text)

end EventAtlas.Diagram
