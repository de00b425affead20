import EventAtlas.Link
import EventAtlas.Observer
import EventAtlas.Survey

/-!
# Resolving observers

Registrations are taken in order. Each one adds its event to its observer; when the observer's
source can be read, the services it declares are added too. An observer without a source still
has its events; it is told of unless the source is there and cannot be read.
-/

namespace EventAtlas.Observers

/-- The observer of an identifier; one that was not seen yet is new. -/
def getD (observers : Observers) (id : ClassId) : Observer :=
  (observers.get? id).getD (.new id)

/-- Where the source of the observer of a registration stands: the path that is expected, if it
leads to a file. -/
def sourcePath (workspace : Workspace) (link : Link) : Except Failure (Option Path) := do
  match link.source with
  | none => return none
  | some path => return if ← workspace.isFile path then some path else none

/-- The source at a path with its text, if it can be read. -/
def readAt (workspace : Workspace) : Option Path → Except Failure (Option (Path × String))
  | none => .ok none
  | some path => do return (← workspace.readSource? path).map (path, ·)

/-- What an observer is after a registration, given the source that was read for it. -/
def register (index : ApiIndex) (observer : Observer) (event : String)
    (source : Option (Path × String)) : Observer :=
  let observer := { observer with events := observer.events ++ [event] }
  match source with
  | none => observer
  | some (path, text) => Observer.collect index { observer with source := some path } text

/-- Takes one registration. -/
def resolveNext (workspace : Workspace) (index : ApiIndex) (verbose : Bool)
    (observers : Observers) (link : Link) : Trace Observers := do
  let path ← Trace.ofExcept (sourcePath workspace link)
  Trace.noteIf (verbose && path.isNone) (.missingSource link.observer link.source)
  let source ← Trace.ofExcept (readAt workspace path)
  return observers.put link.observer
    (register index (observers.getD link.observer) link.event source)

/-- The observers of a list of registrations. -/
def resolve (workspace : Workspace) (index : ApiIndex) (verbose : Bool) (links : List Link) :
    Trace Observers :=
  links.foldlM (resolveNext workspace index verbose) .empty

end EventAtlas.Observers
