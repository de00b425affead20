import EventAtlas.ClassId
import EventAtlas.Path

/-!
# Registrations

A registration links an event to an observer. The observer's source is expected below the
module's root directory, at the path that the observer's identifier spells.
-/

namespace EventAtlas

/-- The registration of an observer for an event, with the path at which the observer's source
is expected and the configuration that declares it. -/
structure Link where
  event : String
  observer : ClassId
  source : Option Path
  config : Option Path
deriving DecidableEq, Repr

namespace Link

/-- A class identifier with slashes in place of its separators. -/
def slashed (id : ClassId) : String :=
  String.ofList (id.toList.map fun c => if c = ClassId.separator then '/' else c)

/-- The path at which the source of an observer is expected. -/
def candidatePath (moduleDir : Path) (extension : String) (instanceText : String) : Path :=
  moduleDir.join (.ofString (slashed (ClassId.canonical instanceText) ++ extension))

end Link

end EventAtlas
