import EventAtlas.Api.Index
import EventAtlas.Source.Constructor
import EventAtlas.Source.Import

/-!
# Observers

An observer reacts to events. Its services are the class types that its constructor asks for;
what the indexed classes among them use is attributed to the observer.
-/

namespace EventAtlas

/-- What is known of an observer across all its registrations. Events and services keep
repetitions. The source is that of the registration read last, if one could be read. -/
structure Observer where
  id : ClassId
  events : List String
  services : List String
  resolved : NameSet
  endpoints : NameSet
  sdkCalls : NameSet
  source : Option Path
deriving DecidableEq

/-- The observers of a module, by identifier, in order of their first registration. -/
abbrev Observers := Roster ClassId Observer

/-- The names that a source text lets a short class name stand for. -/
structure Scope where
  imports : Roster String ClassId
  space : Option ClassId

namespace Scope

/-- The scope that a source text sets up. -/
def ofSource (source : String) : Scope where
  imports := Source.imports source
  space := Source.namespace? source

/-- The name that an import gives to a class identifier, if its first segment is an alias. -/
def imported? (scope : Scope) (id : ClassId) : Option ClassId :=
  let (head, rest) := ClassId.splitFirst id
  (scope.imports.get? head).map fun meaning =>
    if rest = "" then meaning else ClassId.qualify meaning rest

/-- The name of a class identifier inside the namespace, if there is a namespace. -/
def local? (scope : Scope) (id : ClassId) : Option ClassId :=
  match scope.space with
  | none => none
  | some space => if space = "" then none else some (ClassId.qualify space id)

/-- The names under which a declared type is looked up, in order: as written, through the
imports, and inside the namespace. -/
def candidates (scope : Scope) (declared : String) : List ClassId :=
  let id := ClassId.canonical declared
  id :: ((scope.imported? id).toList ++ (scope.local? id).toList)

/-- The indexed class for a declared type: the first candidate that the index holds. -/
def find? (scope : Scope) (index : ApiIndex) (declared : String) : Option ApiClass :=
  (scope.candidates declared).findSome? index.get?

end Scope

namespace Observer

/-- An observer of which only the identifier is known. -/
def new (id : ClassId) : Observer where
  id := id
  events := []
  services := []
  resolved := .empty
  endpoints := .empty
  sdkCalls := .empty
  source := none

/-- Credits the observer with what an indexed class uses. -/
def credit (observer : Observer) (found : ApiClass) : Observer :=
  { observer with
    resolved := observer.resolved.insert found.id
    endpoints := observer.endpoints.union found.endpoints
    sdkCalls := observer.sdkCalls.union found.sdkCalls }

/-- Takes note of a declared service and credits the observer with the class it stands for. -/
def declare (index : ApiIndex) (scope : Scope) (observer : Observer) (declared : String) :
    Observer :=
  let noted := { observer with services := observer.services ++ [declared] }
  match scope.find? index declared with
  | some found => noted.credit found
  | none => noted

/-- The class types that the constructor of a source text declares; none without a
constructor. -/
def declaredTypes (source : String) : List String :=
  match Source.constructorParameters? source with
  | some parameters => Source.parameterTypes parameters
  | none => []

/-- Takes note of all services that a source text declares. -/
def collect (index : ApiIndex) (observer : Observer) (source : String) : Observer :=
  (declaredTypes source).foldl (declare index (.ofSource source)) observer

end Observer

end EventAtlas
