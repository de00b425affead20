import EventAtlas.Api.SdkCall
import EventAtlas.Api.WrapperCall
import EventAtlas.ClassId
import EventAtlas.Path
import EventAtlas.Roster
import EventAtlas.Source.Header

/-!
# Classes that use the service

A class belongs to the index when its source shows an endpoint, a call of the client library or
a call through the wrapper. The index keeps these classes under their identifiers.
-/

namespace EventAtlas

/-- A class that uses the service: what its source shows. -/
structure ApiClass where
  id : ClassId
  source : Path
  endpoints : NameSet
  sdkCalls : NameSet
deriving DecidableEq

/-- The classes that use the service, by identifier. -/
abbrev ApiIndex := Roster ClassId ApiClass

namespace ApiClass

/-- The calls that a source text shows: those of the client library, those through the wrapper
with a literal path, and the mark of an indirect call. -/
def callsOf (source : String) : NameSet :=
  let literal := (SdkCall.detect source).union (WrapperCall.detect source)
  if WrapperCall.hasIndirect source then literal.insert WrapperCall.indirectMark else literal

/-- The class of a source text, if the text stands for a class and the class uses the
service. -/
def ofSource? (path : Path) (source : String) : Option ApiClass :=
  match Source.classId? source with
  | none => none
  | some id =>
    let found : ApiClass :=
      { id := id
        source := path
        endpoints := Endpoint.detect source
        sdkCalls := callsOf source }
    if found.endpoints.isEmpty ∧ found.sdkCalls.isEmpty then none else some found

end ApiClass

end EventAtlas
