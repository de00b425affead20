import EventAtlas.Failure
import EventAtlas.Number.Total
import EventAtlas.Observer

/-!
# Coverage

The headline counts of an analysis. An endpoint counts once for each class that shows it, so
the count can be larger than the number of distinct endpoints.
-/

namespace EventAtlas

/-- The headline counts of an analysis. -/
structure Coverage where
  events : Nat
  observers : Nat
  apiClasses : Nat
  endpoints : Nat
deriving DecidableEq, Repr

namespace Coverage

/-- The distinct events of all observers. -/
def eventNames (observers : Observers) : NameSet :=
  .ofList (observers.values.flatMap (·.events))

/-- Counts what an analysis found. -/
def compute (index : ApiIndex) (observers : Observers) : Coverage where
  events := (eventNames observers).size
  observers := observers.size
  apiClasses := index.size
  endpoints := total (index.values.map (·.endpoints.size))

/-- Refuses an analysis that found no class that uses the service. -/
def validate (coverage : Coverage) : Except Failure Unit :=
  if coverage.apiClasses = 0 then .error .noApiClasses else .ok ()

end Coverage

end EventAtlas
