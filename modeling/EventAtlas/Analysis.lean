import EventAtlas.Survey.Index
import EventAtlas.Survey.Links
import EventAtlas.Survey.Resolve

/-!
# Analyses

An analysis is everything that a survey finds out about a module: the classes that use the
service, the registrations, the observers with what they reach, and the headline counts.
Analysing writes nothing.
-/

namespace EventAtlas

/-- What a survey found out about a module. -/
structure Analysis where
  index : ApiIndex
  links : List Link
  observers : Observers
  coverage : Coverage

namespace Survey

/-- Analyses the module: first its sources, then its registrations, then the observers. -/
def analyze (workspace : Workspace) (survey : Survey) : Trace Analysis := do
  let index := (← survey.buildIndex workspace).index
  Trace.note (.indexed index.size)
  let links ← survey.findLinks workspace
  Trace.note (.linked links.length)
  let observers ← Observers.resolve workspace index survey.verbose links
  let coverage := Coverage.compute index observers
  Trace.note (.covered coverage)
  return { index, links, observers, coverage }

end Survey

end EventAtlas
