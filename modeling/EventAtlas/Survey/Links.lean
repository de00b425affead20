import EventAtlas.Link
import EventAtlas.Survey
import EventAtlas.Xml.Document

/-!
# Registrations of a module

Every event configuration is read, in the order of the paths. It declares events, either
directly below its outermost element or below `events` elements there; each event names its
observers. A configuration that cannot be read or is no well-formed document declares nothing,
while one in an encoding that cannot be followed is a failure.
-/

namespace EventAtlas.Survey

/-- The elements of a configuration that declare events. -/
def eventElements (root : Xml.Element) : List Xml.Element :=
  match root.childrenNamed "event" with
  | [] => (root.childrenNamed "events").flatMap (·.childrenNamed "event")
  | found => found

/-- The identifier of the observer that an element names; none if it is empty. -/
def observerOf (element : Xml.Element) : Option ClassId :=
  let id := ClassId.canonical ((element.attribute? "instance").getD "")
  if id = "" then none else some id

/-- The registration of an observer for an event. -/
def link (survey : Survey) (config : Path) (event : String) (observer : ClassId) : Link where
  event := event
  observer := observer
  source := some (Link.candidatePath survey.moduleDir survey.extension observer)
  config := some config

/-- The registrations that an event element declares. -/
def eventLinks (survey : Survey) (config : Path) (event : Xml.Element) : List Link :=
  let name := (event.attribute? "name").getD ""
  ((event.childrenNamed "observer").filterMap observerOf).map (survey.link config name)

/-- The registrations that a configuration declares. -/
def rootLinks (survey : Survey) (config : Path) (root : Xml.Element) : List Link :=
  (eventElements root).flatMap (survey.eventLinks config)

/-- The registrations in the content of a configuration. -/
def contentLinks (survey : Survey) (config : Path) (content : Text.Bytes) : Trace (List Link) :=
  match Xml.Document.parse content with
  | .ok root => .done (survey.rootLinks config root)
  | .error (.illFormed fault) => do
    Trace.noteIf survey.verbose (.unparsable config fault.message)
    return []
  | .error (.encoding fault) => .ofExcept (.error (.encoding fault))

/-- The registrations of one configuration file. -/
def fileLinks (workspace : Workspace) (survey : Survey) (config : Path) : Trace (List Link) :=
  match workspace.read config with
  | .ok content => survey.contentLinks config content
  | .error failure => do
    Trace.noteIf survey.verbose (.unparsable config failure.message)
    return []

/-- The registrations of the module: those of each configuration in turn, in document order. -/
def findLinks (workspace : Workspace) (survey : Survey) : Trace (List Link) := do
  let configs ← Trace.ofExcept (survey.configFiles workspace)
  return (← configs.mapM (survey.fileLinks workspace)).flatten

end EventAtlas.Survey
