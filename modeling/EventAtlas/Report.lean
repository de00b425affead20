import EventAtlas.Coverage
import EventAtlas.Diagram
import EventAtlas.Gap
import EventAtlas.Report.Cell

/-!
# The report

The report is a document of six sections: title, coverage, events, diagram, observers, gaps.
Everything in it is printed in sorted order, so it does not depend on the order in which
classes, observers or endpoints were found.
-/

namespace EventAtlas

/-- The address under which the sources of a module can be read. -/
inductive SourceAddress where
  /-- No address, or an empty one. -/
  | none
  /-- The address of the module's root directory. -/
  | url (text : String)
  /-- Something that is not a text. -/
  | notText
deriving DecidableEq, Repr

namespace SourceAddress

/-- The address that a text gives; an empty text gives none. -/
def ofText (text : String) : SourceAddress :=
  if text = "" then .none else .url text

/-- An address without the slashes at its end. -/
def trimmed (text : String) : String :=
  String.ofList (text.toList.reverse.dropWhile (· == '/')).reverse

/-- The address of a file below the module's root directory, if there is an address. -/
def fileUrl? (address : SourceAddress) (file : Path) : Except Failure (Option String) :=
  match address with
  | .none => .ok Option.none
  | .url text => .ok (some (trimmed text ++ "/" ++ file.toString))
  | .notText => .error .addressNotText

end SourceAddress

/-- What a report is made from. -/
structure Report where
  index : ApiIndex
  observers : Observers
  moduleDir : Option Path
  address : SourceAddress
  diagram : Diagram

namespace Report

/-- The title. -/
def title : String :=
  "# Magento × Mollie: Checkout Flow (Deep Analysis)\n\n" ++
    "_Generated automatically from the Mollie Magento 2 module source._\n"

/-- The section with the headline counts. -/
def coverageSection (coverage : Coverage) : String :=
  "## Coverage Summary\n\n" ++
    "- **" ++ toString coverage.events ++ " Magento events**\n" ++
    "- **" ++ toString coverage.observers ++ " observers documented**\n" ++
    "- **" ++ toString coverage.apiClasses ++ " classes using Mollie API**\n" ++
    "- **" ++ toString coverage.endpoints ++ " API endpoint references detected**\n\n" ++
    "It maps **Magento events → Observers → Services → Mollie API calls**.\n"

/-- The observers that react to an event. -/
def observersOf (observers : Observers) (event : String) : NameSet :=
  .ofList ((observers.entries.filter fun entry => event ∈ entry.2.events).map Prod.fst)

/-- The observers by event, both in increasing order. -/
def byEvent (observers : Observers) : List (String × List ClassId) :=
  (Coverage.eventNames observers).sorted.map fun event =>
    (event, (observersOf observers event).sorted)

/-- The lines of a table, with an end of line after each. -/
def table (lines : List String) : String :=
  Text.join "\n" lines ++ "\n"

/-- The row of an event. -/
def eventRow (event : String) (observers : List ClassId) : String :=
  "| `" ++ event ++ "` | " ++ cell observers ++ " |"

/-- The section with the events. -/
def eventSection (report : Report) : String :=
  table (["## Checkout-related events", "", "| Event | Observer(s) |", "|---|---|"] ++
    (byEvent report.observers).map fun group => eventRow group.1 group.2)

/-- The section with the diagram. -/
def diagramSection (report : Report) : Except Failure String := do
  let text ← report.diagram.generate report.observers
  return "## Full event → observer → API map\n\n" ++
    "```" ++ report.diagram.format.name ++ "\n" ++ text ++ "```\n"

/-- The name of an observer, linked to its source when the source lies below the module's root
directory and has an address. -/
def observerLink (report : Report) (observer : Observer) : Except Failure String := do
  let label := "`" ++ observer.id ++ "`"
  match observer.source, report.moduleDir with
  | some source, some moduleDir =>
    match source.relativeTo? moduleDir with
    | some file =>
      match ← report.address.fileUrl? file with
      | some url => return "[" ++ label ++ "](" ++ url ++ ")"
      | none => return label
    | none => return label
  | _, _ => return label

/-- The row of an observer whose name is shown as `link`. -/
def observerRow (link : String) (observer : Observer) : String :=
  "| " ++ link ++
    " | " ++ cell observer.events ++
    " | " ++ cell observer.services ++
    " | " ++ cell observer.endpoints.sorted ++
    " | " ++ cell observer.sdkCalls.sorted ++ " |"

/-- The section with the observers. -/
def observerSection (report : Report) : Except Failure String := do
  let rows ← report.observers.sorted.mapM fun entry => do
    return observerRow (← report.observerLink entry.2) entry.2
  return table (["## Observer details", "",
    "| Observer class | Events | Services | Mollie endpoints | SDK calls |",
    "|---|---|---|---|---|"] ++ rows)

/-- The row of a gap. -/
def gapRow (gap : Gap) : String :=
  "| " ++ gap.kind.heading ++ " | " ++ gap.severity ++ " | " ++ cellText gap.message ++ " |"

/-- The section with the gaps. -/
def gapSection (report : Report) : String :=
  match Gap.detect report.index report.observers with
  | [] => table ["## Coverage gaps", "", "No gaps detected."]
  | gaps =>
    table (["## Coverage gaps", "", "| Kind | Severity | Detail |", "|---|---|---|"] ++
      gaps.map gapRow)

/-- The text of the report with the given headline counts. -/
def render (report : Report) (coverage : Coverage) : Except Failure String := do
  let diagram ← report.diagramSection
  let observers ← report.observerSection
  return Text.join "\n" [title, coverageSection coverage, report.eventSection, diagram,
    observers, report.gapSection]

/-- The text of the report. Headline counts that are not given are computed. -/
def build (report : Report) (coverage : Option Coverage) : Except Failure String :=
  report.render (coverage.getD (.compute report.index report.observers))

end Report

end EventAtlas
