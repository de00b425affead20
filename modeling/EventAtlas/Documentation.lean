import EventAtlas.Analysis
import EventAtlas.Report
import EventAtlas.Report.Catalog

/-!
# Documentation

A module is documented by a report and, where it is wanted, by a catalog of endpoints, both in
one directory. Nothing is written before the analysis is done, is found valid, and the report
is complete; from then on what was written stays, even if a later page cannot be written. A page
whose text cannot be encoded leaves its file empty.
-/

namespace EventAtlas

/-- What is wanted: the module and how to look at it, where the pages go, and how they look. -/
structure Request where
  survey : Survey
  outputDir : Path
  address : SourceAddress
  /-- Whether to write a catalog of endpoints as well. -/
  catalog : Bool
  /-- The name of a diagram format; none if the name is no text. -/
  diagramName : Option String
  style : Diagram.Style
  /-- The characters that stand for halves of surrogate pairs in the address and the style. -/
  halves : Text.Halves

/-- A request that can be followed. -/
structure Documentation where
  survey : Survey
  outputDir : Path
  address : SourceAddress
  catalog : Bool
  diagram : Diagram
  halves : Text.Halves

/-- A page that is to be written, and what is told about it. -/
structure Page where
  path : Path
  text : String
  notice : Notice

namespace Documentation

/-- The diagram of a format, which has to be known, and a style. -/
def diagramOf (name : Option String) (style : Diagram.Style) : Except Failure Diagram :=
  match name with
  | some name => Diagram.Register.builtIn.select name style
  | none => .error .diagramNotAName

/-- Checks a request: the module has to be a directory, and the diagram format has to be
known. -/
def ofRequest (workspace : Workspace) (request : Request) : Except Failure Documentation := do
  if !(← workspace.isDirectory request.survey.moduleDir) then
    throw (.noModule request.survey.moduleDir)
  let diagram ← diagramOf request.diagramName request.style
  return {
    survey := request.survey
    outputDir := request.outputDir
    address := request.address
    catalog := request.catalog
    diagram := diagram
    halves := request.halves }

/-- The path of the report. -/
def reportPath (documentation : Documentation) : Path :=
  documentation.outputDir.child "checkout.md"

/-- The path of the catalog. -/
def catalogPath (documentation : Documentation) : Path :=
  documentation.outputDir.child "index.md"

/-- The report on an analysis. -/
def report (documentation : Documentation) (analysis : Analysis) : Report where
  index := analysis.index
  observers := analysis.observers
  moduleDir := some documentation.survey.moduleDir
  address := documentation.address
  diagram := documentation.diagram

/-- The pages for an analysis. -/
def pages (documentation : Documentation) (analysis : Analysis) : Except Failure (List Page) := do
  analysis.coverage.validate
  let text ← (documentation.report analysis).build (some analysis.coverage)
  let report : Page :=
    { path := documentation.reportPath
      text := text
      notice := .reportWritten documentation.reportPath }
  let catalog : Page :=
    { path := documentation.catalogPath
      text := Report.catalog analysis.index
      notice := .catalogWritten documentation.catalogPath }
  return if documentation.catalog then [report, catalog] else [report]

/-- Analyses the module and makes the pages. -/
def prepare (workspace : Workspace) (documentation : Documentation) (time : String) :
    Trace (List Page) := do
  Trace.note (.started time)
  Trace.note (.scanning documentation.survey.moduleDir)
  let analysis ← documentation.survey.analyze workspace
  Trace.ofExcept (documentation.pages analysis)

/-- Writes pages one after the other. -/
def publish (halves : Text.Halves) (workspace : Workspace) : List Page → Workspace × Trace Unit
  | [] => (workspace, .done ())
  | page :: rest =>
    match workspace.writeText halves page.path page.text with
    | (written, .ok ()) =>
      let (after, trace) := publish halves written rest
      (after, do Trace.note page.notice; trace)
    | (left, .error failure) => (left, .ofExcept (.error failure))

/-- Writes pages into the output directory, which is made if it is missing. -/
def publishAll (workspace : Workspace) (documentation : Documentation) (pages : List Page) :
    Workspace × Trace Unit :=
  match workspace.makeDirectories documentation.outputDir with
  | (workspace, .ok ()) => publish documentation.halves workspace pages
  | (workspace, .error failure) => (workspace, .ofExcept (.error failure))

/-- Documents the module. Gives the workspace as it is afterwards and the path of the report.
`time` is the time of day that is told. -/
def run (workspace : Workspace) (documentation : Documentation) (time : String) :
    Workspace × Trace Path :=
  let prepared := documentation.prepare workspace time
  match prepared.result with
  | .error _ => (workspace, do let _ ← prepared; return documentation.reportPath)
  | .ok pages =>
    let (after, published) := documentation.publishAll workspace pages
    (after, do let _ ← prepared; published; return documentation.reportPath)

end Documentation

end EventAtlas
