import EventAtlas.CommandLine.Option
import EventAtlas.Settings
import EventAtlas.Yaml.Load

/-!
# The command line

The program documents a module that is named by options or by a configuration file. It tells
what it does line by line, complains in one line, and ends with a number: zero if all went
well, two if the arguments cannot be followed, and one otherwise.
-/

namespace EventAtlas.CommandLine

/-- The name of the program. -/
def programName : String := "checkout-flow-docs"

/-- How the program is called. -/
def usage : List String := [
  "usage: checkout-flow-docs [-h] [--config CONFIG] [--module-dir MODULE_DIR]",
  "                          [--output-dir OUTPUT_DIR] [--repo-url REPO_URL]",
  "                          [--diagram \x7bmermaid,dot\x7d] [--require-etc-dir]",
  "                          [--endpoint-index] [--verbose] [--version] [--debug]"]

/-- What the program does and which options it has. -/
def helpText : List String := usage ++ [
  "",
  "Checkout Flow Docs - Map Magento events to observers, services and Mollie API calls",
  "",
  "options:",
  "  -h, --help            show this help message and exit",
  "  --config CONFIG       Path to configuration file (checkout_flow_config.yaml)",
  "  --module-dir MODULE_DIR",
  "                        Path to the payment module source tree (required if",
  "                        --config not provided)",
  "  --output-dir OUTPUT_DIR",
  "                        Directory for the generated Markdown (default: docs)",
  "  --repo-url REPO_URL   Base URL for observer source links",
  "  --diagram \x7bmermaid,dot\x7d",
  "                        Flow diagram format (default: mermaid)",
  "  --require-etc-dir     Only read events.xml files located below an etc/",
  "                        directory",
  "  --endpoint-index      Also write a flat list of detected endpoints to",
  "                        index.md",
  "  --verbose             Report every skipped file",
  "  --version             show program's version number and exit",
  "  --debug               Enable debug mode (show full tracebacks)",
  "",
  "Examples:",
  "  # Using config file (recommended)",
  "  checkout-flow-docs --config checkout_flow_config.yaml",
  "",
  "  # Manual mode",
  "  checkout-flow-docs --module-dir vendor/mollie/module-payment --output-dir docs",
  "",
  "  # Graphviz diagram, only etc/**/events.xml, plus a flat endpoint list",
  "  checkout-flow-docs --module-dir ./module --diagram dot --require-etc-dir --endpoint-index",
  "        "]

/-- The version of the program. -/
def versionText : String := programName ++ " 0.1.0"

/-- Why the program does not end well. -/
inductive Complaint where
  /-- The arguments cannot be followed. -/
  | usage (fault : UsageFault)
  /-- Neither a configuration nor a module is named. -/
  | noSource
  /-- The module cannot be documented; `debug` asks for more about an unexpected failure. -/
  | failed (failure : Failure) (debug : Bool)
deriving DecidableEq, Repr

namespace Complaint

/-- The number with which the program ends. -/
def exitCode : Complaint → Nat
  | .usage _ => 2
  | .noSource | .failed _ _ => 1

/-- The words for a failure. Those that a user cannot mend are unexpected. -/
def failureText (failure : Failure) : String :=
  (if failure.isMendable then "Error: " else "Unexpected error: ") ++ failure.message ++ "\n"

/-- More about an unexpected failure. -/
def debugText (failure : Failure) : String :=
  if failure.isMendable then "" else (repr failure).pretty ++ "\n"

/-- The words for a complaint. -/
def text : Complaint → String
  | .usage fault =>
    Text.join "\n" (CommandLine.usage ++ [programName ++ ": error: " ++ fault.message]) ++ "\n"
  | .noSource => "Error: --module-dir is required when --config is not provided\n"
  | .failed failure debug => failureText failure ++ (if debug then debugText failure else "")

end Complaint

/-- How a run of the program ends: the lines it printed, what it complains about, and the
workspace as it is afterwards. Every line can be printed. -/
structure Outcome where
  lines : List String
  complaint : Option Complaint
  workspace : Workspace

namespace Outcome

/-- The number with which the program ends. -/
def exitCode (outcome : Outcome) : Nat :=
  (outcome.complaint.map (·.exitCode)).getD 0

/-- What the program writes about how it ends. -/
def errorText (outcome : Outcome) : String :=
  (outcome.complaint.map (·.text)).getD ""

end Outcome

/-- What the program is given by its surroundings. -/
structure Host where
  loader : Settings.Loader
  /-- The characters that stand for halves of surrogate pairs in arguments and settings. -/
  halves : Text.Halves

/-- Configurations are loaded as documents, and no text holds halves of surrogate pairs. -/
def Host.standard : Host where
  loader := Yaml.load
  halves := .none

/-- Where the search for a configuration file starts, and the name that is searched for. -/
def searchFor (config : String) : Path × String :=
  let file := Path.ofString config
  (file.parent, file.name)

/-- What options ask for, when no configuration is named. -/
def requestOf (halves : Text.Halves) (options : Options) (moduleDir : String) : Request where
  survey :=
    { moduleDir := .ofString moduleDir
      extension := ".php"
      requireEtc := options.requireEtc
      verbose := options.verbose }
  outputDir := .ofString options.outputDir
  address := (options.address.map .ofText).getD .none
  catalog := options.catalog
  diagramName := some options.diagram
  style := .plain
  halves := halves

/-- The request that options lead to; none if they name neither a configuration nor a module.
Of what the options say, a configuration leaves only whether to tell what is passed over. -/
def request? (host : Host) (workspace : Workspace) (options : Options) :
    Option (Trace Request) :=
  match options.config.filter (· ≠ ""), options.moduleDir.filter (· ≠ "") with
  | some config, _ =>
    let (start, name) := searchFor config
    some do
      let settings ← Settings.load host.loader workspace start name
      return settings.request host.halves options.verbose
  | none, some moduleDir => some (.done (requestOf host.halves options moduleDir))
  | none, none => none

/-- Follows a request. -/
def fulfil (workspace : Workspace) (request : Trace Request) (time : String) :
    Workspace × Trace Path :=
  let documentation : Trace Documentation := do
    Trace.ofExcept (Documentation.ofRequest workspace (← request))
  match documentation.result with
  | .error failure => (workspace, ⟨documentation.notices, .error failure⟩)
  | .ok found =>
    let (after, trace) := found.run workspace time
    (after, do let _ ← documentation; trace)

/-- Documents a module as options ask for. -/
def document (host : Host) (workspace : Workspace) (options : Options) (time : String) :
    Outcome :=
  match request? host workspace options with
  | none => { lines := [], complaint := some .noSource, workspace := workspace }
  | some request =>
    let (after, trace) := fulfil workspace request time
    { lines := trace.notices.map (·.line)
      complaint := match trace.result with
        | .ok _ => none
        | .error failure => some (.failed failure options.debug)
      workspace := after }

/-- Runs the program in a workspace. `time` is the time of day that it tells. -/
def run (host : Host) (workspace : Workspace) (time : String) (arguments : List String) :
    Outcome :=
  match Command.ofArguments arguments with
  | .error fault => { lines := [], complaint := some (.usage fault), workspace := workspace }
  | .ok .help => { lines := helpText, complaint := none, workspace := workspace }
  | .ok .version => { lines := [versionText], complaint := none, workspace := workspace }
  | .ok (.document options) => document host workspace options time

end EventAtlas.CommandLine
