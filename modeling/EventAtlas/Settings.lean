import EventAtlas.Documentation
import EventAtlas.Yaml.Fault
import EventAtlas.Yaml.Value.Display

/-!
# Settings

Settings come from a configuration file, which is looked for in a directory and in those above
it. The file holds a table; the paths in it are meant relative to the directory in which the
search found the file. Settings that are not in the table have defaults. How the text of the file
is loaded is a parameter.
-/

namespace EventAtlas

/-- What a configuration file says, with the paths that were derived from it. -/
structure Settings where
  /-- The directory in which the search found the file. -/
  root : Path
  file : Path
  moduleDir : Path
  outputDir : Path
  entries : List (Yaml.Value × Yaml.Value)

namespace Settings

/-- How the text of a configuration file is loaded. -/
abbrev Loader := List Char → Except Yaml.Refusal Yaml.Value

/-- The name of a configuration file for which no other name is given. -/
def defaultName : String := "checkout_flow_config.yaml"

/-- The name of the output directory for which no other one is given. -/
def defaultOutput : String := "docs"

/-- The part of a path whose directories are passed over in the search. -/
def passedOver : List Char := ".venv".toList

/-- Whether a word stands somewhere in a text. -/
def occursIn (word : List Char) : List Char → Bool
  | [] => word = []
  | c :: rest => word.isPrefixOf (c :: rest) || occursIn word rest

/-- Whether a directory is passed over in the search. -/
def isPassedOver (directory : Path) : Bool :=
  occursIn passedOver directory.toString.toList

/-- A path and the directories above it, from the inside to the outside. -/
def upwards (path : Path) : List Path :=
  (List.range (path.parts.length + 1)).map fun count =>
    { path with parts := path.parts.take (path.parts.length - count) }

/-- The first of several directories that holds a file of a name. -/
def search (workspace : Workspace) (name : String) : List Path → Except Failure (Option Path)
  | [] => .ok none
  | directory :: rest => do
    let found ← workspace.isFile (directory.join (.ofString name))
    if found && !isPassedOver directory then return some directory
    else search workspace name rest

/-- An absolute path, unless it cannot be one. -/
def resolve (workspace : Workspace) (path : Path) : Except Failure Path :=
  if Workspace.hasNul path then .error .nulInPath else .ok (workspace.resolve path)

/-- The directory in which the search for a file of a name finds one. -/
def findRoot (workspace : Workspace) (start : Path) (name : String) : Except Failure Path := do
  let start ← resolve workspace start
  let first := if ← workspace.isFile start then start.parent else start
  match ← search workspace name (upwards first) with
  | some root => return root
  | none => throw (.configNotFound name start)

/-- The failure of reading a file that cannot be loaded. -/
def failureOf (file : Path) : Yaml.Refusal → Failure
  | .malformed fault => .malformedConfig file fault.message
  | .notBoolean written => .notBoolean written
  | .notTimestamp written => .notTimestamp written
  | .emptyNumber => .emptyNumber
  | .timestampOfMapping => .timestampOfMapping
  | .hugeEscape => .hugeEscape
  | .hugePlace => .hugePlace
  | .tooDeep => .tooDeep

/-- The table in the content of a configuration file. -/
def readTable (loader : Loader) (file : Path) (content : Text.Bytes) :
    Except Failure (List (Yaml.Value × Yaml.Value)) := do
  let text ← match Text.Utf8.decode? content with
    | some text => .ok text
    | none => .error (failureOf file (.malformed .badBytes))
  match ← (loader (Text.unifyLineEnds text)).mapError (failureOf file) with
  | .table entries => return entries
  | _ => throw (.configNotMapping file)

/-- The path that a setting gives below the root. -/
def pathSetting (workspace : Workspace) (root : Path) (setting : String) (value : Yaml.Value) :
    Except Failure Path :=
  match value with
  | .text text => resolve workspace (root.join (.ofString text))
  | _ => .error (.settingNotText setting)

/-- The module directory that a table names, which has to exist. -/
def moduleDirIn (workspace : Workspace) (root : Path)
    (entries : List (Yaml.Value × Yaml.Value)) : Except Failure Path := do
  let setting := "module_dir"
  let value := (Yaml.Value.lookup entries setting).getD .null
  if !value.isSomething then throw .moduleUndefined
  let path ← pathSetting workspace root setting value
  if ← workspace.isDirectory path then return path else throw (.moduleMissing path)

/-- The output directory that a table names. -/
def outputDirIn (workspace : Workspace) (root : Path)
    (entries : List (Yaml.Value × Yaml.Value)) : Except Failure Path :=
  let setting := "output_dir"
  let value := (Yaml.Value.lookup entries setting).getD .null
  pathSetting workspace root setting (if value.isSomething then value else .text defaultOutput)

/-- Finds and reads the configuration. -/
def find (loader : Loader) (workspace : Workspace) (start : Path) (name : String) :
    Except Failure Settings := do
  let root ← findRoot workspace start name
  let file := root.join (.ofString name)
  let entries ← readTable loader file (← workspace.read file)
  let moduleDir ← moduleDirIn workspace root entries
  let outputDir ← outputDirIn workspace root entries
  return { root, file, moduleDir, outputDir, entries }

/-- Finds and reads the configuration, and tells so. -/
def load (loader : Loader) (workspace : Workspace) (start : Path) (name : String) :
    Trace Settings := do
  let settings ← Trace.ofExcept (find loader workspace start name)
  Trace.note (.configLoaded settings.file)
  return settings

/-- The value of a setting; one that is not in the table has its default. -/
def value (settings : Settings) (setting : String) (default : Yaml.Value) : Yaml.Value :=
  (Yaml.Value.lookup settings.entries setting).getD default

/-- The address under which the sources of the module can be read. -/
def address (settings : Settings) : Yaml.Value :=
  settings.value "repo_url" .null

/-- The name of the diagram format. -/
def diagramType (settings : Settings) : Yaml.Value :=
  settings.value "diagram_type" (.text "mermaid")

/-- The end of the names of source files. -/
def extension (settings : Settings) : Yaml.Value :=
  settings.value "source_extension" (.text ".php")

/-- Whether event configurations count only below a directory named `etc`. -/
def requireEtc (settings : Settings) : Bool :=
  (settings.value "require_etc_dir" (.bool false)).isSomething

/-- Whether to write a catalog of endpoints. -/
def catalog (settings : Settings) : Bool :=
  (settings.value "endpoint_index" (.bool false)).isSomething

/-- The colours of the diagram. -/
def colors (settings : Settings) : Yaml.Value :=
  settings.value "diagram_colors" (.table [])

/-- The shapes of the diagram. -/
def shapes (settings : Settings) : Yaml.Value :=
  settings.value "diagram_shapes" (.table [])

/-- The font of the diagram. -/
def font (settings : Settings) : Yaml.Value :=
  settings.value "diagram_fontname" .null

/-- The address that a value gives. -/
def addressOf (value : Yaml.Value) : SourceAddress :=
  match value with
  | .text text => .ofText text
  | value => if value.isSomething then .notText else .none

/-- The table of styles that a value gives. Only texts can name kinds of nodes. -/
def styleTableOf (value : Yaml.Value) : Diagram.StyleTable :=
  match value with
  | .table entries => .entries (entries.filterMap fun (key, value) =>
    match key with
    | .text name => some (name, value.shown)
    | _ => none)
  | value => if value.isSomething then .notTable else .none

/-- The style that values give. -/
def styleOf (colors shapes font : Yaml.Value) : Diagram.Style where
  colors := styleTableOf colors
  shapes := styleTableOf shapes
  font := if font.isSomething then font.shown else Diagram.defaultFont

/-- The name that a value gives to a diagram format. A collection gives none. -/
def diagramNameOf (value : Yaml.Value) : Option String :=
  if value.key?.isSome then some value.shown else none

/-- What the settings ask for. -/
def request (settings : Settings) (halves : Text.Halves) (verbose : Bool) : Request where
  survey :=
    { moduleDir := settings.moduleDir
      extension := settings.extension.shown
      requireEtc := settings.requireEtc
      verbose := verbose }
  outputDir := settings.outputDir
  address := addressOf settings.address
  catalog := settings.catalog
  diagramName := diagramNameOf settings.diagramType
  style := styleOf settings.colors settings.shapes settings.font
  halves := halves

end Settings

end EventAtlas
