import EventAtlas.Diagram
import EventAtlas.Text.Digit
import EventAtlas.Text.Newline
import EventAtlas.Text.Quoted

/-!
# Options

The arguments of the program are options, some of which take a value. A long option may be
shortened as long as no other option starts in the same way, and its value may be attached with
an equals sign. Whether arguments are options is decided for all of them before any is followed.
-/

namespace EventAtlas.CommandLine

/-- What an option asks for. -/
inductive Flag where
  | help
  | config
  | moduleDir
  | outputDir
  | address
  | diagram
  | requireEtc
  | catalog
  | verbose
  | version
  | debug
deriving DecidableEq, Repr

/-- The options as they are written, in the order in which they are listed. -/
def Flag.words : List (String × Flag) :=
  [("-h", .help), ("--help", .help), ("--config", .config), ("--module-dir", .moduleDir),
    ("--output-dir", .outputDir), ("--repo-url", .address), ("--diagram", .diagram),
    ("--require-etc-dir", .requireEtc), ("--endpoint-index", .catalog), ("--verbose", .verbose),
    ("--version", .version), ("--debug", .debug)]

/-- All the ways to write an option. -/
def Flag.title (flag : Flag) : String :=
  Text.join "/" ((words.filter fun entry => entry.2 = flag).map Prod.fst)

/-- Whether an option has a value. -/
def Flag.takesValue : Flag → Bool
  | .config | .moduleDir | .outputDir | .address | .diagram => true
  | .help | .requireEtc | .catalog | .verbose | .version | .debug => false

/-- Why arguments cannot be followed. -/
inductive UsageFault where
  /-- An option has no value. -/
  | missingValue (flag : Flag)
  /-- The value of an option is none of those it may have. -/
  | invalidChoice (flag : Flag) (value : String) (choices : List String)
  /-- A value is attached to an option that takes none. -/
  | uselessValue (flag : Flag) (value : String)
  /-- A shortened option could be several ones. -/
  | ambiguous (written : String) (candidates : List String)
  /-- Arguments that mean nothing. -/
  | unrecognized (arguments : List String)
deriving DecidableEq, Repr

/-- The words for a fault. -/
def UsageFault.message : UsageFault → String
  | .missingValue flag => "argument " ++ flag.title ++ ": expected one argument"
  | .invalidChoice flag value choices =>
    "argument " ++ flag.title ++ ": invalid choice: " ++ Text.quoted value ++ " (choose from " ++
      Text.join ", " (choices.map Text.quoted) ++ ")"
  | .uselessValue flag value =>
    "argument " ++ flag.title ++ ": ignored explicit argument " ++ Text.quoted value
  | .ambiguous written candidates =>
    "ambiguous option: " ++ written ++ " could match " ++ Text.join ", " candidates
  | .unrecognized arguments => "unrecognized arguments: " ++ Text.join " " arguments

/-- What an argument is by its form. -/
inductive Argument where
  /-- A value of the option before it, or nothing. -/
  | plain (text : String)
  /-- An option, and a value that is attached to it. -/
  | option (flag : Flag) (attached : Option String)
  /-- Short options written together, without the hyphen. The first one is known. -/
  | cluster (letters : List Char)
  /-- Something that looks like an option but is none. -/
  | unknown (text : String)
  /-- The mark after which no argument is an option. -/
  | separator
deriving DecidableEq, Repr

namespace Argument

/-- Whether a text is a negative number: a hyphen and digits, with a point before the last ones
or without it. A line feed at the end makes no difference. -/
def isNegativeNumber (text : List Char) : Bool :=
  match Text.withoutLastBreak text with
  | '-' :: rest =>
    let whole := rest.takeWhile Text.isDecimalDigit
    match rest.dropWhile Text.isDecimalDigit with
    | [] => whole ≠ []
    | '.' :: fraction => fraction ≠ [] && fraction.all Text.isDecimalDigit
    | _ => false
  | _ => false

/-- The text before the first equals sign, and the text after it, if there is one. -/
def splitValue (text : List Char) : List Char × Option String :=
  match text.dropWhile (· != '=') with
  | _ :: value => (text.takeWhile (· != '='), some (String.ofList value))
  | [] => (text, none)

/-- The options that start with a text. -/
def startingWith (text : List Char) : List (String × Flag) :=
  Flag.words.filter fun entry => text.isPrefixOf entry.1.toList

/-- An argument that starts with a hyphen but is not an option in full. -/
def ofPart (text : List Char) : Except UsageFault Argument :=
  let (written, attached) := splitValue text
  let long := ['-', '-'].isPrefixOf text
  let candidates := if long then startingWith written else []
  match candidates with
  | [(_, flag)] => .ok (.option flag attached)
  | _ :: _ => .error (.ambiguous (String.ofList text) (candidates.map Prod.fst))
  | [] =>
    match text with
    | '-' :: 'h' :: rest => .ok (.cluster ('h' :: rest))
    | text =>
      if isNegativeNumber text || text.contains ' ' then .ok (.plain (String.ofList text))
      else .ok (.unknown (String.ofList text))

/-- What an argument is by its form. -/
def ofText (text : String) : Except UsageFault Argument :=
  let chars := text.toList
  let (written, attached) := splitValue chars
  if chars.head? ≠ some '-' ∨ text = "-" then .ok (.plain text)
  else match Flag.words.lookup text, Flag.words.lookup (String.ofList written) with
    | some flag, _ => .ok (.option flag none)
    | none, some flag => .ok (.option flag attached)
    | none, none => ofPart chars

/-- What arguments are by their form. -/
def ofTexts : List String → Except UsageFault (List Argument)
  | [] => .ok []
  | "--" :: rest => .ok (.separator :: rest.map .plain)
  | text :: rest => do return (← ofText text) :: (← ofTexts rest)

end Argument

/-- What options ask for. -/
structure Options where
  config : Option String
  moduleDir : Option String
  outputDir : String
  address : Option String
  diagram : String
  requireEtc : Bool
  catalog : Bool
  verbose : Bool
  debug : Bool
deriving DecidableEq, Repr

/-- What no option asks for. -/
def Options.standard : Options where
  config := none
  moduleDir := none
  outputDir := "docs"
  address := none
  diagram := "mermaid"
  requireEtc := false
  catalog := false
  verbose := false
  debug := false

/-- What the arguments ask the program to do. -/
inductive Command where
  | document (options : Options)
  | help
  | version
deriving DecidableEq, Repr

namespace Command

/-- The names that may be chosen for a diagram format. -/
def diagramNames : List String :=
  Diagram.Register.builtIn.keys

/-- The options with a value for one of them. -/
def withValue (options : Options) (flag : Flag) (value : String) : Except UsageFault Options :=
  match flag with
  | .config => .ok { options with config := some value }
  | .moduleDir => .ok { options with moduleDir := some value }
  | .outputDir => .ok { options with outputDir := value }
  | .address => .ok { options with address := some value }
  | .diagram =>
    if diagramNames.contains value then .ok { options with diagram := value }
    else .error (.invalidChoice .diagram value diagramNames)
  | _ => .error (.uselessValue flag value)

/-- The options with one that takes no value. -/
def withFlag (options : Options) : Flag → Options
  | .requireEtc => { options with requireEtc := true }
  | .catalog => { options with catalog := true }
  | .verbose => { options with verbose := true }
  | .debug => { options with debug := true }
  | _ => options

/-- Short options that are written together. The only one asks for help and takes no value,
neither after an equals sign nor after a hyphen. Letters that mean nothing come too late: help
is asked for before them. -/
def ofCluster : List Char → Except UsageFault Command
  | 'h' :: '=' :: value => .error (.uselessValue .help (String.ofList value))
  | 'h' :: '-' :: value => .error (.uselessValue .help (String.ofList ('-' :: value)))
  | 'h' :: 'h' :: rest => ofCluster ('h' :: rest)
  | _ => .ok .help

/-- Follows arguments from left to right. Those that mean nothing are reported at the end,
unless something else comes first. -/
def follow (options : Options) (stray : List String) :
    List Argument → Except UsageFault Command
  | [] => if stray = [] then .ok (.document options) else .error (.unrecognized stray)
  | .plain text :: rest | .unknown text :: rest => follow options (stray ++ [text]) rest
  | .separator :: rest => follow options (stray ++ ["--"]) rest
  | .cluster letters :: _ => ofCluster letters
  | .option flag (some value) :: rest =>
    if flag.takesValue then do follow (← withValue options flag value) stray rest
    else .error (.uselessValue flag value)
  | .option .help none :: _ => .ok .help
  | .option .version none :: _ => .ok .version
  | .option flag none :: rest =>
    if flag.takesValue then
      match rest with
      | .plain value :: rest => do follow (← withValue options flag value) stray rest
      | _ => .error (.missingValue flag)
    else follow (withFlag options flag) stray rest

/-- What arguments ask for. -/
def ofArguments (arguments : List String) : Except UsageFault Command := do
  follow .standard [] (← Argument.ofTexts arguments)

end Command

end EventAtlas.CommandLine
