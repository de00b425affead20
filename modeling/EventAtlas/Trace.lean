import EventAtlas.Coverage

/-!
# Notices and traces

While a module is documented, notices are given: what was found, what was passed over, what
was written. A trace is a computation that gives notices and may fail. The notices that were
given before a failure are kept.
-/

namespace EventAtlas

/-- Something worth telling while a module is documented. -/
inductive Notice where
  /-- A scan starts at a time of day. -/
  | started (time : String)
  /-- The directory that is scanned. -/
  | scanning (moduleDir : Path)
  /-- A class is declared by a second file, which is passed over. -/
  | duplicateClass (id : ClassId) (kept ignored : Path)
  /-- A source file is empty or cannot be read. -/
  | emptySource (path : Path)
  /-- So many classes were indexed. -/
  | indexed (count : Nat)
  /-- An event configuration cannot be parsed. -/
  | unparsable (path : Path) (detail : String)
  /-- So many registrations were found. -/
  | linked (count : Nat)
  /-- The source of an observer is not there. -/
  | missingSource (id : ClassId) (path : Option Path)
  /-- The headline counts. -/
  | covered (coverage : Coverage)
  /-- The report was written. -/
  | reportWritten (path : Path)
  /-- The endpoint catalog was written. -/
  | catalogWritten (path : Path)
  /-- The configuration was read. -/
  | configLoaded (path : Path)
deriving DecidableEq

namespace Notice

/-- The words for a notice that concerns the scan. -/
def scanText : Notice → String
  | .started time => "Starting scan at " ++ time
  | .scanning moduleDir => "Module directory: " ++ moduleDir.toString
  | .duplicateClass id kept ignored =>
    "Warning: " ++ id ++ " already indexed from " ++ kept.toString ++ ", ignoring " ++
      ignored.toString
  | .emptySource path => "Skipping unreadable or empty file: " ++ path.toString
  | .indexed count => "Indexed " ++ toString count ++ " classes with Mollie API usage"
  | .unparsable path detail => "Skipping unparsable " ++ path.toString ++ ": " ++ detail
  | .linked count => "Found " ++ toString count ++ " Magento event -> observer links"
  | .missingSource id path =>
    "No source for observer " ++ id ++ " (" ++ (path.map (·.toString)).getD "None" ++ ")"
  | .covered coverage =>
    "Coverage: " ++ toString coverage.events ++ " events, " ++
      toString coverage.observers ++ " observers, " ++
      toString coverage.apiClasses ++ " API classes, " ++
      toString coverage.endpoints ++ " endpoints"
  | .reportWritten path => "Checkout flow written to " ++ path.toString
  | .catalogWritten path => "Endpoint catalog written to " ++ path.toString
  | .configLoaded path => "Configuration loaded from: " ++ path.toString

/-- The line for a notice, with the part of the program it comes from. -/
def line : Notice → String
  | .configLoaded path => "[CONFIG] " ++ (configLoaded path).scanText
  | notice => "[SCAN] " ++ notice.scanText

end Notice

/-- The notices of a computation and its result. -/
structure Trace (α : Type) where
  notices : List Notice
  result : Except Failure α

namespace Trace

variable {α β : Type}

/-- A value without notices. -/
def done (value : α) : Trace α where
  notices := []
  result := .ok value

/-- A single notice. -/
def note (notice : Notice) : Trace Unit where
  notices := [notice]
  result := .ok ()

/-- A single notice, given only under a condition. -/
def noteIf (condition : Bool) (notice : Notice) : Trace Unit :=
  if condition then note notice else done ()

/-- A result without notices. -/
def ofExcept (result : Except Failure α) : Trace α where
  notices := []
  result := result

/-- One computation after the other. After a failure nothing follows. -/
def andThen (first : Trace α) (next : α → Trace β) : Trace β :=
  match first.result with
  | .ok value =>
    { notices := first.notices ++ (next value).notices
      result := (next value).result }
  | .error failure =>
    { notices := first.notices
      result := .error failure }

instance : Monad Trace where
  pure := done
  bind := andThen

end Trace

end EventAtlas
