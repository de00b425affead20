import EventAtlas.Survey

/-!
# Indexing a module

Every source file is read once, in the order of the paths. The first file that declares a
class stands for it; files that declare it again are listed as duplicates.
-/

namespace EventAtlas

/-- The result of indexing: the classes that use the service, and the files passed over
because an earlier file declares the same class. -/
structure Indexing where
  index : ApiIndex
  duplicates : List (ClassId × Path)

namespace Indexing

/-- Nothing is indexed yet; the duplicates are those that were listed before. -/
def start (listed : List (ClassId × Path)) : Indexing where
  index := .empty
  duplicates := listed

/-- Enters a class unless an earlier file declares it. -/
def add (indexing : Indexing) (found : ApiClass) : Indexing :=
  match indexing.index.get? found.id with
  | none => { indexing with index := indexing.index.put found.id found }
  | some _ => { indexing with duplicates := indexing.duplicates ++ [(found.id, found.source)] }

/-- What is told about entering a class. -/
def notices (indexing : Indexing) (found : ApiClass) : List Notice :=
  match indexing.index.get? found.id with
  | none => []
  | some kept => [.duplicateClass found.id kept.source found.source]

end Indexing

namespace Survey

/-- The class of a source file, if it stands for a class that uses the service. -/
def indexFile (workspace : Workspace) (verbose : Bool) (path : Path) :
    Trace (Option ApiClass) := do
  match ← Trace.ofExcept (workspace.readSource? path) with
  | none =>
    Trace.noteIf verbose (.emptySource path)
    return none
  | some source =>
    Trace.noteIf (verbose && source.isEmpty) (.emptySource path)
    return ApiClass.ofSource? path source

/-- Reads one source file and enters its class. -/
def indexNext (workspace : Workspace) (verbose : Bool) (indexing : Indexing) (path : Path) :
    Trace Indexing := do
  match ← indexFile workspace verbose path with
  | none => return indexing
  | some found => .mk (indexing.notices found) (.ok (indexing.add found))

/-- Indexes the module. The duplicates are listed after those that were listed before. -/
def buildIndexOnto (workspace : Workspace) (survey : Survey) (listed : List (ClassId × Path)) :
    Trace Indexing := do
  let files ← Trace.ofExcept (survey.sourceFiles workspace)
  files.foldlM (indexNext workspace survey.verbose) (.start listed)

/-- Indexes the module for the first time. -/
def buildIndex (workspace : Workspace) (survey : Survey) : Trace Indexing :=
  survey.buildIndexOnto workspace []

end Survey

end EventAtlas
