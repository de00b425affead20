import EventAtlas.Proofs.NameSet
import EventAtlas.Proofs.Survey.FirstWins

/-!
# What an index holds

Indexing enters a class only under its own identifier, and only if its source shows some use of
the service. Both are kept by every file that is read, so they hold of every index that comes out
of indexing a module.
-/

namespace EventAtlas

/-- The class shows an endpoint or a call. -/
def ApiClass.Uses (found : ApiClass) : Prop :=
  ∃ name, name ∈ found.endpoints ∨ name ∈ found.sdkCalls

/-- Every class stands under its own identifier and uses the service. -/
structure Sound (index : ApiIndex) : Prop where
  id_eq : ∀ {id found}, index.get? id = some found → found.id = id
  uses : ∀ {id found}, index.get? id = some found → found.Uses

namespace ApiClass

/-- What a source text shows of the class that it stands for. -/
structure ReadFrom (path : Path) (text : String) (found : ApiClass) : Prop where
  id : Source.classId? text = some found.id
  source : found.source = path
  endpoints : found.endpoints = Endpoint.detect text
  sdkCalls : found.sdkCalls = callsOf text
  uses : found.Uses

/-- A class uses the service unless it has neither endpoints nor calls. -/
theorem uses_of_not_isEmpty {found : ApiClass}
    (used : ¬ (found.endpoints.isEmpty ∧ found.sdkCalls.isEmpty)) : found.Uses := by
  by_contra unused
  simp only [Uses, not_exists, not_or] at unused
  exact used ⟨NameSet.isEmpty_iff.2 fun name => (unused name).1,
    NameSet.isEmpty_iff.2 fun name => (unused name).2⟩

/-- The class of a source text is what the text shows of it. -/
theorem readFrom_of_ofSource? {path : Path} {text : String} {found : ApiClass}
    (read : ofSource? path text = some found) : ReadFrom path text found := by
  unfold ofSource? at read
  split at read
  · cases read
  · next id stands =>
    dsimp only at read
    split at read
    · cases read
    · next used =>
      cases read
      exact ⟨stands, rfl, rfl, rfl, uses_of_not_isEmpty used⟩

/-- What a source text shows does not depend on where it stands. -/
theorem ofSource?_eq_map (path other : Path) (text : String) :
    ofSource? path text = (ofSource? other text).map fun found => { found with source := path } := by
  unfold ofSource?
  cases Source.classId? text with
  | none => rfl
  | some id =>
    dsimp only
    split <;> rfl

end ApiClass

/-- A class of an index that holds the first of each class that source files yield is read from a
text. -/
theorem exists_readFrom_of_firstWins {workspace : Workspace} {files : List Path}
    {listed : List (ClassId × Path)} {indexing : Indexing}
    (wins : indexing.FirstWins (Survey.classesOf workspace files) listed) {id : ClassId}
    {found : ApiClass} (held : indexing.index.get? id = some found) :
    ∃ path text, ApiClass.ReadFrom path text found := by
  rw [wins.get?_eq] at held
  obtain ⟨path, -, yields⟩ := List.mem_filterMap.1 (List.mem_of_find?_eq_some held)
  obtain ⟨text, ofText⟩ := Survey.exists_text_of_classAt? yields
  exact ⟨path, text, ApiClass.readFrom_of_ofSource? ofText⟩

/-- An index that holds the first of each class that source files yield is sound. -/
theorem Sound.of_firstWins {workspace : Workspace} {files : List Path}
    {listed : List (ClassId × Path)} {indexing : Indexing}
    (wins : indexing.FirstWins (Survey.classesOf workspace files) listed) :
    Sound indexing.index where
  id_eq held := by
    rw [wins.get?_eq] at held
    simpa using List.find?_some held
  uses held := by
    obtain ⟨_, _, read⟩ := exists_readFrom_of_firstWins wins held
    exact read.uses

/-- Indexing a module indexes the first of each class that its source files yield. -/
theorem firstWins_of_buildIndex {workspace : Workspace} {survey : Survey} {indexing : Indexing}
    (built : (survey.buildIndex workspace).result = .ok indexing) :
    ∃ files, indexing.FirstWins (Survey.classesOf workspace files) [] := by
  rw [Survey.buildIndex, Survey.result_buildIndexOnto] at built
  cases found : survey.sourceFiles workspace with
  | error failure =>
    rw [found] at built
    cases built
  | ok files =>
    rw [found] at built
    cases built
    exact ⟨files, Indexing.firstWins_foldl _ _⟩

/-- Indexing a module gives a sound index. -/
theorem sound_of_buildIndex {workspace : Workspace} {survey : Survey} {indexing : Indexing}
    (built : (survey.buildIndex workspace).result = .ok indexing) : Sound indexing.index := by
  obtain ⟨_, wins⟩ := firstWins_of_buildIndex built
  exact .of_firstWins wins

/-! ### A small module

One class below `lib` uses the service; an observer outside `lib` asks for that class and for one
that is not there. Statements about whole runs are applied to it. -/

namespace Shop

/-- The source of a class that uses the service. -/
def clientText : String :=
  "<?php\nnamespace Shop;\nclass Client \x7b const PATH = '/v2/payments'; \x7d"

/-- The source of an observer that asks for the class and for one that is not indexed. -/
def placedText : String :=
  "<?php\nnamespace Shop;\nclass Placed \x7b function __construct(Client $c, \\Log $l) \x7b\x7d \x7d"

/-- The class in `lib`, the observer beside it. -/
def workspace : Workspace where
  tree :=
    { entries := [(["lib"], .directory),
        (["lib", "Client.php"], .file (Text.Utf8.encode clientText)),
        (["Placed.php"], .file (Text.Utf8.encode placedText))]
      distinct := by simp }
  current := []

/-- The module is `lib`. -/
def survey : Survey where
  moduleDir := .ofString "lib"
  extension := ".php"
  requireEtc := false
  verbose := false

/-- The class that uses the service. -/
def client : ApiClass where
  id := "Shop\\Client"
  source := .ofString "lib/Client.php"
  endpoints := .ofList ["/v2/payments"]
  sdkCalls := .empty

/-- What indexing the module gives. -/
def indexing : Indexing where
  index := .ofList [("Shop\\Client", client)]
  duplicates := []

/-- The pattern for names that end in `.php`. -/
def pattern : List Glob.Part :=
  [.wild [.many, .char '.', .char 'p', .char 'h', .char 'p']]

theorem sourcePattern : survey.sourcePattern = .ok pattern := by cbv

/-- Where `lib` is the only directory, a pattern for names leads to the names in it that it
accepts. -/
theorem select_wild {tree : Tree} {names : List String} (pieces : List Glob.Piece)
    (directories : tree.directoriesFrom ["lib"] = [["lib"]])
    (inside : tree.childNames ["lib"] = names) :
    Survey.select tree [.deep, .wild pieces] ⟨["lib"], .ofString "lib"⟩ =
      .ok ((names.filter fun name => Glob.accepts pieces name.toList).map
        (Path.ofString "lib").child).eraseDups := by
  have found : Survey.foundDirectories tree ⟨["lib"], .ofString "lib"⟩ =
      [⟨["lib"], .ofString "lib"⟩] := by
    simp only [Survey.foundDirectories, directories, List.map_cons, List.map_nil]
    rfl
  have children : Survey.select tree [.wild pieces] ⟨["lib"], .ofString "lib"⟩ =
      .ok ((names.filter fun name => Glob.accepts pieces name.toList).map
        (Path.ofString "lib").child) := by
    simp only [Survey.select, Survey.foundChildren, inside, true_or, decide_true,
      List.filter_true]
    change (List.mapM (fun child : Survey.Found => pure [child.path]) _ >>= _) = _
    rw [List.mapM_pure, List.map_map]
    exact congrArg Except.ok (List.flatMap_def.symm.trans List.map_eq_flatMap.symm)
  rw [Survey.select, found, List.mapM_cons, children, List.mapM_nil]
  simp [bind, Except.bind, pure, Except.pure]

/-- Where `lib` is the only directory, a search finds the names in it that the pattern accepts, in
order. -/
theorem search_wild {around : Workspace} {names : List String} {paths : List Path}
    (pieces : List Glob.Piece) (located : around.locate (.ofString "lib") = .ok ["lib"])
    (there : around.isDirectory (.ofString "lib") = .ok true)
    (directories : around.tree.directoriesFrom ["lib"] = [["lib"]])
    (inside : around.tree.childNames ["lib"] = names)
    (accepted : ((names.filter fun name => Glob.accepts pieces name.toList).map
      (Path.ofString "lib").child).eraseDups = paths)
    (ordered : paths.Pairwise (Path.le · ·)) :
    Survey.search around (.ofString "lib") [.wild pieces] = .ok paths := by
  simp only [Survey.search, there, located]
  change (Survey.select _ _ _ >>= fun _ => _) = _
  rw [select_wild pieces directories inside, accepted]
  exact congrArg Except.ok (List.mergeSort_of_pairwise ordered)

/-- The source files are the files among what the search for their pattern finds. -/
theorem sourceFiles_of_search {around : Workspace} {paths : List Path}
    (found : Survey.search around (.ofString "lib") pattern = .ok paths) :
    survey.sourceFiles around = paths.filterM around.isFile := by
  rw [Survey.sourceFiles, sourcePattern]
  change (Survey.search around (.ofString "lib") pattern >>= _) = _
  rw [found]
  rfl

/-- The configurations are the files of their name among what the search for anything finds. -/
theorem configFiles_of_search {around : Workspace} {paths : List Path}
    (found : Survey.search around (.ofString "lib") [.wild [.many]] = .ok paths) :
    survey.configFiles around = do
      return (← paths.filterM around.isFile).filter fun path =>
        Survey.hasConfigName path && (!survey.requireEtc || survey.isBelowEtc path) := by
  rw [Survey.configFiles]
  change (Survey.search around (.ofString "lib") [.wild [.many]] >>= _) = _
  rw [found]
  rfl

/-- Where `lib` holds just the class, the class is the only source file. -/
theorem sourceFiles_of {around : Workspace}
    (located : around.locate (.ofString "lib") = .ok ["lib"])
    (there : around.isDirectory (.ofString "lib") = .ok true)
    (directories : around.tree.directoriesFrom ["lib"] = [["lib"]])
    (inside : around.tree.childNames ["lib"] = ["Client.php"])
    (file : around.isFile (.ofString "lib/Client.php") = .ok true) :
    survey.sourceFiles around = .ok [.ofString "lib/Client.php"] := by
  have found : Survey.search around (.ofString "lib") pattern = .ok [.ofString "lib/Client.php"] :=
    search_wild _ located there directories inside (by cbv) (by decide +kernel)
  rw [sourceFiles_of_search found]
  simp only [List.filterM, List.filterAuxM, file]
  rfl

/-- Where the class is the only source file, indexing enters it. -/
theorem buildIndex_of {around : Workspace}
    (files : survey.sourceFiles around = .ok [.ofString "lib/Client.php"])
    (read : around.readSource? (.ofString "lib/Client.php") = .ok (some clientText)) :
    (survey.buildIndex around).result = .ok indexing := by
  have shown : ApiClass.ofSource? (.ofString "lib/Client.php") clientText = some client := by
    decide +kernel
  have yielded : Survey.classAt? around (.ofString "lib/Client.php") = some client := by
    rw [Survey.classAt?, Survey.result_indexFile, read]
    exact shown
  rw [Survey.buildIndex, Survey.result_buildIndexOnto, files]
  simp only [Except.map, Survey.classesOf, List.filterMap_cons, yielded, List.filterMap_nil]
  rfl

theorem sourceFiles : survey.sourceFiles workspace = .ok [.ofString "lib/Client.php"] :=
  sourceFiles_of rfl rfl rfl (by decide +kernel) (by decide +kernel)

/-- Indexing the module enters the class. -/
theorem buildIndex : (survey.buildIndex workspace).result = .ok indexing :=
  buildIndex_of sourceFiles (by decide +kernel)

end Shop

end EventAtlas
