import EventAtlas.Proofs.Survey.Search

/-!
# What an index depends on

Indexing a module is settled by the classes that its source files yield, in the order of their
paths. When two trees differ in one file, the files that lead elsewhere are the same, in the same
order, and yield the same classes. So the indexes can only differ at what this one file declares.
-/

namespace EventAtlas

namespace Survey

variable {workspace : Workspace} {tree : Tree} {location : Location} {survey : Survey}
  {files files' : List Path} {id : ClassId}

/-- The file at a location yields a class of an identifier. -/
def Declares (workspace : Workspace) (location : Location) (id : ClassId) : Prop :=
  ∃ path found, workspace.locate path = .ok location ∧
    classAt? workspace path = some found ∧ found.id = id

/-- What a location declares is the class that the text of the file there stands for. -/
theorem Declares.classId? (declares : Declares workspace location id) :
    ∃ content, workspace.tree.at? location = some (.file content) ∧
      Source.classId? (String.ofList (Text.unifyLineEnds (Text.Utf8.decodeLossy content))) =
        some id := by
  obtain ⟨path, found, located, yields, rfl⟩ := declares
  rw [classAt?, result_indexFile] at yields
  cases source : workspace.readSource? path with
  | error failure => simp [source, Except.map] at yields
  | ok read =>
    simp only [source, Except.map] at yields
    obtain ⟨text, rfl, ofText⟩ := Option.bind_eq_some_iff.1 yields
    obtain ⟨content, read, rfl⟩ := Workspace.readSource?_eq_some_iff.1 source
    obtain ⟨-, place, located', stands⟩ := Workspace.read_eq_ok_iff.1 read
    obtain rfl : location = place := Except.ok.inj (located.symm.trans located')
    exact ⟨content, stands, (ApiClass.readFrom_of_ofSource? ofText).id⟩

/-- The first class of an identifier that is not declared at a location comes from a file that
leads elsewhere. -/
theorem find?_classesOf_elsewhere (undeclared : ¬ Declares workspace location id)
    (files : List Path) :
    (classesOf workspace (elsewhere workspace location files)).find? (·.id = id) =
      (classesOf workspace files).find? (·.id = id) := by
  induction files with
  | nil => rfl
  | cons path rest ih =>
    simp only [classesOf, elsewhere] at ih ⊢
    by_cases here : workspace.locate path = .ok location
    · rw [List.filter_cons_of_neg (by simpa using here), ih, List.filterMap_cons]
      split
      · rfl
      · next found yields =>
        have differs : found.id ≠ id := fun same => undeclared ⟨path, found, here, yields, same⟩
        rw [List.find?_cons_of_neg (by simpa using differs)]
    · rw [List.filter_cons_of_pos (by simpa using here), List.filterMap_cons, List.filterMap_cons]
      split
      · exact ih
      · rw [List.find?_cons, List.find?_cons, ih]

/-- Where trees differ in one file, source files that lead elsewhere yield the same classes. -/
theorem classesOf_elsewhere (same : workspace.tree.SameBut location tree)
    (proper : workspace.tree.Proper) (proper' : tree.Proper)
    (listed : survey.sourceFiles workspace = .ok files)
    (listed' : survey.sourceFiles { workspace with tree := tree } = .ok files') :
    classesOf workspace (elsewhere workspace location files) =
      classesOf { workspace with tree := tree }
        (elsewhere { workspace with tree := tree } location files') := by
  rw [← elsewhere_sourceFiles same proper proper' listed listed']
  apply List.filterMap_congr
  intro path member
  obtain ⟨inside, apart⟩ := List.mem_filter.1 member
  obtain ⟨-, place, _, located, -⟩ :=
    Workspace.isFile_iff.1 (isFile_of_mem_sourceFiles listed inside)
  have away : place ≠ location := by
    rintro rfl
    simp [located] at apart
  have again := Workspace.locate_of_sameBut same located away
  exact (classAt?_congr (Workspace.readSource?_congr located again (same.agree place away))).symm

/-- Where trees differ in one file, the indexes hold the same class under every identifier that
this file declares in neither tree. -/
theorem get?_eq_of_sameBut (same : workspace.tree.SameBut location tree)
    (proper : workspace.tree.Proper) (proper' : tree.Proper)
    (listed : survey.sourceFiles workspace = .ok files)
    (listed' : survey.sourceFiles { workspace with tree := tree } = .ok files')
    {before before' : List (ClassId × Path)} {indexing other : Indexing}
    (wins : indexing.FirstWins (classesOf workspace files) before)
    (wins' : other.FirstWins (classesOf { workspace with tree := tree } files') before')
    (undeclared : ¬ Declares workspace location id)
    (undeclared' : ¬ Declares { workspace with tree := tree } location id) :
    indexing.index.get? id = other.index.get? id := by
  calc
    indexing.index.get? id = (classesOf workspace files).find? (·.id = id) := wins.get?_eq id
    _ = (classesOf workspace (elsewhere workspace location files)).find? (·.id = id) :=
      (find?_classesOf_elsewhere undeclared files).symm
    _ = (classesOf { workspace with tree := tree }
          (elsewhere { workspace with tree := tree } location files')).find? (·.id = id) := by
      rw [classesOf_elsewhere same proper proper' listed listed']
    _ = (classesOf { workspace with tree := tree } files').find? (·.id = id) :=
      find?_classesOf_elsewhere undeclared' files'
    _ = other.index.get? id := (wins'.get?_eq id).symm

/-- A path is that of a source file: the pattern for sources leads to it from the module's directory
or from one below, and it leads to a file. -/
def IsSource (workspace : Workspace) (survey : Survey) (path : Path) : Prop :=
  workspace.isFile path = .ok true ∧ ∃ pattern last, survey.sourcePattern = .ok pattern ∧
    Reaches workspace survey.moduleDir pattern last ∧ last.path = path

/-- A path is that of a file below the module whose name ends with the extension. -/
def HasExtension (workspace : Workspace) (survey : Survey) (path : Path) : Prop :=
  ∃ start names name entry, At workspace survey.moduleDir start ∧
    path = survey.moduleDir.below (names ++ [name]) ∧
    workspace.tree.at? (start ++ (names ++ [name])) = some entry ∧ entry.isFile = true ∧
    survey.extension.toList <:+ name.toList

/-- What indexing makes of source files: all of them are taken once, in the order of their paths;
the first file of each class stands for it, and the others are added to the duplicates listed
before. -/
structure Indexed (workspace : Workspace) (survey : Survey) (files : List Path)
    (before : List (ClassId × Path)) (indexing : Indexing) : Prop where
  ordered : files.Pairwise (Path.le · ·)
  distinct : files.Nodup
  mem_iff : ∀ path, path ∈ files ↔ IsSource workspace survey path
  /-- With an extension that is no pattern, the files of the module are told by their names. -/
  mem_iff_of_plain : workspace.tree.Connected → Glob.IsPlain survey.extension.toList →
    ∀ path, path ∈ files ↔ HasExtension workspace survey path
  /-- The class that a file yields is what indexing the file results in. -/
  yields : ∀ path ∈ files, ∀ verbose,
    (indexFile workspace verbose path).result = .ok (classAt? workspace path)
  source : ∀ path ∈ files, ∀ found, classAt? workspace path = some found → found.source = path
  wins : indexing.FirstWins (classesOf workspace files) before
  sound : Sound indexing.index

/-- A class that a file yields has the file as its source. -/
theorem source_of_classAt? {path : Path} {found : ApiClass}
    (yields : classAt? workspace path = some found) : found.source = path := by
  obtain ⟨text, ofText⟩ := exists_text_of_classAt? yields
  exact (ApiClass.readFrom_of_ofSource? ofText).source

/-- Source files that can be listed are indexed. -/
theorem indexed_of_sourceFiles (listed : survey.sourceFiles workspace = .ok files)
    (before : List (ClassId × Path)) :
    Indexed workspace survey files before
      ((classesOf workspace files).foldl Indexing.add (.start before)) where
  ordered := by
    obtain ⟨_, _, -, list, rfl⟩ := sourceFiles_eq_ok listed
    exact list.ordered.filter _
  distinct := by
    obtain ⟨_, _, -, list, rfl⟩ := sourceFiles_eq_ok listed
    exact list.distinct.filter _
  mem_iff path := by
    obtain ⟨pattern, _, patterned, list, rfl⟩ := sourceFiles_eq_ok listed
    simp only [List.mem_filter, list.mem_iff, decide_eq_true_eq, IsSource, patterned,
      Except.ok.injEq, exists_and_left, exists_eq_left']
    exact and_comm
  mem_iff_of_plain connected plain path := by
    rw [sourceFiles_eq_searchFiles plain] at listed
    simp only [mem_searchFiles_iff connected listed, HasExtension, Glob.accepts_endingWith_iff]
    refine exists₄_congr fun start names name entry => and_congr_right fun _ => ?_
    constructor
    · rintro ⟨below, ends, stands, file⟩
      exact ⟨below, stands, file, ends⟩
    · rintro ⟨below, stands, file, ends⟩
      exact ⟨below, ends, stands, file⟩
  yields _ member := indexFile_of_isFile (isFile_of_mem_sourceFiles listed member)
  source _ _ _ := source_of_classAt?
  wins := Indexing.firstWins_foldl _ _
  sound := .of_firstWins (Indexing.firstWins_foldl _ before)

end Survey

/-! ### A copied class -/

namespace Shop

/-- The module with a copy of the class beside it. -/
def copied : Workspace :=
  { workspace with
    tree := workspace.tree.put ["lib", "Copy.php"] (.file (Text.Utf8.encode clientText)) }

theorem sourceFiles_copied : survey.sourceFiles copied =
    .ok [.ofString "lib/Client.php", .ofString "lib/Copy.php"] := by
  have inside : copied.tree.childNames ["lib"] = ["Client.php", "Copy.php"] := by decide +kernel
  have found : Survey.search copied (.ofString "lib") pattern =
      .ok [.ofString "lib/Client.php", .ofString "lib/Copy.php"] :=
    search_wild _ rfl rfl rfl inside (by cbv) (by decide +kernel)
  rw [sourceFiles_of_search found]
  rfl

theorem proper_workspace : workspace.tree.Proper := by
  intro place key
  simp only [Roster.keys, workspace, List.map_cons, List.map_nil, List.mem_cons,
    List.not_mem_nil, or_false] at key
  rcases key with rfl | rfl | rfl
  · exact ⟨[], "lib", rfl, by decide +kernel, rfl⟩
  · exact ⟨["lib"], "Client.php", rfl, by decide +kernel, rfl⟩
  · exact ⟨[], "Placed.php", rfl, by decide +kernel, rfl⟩

/-- No directory stands in the place of the copy. -/
theorem free_workspace : ¬ workspace.tree.isDirectory ["lib", "Copy.php"] := by
  decide +kernel

theorem proper_copied : copied.tree.Proper := by
  have named : Tree.IsName "Copy.php" := by decide +kernel
  have around : workspace.tree.at? ["lib"] = some .directory := rfl
  exact proper_workspace.put named around free_workspace _

theorem sameBut_copied : copied.tree.SameBut ["lib", "Copy.php"] workspace.tree :=
  (Tree.sameBut_put free_workspace _).symm

/-- Without the copy nothing is declared in its place. -/
theorem not_declares {id : ClassId} : ¬ Survey.Declares workspace ["lib", "Copy.php"] id := by
  intro declares
  obtain ⟨_, stands, -⟩ := declares.classId?
  cases stands

/-- The copy declares nothing but the class. -/
theorem eq_of_declares_copied {id : ClassId}
    (declares : Survey.Declares copied ["lib", "Copy.php"] id) : id = "Shop\\Client" := by
  obtain ⟨_, stands, read⟩ := declares.classId?
  cases stands
  have shown : Source.classId? (String.ofList (Text.unifyLineEnds
      (Text.Utf8.decodeLossy (Text.Utf8.encode clientText)))) = some "Shop\\Client" := by
    decide +kernel
  rw [shown] at read
  exact (Option.some.inj read).symm

end Shop

namespace Survey

/-- Indexing fails when the source files cannot be listed. Otherwise all of them are taken, the first
file of each class stands for it, every further run gives the same index and lists the same
duplicates again, and a change of one file changes nothing but what this file declares. -/
theorem first_file_wins (workspace : Workspace) (survey : Survey)
    (before : List (ClassId × Path)) :
    (∀ failure, survey.sourceFiles workspace = .error failure →
      (survey.buildIndexOnto workspace before).result = .error failure) ∧
    ∀ files, survey.sourceFiles workspace = .ok files →
      ∃ indexing, (survey.buildIndexOnto workspace before).result = .ok indexing ∧
        Indexed workspace survey files before indexing ∧
        (∃ appended, indexing.duplicates = before ++ appended ∧
          ∀ listed, (survey.buildIndexOnto workspace listed).result =
            .ok { index := indexing.index, duplicates := listed ++ appended }) ∧
        ∀ location tree listed other, workspace.tree.Proper → tree.Proper →
          workspace.tree.SameBut location tree →
          (survey.buildIndexOnto { workspace with tree := tree } listed).result = .ok other →
            ∀ id, ¬ Declares workspace location id →
              ¬ Declares { workspace with tree := tree } location id →
                indexing.index.get? id = other.index.get? id := by
  constructor
  · intro failure failed
    rw [result_buildIndexOnto, failed]
    rfl
  · intro files found
    have built (listed : List (ClassId × Path)) :
        (survey.buildIndexOnto workspace listed).result =
          .ok ((classesOf workspace files).foldl Indexing.add (.start listed)) := by
      rw [result_buildIndexOnto, found]
      rfl
    have indexed := indexed_of_sourceFiles found before
    let appended := ((classesOf workspace files).foldl Indexing.add (.start [])).duplicates
    refine ⟨_, built before, indexed, ⟨appended, ?_, fun listed => ?_⟩, ?_⟩
    · exact congrArg Indexing.duplicates (Indexing.foldl_add_start _ before)
    · rw [built listed, Indexing.foldl_add_start _ listed, Indexing.foldl_add_start _ before]
    · intro location tree listed other proper proper' same built' id undeclared undeclared'
      rw [result_buildIndexOnto] at built'
      cases found' : survey.sourceFiles { workspace with tree := tree } with
      | error failure =>
        rw [found'] at built'
        cases built'
      | ok files' =>
        rw [found'] at built'
        cases built'
        exact get?_eq_of_sameBut same proper proper' found found' indexed.wins
          (Indexing.firstWins_foldl _ listed) undeclared undeclared'

end Survey

namespace Shop

/-- The index is the same with the copy, but for the class that is copied; the copy is listed again
by every run. -/
theorem first_file_wins_copied :
    survey.sourceFiles copied = .ok [.ofString "lib/Client.php", .ofString "lib/Copy.php"] ∧
      copied.tree.SameBut ["lib", "Copy.php"] workspace.tree ∧
      ∃ indexing, (survey.buildIndexOnto copied []).result = .ok indexing ∧
        Survey.Indexed copied survey [.ofString "lib/Client.php", .ofString "lib/Copy.php"] []
          indexing ∧
        (∃ appended, indexing.duplicates = [] ++ appended ∧
          ∀ listed, (survey.buildIndexOnto copied listed).result =
            .ok { index := indexing.index, duplicates := listed ++ appended }) ∧
        ∀ id ≠ "Shop\\Client", indexing.index.get? id = Shop.indexing.index.get? id := by
  obtain ⟨indexing, built, indexed, again, apart⟩ :=
    (Survey.first_file_wins copied survey []).2 _ sourceFiles_copied
  refine ⟨sourceFiles_copied, sameBut_copied, indexing, built, indexed, again, ?_⟩
  intro id differs
  exact apart _ _ [] _ proper_copied proper_workspace sameBut_copied buildIndex id
    (fun declares => differs (eq_of_declares_copied declares)) not_declares

end Shop

end EventAtlas
