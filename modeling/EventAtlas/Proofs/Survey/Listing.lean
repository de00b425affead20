import EventAtlas.Proofs.FirstOccurrence
import EventAtlas.Proofs.Tree
import EventAtlas.Survey

/-!
# Listing the files of a module

`Leads` derives, part by part, which places a pattern leads to; a listing has exactly the paths of
these places. Paths are listed once and in order, so two listings with the same paths are the same
list. In a proper tree a listed path leads where the pattern led, and so a file that is added to a
tree or taken from it changes nothing about the paths that lead elsewhere.
-/

namespace EventAtlas.Survey

variable {tree other : Tree}

/-- The pattern leads from one place to another. -/
inductive Leads (tree : Tree) : List Glob.Part → Found → Found → Prop where
  | here {found : Found} : Leads tree [] found found
  | directory {rest : List Glob.Part} {found : Found} : Leads tree (.directory :: rest) found found
  | deep {rest : List Glob.Part} {found below last : Found}
      (inside : below ∈ foundDirectories tree found) (leads : Leads tree rest below last) :
      Leads tree (.deep :: rest) found last
  | wild {pieces : List Glob.Piece} {rest : List Glob.Part} {found child last : Found}
      (accepted : child ∈ foundChildren tree (fun name => Glob.accepts pieces name.toList) found)
      (enterable : rest = [] ∨ tree.isDirectory child.location) (leads : Leads tree rest child last) :
      Leads tree (.wild pieces :: rest) found last
  | exact {name : String} {rest : List Glob.Part} {found last : Found} {place : Location}
      (reached : tree.walk found.location [name] = .ok place)
      (enterable : rest = [] ∨ tree.isDirectory place)
      (leads : Leads tree rest ⟨place, found.path.child name⟩ last) :
      Leads tree (.exact name :: rest) found last

variable {pieces : List Glob.Piece} {name : String} {pattern rest : List Glob.Part}
  {found last : Found}

theorem leads_nil_iff : Leads tree [] found last ↔ last = found := by
  constructor
  · rintro ⟨⟩
    rfl
  · rintro rfl
    exact .here

theorem leads_directory_iff : Leads tree (.directory :: rest) found last ↔ last = found := by
  constructor
  · rintro ⟨⟩
    rfl
  · rintro rfl
    exact .directory

theorem leads_deep_iff :
    Leads tree (.deep :: rest) found last ↔
      ∃ below ∈ foundDirectories tree found, Leads tree rest below last := by
  constructor
  · intro leads
    cases leads with
    | deep inside leads => exact ⟨_, inside, leads⟩
  · rintro ⟨below, inside, leads⟩
    exact .deep inside leads

theorem leads_wild_iff :
    Leads tree (.wild pieces :: rest) found last ↔
      ∃ child ∈ foundChildren tree (fun name => Glob.accepts pieces name.toList) found,
        (rest = [] ∨ tree.isDirectory child.location) ∧ Leads tree rest child last := by
  constructor
  · intro leads
    cases leads with
    | wild accepted enterable leads => exact ⟨_, accepted, enterable, leads⟩
  · rintro ⟨child, accepted, enterable, leads⟩
    exact .wild accepted enterable leads

theorem leads_exact_iff :
    Leads tree (.exact name :: rest) found last ↔
      ∃ place, tree.walk found.location [name] = .ok place ∧
        (rest = [] ∨ tree.isDirectory place) ∧
          Leads tree rest ⟨place, found.path.child name⟩ last := by
  constructor
  · intro leads
    cases leads with
    | exact reached enterable leads => exact ⟨_, reached, enterable, leads⟩
  · rintro ⟨place, reached, enterable, leads⟩
    exact .exact reached enterable leads

/-- When each of some places is searched, what is selected from all of them is what the rest of
the pattern leads to from any of them. -/
theorem mem_flatten_select {starts : List Found} {results : List (List Path)}
    (went : starts.mapM (select tree rest) = .ok results)
    (each : ∀ {start : Found} {paths : List Path}, select tree rest start = .ok paths →
      ∀ {path : Path}, path ∈ paths ↔ ∃ last, Leads tree rest start last ∧ last.path = path)
    {path : Path} :
    path ∈ results.flatten ↔ ∃ start ∈ starts, ∃ last, Leads tree rest start last ∧
      last.path = path := by
  rw [mem_flatten_of_mapM went]
  constructor
  · rintro ⟨start, inside, result, chosen, member⟩
    exact ⟨start, inside, (each chosen).1 member⟩
  · rintro ⟨start, inside, leads⟩
    obtain ⟨result, chosen⟩ := exists_of_mapM went inside
    exact ⟨start, inside, result, chosen, (each chosen).2 leads⟩

/-- What is selected are the paths of the places that the pattern leads to. -/
theorem mem_select {paths : List Path} (selected : select tree pattern found = .ok paths)
    {path : Path} : path ∈ paths ↔ ∃ last, Leads tree pattern found last ∧ last.path = path := by
  induction pattern generalizing found paths path with
  | nil =>
    cases selected
    simp [leads_nil_iff, eq_comm]
  | cons part rest ih =>
    cases part with
    | directory =>
      cases selected
      simp [leads_directory_iff, eq_comm]
    | deep =>
      rw [select] at selected
      obtain ⟨results, went, selected⟩ := bind_eq_ok_iff.1 selected
      cases selected
      rw [List.mem_eraseDups, mem_flatten_select went ih]
      simp only [leads_deep_iff]
      constructor
      · rintro ⟨below, inside, last, leads, ends⟩
        exact ⟨last, ⟨below, inside, leads⟩, ends⟩
      · rintro ⟨last, ⟨below, inside, leads⟩, ends⟩
        exact ⟨below, inside, last, leads, ends⟩
    | wild pieces =>
      rw [select] at selected
      obtain ⟨results, went, selected⟩ := bind_eq_ok_iff.1 selected
      cases selected
      rw [mem_flatten_select went ih]
      simp only [leads_wild_iff, List.mem_filter, decide_eq_true_eq]
      constructor
      · rintro ⟨child, ⟨accepted, enterable⟩, last, leads, ends⟩
        exact ⟨last, ⟨child, accepted, enterable, leads⟩, ends⟩
      · rintro ⟨last, ⟨child, accepted, enterable, leads⟩, ends⟩
        exact ⟨child, ⟨accepted, enterable⟩, last, leads, ends⟩
    | exact name =>
      rw [select] at selected
      simp only [leads_exact_iff]
      cases reached : tree.walk found.location [name] with
      | ok place =>
        simp only [reached] at selected
        split at selected
        · next enterable => simp [ih selected, enterable]
        · next closed =>
          cases selected
          simp [closed]
      | error cause =>
        -- Nothing is led to, and a search that succeeds all the same finds nothing.
        cases cause <;> simp only [reached] at selected <;> cases selected <;> simp

/-! ### Where listed paths lead -/

/-- The children of a place stand inside it. -/
theorem mem_foundChildren {accepts : String → Bool} {found child : Found} :
    child ∈ foundChildren tree accepts found ↔ ∃ name, accepts name = true ∧
      (tree.at? (found.location ++ [name])).isSome ∧
      child = ⟨found.location ++ [name], found.path.child name⟩ := by
  simp only [foundChildren, List.mem_map, List.mem_filter, Tree.mem_childNames]
  constructor
  · rintro ⟨name, ⟨stands, accepted⟩, rfl⟩
    exact ⟨name, accepted, stands, rfl⟩
  · rintro ⟨name, accepted, stands, rfl⟩
    exact ⟨name, ⟨stands, accepted⟩, rfl⟩

/-- The directories below a place are reached by their names. -/
theorem mem_foundDirectories {found below : Found} :
    below ∈ foundDirectories tree found ↔ ∃ names,
      (names = [] ∨ tree.isDirectory (found.location ++ names) = true) ∧
      below = ⟨found.location ++ names, { found.path with parts := found.path.parts ++ names }⟩ := by
  simp only [foundDirectories, List.mem_map, Tree.mem_directoriesFrom]
  constructor
  · rintro ⟨place, rfl | ⟨⟨names, rfl⟩, directory⟩, rfl⟩
    · exact ⟨[], .inl rfl, by simp⟩
    · exact ⟨names, .inr directory, by simp⟩
  · rintro ⟨names, root | directory, rfl⟩
    · exact ⟨found.location, .inl rfl, by simp [root]⟩
    · exact ⟨found.location ++ names, .inr ⟨List.prefix_append .., directory⟩, by simp⟩

/-- In a proper tree, the path of a place that a pattern leads to goes on from where the pattern
started, and leads to the place. -/
theorem Leads.walk (proper : tree.Proper) (leads : Leads tree pattern found last) :
    ∃ parts, last.path = { found.path with parts := found.path.parts ++ parts } ∧
      tree.walk found.location parts = .ok last.location := by
  induction leads with
  | here => exact ⟨[], by simp, rfl⟩
  | directory => exact ⟨[], by simp, rfl⟩
  | deep inside leads ih =>
    obtain ⟨names, directory, rfl⟩ := mem_foundDirectories.1 inside
    obtain ⟨parts, path, walked⟩ := ih
    refine ⟨names ++ parts, by simp [path], ?_⟩
    rw [Tree.walk_append]
    rcases directory with rfl | directory
    · simp only [List.append_nil] at walked
      exact walked
    · rw [proper.connected.walk_to (Tree.isSome_of_isDirectory directory)]
      exact walked
  | wild accepted enterable leads ih =>
    obtain ⟨name, -, stands, rfl⟩ := mem_foundChildren.1 accepted
    obtain ⟨parts, path, walked⟩ := ih
    refine ⟨name :: parts, by simp [path, Path.child], ?_⟩
    rw [← List.singleton_append, Tree.walk_append, proper.connected.walk_to stands]
    exact walked
  | @exact name rest found last place reached enterable leads ih =>
    obtain ⟨parts, path, walked⟩ := ih
    refine ⟨name :: parts, by simp [path, Path.child], ?_⟩
    rw [← List.singleton_append, Tree.walk_append, reached]
    exact walked

/-- Where trees differ in one file, a pattern leads to the same places but for that file. -/
theorem Leads.of_sameBut {location : Location} (same : tree.SameBut location other)
    (leads : Leads tree pattern found last) (apart : last.location ≠ location) :
    Leads other pattern found last := by
  -- No pattern goes on from the file: it is no directory.
  have pass {rest : List Glob.Part} {next last : Found} (leads : Leads tree rest next last)
      (enterable : rest = [] ∨ tree.isDirectory next.location)
      (apart : last.location ≠ location) :
      next.location ≠ location ∧ (rest = [] ∨ other.isDirectory next.location) := by
    rcases enterable with rfl | directory
    · cases leads
      exact ⟨apart, .inl rfl⟩
    · exact ⟨same.ne_of_isDirectory directory, .inr (same.isDirectory directory)⟩
  induction leads with
  | here => exact .here
  | directory => exact .directory
  | deep inside leads ih =>
    refine .deep ?_ (ih apart)
    obtain ⟨names, directory, rfl⟩ := mem_foundDirectories.1 inside
    exact mem_foundDirectories.2 ⟨names, directory.imp id same.isDirectory, rfl⟩
  | wild accepted enterable leads ih =>
    obtain ⟨elsewhere, enterable⟩ := pass leads enterable apart
    refine .wild ?_ enterable (ih apart)
    obtain ⟨name, matched, stands, rfl⟩ := mem_foundChildren.1 accepted
    exact mem_foundChildren.2 ⟨name, matched, by rwa [← same.agree _ elsewhere], rfl⟩
  | exact reached enterable leads ih =>
    obtain ⟨elsewhere, enterable⟩ := pass leads enterable apart
    exact .exact (same.step reached elsewhere) enterable (ih apart)

/-! ### Searches and source files -/

variable {workspace : Workspace} {moduleDir path : Path} {paths files : List Path}

/-- The pattern leads from somewhere below the module's directory to a place. -/
def Reaches (workspace : Workspace) (moduleDir : Path) (pattern : List Glob.Part)
    (last : Found) : Prop :=
  workspace.isDirectory moduleDir = .ok true ∧ ∃ start, workspace.locate moduleDir = .ok start ∧
    Leads workspace.tree (.deep :: pattern) ⟨start, moduleDir⟩ last

/-- A list has exactly the paths of the places that a pattern leads to, each once and in order. -/
structure Listed (workspace : Workspace) (moduleDir : Path) (pattern : List Glob.Part)
    (paths : List Path) : Prop where
  ordered : paths.Pairwise (Path.le · ·)
  distinct : paths.Nodup
  mem_iff : ∀ {path : Path}, path ∈ paths ↔
    ∃ last, Reaches workspace moduleDir pattern last ∧ last.path = path

/-- A search that succeeds lists the places that the pattern leads to. -/
theorem listed_of_search (searched : search workspace moduleDir pattern = .ok paths) :
    Listed workspace moduleDir pattern paths := by
  unfold search at searched
  obtain ⟨there, looked, searched⟩ := bind_eq_ok_iff.1 searched
  cases there with
  | false =>
    cases searched
    refine ⟨.nil, List.nodup_nil, ?_⟩
    simp [Reaches, looked]
  | true =>
    simp only [if_true] at searched
    obtain ⟨-, start, located, -⟩ := Workspace.isDirectory_iff.1 looked
    simp only [located] at searched
    obtain ⟨selected, chosen, searched⟩ := bind_eq_ok_iff.1 searched
    cases searched
    have distinct : selected.Nodup := by
      rw [select] at chosen
      obtain ⟨results, -, chosen⟩ := bind_eq_ok_iff.1 chosen
      cases chosen
      exact nodup_eraseDups _
    refine ⟨?_, (List.mergeSort_perm ..).nodup_iff.2 distinct, ?_⟩
    · apply List.pairwise_mergeSort
      · exact fun _ _ _ => Path.le_trans
      · exact Path.le_total
    · intro path
      rw [List.mem_mergeSort, mem_select chosen]
      simp [Reaches, looked, located]

/-- Asking of each path whether it leads to a file keeps those that do. -/
theorem filter_isFile_of_filterM (filtered : paths.filterM workspace.isFile = .ok files) :
    files = paths.filter fun path => decide (workspace.isFile path = .ok true) := by
  refine filter_of_filterM filtered fun path answer checked => ?_
  cases answer <;> simp [checked]

/-- The source files are those listed paths that lead to files. -/
theorem sourceFiles_eq_ok {survey : Survey} (listed : survey.sourceFiles workspace = .ok files) :
    ∃ pattern paths, survey.sourcePattern = .ok pattern ∧
      Listed workspace survey.moduleDir pattern paths ∧
      files = paths.filter fun path => decide (workspace.isFile path = .ok true) := by
  unfold sourceFiles at listed
  obtain ⟨pattern, patterned, listed⟩ := bind_eq_ok_iff.1 listed
  obtain ⟨paths, searched, listed⟩ := bind_eq_ok_iff.1 listed
  exact ⟨pattern, paths, patterned, listed_of_search searched, filter_isFile_of_filterM listed⟩

/-- Paths with one anchor that come before each other are the same. -/
theorem path_le_antisymm {left right : Path} (anchors : left.anchor = right.anchor)
    (forth : Path.le left right = true) (back : Path.le right left = true) : left = right := by
  have components := Path.componentsLe_antisymm forth back
  obtain ⟨anchor, parts⟩ := left
  obtain ⟨anchor', parts'⟩ := right
  simp only at anchors
  subst anchors
  have same : parts = parts' := by
    cases anchor with
    | relative => exact components
    | root => exact (List.cons.inj components).2
    | doubleRoot => exact (List.cons.inj components).2
  rw [same]

/-- Lists of paths with one anchor, each once and in order, are told by their members. -/
theorem paths_eq_of_mem_iff {left right : List Path} {anchor : Path.Anchor}
    (ordered : left.Pairwise (Path.le · ·)) (ordered' : right.Pairwise (Path.le · ·))
    (distinct : left.Nodup) (distinct' : right.Nodup)
    (anchored : ∀ path ∈ left, path.anchor = anchor)
    (same : ∀ path, path ∈ left ↔ path ∈ right) : left = right := by
  refine List.Perm.eq_of_pairwise ?_ ordered ordered' ?_
  · intro first second inLeft inRight
    apply path_le_antisymm
    rw [anchored first inLeft, anchored second ((same second).2 inRight)]
  · exact (List.perm_ext_iff_of_nodup distinct distinct').2 same

/-- In a proper tree, the path of a place that is reached leads nowhere else than to the place. -/
theorem Reaches.location_eq (reaches : Reaches workspace moduleDir pattern last)
    (proper : workspace.tree.Proper) {place : Location}
    (located : workspace.locate last.path = .ok place) : place = last.location := by
  obtain ⟨-, start, found, leads⟩ := reaches
  obtain ⟨parts, path, walked⟩ := leads.walk proper
  obtain ⟨-, toModule⟩ := Workspace.locate_eq_ok_iff.1 found
  obtain ⟨-, toPlace⟩ := Workspace.locate_eq_ok_iff.1 located
  have same : workspace.start last.path = workspace.start moduleDir := by
    rw [path]
    rfl
  rw [same, path, Tree.walk_append, toModule] at toPlace
  exact Except.ok.inj (toPlace.symm.trans walked)

/-- The paths of places that are reached have the anchor of the module's directory. -/
theorem Reaches.anchor_eq (reaches : Reaches workspace moduleDir pattern last)
    (proper : workspace.tree.Proper) : last.path.anchor = moduleDir.anchor := by
  obtain ⟨-, start, -, leads⟩ := reaches
  obtain ⟨parts, path, -⟩ := leads.walk proper
  rw [path]

end EventAtlas.Survey

namespace EventAtlas

variable {workspace : Workspace} {tree : Tree} {location : Location}

/-- A path that leads elsewhere than to the differing file leads there in both trees. -/
theorem Workspace.locate_of_sameBut (same : workspace.tree.SameBut location tree) {path : Path}
    {place : Location} (located : workspace.locate path = .ok place) (apart : place ≠ location) :
    { workspace with tree := tree }.locate path = .ok place := by
  obtain ⟨short, walked⟩ := Workspace.locate_eq_ok_iff.1 located
  exact Workspace.locate_eq_ok_iff.2 ⟨short, same.walk walked apart⟩

namespace Survey

/-- What is reached elsewhere than at the differing file is reached in both trees. -/
theorem Reaches.of_sameBut (same : workspace.tree.SameBut location tree) {moduleDir : Path}
    {pattern : List Glob.Part} {last : Found} (reaches : Reaches workspace moduleDir pattern last)
    (apart : last.location ≠ location) :
    Reaches { workspace with tree := tree } moduleDir pattern last := by
  obtain ⟨there, start, located, leads⟩ := reaches
  obtain ⟨plain, start', located', directory⟩ := Workspace.isDirectory_iff.1 there
  obtain rfl : start' = start := Except.ok.inj (located'.symm.trans located)
  have elsewhere := same.ne_of_isDirectory directory
  have again := Workspace.locate_of_sameBut same located elsewhere
  exact ⟨Workspace.isDirectory_iff.2 ⟨plain, start', again, same.isDirectory directory⟩, start',
    again, leads.of_sameBut same apart⟩

/-- The files of a list of paths that do not lead to a location. -/
def elsewhere (workspace : Workspace) (location : Location) (files : List Path) : List Path :=
  files.filter fun path => decide (workspace.locate path ≠ .ok location)

/-- The files of a list of paths that a condition on paths keeps. -/
def filesOf (workspace : Workspace) (keep : Path → Bool) (paths : List Path) : List Path :=
  (paths.filter fun path => decide (workspace.isFile path = .ok true)).filter keep

variable {moduleDir : Path} {pattern : List Glob.Part} {paths paths' : List Path}

/-- A listed file that does not lead to the differing file is a listed file in both trees. -/
theorem mem_elsewhere_of_sameBut (same : workspace.tree.SameBut location tree)
    (proper : workspace.tree.Proper) (list : Listed workspace moduleDir pattern paths)
    (list' : Listed { workspace with tree := tree } moduleDir pattern paths') {keep : Path → Bool}
    {path : Path} (member : path ∈ elsewhere workspace location (filesOf workspace keep paths)) :
    path ∈ elsewhere { workspace with tree := tree } location
      (filesOf { workspace with tree := tree } keep paths') := by
  simp only [elsewhere, filesOf, List.mem_filter, decide_eq_true_eq] at member ⊢
  obtain ⟨⟨⟨listed, file⟩, kept⟩, apart⟩ := member
  obtain ⟨last, reaches, rfl⟩ := list.mem_iff.1 listed
  obtain ⟨plain, place, content, located, stands⟩ := Workspace.isFile_iff.1 file
  have away : place ≠ location := fun same => apart (same ▸ located)
  have again := Workspace.locate_of_sameBut same located away
  have reached : last.location ≠ location := reaches.location_eq proper located ▸ away
  refine ⟨⟨⟨list'.mem_iff.2 ⟨last, reaches.of_sameBut same reached, rfl⟩, ?_⟩, kept⟩, ?_⟩
  · exact Workspace.isFile_iff.2 ⟨plain, place, content, again, same.agree place away ▸ stands⟩
  · rw [again]
    exact fun eq => away (Except.ok.inj eq)

/-- Trees that differ in one file have the same listed files in the same order, but for those that
lead to this file. -/
theorem elsewhere_filesOf (same : workspace.tree.SameBut location tree)
    (proper : workspace.tree.Proper) (proper' : tree.Proper)
    (list : Listed workspace moduleDir pattern paths)
    (list' : Listed { workspace with tree := tree } moduleDir pattern paths')
    (keep : Path → Bool) :
    elsewhere workspace location (filesOf workspace keep paths) =
      elsewhere { workspace with tree := tree } location
        (filesOf { workspace with tree := tree } keep paths') := by
  have anchored : ∀ path ∈ elsewhere workspace location (filesOf workspace keep paths),
      path.anchor = moduleDir.anchor := by
    intro path inside
    obtain ⟨_, reaches, rfl⟩ := list.mem_iff.1
      (List.mem_filter.1 (List.mem_filter.1 (List.mem_filter.1 inside).1).1).1
    exact reaches.anchor_eq proper
  refine paths_eq_of_mem_iff (((list.ordered.filter _).filter _).filter _)
    (((list'.ordered.filter _).filter _).filter _) (((list.distinct.filter _).filter _).filter _)
    (((list'.distinct.filter _).filter _).filter _) anchored fun path => ⟨?_, ?_⟩
  · exact mem_elsewhere_of_sameBut same proper list list'
  · exact @mem_elsewhere_of_sameBut { workspace with tree := tree } _ _ _ _ _ _ same.symm proper'
      list' list _ path

/-- Trees that differ in one file have the same source files in the same order, but for those
that lead to this file. -/
theorem elsewhere_sourceFiles (same : workspace.tree.SameBut location tree)
    (proper : workspace.tree.Proper) (proper' : tree.Proper) {survey : Survey}
    {files files' : List Path} (listed : survey.sourceFiles workspace = .ok files)
    (listed' : survey.sourceFiles { workspace with tree := tree } = .ok files') :
    elsewhere workspace location files =
      elsewhere { workspace with tree := tree } location files' := by
  obtain ⟨pattern, paths, patterned, list, rfl⟩ := sourceFiles_eq_ok listed
  obtain ⟨pattern', paths', patterned', list', rfl⟩ := sourceFiles_eq_ok listed'
  obtain rfl : pattern = pattern' := Except.ok.inj (patterned.symm.trans patterned')
  have all := elsewhere_filesOf same proper proper' list list' fun _ => true
  simpa only [filesOf, List.filter_true] using all

end Survey

end EventAtlas
