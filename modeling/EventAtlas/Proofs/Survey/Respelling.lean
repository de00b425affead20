import EventAtlas.Proofs.Analysis
import EventAtlas.Proofs.Report.Source
import EventAtlas.Proofs.Survey.Search

/-!
# Modules under other spellings

A directory has many paths. What a survey finds below a module depends on where the module is; its
path is in front of every path that is found, and nothing but that is different under another
spelling. So the listings are the same, part by part, and everything that is made of them. Only the
length of paths can keep a search from being done under one of the spellings.
-/

namespace EventAtlas

namespace Path

/-- The path that goes on from another spelling as a path goes on from a module's. -/
def respell (moduleDir spelling path : Path) : Path :=
  spelling.below (path.parts.drop moduleDir.parts.length)

@[simp] theorem respell_below (moduleDir spelling : Path) (parts : List String) :
    respell moduleDir spelling (moduleDir.below parts) = spelling.below parts := by
  simp [respell, below]

/-- What goes on from the same path is compared by how it goes on. -/
theorem le_below (path : Path) (parts others : List String) :
    le (path.below parts) (path.below others) = componentsLe parts others := by
  have front (common : List String) :
      componentsLe (common ++ parts) (common ++ others) = componentsLe parts others := by
    induction common with
    | nil => rfl
    | cons part common ih => rw [List.cons_append, List.cons_append, componentsLe, if_pos rfl, ih]
  have absolute : (path.below parts).isAbsolute = (path.below others).isAbsolute := rfl
  rw [le, components, components, absolute]
  split
  · exact front (path.anchor.text :: path.parts)
  · exact front path.parts

end Path

namespace Survey

variable {workspace : Workspace} {moduleDir spelling path : Path} {start : Location}
  {pattern : List Glob.Part} {parts : List String} {paths others files found : List Path}

/-! ### Listings -/

/-- A pattern leads to the same places from a place under any path, and these have paths that go on
in the same way. -/
theorem Leads.respelled {tree : Tree} {first last : Found} (leads : Leads tree pattern first last) :
    ∃ parts, last.path = first.path.below parts ∧ ∀ path,
      Leads tree pattern ⟨first.location, path⟩ ⟨last.location, path.below parts⟩ := by
  induction leads with
  | here => exact ⟨[], by simp, fun path => by simpa using .here⟩
  | directory => exact ⟨[], by simp, fun path => by simpa using .directory⟩
  | deep inside leads ih =>
    obtain ⟨names, directory, rfl⟩ := mem_foundDirectories.1 inside
    obtain ⟨parts, ends, again⟩ := ih
    refine ⟨names ++ parts, by rw [ends, ← Path.below_below]; rfl, fun path => ?_⟩
    rw [← Path.below_below]
    exact .deep (mem_foundDirectories.2 ⟨names, directory, rfl⟩) (again _)
  | wild accepted enterable leads ih =>
    obtain ⟨name, matched, stands, rfl⟩ := mem_foundChildren.1 accepted
    obtain ⟨parts, ends, again⟩ := ih
    refine ⟨name :: parts, by rw [ends, ← Path.child_below], fun path => ?_⟩
    rw [← Path.child_below]
    exact .wild (mem_foundChildren.2 ⟨name, matched, stands, rfl⟩) enterable (again _)
  | @exact name rest first last place reached enterable leads ih =>
    obtain ⟨parts, ends, again⟩ := ih
    refine ⟨name :: parts, by rw [ends, ← Path.child_below], fun path => ?_⟩
    rw [← Path.child_below]
    exact .exact reached enterable (again _)

/-- A module's directory under two spellings. -/
structure Spelled (workspace : Workspace) (moduleDir spelling : Path) (start : Location) :
    Prop where
  here : At workspace moduleDir start
  there : At workspace spelling start

theorem Spelled.symm (spelled : Spelled workspace moduleDir spelling start) :
    Spelled workspace spelling moduleDir start :=
  ⟨spelled.there, spelled.here⟩

/-- What is reached under one spelling goes on from it and is reached under the other. -/
theorem Spelled.exists_reaches (spelled : Spelled workspace moduleDir spelling start) {last : Found}
    (reaches : Reaches workspace moduleDir pattern last) :
    ∃ parts, last.path = moduleDir.below parts ∧
      ∃ last, Reaches workspace spelling pattern last ∧ last.path = spelling.below parts := by
  obtain ⟨-, start', located, leads⟩ := reaches
  obtain rfl : start = start' := Except.ok.inj (spelled.here.located.symm.trans located)
  obtain ⟨parts, ends, again⟩ := leads.respelled
  exact ⟨parts, ends, _, ⟨isDirectory_iff_exists_at.2 ⟨start, spelled.there⟩, start,
    spelled.there.located, again spelling⟩, rfl⟩

/-- What is listed goes on from the module, and is listed under the other spelling as well. -/
theorem Spelled.exists_below_of_mem (spelled : Spelled workspace moduleDir spelling start)
    (list : Listed workspace moduleDir pattern paths)
    (list' : Listed workspace spelling pattern others) (member : path ∈ paths) :
    ∃ parts, path = moduleDir.below parts ∧ spelling.below parts ∈ others := by
  obtain ⟨last, reaches, rfl⟩ := list.mem_iff.1 member
  obtain ⟨parts, ends, again⟩ := spelled.exists_reaches reaches
  exact ⟨parts, ends, list'.mem_iff.2 again⟩

/-- A listing is respelled path by path. -/
theorem Spelled.listed_eq (spelled : Spelled workspace moduleDir spelling start)
    (list : Listed workspace moduleDir pattern paths)
    (list' : Listed workspace spelling pattern others) :
    others = paths.map (Path.respell moduleDir spelling) := by
  have inside {path : Path} (member : path ∈ paths) := spelled.exists_below_of_mem list list' member
  have ordered : (paths.map (Path.respell moduleDir spelling)).Pairwise (Path.le · ·) := by
    refine List.pairwise_map.2 (list.ordered.imp_of_mem fun {first second} before after le => ?_)
    obtain ⟨parts, rfl, -⟩ := inside before
    obtain ⟨more, rfl, -⟩ := inside after
    rw [Path.le_below] at le
    rwa [Path.respell_below, Path.respell_below, Path.le_below]
  have distinct : (paths.map (Path.respell moduleDir spelling)).Nodup := by
    refine List.Nodup.map_on (fun first before second after same => ?_) list.distinct
    obtain ⟨parts, rfl, -⟩ := inside before
    obtain ⟨more, rfl, -⟩ := inside after
    rw [Path.respell_below, Path.respell_below, Path.below_inj] at same
    rw [same]
  have members (path : Path) :
      path ∈ others ↔ path ∈ paths.map (Path.respell moduleDir spelling) := by
    rw [List.mem_map]
    constructor
    · intro member
      obtain ⟨parts, rfl, back⟩ := spelled.symm.exists_below_of_mem list' list member
      exact ⟨_, back, Path.respell_below ..⟩
    · rintro ⟨_, member, rfl⟩
      obtain ⟨parts, rfl, again⟩ := inside member
      rwa [Path.respell_below]
  have anchored : ∀ path ∈ others, path.anchor = spelling.anchor := by
    intro path member
    obtain ⟨parts, rfl, -⟩ := spelled.symm.exists_below_of_mem list' list member
    rfl
  exact paths_eq_of_mem_iff list'.ordered ordered list'.distinct distinct anchored members

/-! ### Files -/

/-- What goes on from the module can be a path under both spellings or under none. -/
theorem Spelled.hasNul_below (spelled : Spelled workspace moduleDir spelling start)
    (parts : List String) :
    Workspace.hasNul (spelling.below parts) = Workspace.hasNul (moduleDir.below parts) := by
  have plain := spelled.here.plain
  have plain' := spelled.there.plain
  simp only [Workspace.hasNul, Path.below, List.any_append] at plain plain' ⊢
  rw [plain, plain']

/-- If both paths can be looked up, they lead to the same place. -/
theorem Spelled.locate_below (spelled : Spelled workspace moduleDir spelling start)
    (plain : Workspace.hasNul (moduleDir.below parts) = false)
    (admits : workspace.Admits (moduleDir.below parts))
    (admits' : workspace.Admits (spelling.below parts)) :
    workspace.locate (spelling.below parts) = workspace.locate (moduleDir.below parts) := by
  have plain' := (spelled.hasNul_below parts).trans plain
  have led := Workspace.locate_below spelled.here.located parts
  have led' := Workspace.locate_below spelled.there.located parts
  split at led
  · exact absurd (Workspace.refuses_iff.2 ⟨plain, rfl, led⟩) (admits _)
  · split at led'
    · exact absurd (Workspace.refuses_iff.2 ⟨plain', rfl, led'⟩) (admits' _)
    · rw [led, led']

/-- So a file is found under both spellings or under none. -/
theorem Spelled.isFile_below (spelled : Spelled workspace moduleDir spelling start)
    (admits : workspace.Admits (moduleDir.below parts))
    (admits' : workspace.Admits (spelling.below parts)) :
    workspace.isFile (spelling.below parts) = workspace.isFile (moduleDir.below parts) := by
  have agree : workspace.isFile (spelling.below parts) = .ok true ↔
      workspace.isFile (moduleDir.below parts) = .ok true := by
    rw [Workspace.isFile_iff, Workspace.isFile_iff, spelled.hasNul_below]
    exact and_congr_right fun plain => by rw [spelled.locate_below plain admits admits']
  obtain ⟨answer, checked⟩ := Workspace.exists_isFile_iff.2 admits
  obtain ⟨answer', checked'⟩ := Workspace.exists_isFile_iff.2 admits'
  rw [checked, checked'] at agree ⊢
  cases answer <;> cases answer' <;> simp_all

/-- A file below the module that is found under both spellings. -/
structure Twin (workspace : Workspace) (moduleDir spelling path : Path) : Prop where
  inside : ∃ names name, path = moduleDir.below (names ++ [name])
  plain : Workspace.hasNul path = false
  plain' : Workspace.hasNul (Path.respell moduleDir spelling path) = false
  located : workspace.locate (Path.respell moduleDir spelling path) = workspace.locate path

/-- The same is read under both spellings. -/
theorem Twin.read? (twin : Twin workspace moduleDir spelling path) :
    workspace.read? (Path.respell moduleDir spelling path) = workspace.read? path := by
  simp only [Workspace.read?, Workspace.read, twin.plain, twin.plain', twin.located]
  cases workspace.locate path >>= workspace.tree.read <;> rfl

theorem Twin.readSource? (twin : Twin workspace moduleDir spelling path) :
    workspace.readSource? (Path.respell moduleDir spelling path) = workspace.readSource? path := by
  simp only [Workspace.readSource?, Workspace.read, twin.plain, twin.plain', twin.located]
  cases workspace.locate path >>= workspace.tree.read <;> rfl

/-- A file below the module has a twin, if both paths can be looked up. -/
theorem Spelled.twin (spelled : Spelled workspace moduleDir spelling start)
    (admits : workspace.Admits (moduleDir.below parts))
    (admits' : workspace.Admits (spelling.below parts))
    (file : workspace.isFile (moduleDir.below parts) = .ok true) :
    Twin workspace moduleDir spelling (moduleDir.below parts) := by
  obtain ⟨plain, place, entry, located, stands, solid⟩ := Workspace.isFile_iff.1 file
  refine ⟨?_, plain, ?_, ?_⟩
  · cases parts using List.reverseRecOn with
    | nil =>
      rw [Path.below_nil, spelled.here.located] at located
      cases located
      have directory := spelled.here.directory
      rw [Tree.isDirectory, stands, Option.any_some] at directory
      rw [Entry.isFile, directory] at solid
      cases solid
    | append_singleton names name => exact ⟨names, name, rfl⟩
  · rw [Path.respell_below, spelled.hasNul_below, plain]
  · rw [Path.respell_below, spelled.locate_below plain admits admits']

/-- The files among what is listed are respelled one by one. -/
theorem Spelled.files_eq (spelled : Spelled workspace moduleDir spelling start)
    (list : Listed workspace moduleDir pattern paths)
    (list' : Listed workspace spelling pattern others)
    (filtered : paths.filterM workspace.isFile = .ok files)
    (filtered' : others.filterM workspace.isFile = .ok found) :
    found = files.map (Path.respell moduleDir spelling) ∧
      ∀ path ∈ files, Twin workspace moduleDir spelling path := by
  have checked {path : Path} (member : path ∈ paths) : ∃ parts, path = moduleDir.below parts ∧
      workspace.Admits (moduleDir.below parts) ∧ workspace.Admits (spelling.below parts) := by
    obtain ⟨parts, rfl, again⟩ := spelled.exists_below_of_mem list list' member
    exact ⟨parts, rfl, Workspace.exists_isFile_iff.1 (exists_of_filterM filtered member),
      Workspace.exists_isFile_iff.1 (exists_of_filterM filtered' again)⟩
  have kept := filter_isFile_of_filterM filtered
  have kept' := filter_isFile_of_filterM filtered'
  constructor
  · rw [kept', kept, spelled.listed_eq list list', List.filter_map]
    refine congrArg _ (List.filter_congr fun path member => ?_)
    obtain ⟨parts, rfl, admits, admits'⟩ := checked member
    rw [Function.comp_apply, Path.respell_below, spelled.isFile_below admits admits']
  · intro path member
    rw [kept, List.mem_filter, decide_eq_true_eq] at member
    obtain ⟨inside, file⟩ := member
    obtain ⟨parts, rfl, admits, admits'⟩ := checked inside
    exact spelled.twin admits admits' file

/-! ### Sources and configurations -/

/-- The survey of the module under another spelling. -/
def respelled (survey : Survey) (spelling : Path) : Survey :=
  { survey with moduleDir := spelling }

variable {survey : Survey}

/-- The source files are respelled one by one. -/
theorem Spelled.sourceFiles_eq (spelled : Spelled workspace survey.moduleDir spelling start)
    (listed : survey.sourceFiles workspace = .ok files)
    (listed' : (survey.respelled spelling).sourceFiles workspace = .ok found) :
    found = files.map (Path.respell survey.moduleDir spelling) ∧
      ∀ path ∈ files, Twin workspace survey.moduleDir spelling path := by
  obtain ⟨pattern, patterned, listed⟩ := bind_eq_ok_iff.1 listed
  obtain ⟨paths, searched, filtered⟩ := bind_eq_ok_iff.1 listed
  obtain ⟨pattern', patterned', listed'⟩ := bind_eq_ok_iff.1 listed'
  obtain ⟨others, searched', filtered'⟩ := bind_eq_ok_iff.1 listed'
  obtain rfl : pattern = pattern' := Except.ok.inj (patterned.symm.trans patterned')
  exact spelled.files_eq (listed_of_search searched) (listed_of_search searched') filtered filtered'

/-- Whether a file is a configuration that counts depends on how it goes on from the module. -/
theorem Twin.isConfig (twin : Twin workspace survey.moduleDir spelling path) :
    (survey.respelled spelling).isConfig (Path.respell survey.moduleDir spelling path) =
      survey.isConfig path := by
  obtain ⟨names, name, rfl⟩ := twin.inside
  have named (base : Path) : (base.below (names ++ [name])).name = name := by
    simp [Path.name, Path.below]
  simp only [Survey.isConfig, hasConfigName, isBelowEtc, respelled, Path.respell_below, named,
    Path.relativeTo?_below]

/-- The event configurations are respelled one by one. -/
theorem Spelled.configFiles_eq (spelled : Spelled workspace survey.moduleDir spelling start)
    (listed : survey.configFiles workspace = .ok files)
    (listed' : (survey.respelled spelling).configFiles workspace = .ok found) :
    found = files.map (Path.respell survey.moduleDir spelling) ∧
      ∀ path ∈ files, Twin workspace survey.moduleDir spelling path := by
  rw [Survey.configFiles_eq] at listed listed'
  obtain ⟨all, searched, rfl⟩ := exists_of_map_eq_ok listed
  obtain ⟨all', searched', rfl⟩ := exists_of_map_eq_ok listed'
  obtain ⟨paths, searched, filtered⟩ := bind_eq_ok_iff.1 searched
  obtain ⟨others, searched', filtered'⟩ := bind_eq_ok_iff.1 searched'
  obtain ⟨rfl, twins⟩ := spelled.files_eq (listed_of_search searched) (listed_of_search searched')
    filtered filtered'
  refine ⟨?_, fun path member => twins path (List.mem_filter.1 member).1⟩
  rw [List.filter_map]
  exact congrArg _ (List.filter_congr fun path member => (twins path member).isConfig)

end Survey

end EventAtlas
