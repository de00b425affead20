import EventAtlas.Proofs.Glob
import EventAtlas.Proofs.Survey.Links
import EventAtlas.Proofs.Tree.Below
import EventAtlas.Proofs.Tree.Growth

/-!
# Searching connected trees

In a connected tree, a search for names finds just what stands below the module under a name that
is accepted, at the path that goes on from the module with the names that lead there. So the files
that are found are told by the tree alone, and a tree that grows by files that are not looked for
has the same ones. What is looked up besides can only be too long as a whole.
-/

namespace EventAtlas

namespace Workspace

variable {workspace : Workspace} {path base : Path} {start : Location} {names : List String}

/-- Below a path that can be a path, names that can be gone through make paths. -/
theorem hasNul_below (plain : hasNul base = false)
    (passable : ∀ name ∈ names, Tree.Passable name) : hasNul (base.below names) = false := by
  rw [hasNul, List.any_eq_false] at plain ⊢
  intro part member
  rcases List.mem_append.1 member with before | after
  · exact plain part before
  · simpa using (passable part after).2.1

/-- What stands below a directory is found at the path that goes on with the names, if this path is
short enough. -/
theorem locate_below_of_stands (connected : workspace.tree.Connected)
    (located : workspace.locate base = .ok start)
    (stands : (workspace.tree.at? (start ++ names)).isSome) :
    workspace.locate (base.below names) =
      if Tree.maxPathBytes < (base.below names).toString.utf8ByteSize then .error .nameTooLong
      else .ok (start ++ names) := by
  rw [locate_below located, connected.walk_to stands]

/-- The path of something that stands below a directory can only be too long as a whole. -/
theorem admits_below_iff (connected : workspace.tree.Connected) (plain : hasNul base = false)
    (located : workspace.locate base = .ok start)
    (stands : (workspace.tree.at? (start ++ names)).isSome) :
    workspace.Admits (base.below names) ↔
      (base.below names).toString.utf8ByteSize ≤ Tree.maxPathBytes := by
  have led := locate_below_of_stands connected located stands
  split at led
  · next long =>
    have refuses := refuses_iff.2 ⟨hasNul_below plain (connected.passable stands), rfl, led⟩
    exact ⟨fun admits => absurd refuses (admits _), fun short => absurd long (Nat.not_lt.2 short)⟩
  · next short => exact ⟨fun _ => Nat.not_lt.1 short, fun _ => admits_of_locate led⟩

end Workspace

namespace Survey

variable {workspace before after : Workspace} {moduleDir path : Path} {start : Location}
  {pieces : List Glob.Piece} {files : List Path}

/-- A module's directory: where it is, and that it is there. -/
structure At (workspace : Workspace) (moduleDir : Path) (start : Location) : Prop where
  plain : Workspace.hasNul moduleDir = false
  located : workspace.locate moduleDir = .ok start
  directory : workspace.tree.isDirectory start = true

/-- A path leads to a directory exactly if it is that of a module. -/
theorem isDirectory_iff_exists_at :
    workspace.isDirectory moduleDir = .ok true ↔ ∃ start, At workspace moduleDir start := by
  rw [Workspace.isDirectory_iff]
  exact ⟨fun ⟨plain, start, located, directory⟩ => ⟨start, plain, located, directory⟩,
    fun ⟨start, plain, located, directory⟩ => ⟨plain, start, located, directory⟩⟩

/-- In a connected tree, a pattern for names reaches what stands below the module under a name that
it accepts. -/
theorem At.reaches_iff (there : At workspace moduleDir start)
    (connected : workspace.tree.Connected) :
    (∃ last, Reaches workspace moduleDir [.wild pieces] last ∧ last.path = path) ↔
      ∃ names name, path = moduleDir.below (names ++ [name]) ∧
        Glob.accepts pieces name.toList = true ∧
        (workspace.tree.at? (start ++ (names ++ [name]))).isSome := by
  have found := isDirectory_iff_exists_at.2 ⟨start, there⟩
  constructor
  · rintro ⟨last, ⟨-, start', located, leads⟩, rfl⟩
    obtain rfl : start = start' := Except.ok.inj (there.located.symm.trans located)
    obtain ⟨below, inside, leads⟩ := leads_deep_iff.1 leads
    obtain ⟨names, -, rfl⟩ := mem_foundDirectories.1 inside
    obtain ⟨child, listed, -, leads⟩ := leads_wild_iff.1 leads
    obtain ⟨name, accepted, stands, rfl⟩ := mem_foundChildren.1 listed
    obtain rfl := leads_nil_iff.1 leads
    rw [List.append_assoc] at stands
    exact ⟨names, name, by simp [Path.below, Path.child], accepted, stands⟩
  · rintro ⟨names, name, rfl, accepted, stands⟩
    rw [← List.append_assoc] at stands
    have around := (connected _ _ stands).2
    refine ⟨⟨start ++ names ++ [name], moduleDir.below (names ++ [name])⟩,
      ⟨found, start, there.located, ?_⟩, rfl⟩
    refine .deep (mem_foundDirectories.2 ⟨names, .inr (Tree.isDirectory_of_at? around), rfl⟩) (.wild
      (mem_foundChildren.2 ⟨name, accepted, stands, ?_⟩) (.inl rfl) .here)
    simp [Path.below, Path.child]

/-- The files can be told exactly if the paths of all that is found are short enough. -/
theorem At.exists_searchFiles_iff (there : At workspace moduleDir start)
    (connected : workspace.tree.Connected) :
    (∃ files, searchFiles workspace moduleDir pieces = .ok files) ↔
      ∀ names name, Glob.accepts pieces name.toList = true →
        (workspace.tree.at? (start ++ (names ++ [name]))).isSome →
        (moduleDir.below (names ++ [name])).toString.utf8ByteSize ≤ Tree.maxPathBytes := by
  rw [Survey.exists_searchFiles_iff]
  simp only [there.reaches_iff connected]
  constructor
  · intro admits names name accepted stands
    exact (Workspace.admits_below_iff connected there.plain there.located stands).1
      (admits _ (.inr ⟨names, name, rfl, accepted, stands⟩))
  · rintro short path (rfl | ⟨names, name, rfl, accepted, stands⟩)
    · exact Workspace.admits_of_locate there.located
    · exact (Workspace.admits_below_iff connected there.plain there.located stands).2
        (short names name accepted stands)

/-- Where a file is found, and what stands there. -/
theorem At.mem_searchFiles_iff (there : At workspace moduleDir start)
    (connected : workspace.tree.Connected)
    (found : searchFiles workspace moduleDir pieces = .ok files) :
    path ∈ files ↔ ∃ names name entry, path = moduleDir.below (names ++ [name]) ∧
      Glob.accepts pieces name.toList = true ∧
      workspace.locate path = .ok (start ++ (names ++ [name])) ∧
      workspace.tree.at? (start ++ (names ++ [name])) = some entry ∧ entry.isFile = true := by
  have short := (there.exists_searchFiles_iff connected).1 ⟨files, found⟩
  obtain ⟨paths, list, rfl⟩ := searchFiles_eq_ok found
  rw [List.mem_filter, list.mem_iff, there.reaches_iff connected, decide_eq_true_eq,
    Workspace.isFile_iff]
  constructor
  · rintro ⟨⟨names, name, rfl, accepted, stands⟩, -, place, entry, located, here, file⟩
    have leads := Workspace.locate_below_of_stands connected there.located stands
    rw [if_neg (Nat.not_lt.2 (short names name accepted stands))] at leads
    obtain rfl := Except.ok.inj (leads.symm.trans located)
    exact ⟨names, name, entry, rfl, accepted, located, here, file⟩
  · rintro ⟨names, name, entry, rfl, accepted, located, here, file⟩
    have stands := Option.isSome_of_eq_some here
    exact ⟨⟨names, name, rfl, accepted, stands⟩,
      Workspace.hasNul_below there.plain (connected.passable stands), _, entry, located, here, file⟩

/-- What is found are the files below the module under names that are accepted. -/
theorem mem_searchFiles_iff (connected : workspace.tree.Connected)
    (found : searchFiles workspace moduleDir pieces = .ok files) :
    path ∈ files ↔ ∃ start names name entry, At workspace moduleDir start ∧
      path = moduleDir.below (names ++ [name]) ∧ Glob.accepts pieces name.toList = true ∧
      workspace.tree.at? (start ++ (names ++ [name])) = some entry ∧ entry.isFile = true := by
  constructor
  · intro member
    obtain ⟨paths, list, rfl⟩ := searchFiles_eq_ok found
    obtain ⟨_, reaches, -⟩ := list.mem_iff.1 (List.mem_filter.1 member).1
    obtain ⟨start, there⟩ := isDirectory_iff_exists_at.1 reaches.1
    obtain ⟨names, name, entry, rfl, accepted, -, stands, file⟩ :=
      (there.mem_searchFiles_iff connected found).1 member
    exact ⟨start, names, name, entry, there, rfl, accepted, stands, file⟩
  · rintro ⟨start, names, name, entry, there, rfl, accepted, stands, file⟩
    have some := Option.isSome_of_eq_some stands
    have short := (there.exists_searchFiles_iff connected).1 ⟨files, found⟩ names name accepted some
    have located := Workspace.locate_below_of_stands connected there.located some
    rw [if_neg (Nat.not_lt.2 short)] at located
    exact (there.mem_searchFiles_iff connected found).2
      ⟨names, name, entry, rfl, accepted, located, stands, file⟩

/-- With a plain extension, source files are searched by the end of their names. -/
theorem sourceFiles_eq_searchFiles {survey : Survey} (plain : Glob.IsPlain survey.extension.toList) :
    survey.sourceFiles workspace =
      searchFiles workspace survey.moduleDir (Glob.endingWith survey.extension.toList) := by
  have pattern : survey.sourcePattern =
      .ok [.wild (Glob.endingWith survey.extension.toList)] := by
    rw [sourcePattern, Glob.ofPattern?_star plain]
  rw [sourceFiles, pattern]
  rfl

/-- A module stays where it is while the tree grows. -/
theorem At.of_keeps (there : At before moduleDir start) (keeps : before.Keeps after) :
    At after moduleDir start :=
  ⟨there.plain, keeps.locate there.located, keeps.isDirectory_tree there.directory⟩

section Grows

variable {listed : List String} {found : List Path}

/-- A file that is looked for under none of the names of new files is found before and after, and
the same one. -/
theorem At.mem_filter_iff_of_grows (there : At before moduleDir start)
    (connected : before.tree.Connected) (grows : before.Grows listed after) (keep : Path → Bool)
    (searched : searchFiles before moduleDir pieces = .ok files)
    (searched' : searchFiles after moduleDir pieces = .ok found)
    (others : ∀ names name, Glob.accepts pieces name.toList = true →
      keep (moduleDir.below (names ++ [name])) = true → name ∉ listed) :
    path ∈ files.filter keep ↔ path ∈ found.filter keep := by
  have again := there.of_keeps grows.keeps
  have connected' := grows.connected connected
  rw [List.mem_filter, List.mem_filter, there.mem_searchFiles_iff connected searched,
    again.mem_searchFiles_iff connected' searched']
  refine and_congr_left fun kept => ?_
  refine exists_congr fun names => exists_congr fun name => exists_congr fun entry => ?_
  constructor
  · rintro ⟨rfl, accepted, located, stands, file⟩
    refine ⟨rfl, accepted, grows.keeps.locate located, ?_, file⟩
    rw [← List.append_assoc] at stands ⊢
    exact (grows.at?_eq_some_iff (others names name accepted kept)
      (Entry.ne_directory_of_isFile file)).2 stands
  · rintro ⟨rfl, accepted, located, stands, file⟩
    have stands' : before.tree.at? (start ++ (names ++ [name])) = some entry := by
      rw [← List.append_assoc] at stands ⊢
      exact (grows.at?_eq_some_iff (others names name accepted kept)
        (Entry.ne_directory_of_isFile file)).1 stands
    refine ⟨rfl, accepted, ?_, stands', file⟩
    obtain ⟨short, -⟩ := Workspace.locate_eq_ok_iff.1 located
    rw [Workspace.locate_below_of_stands connected there.located (by rw [stands']; rfl),
      if_neg (Nat.not_lt.2 short)]

/-- The files that are looked for under none of the names of new files are the same before and
after. -/
theorem At.filter_eq_of_grows (there : At before moduleDir start)
    (connected : before.tree.Connected) (grows : before.Grows listed after) (keep : Path → Bool)
    (searched : searchFiles before moduleDir pieces = .ok files)
    (searched' : searchFiles after moduleDir pieces = .ok found)
    (others : ∀ names name, Glob.accepts pieces name.toList = true →
      keep (moduleDir.below (names ++ [name])) = true → name ∉ listed) :
    found.filter keep = files.filter keep := by
  have members (path : Path) : path ∈ found.filter keep ↔ path ∈ files.filter keep :=
    (there.mem_filter_iff_of_grows connected grows keep searched searched' others).symm
  have anchored : ∀ path ∈ found.filter keep, path.anchor = moduleDir.anchor := by
    intro path member
    have listed := (List.mem_filter.1 ((members path).1 member)).1
    obtain ⟨_, _, _, rfl, -⟩ := (there.mem_searchFiles_iff connected searched).1 listed
    rfl
  obtain ⟨_, list, rfl⟩ := searchFiles_eq_ok searched
  obtain ⟨_, list', rfl⟩ := searchFiles_eq_ok searched'
  exact paths_eq_of_mem_iff ((list'.ordered.filter _).filter _) ((list.ordered.filter _).filter _)
    ((list'.distinct.filter _).filter _) ((list.distinct.filter _).filter _) anchored members

end Grows

end Survey

end EventAtlas
