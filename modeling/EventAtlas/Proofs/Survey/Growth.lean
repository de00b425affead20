import EventAtlas.Proofs.Analysis
import EventAtlas.Proofs.Survey.Confined
import EventAtlas.Proofs.Survey.Identifiers
import EventAtlas.Proofs.Survey.Search

/-!
# Analysing a module that has grown

Directories and files that are added to a module change nothing about its analysis, as long as the
files have names that no source, no configuration and no observer can have. Every file that is read
was there before, and what is looked for in vain is still not there. Only the length of the new
paths can make a difference: whatever stands below the module is looked up.
-/

namespace EventAtlas

namespace Survey

variable {before after : Workspace} {survey : Survey} {moduleDir : Path} {start : Location}
  {listed : List String} {pieces : List Glob.Piece} {files : List Path}

/-! ### Sources and configurations -/

/-- A file that is found before and after leads to the same content. -/
theorem At.same_of_grows (there : At before moduleDir start) (connected : before.tree.Connected)
    (grows : before.Grows listed after) (keep : Path → Bool)
    (searched : searchFiles before moduleDir pieces = .ok files)
    (others : ∀ names name, Glob.accepts pieces name.toList = true →
      keep (moduleDir.below (names ++ [name])) = true → name ∉ listed)
    {path : Path} (member : path ∈ files.filter keep) :
    after.locate path = before.locate path ∧ ∀ place, before.locate path = .ok place →
      after.tree.at? place = before.tree.at? place := by
  obtain ⟨member, kept⟩ := List.mem_filter.1 member
  obtain ⟨names, name, entry, rfl, accepted, located, stands, file⟩ :=
    (there.mem_searchFiles_iff connected searched).1 member
  refine ⟨(grows.keeps.locate located).trans located.symm, fun place led => ?_⟩
  obtain rfl := Except.ok.inj (located.symm.trans led)
  rw [← List.append_assoc] at stands ⊢
  rw [(grows.at?_eq_some_iff (others names name accepted kept)
    (Entry.ne_directory_of_isFile file)).2 stands, stands]

/-- Registrations are the same where the configurations and their contents are. -/
theorem findLinks_congr (same : survey.configFiles after = survey.configFiles before)
    (contents : ∀ configs, survey.configFiles before = .ok configs → ∀ config ∈ configs,
      after.read config = before.read config) :
    (survey.findLinks after).result = (survey.findLinks before).result := by
  unfold findLinks
  rw [Trace.result_bind, Trace.result_bind, Trace.result_ofExcept, Trace.result_ofExcept, same]
  cases known : survey.configFiles before with
  | error failure => rfl
  | ok configs =>
    change (configs.mapM (survey.fileLinks after) >>= _ : Trace _).result =
      (configs.mapM (survey.fileLinks before) >>= _ : Trace _).result
    rw [Trace.result_bind, Trace.result_bind, Trace.result_mapM, Trace.result_mapM]
    have pairs : List.Forall₂ (fun config other => config = other ∧
        after.read config = before.read config) configs configs :=
      List.forall₂_same.2 fun config member => ⟨rfl, contents _ known config member⟩
    rw [mapM_congr_of_forall₂ pairs]
    rintro config _ ⟨rfl, read⟩
    rw [fileLinks, fileLinks, read]

/-- Indexing is the same where the source files and their texts are. -/
theorem buildIndex_congr (same : survey.sourceFiles after = survey.sourceFiles before)
    (texts : ∀ files, survey.sourceFiles before = .ok files → ∀ path ∈ files,
      after.readSource? path = before.readSource? path) :
    (survey.buildIndex after).result = (survey.buildIndex before).result := by
  rw [buildIndex, buildIndex, result_buildIndexOnto, result_buildIndexOnto, same]
  cases known : survey.sourceFiles before with
  | error failure => rfl
  | ok files =>
    have classes : classesOf after files = classesOf before files :=
      List.filterMap_congr fun path member => classAt?_congr (texts _ known path member)
    rw [Except.map, Except.map, classes]

/-! ### Observers -/

variable {parts others : List String} {last : String} {place : Location}

/-- Parts that do not go back lead from the module to the place under their names. -/
theorem At.place_of_locate (there : At before moduleDir start) (forward : ".." ∉ parts)
    (located : before.locate (moduleDir.below parts) = .ok place) : place = start ++ parts := by
  rw [Workspace.locate_below there.located] at located
  split at located
  · cases located
  · exact Tree.place_of_walk forward located

/-- With short names, a path below the module that could be looked up before can be looked up
after. -/
theorem At.admits_of_grows (there : At before moduleDir start) (connected : before.tree.Connected)
    (grows : before.Grows listed after) (forward : ".." ∉ parts)
    (short : ∀ name ∈ parts, name.utf8ByteSize ≤ Tree.maxNameBytes)
    (admits : before.Admits (moduleDir.below parts)) : after.Admits (moduleDir.below parts) := by
  intro cause refuses
  obtain ⟨plain, present, stopped⟩ := Workspace.refuses_iff.1 refuses
  refine admits cause (Workspace.refuses_iff.2 ⟨plain, present, ?_⟩)
  rw [Workspace.locate_below (there.of_keeps grows.keeps).located] at stopped
  rw [Workspace.locate_below there.located]
  split at stopped
  · next long => rw [if_pos long, stopped]
  · next fits =>
    rw [if_neg fits]
    obtain ⟨names, name, rest, place, rfl, led, bars⟩ := (Tree.walk_eq_error_iff present).1 stopped
    have forward' : ".." ∉ names := fun inside => forward (by simp [inside])
    obtain rfl := Tree.place_of_walk forward' led
    cases bars with
    | long _ _ long => exact absurd (short name (by simp)) (Nat.not_le.2 long)
    | locked locked =>
      -- Only what was there before is locked, and the names led to it before.
      have before := grows.locked locked
      have led' : _ = Except.ok (start ++ names) :=
        connected.walk_to (Option.isSome_of_eq_some before)
      exact (Tree.walk_eq_error_iff present).2 ⟨names, name, rest, _, rfl, led', .locked before⟩

/-- Under a name that no new file has, a path below the module leads to a file after exactly if it
did before. -/
theorem At.isFile_of_grows (there : At before moduleDir start) (connected : before.tree.Connected)
    (grows : before.Grows listed after) (forward : ".." ∉ others ++ [last])
    (short : ∀ name ∈ others ++ [last], name.utf8ByteSize ≤ Tree.maxNameBytes)
    (unlisted : last ∉ listed) (admits : before.Admits (moduleDir.below (others ++ [last]))) :
    after.isFile (moduleDir.below (others ++ [last])) =
      before.isFile (moduleDir.below (others ++ [last])) := by
  have again := there.of_keeps grows.keeps
  have agree : after.isFile (moduleDir.below (others ++ [last])) = .ok true ↔
      before.isFile (moduleDir.below (others ++ [last])) = .ok true := by
    simp only [Workspace.isFile_iff]
    refine and_congr_right fun _ => ?_
    constructor
    · rintro ⟨place, entry, located, stands, file⟩
      obtain rfl := again.place_of_locate forward located
      rw [← List.append_assoc, grows.at?_eq_some_iff unlisted (Entry.ne_directory_of_isFile file),
        List.append_assoc] at stands
      obtain ⟨size, -⟩ := Workspace.locate_eq_ok_iff.1 located
      refine ⟨_, entry, ?_, stands, file⟩
      have some := Option.isSome_of_eq_some stands
      rw [Workspace.locate_below_of_stands connected there.located some,
        if_neg (Nat.not_lt.2 size)]
    · rintro ⟨place, entry, located, stands, file⟩
      obtain rfl := there.place_of_locate forward located
      refine ⟨_, entry, grows.keeps.locate located, ?_, file⟩
      rw [← List.append_assoc] at stands ⊢
      exact (grows.at?_eq_some_iff unlisted (Entry.ne_directory_of_isFile file)).2 stands
  obtain ⟨answer, checked⟩ := Workspace.exists_isFile_iff.2 admits
  obtain ⟨answer', checked'⟩ := Workspace.exists_isFile_iff.2
    (there.admits_of_grows connected grows forward short admits)
  rw [checked, checked'] at agree ⊢
  cases answer <;> cases answer' <;> simp_all

/-- A source that is expected below the module under short names, in a file of a name that no new
file has, is the same after as before. -/
theorem At.sameSource_of_grows (there : At before moduleDir start)
    (connected : before.tree.Connected) (grows : before.Grows listed after) {link : Link}
    (pointed : link.source = some (moduleDir.below (others ++ [last])))
    (forward : ".." ∉ others ++ [last])
    (short : ∀ name ∈ others ++ [last], name.utf8ByteSize ≤ Tree.maxNameBytes)
    (unlisted : last ∉ listed) (sought : Observers.Sought before link) :
    Observers.SameSource before after link where
  path_eq := by
    unfold Observers.sourcePath
    rw [pointed]
    dsimp only
    rw [there.isFile_of_grows connected grows forward short unlisted (sought _ pointed)]
  read_eq path found := by
    obtain ⟨expected, checked⟩ := Observers.of_sourcePath found
    obtain rfl := Option.some.inj (pointed.symm.trans expected)
    obtain ⟨-, place, entry, located, stands, file⟩ := Workspace.isFile_iff.1 checked
    have again := grows.keeps.locate located
    obtain rfl := there.place_of_locate forward located
    refine Workspace.readSource?_congr_of_locate (again.trans located.symm) fun place led => ?_
    obtain rfl := Except.ok.inj (located.symm.trans led)
    rw [← List.append_assoc] at stands ⊢
    rw [(grows.at?_eq_some_iff unlisted (Entry.ne_directory_of_isFile file)).2 stands, stands]

/-! ### Whole analyses -/

/-- A name that no source and no configuration has. -/
structure Unsought (name : String) : Prop where
  noSource : ¬ ".php".toList <:+ name.toList
  noConfig : Text.lower name.toList ≠ configName.toList

/-- The extension `.php` has no wildcards. -/
theorem isPlain_php (php : survey.extension = ".php") : Glob.IsPlain survey.extension.toList := by
  rw [php]
  decide

/-- Source files are found after as before. -/
theorem At.sourceFiles_of_grows (there : At before survey.moduleDir start)
    (connected : before.tree.Connected) (grows : before.Grows listed after)
    (php : survey.extension = ".php") (unsought : ∀ name ∈ listed, Unsought name)
    (searched : survey.sourceFiles before = .ok files)
    (short : ∀ names name, (after.tree.at? (start ++ (names ++ [name]))).isSome →
      (survey.moduleDir.below (names ++ [name])).toString.utf8ByteSize ≤ Tree.maxPathBytes) :
    survey.sourceFiles after = survey.sourceFiles before ∧
      ∀ path ∈ files, after.readSource? path = before.readSource? path := by
  have others (names : List String) (name : String)
      (accepted : Glob.accepts (Glob.endingWith survey.extension.toList) name.toList = true) :
      name ∉ listed := by
    intro member
    rw [Glob.accepts_endingWith_iff, php] at accepted
    exact (unsought name member).noSource accepted
  have plain := isPlain_php php
  rw [sourceFiles_eq_searchFiles plain] at searched
  obtain ⟨found, searched'⟩ := ((there.of_keeps grows.keeps).exists_searchFiles_iff
    (grows.connected connected)).2 fun names name _ stands => short names name stands
  have same := there.filter_eq_of_grows connected grows (fun _ => true) searched searched'
    fun names name accepted _ => others names name accepted
  simp only [List.filter_true] at same
  refine ⟨?_, fun path member => ?_⟩
  · rw [sourceFiles_eq_searchFiles plain, sourceFiles_eq_searchFiles plain, searched, searched',
      same]
  · rw [← List.filter_true files] at member
    obtain ⟨located, stands⟩ := there.same_of_grows connected grows (fun _ => true) searched
      (fun names name accepted _ => others names name accepted) member
    exact Workspace.readSource?_congr_of_locate located stands

/-- Event configurations are found after as before. -/
theorem At.configFiles_of_grows (there : At before survey.moduleDir start)
    (connected : before.tree.Connected) (grows : before.Grows listed after)
    (unsought : ∀ name ∈ listed, Unsought name) {configs : List Path}
    (listing : survey.configFiles before = .ok configs)
    (short : ∀ names name, (after.tree.at? (start ++ (names ++ [name]))).isSome →
      (survey.moduleDir.below (names ++ [name])).toString.utf8ByteSize ≤ Tree.maxPathBytes) :
    survey.configFiles after = survey.configFiles before ∧
      ∀ config ∈ configs, after.read config = before.read config := by
  have others : ∀ names name, Glob.accepts [.many] name.toList = true →
      survey.isConfig (survey.moduleDir.below (names ++ [name])) = true → name ∉ listed := by
    intro names name _ kept member
    have named : (survey.moduleDir.below (names ++ [name])).name = name := by
      simp [Path.name, Path.below]
    simp only [isConfig, hasConfigName, named, Bool.and_eq_true, decide_eq_true_eq] at kept
    exact (unsought name member).noConfig kept.1
  rw [configFiles_eq] at listing
  obtain ⟨files, searched, rfl⟩ := exists_of_map_eq_ok listing
  obtain ⟨found, searched'⟩ := ((there.of_keeps grows.keeps).exists_searchFiles_iff
    (grows.connected connected)).2 fun names name _ stands => short names name stands
  have same := there.filter_eq_of_grows connected grows _ searched searched' others
  refine ⟨?_, fun config member => ?_⟩
  · rw [configFiles_eq, configFiles_eq, searched, searched', Except.map, Except.map, same]
  · obtain ⟨located, stands⟩ := there.same_of_grows connected grows _ searched others member
    exact Workspace.read_congr_of_locate located stands

/-- An analysis of a module that has grown is the one from before, if the new files are not looked
for and everything below the module has a path that is short enough. -/
theorem At.analyze_of_grows (there : At before survey.moduleDir start)
    (connected : before.tree.Connected) (grows : before.Grows listed after)
    (php : survey.extension = ".php") (unsought : ∀ name ∈ listed, Unsought name)
    {analysis : Analysis} (analyzed : (survey.analyze before).result = .ok analysis)
    (tame : ∀ link ∈ analysis.links, link.observer.Tame)
    (short : ∀ names name, (after.tree.at? (start ++ (names ++ [name]))).isSome →
      (survey.moduleDir.below (names ++ [name])).toString.utf8ByteSize ≤ Tree.maxPathBytes) :
    (survey.analyze after).result = .ok analysis := by
  obtain ⟨indexing, built, index, found, resolved, covered⟩ := analyze_eq_ok_iff.1 analyzed
  have sources : (survey.buildIndex after).result = (survey.buildIndex before).result := by
    have listed := built
    rw [buildIndex, result_buildIndexOnto] at listed
    obtain ⟨files, searched, -⟩ := exists_of_map_eq_ok listed
    obtain ⟨same, texts⟩ :=
      there.sourceFiles_of_grows connected grows php unsought searched short
    refine buildIndex_congr same fun files' searched' => ?_
    obtain rfl := Except.ok.inj (searched.symm.trans searched')
    exact texts
  have links : (survey.findLinks after).result = (survey.findLinks before).result := by
    obtain ⟨configs, searched, -⟩ := findLinks_eq_ok found
    obtain ⟨same, contents⟩ := there.configFiles_of_grows connected grows unsought searched short
    refine findLinks_congr same fun configs' searched' => ?_
    obtain rfl := Except.ok.inj (searched.symm.trans searched')
    exact contents
  have same : ∀ link ∈ analysis.links, Observers.SameSource before after link := by
    intro link member
    obtain ⟨written, canonical⟩ := exists_canonical_of_findLinks found member
    have ends := canonical ▸ ClassId.canonicalChars_canonical_suffix written
    obtain ⟨others, last, path, forward, small⟩ :=
      Link.exists_candidatePath_php survey.moduleDir (tame link member) ends
    refine there.sameSource_of_grows connected grows
      (by rw [source_of_findLinks found member, php, path]) forward
      (fun name inside => (small name inside).trans (by decide)) (fun inside => ?_) ?_
    · exact (unsought _ inside).noSource ⟨last.toList, by simp⟩
    · exact Observers.checkable_iff.1 (Observers.resolve_eq_ok_iff.1 resolved).1 link member
  refine analyze_eq_ok_iff.2 ⟨indexing, sources.trans built, index, links.trans found, ?_, covered⟩
  rw [Observers.resolve_congr same]
  exact resolved

/-- Where an analysis succeeds, everything below the module has a path that is short enough. -/
theorem At.short_of_analyze (there : At before survey.moduleDir start)
    (connected : before.tree.Connected) {analysis : Analysis}
    (analyzed : (survey.analyze before).result = .ok analysis) (names : List String) (name : String)
    (stands : (before.tree.at? (start ++ (names ++ [name]))).isSome) :
    (survey.moduleDir.below (names ++ [name])).toString.utf8ByteSize ≤ Tree.maxPathBytes := by
  obtain ⟨_, -, -, found, -⟩ := analyze_eq_ok_iff.1 analyzed
  obtain ⟨configs, searched, -⟩ := findLinks_eq_ok found
  rw [configFiles_eq] at searched
  obtain ⟨files, searched, -⟩ := exists_of_map_eq_ok searched
  have any : Glob.accepts [.many] name.toList = true :=
    Glob.accepts_many_iff.2 ⟨[], List.nil_suffix, by simp [Glob.accepts]⟩
  exact (there.exists_searchFiles_iff connected).1 ⟨files, searched⟩ names name any stands

end Survey

end EventAtlas
