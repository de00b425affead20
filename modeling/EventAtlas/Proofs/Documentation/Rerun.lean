import EventAtlas.Proofs.Documentation.Success
import EventAtlas.Proofs.Survey.Growth
import EventAtlas.Proofs.Survey.Locality

/-!
# Documenting a module again

A run adds nothing to a module but directories and its two pages, and no analysis looks for these.
So a second run finds out the same and writes the same pages over the first ones, wherever the
output directory is. There is one exception: what was written below the module is looked up with
everything else there, and if its path is too long for that, the second run fails although the first
one succeeded.
-/

namespace EventAtlas.Documentation

variable {workspace after : Workspace} {documentation : Documentation} {analysis : Analysis}
  {text : String}

/-- A module from which everything could be made ready is a directory. -/
theorem Ready.exists_at (ready : documentation.Ready workspace analysis text) :
    ∃ start, Survey.At workspace documentation.survey.moduleDir start := by
  rw [← Survey.isDirectory_iff_exists_at]
  obtain ⟨indexing, built, index, -, -, covered⟩ := Survey.analyze_eq_ok_iff.1 ready.analyzed
  have size : analysis.index.size ≠ 0 := by
    intro none
    have valid := ready.valid
    rw [covered, Coverage.validate, Coverage.compute, if_pos none] at valid
    cases valid
  rw [Survey.buildIndex, Survey.result_buildIndexOnto] at built
  obtain ⟨files, listed, rfl⟩ := exists_of_map_eq_ok built
  obtain ⟨pattern, patterned, listed⟩ := bind_eq_ok_iff.1 listed
  obtain ⟨paths, searched, filtered⟩ := bind_eq_ok_iff.1 listed
  obtain ⟨there, looked, found⟩ := bind_eq_ok_iff.1 searched
  cases there with
  | true => exact looked
  | false =>
    -- Without a directory there are no files, and so there is no class.
    cases found
    cases filtered
    exact absurd (by rw [index]; rfl) size

/-- The names of the pages are those of no sources and no configurations. -/
theorem unsought_of_mem_pageNames : ∀ name ∈ pageNames, Survey.Unsought name := by
  intro name member
  simp only [pageNames, List.mem_cons, List.not_mem_nil, or_false] at member
  rcases member with rfl | rfl
  · exact ⟨by decide, by decide +kernel⟩
  · exact ⟨by decide, by decide +kernel⟩

/-- Whatever is new below the module has a path that is short enough to be looked up. -/
def Fits (documentation : Documentation) (before after : Workspace) : Prop :=
  ∀ start names, before.locate documentation.survey.moduleDir = .ok start →
    before.tree.at? (start ++ names) = none → (after.tree.at? (start ++ names)).isSome →
      (documentation.survey.moduleDir.below names).toString.utf8ByteSize ≤ Tree.maxPathBytes

/-- A run finds out the given, changes nothing and gives the path of the report. -/
structure Confirms (documentation : Documentation) (workspace : Workspace) (time : String)
    (analysis : Analysis) : Prop where
  analyzed : (documentation.survey.analyze workspace).result = .ok analysis
  unchanged : (documentation.run workspace time).1 = workspace
  result : (documentation.run workspace time).2.result = .ok documentation.reportPath

/-- A run on what a successful run leaves confirms it, if the new paths are short enough. -/
theorem Succeeds.confirms {made : Workspace}
    (succeeds : documentation.Succeeds workspace made after analysis text)
    (connected : workspace.tree.Connected) (php : documentation.survey.extension = ".php")
    (tame : ∀ link ∈ analysis.links, link.observer.Tame)
    (fits : documentation.Fits workspace after) (time : String) :
    documentation.Confirms after time analysis := by
  have ready := succeeds.ready
  have grows := succeeds.grows connected
  obtain ⟨start, there⟩ := ready.exists_at
  have analyzed : (documentation.survey.analyze after).result = .ok analysis := by
    refine there.analyze_of_grows connected grows php unsought_of_mem_pageNames ready.analyzed tame
      fun names name stands => ?_
    cases before : workspace.tree.at? (start ++ (names ++ [name])) with
    | none => exact fits start _ there.located before stands
    | some entry =>
      exact there.short_of_analyze connected ready.analyzed names name
        (Option.isSome_of_eq_some before)
  obtain ⟨unchanged, result⟩ := (succeeds.again ⟨analyzed, ready.valid, ready.built⟩).run time
  exact ⟨analyzed, unchanged, result⟩

/-- A run that succeeds after a successful run finds all new paths short enough. -/
theorem Succeeds.fits {made : Workspace} {time : String} {path : Path}
    (succeeds : documentation.Succeeds workspace made after analysis text)
    (connected : workspace.tree.Connected)
    (done : (documentation.run after time).2.result = .ok path) :
    documentation.Fits workspace after := by
  intro start names located free stands
  have grows := succeeds.grows connected
  obtain ⟨start', there⟩ := succeeds.ready.exists_at
  obtain rfl : start' = start := Except.ok.inj (there.located.symm.trans located)
  obtain ⟨-, _, _, _, again⟩ := exists_succeeds_of_run done
  cases names using List.reverseRecOn with
  | nil =>
    have directory := there.directory
    rw [List.append_nil] at free
    rw [Tree.isDirectory, free] at directory
    cases directory
  | append_singleton names name =>
    exact (there.of_keeps grows.keeps).short_of_analyze (grows.connected connected)
      again.ready.analyzed names name stands

/-- A request that can be followed still can while the tree grows. -/
theorem ofRequest_of_keeps {request : Request} (keeps : workspace.Keeps after)
    (followed : ofRequest workspace request = .ok documentation) :
    ofRequest after request = .ok documentation := by
  rw [ofRequest_eq_ok_iff] at followed ⊢
  exact followed.imp_left keeps.isDirectory

end EventAtlas.Documentation

namespace EventAtlas

/-! ### Running on the small module -/

namespace Shop

/-- The class is all that stands in `lib`. -/
theorem stands_in_lib {names : List String} {name : String}
    (stands : (workspace.tree.at? (["lib"] ++ (names ++ [name]))).isSome) :
    names = [] ∧ name = "Client.php" := by
  rw [Tree.isSome_at?_iff (by simp)] at stands
  simp only [Roster.keys, workspace, List.map_cons, List.map_nil, List.mem_cons,
    List.not_mem_nil, or_false] at stands
  rcases stands with same | same | same
  · cases names <;> simp at same
  · cases names <;> simp_all
  · simp at same

section Spelled

variable {moduleDir : Path} (there : Survey.At workspace moduleDir ["lib"])
  (short : (moduleDir.below ["Client.php"]).toString.utf8ByteSize ≤ Tree.maxPathBytes)

include there short

/-- However `lib` is spelled, a search finds the class, if there is room for its name and the
pattern accepts it. -/
theorem exists_searchFiles (pieces : List Glob.Piece) :
    ∃ files, Survey.searchFiles workspace moduleDir pieces = .ok files ∧
      ∀ path, path ∈ files ↔ path = moduleDir.below ["Client.php"] ∧
        Glob.accepts pieces "Client.php".toList = true := by
  have connected := proper_workspace.connected
  have fits (names : List String) (name : String) (_ : Glob.accepts pieces name.toList = true)
      (stands : (workspace.tree.at? (["lib"] ++ (names ++ [name]))).isSome) :
      (moduleDir.below (names ++ [name])).toString.utf8ByteSize ≤ Tree.maxPathBytes := by
    obtain ⟨rfl, rfl⟩ := stands_in_lib stands
    exact short
  obtain ⟨files, searched⟩ := (there.exists_searchFiles_iff connected).2 fits
  refine ⟨files, searched, fun path => ?_⟩
  rw [there.mem_searchFiles_iff connected searched]
  constructor
  · rintro ⟨names, name, entry, rfl, accepted, -, stands, -⟩
    obtain ⟨rfl, rfl⟩ := stands_in_lib (Option.isSome_of_eq_some stands)
    exact ⟨rfl, accepted⟩
  · rintro ⟨rfl, accepted⟩
    refine ⟨[], "Client.php", _, rfl, accepted, ?_, rfl, rfl⟩
    rw [Workspace.locate_below_of_stands connected there.located rfl, if_neg (Nat.not_lt.2 short)]
    rfl

/-- The class is read there. -/
theorem exists_classAt? :
    ∃ found, Survey.classAt? workspace (moduleDir.below ["Client.php"]) = some found := by
  have connected := proper_workspace.connected
  have passable : ∀ name ∈ ["Client.php"], Tree.Passable name :=
    @Tree.Connected.passable _ connected ["lib"] _ rfl
  have plain := Workspace.hasNul_below there.plain passable
  have located : workspace.locate (moduleDir.below ["Client.php"]) = .ok ["lib", "Client.php"] := by
    rw [Workspace.locate_below_of_stands connected there.located rfl, if_neg (Nat.not_lt.2 short)]
    rfl
  have decoded : String.ofList (Text.unifyLineEnds (Text.Utf8.decodeLossy
      (Text.Utf8.encode clientText))) = clientText := by decide +kernel
  have read : workspace.readSource? (moduleDir.below ["Client.php"]) = .ok (some clientText) :=
    Workspace.readSource?_eq_some_iff.2
      ⟨_, Workspace.read_eq_ok_iff.2 ⟨plain, _, located, rfl⟩, decoded.symm⟩
  have shown : ApiClass.ofSource? (.ofString "lib/Client.php") clientText = some client := by
    decide +kernel
  rw [Survey.classAt?, Survey.result_indexFile, read]
  simp only [Except.map, Option.bind_some]
  rw [ApiClass.ofSource?_eq_map _ (.ofString "lib/Client.php"), shown]
  exact ⟨_, rfl⟩

/-- So the class is indexed. -/
theorem exists_indexing {survey : Survey} (module : survey.moduleDir = moduleDir)
    (php : survey.extension = ".php") :
    ∃ indexing, (survey.buildIndex workspace).result = .ok indexing ∧
      indexing.index.size ≠ 0 := by
  obtain ⟨files, searched, member⟩ := exists_searchFiles there short (Glob.endingWith ".php".toList)
  obtain ⟨found, yields⟩ := exists_classAt? there short
  have listed : moduleDir.below ["Client.php"] ∈ files :=
    (member _).2 ⟨rfl, Glob.accepts_endingWith_iff.2 (by decide)⟩
  have wins := Indexing.firstWins_foldl (Survey.classesOf workspace files) []
  refine ⟨(Survey.classesOf workspace files).foldl Indexing.add (.start []), ?_, ?_⟩
  · have plain := Survey.isPlain_php php
    rw [Survey.buildIndex, Survey.result_buildIndexOnto, Survey.sourceFiles_eq_searchFiles plain,
      php, module, searched]
    rfl
  · have known : found.id ∈ (Survey.classesOf workspace files).map (·.id) :=
      List.mem_map_of_mem (List.mem_filterMap.2 ⟨_, listed, yields⟩)
    rw [← List.mem_eraseDups, ← wins.keys_eq] at known
    rw [Roster.size_eq_length_keys]
    exact Nat.ne_of_gt (List.length_pos_of_mem known)

/-- No observer is registered. -/
theorem findLinks_eq_nil {survey : Survey} (module : survey.moduleDir = moduleDir) :
    (survey.findLinks workspace).result = .ok [] := by
  obtain ⟨files, searched, member⟩ := exists_searchFiles there short [.many]
  have configs : survey.configFiles workspace = .ok [] := by
    rw [Survey.configFiles_eq, module, searched]
    refine congrArg Except.ok (List.filter_eq_nil_iff.2 fun path listed => ?_)
    obtain ⟨rfl, -⟩ := (member path).1 listed
    have named : (moduleDir.below ["Client.php"]).name = "Client.php" := by
      simp [Path.name, Path.below]
    have other : Text.lower "Client.php".toList ≠ Survey.configName.toList := by decide +kernel
    rw [Survey.isConfig, Survey.hasConfigName, named, decide_eq_false other, Bool.false_and]
    exact Bool.false_ne_true
  exact Trace.result_bind_eq_ok_iff.2 ⟨_, configs, rfl⟩

/-- So everything is ready. -/
theorem exists_ready {documentation : Documentation}
    (module : documentation.survey.moduleDir = moduleDir)
    (php : documentation.survey.extension = ".php") (standard : documentation.diagram = .standard) :
    ∃ analysis text, documentation.Ready workspace analysis text ∧ analysis.links = [] := by
  obtain ⟨indexing, built, size⟩ := exists_indexing there short module php
  have links := findLinks_eq_nil there short module
  let analysis : Analysis := ⟨indexing.index, [], .empty, .compute indexing.index .empty⟩
  obtain ⟨text, made⟩ := exists_built standard (rfl : analysis.observers = .empty)
  have analyzed : (documentation.survey.analyze workspace).result = .ok analysis :=
    Survey.analyze_eq_ok_iff.2 ⟨indexing, built, rfl, links, rfl, rfl⟩
  exact ⟨analysis, text, ⟨analyzed, if_neg size, made⟩, rfl⟩

end Spelled

/-! ### A page that has no room -/

/-- The path of `lib` by way of a number of detours. -/
def detoured (count : Nat) : Path where
  anchor := .relative
  parts := (List.replicate count ["lib", ".."]).flatten ++ ["lib"]

/-- Each detour takes up seven bytes. -/
theorem size_detoured (count : Nat) (names : List String) :
    ((detoured count).below names).toString.utf8ByteSize + 1 =
      7 * count + 4 + (names.map fun name => name.utf8ByteSize + 1).sum := by
  have sizes : "lib".utf8ByteSize = 3 ∧ "..".utf8ByteSize = 2 := by decide
  rw [Path.utf8ByteSize_toString rfl (by simp [detoured, Path.below])]
  simp only [detoured, Path.below, List.map_append, List.sum_append, List.map_cons, List.map_nil,
    List.sum_cons, List.sum_nil, sizes]
  induction count with
  | zero => simp
  | succ count ih =>
    simp only [List.replicate_succ, List.flatten_cons, List.map_append, List.sum_append,
      List.map_cons, List.map_nil, List.sum_cons, List.sum_nil, sizes]
    omega

/-- All detours lead to `lib`. -/
theorem walk_detoured (count : Nat) :
    workspace.tree.walk [] (detoured count).parts = .ok ["lib"] := by
  unfold detoured
  induction count with
  | zero => rfl
  | succ count ih =>
    have back (rest : List String) :
        workspace.tree.walk [] ("lib" :: ".." :: rest) = workspace.tree.walk [] rest := rfl
    rw [List.replicate_succ, List.flatten_cons]
    exact (back _).trans ih

/-- As long as there is room, the module is there. -/
theorem at_detoured {count : Nat} (short : 7 * count + 3 ≤ Tree.maxPathBytes) :
    Survey.At workspace (detoured count) ["lib"] where
  plain := by
    rw [Workspace.hasNul, List.any_eq_false]
    intro part member
    simp only [detoured, List.mem_append, List.mem_flatten, List.mem_replicate,
      List.mem_singleton] at member
    rcases member with ⟨_, ⟨-, rfl⟩, inside⟩ | rfl
    · revert part
      decide
    · decide
  located := by
    have same : (detoured count).below [] = detoured count := by simp [Path.below]
    have size := size_detoured count []
    rw [same, List.map_nil, List.sum_nil] at size
    exact Workspace.locate_eq_ok_iff.2 ⟨by omega, walk_detoured count⟩
  directory := rfl

/-- The module with so many detours that there is just room for the class, documented in
itself. -/
def crowded : Documentation where
  survey := { survey with moduleDir := detoured 583 }
  outputDir := .ofString "lib"
  address := .none
  catalog := false
  diagram := .standard
  halves := .none

/-- The class fits exactly. -/
theorem short_crowded :
    ((detoured 583).below ["Client.php"]).toString.utf8ByteSize ≤ Tree.maxPathBytes := by
  have size := size_detoured 583 ["Client.php"]
  have name : "Client.php".utf8ByteSize = 10 := by decide
  rw [List.map_cons, List.map_nil, List.sum_cons, List.sum_nil, name] at size
  exact Nat.le_of_eq (Nat.add_right_cancel size)

/-- So the report is written. -/
theorem exists_succeeds_crowded : ∃ after analysis text,
    crowded.Succeeds workspace workspace after analysis text ∧
      after = workspace.put ["lib", "checkout.md"] (.file (Text.Utf8.encode text)) := by
  have there : Survey.At workspace (detoured 583) ["lib"] := at_detoured (by decide)
  obtain ⟨analysis, text, ready, -⟩ :=
    exists_ready there short_crowded (rfl : crowded.survey.moduleDir = _) rfl rfl
  have making : workspace.makeDirectories crowded.outputDir = (workspace, .ok ()) :=
    Workspace.makeDirectories_of_isDirectory (by decide +kernel)
  have placed : workspace.placeFor crowded.reportPath = .ok ["lib", "checkout.md"] := rfl
  have free : workspace.tree.at? ["lib", "checkout.md"] = none := by decide +kernel
  have reported : workspace.writeText crowded.halves crowded.reportPath text = (_, .ok ()) :=
    Workspace.writeText_of_writable rfl (Text.Halves.encodable_none text) placed
      (Workspace.writable_of_none free)
  exact ⟨_, analysis, text, ⟨ready, making, .cons reported (.nil _)⟩, rfl⟩

/-! ### A run that can be repeated -/

/-- The module under a spelling, documented in a directory that is made inside it. -/
def nested (moduleDir : Path) : Documentation :=
  { documentation with
    survey := { survey with moduleDir := moduleDir }
    outputDir := .ofString "lib/docs" }

/-- A workspace with a documentation inside the module. -/
def documented (base : Workspace) (report catalog : Text.Bytes) : Workspace :=
  ((base.put ["lib", "docs"] .directory).put ["lib", "docs", "checkout.md"]
    (.file report)).put ["lib", "docs", "index.md"] (.file catalog)

/-- Once everything is ready, the directory is made and both pages are written, whatever stands
beside the module. -/
theorem exists_succeeds_nested {base : Workspace} {moduleDir : Path} {analysis : Analysis}
    {text : String} (keeps : workspace.Keeps base)
    (agree : Tree.AgreeBelow ["lib"] workspace.tree base.tree)
    (ready : (nested moduleDir).Ready base analysis text) :
    ∃ made report catalog,
      (nested moduleDir).Succeeds base made (documented base report catalog) analysis text := by
  have vacant (names : List String) : base.tree.at? ("lib" :: "docs" :: names) = none :=
    agree _ ⟨"docs" :: names, rfl⟩
  have room : workspace.placeFor (nested moduleDir).outputDir = .ok ["lib", "docs"] := rfl
  let made := base.put ["lib", "docs"] .directory
  have making : base.makeDirectories (nested moduleDir).outputDir = (made, .ok ()) :=
    Workspace.makeDirectories_of_makeDirectory rfl
      (Workspace.makeDirectory_eq_ok_iff.2 ⟨_, keeps.placeFor room, vacant [], rfl⟩)
  have kept : (workspace.put ["lib", "docs"] .directory).Keeps made := keeps.put (by simp) _
  have placed : made.placeFor (nested moduleDir).reportPath = .ok ["lib", "docs", "checkout.md"] :=
    kept.placeFor rfl
  have free {name : String} : made.tree.at? ["lib", "docs", name] = none := by
    rw [Workspace.at?_put (by simp), if_neg (by simp), vacant [name]]
  let reported := made.put ["lib", "docs", "checkout.md"] (.file (Text.Utf8.encode text))
  have report : made.writeText .none (nested moduleDir).reportPath text = (reported, .ok ()) :=
    Workspace.writeText_of_writable rfl (Text.Halves.encodable_none text) placed
      (Workspace.writable_of_none free)
  have placed' : reported.placeFor (nested moduleDir).catalogPath =
      .ok ["lib", "docs", "index.md"] :=
    (kept.trans (Workspace.keeps_put (Workspace.writable_of_none free) _)).placeFor rfl
  have free' : reported.tree.at? ["lib", "docs", "index.md"] = none := by
    rw [Workspace.at?_put (by simp), if_neg (by decide)]
    exact free
  have catalog : reported.writeText .none (nested moduleDir).catalogPath
      (Report.catalog analysis.index) = (_, .ok ()) :=
    Workspace.writeText_of_writable rfl (Text.Halves.encodable_none _) placed'
      (Workspace.writable_of_none free')
  exact ⟨made, _, _, ready, making, .cons report (.cons catalog (.nil _))⟩

/-- The module is there. -/
theorem at_lib : Survey.At workspace (.ofString "lib") ["lib"] := ⟨rfl, rfl, rfl⟩

/-- The path of the class is short. -/
theorem short_lib :
    ((Path.ofString "lib").below ["Client.php"]).toString.utf8ByteSize ≤ Tree.maxPathBytes := by
  decide +kernel

/-- So are the paths of all that is made. -/
theorem fits_nested (report catalog : Text.Bytes) :
    (nested (.ofString "lib")).Fits workspace (documented workspace report catalog) := by
  intro start names located free stands
  obtain rfl : ["lib"] = start := Except.ok.inj (at_lib.located.symm.trans located)
  rw [documented, Workspace.at?_put (by simp), Workspace.at?_put (by simp),
    Workspace.at?_put (by simp)] at stands
  split at stands
  · next same =>
    obtain rfl : names = ["docs", "index.md"] := by simpa using same
    decide +kernel
  · split at stands
    · next same =>
      obtain rfl : names = ["docs", "checkout.md"] := by simpa using same
      decide +kernel
    · split at stands
      · next same =>
        obtain rfl : names = ["docs"] := by simpa using same
        decide +kernel
      · rw [free] at stands
        cases stands

end Shop

namespace Documentation

variable {workspace : Workspace} {documentation : Documentation}

/-- Where a run succeeds on a module with tame observers, the request can be followed anew, and a
second run finds out the same, gives the same path and leaves everything as it is, so it writes what
the first one wrote. This holds if all that is new below the module has a path that is short enough
to be looked up, and only then does a second run succeed. -/
theorem run_again {time : String} {path : Path} (proper : workspace.tree.Proper)
    (php : documentation.survey.extension = ".php")
    (tame : ∀ links, (documentation.survey.findLinks workspace).result = .ok links →
      ∀ link ∈ links, link.observer.Tame)
    (done : (documentation.run workspace time).2.result = .ok path) :
    let after := (documentation.run workspace time).1
    path = documentation.reportPath ∧
    (∀ request, ofRequest workspace request = .ok documentation →
      ofRequest after request = .ok documentation) ∧
    (∃ analysis, (documentation.survey.analyze workspace).result = .ok analysis ∧
      (documentation.Fits workspace after → ∀ later, documentation.Confirms after later analysis)) ∧
    ∀ later, (∃ again, (documentation.run after later).2.result = .ok again) ↔
      documentation.Fits workspace after := by
  intro after
  obtain ⟨rfl, made, analysis, text, succeeds⟩ := exists_succeeds_of_run done
  obtain ⟨_, -, -, found, -⟩ := Survey.analyze_eq_ok_iff.1 succeeds.ready.analyzed
  have confirms := succeeds.confirms proper.connected php (tame _ found)
  have keeps := (succeeds.grows proper.connected).keeps
  refine ⟨rfl, fun _ => ofRequest_of_keeps keeps,
    ⟨analysis, succeeds.ready.analyzed, confirms⟩, fun later => ⟨?_, fun fits => ?_⟩⟩
  · rintro ⟨again, done'⟩
    exact succeeds.fits proper.connected done'
  · exact ⟨_, (confirms fits later).result⟩

theorem run_again_nested : ∃ analysis,
    ((Shop.nested (.ofString "lib")).survey.analyze Shop.workspace).result = .ok analysis ∧
      ∀ later, (Shop.nested (.ofString "lib")).Confirms
        ((Shop.nested (.ofString "lib")).run Shop.workspace "").1 later analysis := by
  obtain ⟨_, _, ready, -⟩ := Shop.exists_ready Shop.at_lib Shop.short_lib
    (rfl : (Shop.nested (.ofString "lib")).survey.moduleDir = _) rfl rfl
  obtain ⟨made, report, catalog, succeeds⟩ :=
    Shop.exists_succeeds_nested (.refl _) (fun _ _ => rfl) ready
  obtain ⟨left, done⟩ := succeeds.run ""
  have tame : ∀ links, ((Shop.nested (.ofString "lib")).survey.findLinks Shop.workspace).result =
      .ok links → ∀ link ∈ links, link.observer.Tame := by
    intro links found
    rw [Shop.findLinks_eq_nil Shop.at_lib Shop.short_lib rfl] at found
    cases found
    exact fun _ member => absurd member List.not_mem_nil
  obtain ⟨-, -, ⟨analysis, analyzed, again⟩, -⟩ := run_again Shop.proper_workspace rfl tame done
  exact ⟨analysis, analyzed, again (left ▸ Shop.fits_nested report catalog)⟩

/-- With the detours, there is no room for the report: the first run writes it, and no other run
succeeds. -/
theorem run_again_crowded :
    Shop.workspace.tree.Proper ∧ Shop.crowded.survey.extension = ".php" ∧
      (Shop.crowded.survey.findLinks Shop.workspace).result = .ok [] ∧
      (∃ path, (Shop.crowded.run Shop.workspace "").2.result = .ok path) ∧
      ∀ later path, (Shop.crowded.run (Shop.crowded.run Shop.workspace "").1 later).2.result ≠
        .ok path := by
  have there : Survey.At Shop.workspace (Shop.detoured 583) ["lib"] :=
    Shop.at_detoured (by decide)
  obtain ⟨after, analysis, text, succeeds, same⟩ := Shop.exists_succeeds_crowded
  obtain ⟨left, done⟩ := succeeds.run ""
  refine ⟨Shop.proper_workspace, rfl, Shop.findLinks_eq_nil there Shop.short_crowded rfl,
    ⟨_, done⟩, fun later path again => ?_⟩
  rw [left] at again
  have fits := succeeds.fits Shop.proper_workspace.connected again ["lib"] ["checkout.md"]
    there.located rfl
  have stands : (after.tree.at? ["lib", "checkout.md"]).isSome := by
    rw [same]
    exact Option.isSome_of_eq_some (Workspace.at?_put_self _ (by simp) _)
  have size := Shop.size_detoured 583 ["checkout.md"]
  have name : "checkout.md".utf8ByteSize = 11 := by decide
  rw [List.map_cons, List.map_nil, List.sum_cons, List.sum_nil, name] at size
  have long := fits stands
  rw [Shop.crowded, Nat.add_right_cancel size] at long
  exact absurd long (by decide)

end Documentation

end EventAtlas
