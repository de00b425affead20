import EventAtlas.Proofs.Documentation.Failure
import EventAtlas.Proofs.Settings.Failure
import EventAtlas.Proofs.Settings.Nearest

/-!
# The configuration that is named

The path of a configuration is taken apart into a directory and a name, and the name is searched for
from this directory on upwards. As the named file stands there, no directory is nearer, so it is the
one that is loaded, whatever stands above it. Only where `.venv` is a part of the path of its
directory, the search passes it over, and what it finds further up is another file or nothing.
-/

namespace EventAtlas

/-! ### Taking a path apart -/

namespace Workspace

variable {workspace : Workspace} {path : Path} {place : Location} {entry : Entry}

/-- Where a path leads to a file, everything but its last part leads to the directory around the
file, and this part is the name of the file. -/
theorem exists_around_of_file (connected : workspace.tree.Connected)
    (here : workspace.tree.at? workspace.current = some .directory)
    (located : workspace.locate path = .ok place)
    (stands : workspace.tree.at? place = some entry) (file : entry.isFile = true) :
    ∃ around, place = around ++ [path.name] ∧ path.parts = path.parent.parts ++ [path.name] ∧
      workspace.tree.walk (workspace.start path) path.parent.parts = .ok around ∧
      workspace.tree.at? around = some .directory := by
  have solid : workspace.tree.at? place ≠ some .directory := by
    rw [stands]
    rintro ⟨⟩
    cases file
  obtain ⟨-, led⟩ := locate_eq_ok_iff.1 located
  obtain ⟨anchor, parts⟩ := path
  induction parts using List.reverseRecOn with
  | nil =>
    -- Without parts, a path leads to a directory.
    cases led
    unfold start at solid
    split at solid
    · exact absurd rfl solid
    · exact absurd here solid
  | append_singleton above name _ =>
    have last : Path.name ⟨anchor, above ++ [name]⟩ = name := by simp [Path.name]
    have before : Path.parent ⟨anchor, above ++ [name]⟩ = ⟨anchor, above⟩ := by simp [Path.parent]
    rw [Tree.walk_append] at led
    obtain ⟨around, upTo, step⟩ := bind_eq_ok_iff.1 led
    rw [last, before]
    obtain ⟨directory, ⟨-, rfl⟩ | ⟨-, -, -, rfl⟩⟩ := Tree.walk_singleton_eq_ok_iff.1 step
    · -- Going back from a directory leads to another one.
      have up : workspace.tree.at? around.dropLast = some .directory := by
        cases around using List.reverseRecOn with
        | nil => rfl
        | append_singleton further name =>
          rw [List.dropLast_concat]
          exact (connected further name (Option.isSome_of_eq_some directory)).2
      exact absurd up solid
    · exact ⟨around, rfl, rfl, upTo, directory⟩

end Workspace

namespace Path

/-- A part of a written path that can be gone through is a name. -/
theorem isName_of_mem_ofString {written part : String} (member : part ∈ (ofString written).parts)
    (passable : Tree.Passable part) : Tree.IsName part := by
  obtain ⟨field, some, noDot⟩ := mem_partsOf_iff.1 member
  obtain ⟨notUp, noNul, short⟩ := passable
  refine ⟨?_, ?_, notUp, Text.separator_not_mem_fields field, noNul, short⟩
  · rintro rfl
    exact some rfl
  · rintro rfl
    exact noDot rfl

end Path

/-! ### What the settings of a file are -/

namespace Settings

/-- `.venv` is a piece of the path of a directory. A search passes it over then. -/
def InVenv (place : Location) : Prop :=
  ".venv".toList <:+: (Path.ofLocation place).toString.toList

instance (place : Location) : Decidable (InVenv place) :=
  inferInstanceAs (Decidable (_ <:+: _))

variable {workspace : Workspace} {name : String} {start : Path} {place root : Location}
  {loader : Loader} {entry : Entry} {settings : Settings}

/-- What is read from a file at a location. One that is locked may not be opened. -/
def contentOf (place : Location) : Entry → Except Failure Text.Bytes
  | .file content => .ok content
  | _ => .error (.file .notPermitted (Path.ofLocation place).toString)

/-- What a file at a location is loaded as. Its paths are meant relative to the directory around
it. -/
def ofFile (loader : Loader) (workspace : Workspace) (place : Location) (entry : Entry) :
    Except Failure Settings := do
  let root := .ofLocation place.dropLast
  let file := .ofLocation place
  let entries ← readTable loader file (← contentOf place entry)
  let moduleDir ← moduleDirIn workspace root entries
  let outputDir ← outputDirIn workspace root entries
  return { root, file, moduleDir, outputDir, entries }

/-- Settings tell from which file they are. -/
theorem file_of_ofFile (loaded : ofFile loader workspace place entry = .ok settings) :
    settings.file = .ofLocation place := by
  obtain ⟨_, -, loaded⟩ := bind_eq_ok_iff.1 loaded
  obtain ⟨_, -, loaded⟩ := bind_eq_ok_iff.1 loaded
  obtain ⟨_, -, loaded⟩ := bind_eq_ok_iff.1 loaded
  obtain ⟨_, -, loaded⟩ := bind_eq_ok_iff.1 loaded
  cases loaded
  rfl

/-- What is loaded comes from the file in the directory that is found. -/
theorem found_of_find (loaded : find loader workspace start name = .ok settings) :
    findRoot workspace start name = .ok settings.root ∧
      settings.file = settings.root.join (.ofString name) := by
  obtain ⟨root, found, loaded⟩ := bind_eq_ok_iff.1 loaded
  obtain ⟨_, -, loaded⟩ := bind_eq_ok_iff.1 loaded
  obtain ⟨_, -, loaded⟩ := bind_eq_ok_iff.1 loaded
  obtain ⟨_, -, loaded⟩ := bind_eq_ok_iff.1 loaded
  obtain ⟨_, -, loaded⟩ := bind_eq_ok_iff.1 loaded
  cases loaded
  exact ⟨found, rfl⟩

/-- Only a search says that no configuration is found. -/
theorem findRoot_of_notFound {other : String} {origin : Path}
    (failed : find loader workspace start name = .error (.configNotFound other origin)) :
    findRoot workspace start name = .error (.configNotFound other origin) := by
  generalize same : Failure.configNotFound other origin = failure at failed ⊢
  cases find_eq_error_iff.1 failed with
  | lost lost => exact findRoot_eq_error_iff.2 lost
  | locked => cases same
  | unread _ unread =>
    cases unread with
    | undecoded => cases same
    | @refused _ refusal => cases refusal <;> cases same
    | other => cases same
  | module _ fails => cases fails <;> cases same
  | output _ _ fails => cases fails <;> cases same

/-- A path that starts at the root and is not too long reads the file that stands there. -/
theorem read_ofLocation (connected : workspace.tree.Connected)
    (stands : workspace.tree.at? place = some entry) (file : entry.isFile = true)
    (fits : (Path.ofLocation place).toString.utf8ByteSize ≤ Tree.maxPathBytes) :
    workspace.read (.ofLocation place) = contentOf place entry := by
  have there := Option.isSome_of_eq_some stands
  have led : workspace.locate (.ofLocation place) = .ok place :=
    Workspace.locate_eq_ok_iff.2 ⟨fits, connected.walk_root there⟩
  have plain := Workspace.hasNul_ofLocation (connected.passable_root there)
  rw [Workspace.read, plain, led]
  simp only [bind, Except.bind, Tree.read, stands]
  cases entry with
  | file content => rfl
  | lockedFile => rfl
  | directory => cases file
  | lockedDirectory => cases file

/-- Once the nearest directory is found, its file is what is loaded. -/
theorem find_eq_ofFile (connected : workspace.tree.Connected) (named : Tree.IsName name)
    (found : findRoot workspace start name = .ok (.ofLocation root))
    (stands : workspace.tree.at? (root ++ [name]) = some entry) (file : entry.isFile = true)
    (fits : (Path.ofLocation (root ++ [name])).toString.utf8ByteSize ≤ Tree.maxPathBytes) :
    find loader workspace start name = ofFile loader workspace (root ++ [name]) entry := by
  have read := read_ofLocation connected stands file fits
  rw [find, found]
  simp only [bind, Except.bind, Path.join_of_isName named, read, ofFile, List.dropLast_concat]

end Settings

namespace CommandLine

open Settings

variable {host : Host} {workspace : Workspace} {options : Options} {config time : String}
  {arguments : List String} {place around : Location} {entry : Entry}

/-! ### What a path names -/

/-- What the search for the configuration at a written path loads. -/
abbrev settingsAt (loader : Loader) (workspace : Workspace) (config : String) :
    Except Failure Settings :=
  find loader workspace (searchFor config).1 (searchFor config).2

/-- The file that the path of a configuration names: it stands in a directory, and it is in this
directory that the search for its name starts. -/
structure Names (workspace : Workspace) (config : String) (around : Location) (entry : Entry) :
    Prop where
  located : workspace.locate (.ofString config) = .ok (around ++ [(searchFor config).2])
  stands : workspace.tree.at? (around ++ [(searchFor config).2]) = some entry
  file : entry.isFile = true
  named : Tree.IsName (searchFor config).2
  plain : Workspace.hasNul (searchFor config).1 = false
  short : ∀ part ∈ (searchFor config).1.parts, part.utf8ByteSize ≤ Tree.maxNameBytes
  resolved : workspace.resolve (searchFor config).1 = .ofLocation around
  directory : workspace.tree.at? around = some .directory

/-- A path that leads to a file names it. -/
theorem exists_names (connected : workspace.tree.Connected)
    (here : workspace.tree.at? workspace.current = some .directory)
    (leads : workspace.isFile (.ofString config) = .ok true) :
    ∃ around entry, Names workspace config around entry := by
  obtain ⟨plain, place, entry, located, stands, file⟩ := Workspace.isFile_iff.1 leads
  obtain ⟨around, rfl, parts, led, directory⟩ :=
    Workspace.exists_around_of_file connected here located stands file
  have there := Option.isSome_of_eq_some here
  have last : (searchFor config).2 ∈ (Path.ofString config).parts := by
    rw [parts]
    exact List.mem_append_right _ (List.mem_singleton_self _)
  have some : (workspace.tree.at? (around ++ [(searchFor config).2])).isSome :=
    Option.isSome_of_eq_some stands
  have passable := (connected _ _ some).1
  refine ⟨around, entry, located, stands, file, Path.isName_of_mem_ofString last passable, ?_,
    Tree.short_of_walk led, ?_, directory⟩
  · rw [Workspace.hasNul, List.any_eq_false] at plain ⊢
    exact fun part member => plain part (by rw [parts]; exact List.mem_append_left _ member)
  · exact congrArg Path.ofLocation (Workspace.parts_resolve connected there led)

namespace Names

/-- The search starts in the directory around the file. -/
theorem searchedFrom_eq (names : Names workspace config around entry) :
    searchedFrom workspace (searchFor config).1 = around := by
  have none : ¬ workspace.tree.HoldsFile around := by
    rintro ⟨_, stands, file⟩
    rw [names.directory] at stands
    cases stands
    cases file
  rw [searchedFrom, names.resolved]
  exact if_neg none

/-- No directory is nearer than this one. -/
theorem nearest (names : Names workspace config around entry)
    (listed : ¬ InVenv around) :
    Nearest workspace.tree (searchFor config).2 (searchedFrom workspace (searchFor config).1)
      around := by
  rw [names.searchedFrom_eq]
  exact ⟨List.prefix_rfl, ⟨⟨entry, names.stands, names.file⟩, listed⟩, fun other above _ => above⟩

/-- The search can look for its files if the path of the named one is not too long. -/
theorem fits (names : Names workspace config around entry) (connected : workspace.tree.Connected)
    (short : (Path.ofLocation (around ++ [(searchFor config).2])).toString.utf8ByteSize ≤
      Tree.maxPathBytes) : Fits workspace (searchFor config).1 (searchFor config).2 := by
  refine ⟨names.plain, ?_, by rwa [names.searchedFrom_eq], ?_⟩
  · rw [names.resolved]
    refine (Path.utf8ByteSize_ofLocation_le ?_).trans short
    exact List.prefix_append ..
  · rw [names.searchedFrom_eq]
    exact connected.unlocked names.directory

variable (names : Names workspace config around entry) (connected : workspace.tree.Connected)
  (here : workspace.tree.at? workspace.current = some .directory)

include names connected here

/-- So it finds the directory around the file. -/
theorem findRoot_eq (listed : ¬ InVenv around)
    (fits : Fits workspace (searchFor config).1 (searchFor config).2) :
    findRoot workspace (searchFor config).1 (searchFor config).2 = .ok (.ofLocation around) :=
  ((finds connected names.named here names.short).root_iff fits _).2
    ⟨_, rfl, names.nearest listed⟩

/-- The file is what is loaded. -/
theorem find_eq (listed : ¬ InVenv around)
    (short : (Path.ofLocation (around ++ [(searchFor config).2])).toString.utf8ByteSize ≤
      Tree.maxPathBytes) :
    settingsAt host.loader workspace config =
      ofFile host.loader workspace (around ++ [(searchFor config).2]) entry :=
  find_eq_ofFile connected names.named
    (names.findRoot_eq connected here listed (names.fits connected short)) names.stands names.file
    short

/-- A search that comes to an end was refused no path. -/
theorem fits_of_findRoot {found : Path}
    (done : findRoot workspace (searchFor config).1 (searchFor config).2 = .ok found) :
    Fits workspace (searchFor config).1 (searchFor config).2 := by
  by_contra stuck
  obtain ⟨_, _, -, -, failed⟩ :=
    (finds connected names.named here names.short).of_not_fits names.plain stuck
  rw [failed] at done
  cases done

/-- Whatever is loaded is what the file holds. -/
theorem ofFile_of_find (listed : ¬ InVenv around)
    {settings : Settings}
    (loaded : settingsAt host.loader workspace config = .ok settings) :
    ofFile host.loader workspace (around ++ [(searchFor config).2]) entry = .ok settings := by
  have short := (names.fits_of_findRoot connected here (found_of_find loaded).1).file
  rw [names.searchedFrom_eq] at short
  rw [← names.find_eq connected here listed short, loaded]

/-- A file that the search passes over is never what is loaded. -/
theorem file_ne_of_find (passed : InVenv around)
    {settings : Settings}
    (loaded : settingsAt host.loader workspace config = .ok settings) :
    settings.file ≠ .ofLocation (around ++ [(searchFor config).2]) := by
  obtain ⟨found, file⟩ := found_of_find loaded
  have fits := names.fits_of_findRoot connected here found
  obtain ⟨place, root, near⟩ :=
    ((finds connected names.named here names.short).root_iff fits _).1 found
  intro same
  rw [file, root, Path.join_of_isName names.named] at same
  have parts : place ++ [(searchFor config).2] = around ++ [(searchFor config).2] :=
    congrArg Path.parts same
  exact near.eligible.2 (List.append_cancel_right parts ▸ passed)

/-- The file is found, whatever it holds. -/
theorem find_ne_notFound (listed : ¬ InVenv around)
    (name : String) (start : Path) :
    settingsAt host.loader workspace config ≠ .error (.configNotFound name start) := by
  intro failed
  have lost := findRoot_of_notFound failed
  by_cases fits : Fits workspace (searchFor config).1 (searchFor config).2
  · rw [names.findRoot_eq connected here listed fits] at lost
    cases lost
  · obtain ⟨_, _, -, -, failed⟩ :=
      (finds connected names.named here names.short).of_not_fits names.plain fits
    rw [failed] at lost
    cases lost

end Names

/-! ### What a run complains about -/

/-- What a run complains about is how what its options ask for fails. -/
theorem fails_of_complaint {failure : Failure} {debug : Bool}
    (complains : (document host workspace options time).complaint = some (.failed failure debug)) :
    Fails host workspace options time failure := by
  unfold document at complains
  rcases request?_cases host workspace options time with ⟨none, -⟩ | ⟨trace, some, asks, fails⟩
  · rw [none] at complains
    cases complains
  · simp only [some] at complains
    cases result : (fulfil workspace trace time).2.result with
    | ok path =>
      rw [result] at complains
      cases complains
    | error cause =>
      rw [result] at complains
      cases complains
      rcases fulfil_cases workspace trace time with
        ⟨request, documentation, asked, followed, -, same⟩ | ⟨cause', result', failed⟩
      · exact .run (asks _ asked) followed (same ▸ result)
      · rw [result] at result'
        cases result'
        rcases failed with failed | ⟨request, asked, refused⟩
        · exact fails _ failed
        · exact .request (asks _ asked) refused

/-- Only where no configuration is found, a run says so. -/
theorem find_of_notFound {debug : Bool} {name : String} {start : Path}
    (given : options.config = some config)
    (complains : (document host workspace options time).complaint =
      some (.failed (.configNotFound name start) debug)) :
    settingsAt host.loader workspace config = .error (.configNotFound name start) := by
  cases fails_of_complaint complains with
  | configuration given' named lost =>
    rw [given] at given'
    cases given'
    exact lost
  | request asks refused => cases Documentation.failsApart_ofRequest _ _ refused
  | run asks followed failed => cases Documentation.failsApart_run _ failed

/-- A run tells first which configuration it has loaded. -/
theorem head?_lines_of_find (given : options.config = some config) (named : config ≠ "")
    {settings : Settings}
    (loaded : settingsAt host.loader workspace config = .ok settings) :
    (document host workspace options time).lines.head? =
      some (Notice.configLoaded settings.file).line := by
  let request : Trace Request :=
    ⟨[.configLoaded settings.file], .ok (settings.request host.halves options.verbose)⟩
  have asked : request? host workspace options = some request := by
    have kept : options.config.filter (· ≠ "") = some config := by simp [given, named]
    unfold request?
    rw [kept]
    simp only [load, loaded]
    rfl
  have told (trace : Trace Request) :
      trace.notices <+: (fulfil workspace trace time).2.notices := by
    unfold fulfil
    dsimp only
    have first := Trace.notices_prefix_bind trace fun request =>
      Trace.ofExcept (Documentation.ofRequest workspace request)
    split
    · exact first
    · exact first.trans (Trace.notices_prefix_bind ..)
  obtain ⟨more, notices⟩ := told request
  simp only [document, asked, ← notices]
  rfl

/-! ### Going by the file that is named -/

/-- A run goes by the configuration in the file at a place. -/
structure GoesBy (host : Host) (workspace : Workspace) (options : Options) (config : String)
    (place : Location) (entry : Entry) (outcome : Outcome) : Prop where
  /-- What is loaded comes from the file, unless its path is too long for the system. -/
  find_eq : (Path.ofLocation place).toString.utf8ByteSize ≤ Tree.maxPathBytes →
    settingsAt host.loader workspace config = ofFile host.loader workspace place entry
  /-- Nothing else is loaded, and this is what the run tells first. -/
  loads : ∀ settings, settingsAt host.loader workspace config = .ok settings →
    ofFile host.loader workspace place entry = .ok settings ∧ settings.file = .ofLocation place ∧
      outcome.lines.head? = some (Notice.configLoaded (.ofLocation place)).line
  /-- What is asked for is what the file asks for. -/
  asks : ∀ request, Asks host workspace options request → ∃ settings,
    ofFile host.loader workspace place entry = .ok settings ∧
      request = settings.request host.halves options.verbose
  /-- The run does not end because no configuration is found. -/
  found : ∀ name start debug,
    outcome.complaint ≠ some (.failed (.configNotFound name start) debug)

/-- When arguments name a file as the configuration, the run goes by this file and by no other one
of its name, unless `.venv` is a part of the path of the file's directory. There, the file is not
loaded. -/
theorem run_named (connected : workspace.tree.Connected)
    (here : workspace.tree.at? workspace.current = some .directory)
    (asked : Command.ofArguments arguments = .ok (.document options))
    (given : options.config = some config)
    (leads : workspace.isFile (.ofString config) = .ok true) (host : Host) (time : String) :
    ∃ place entry, workspace.locate (.ofString config) = .ok place ∧
      workspace.tree.at? place = some entry ∧ entry.isFile = true ∧
      (¬ InVenv place.dropLast →
        GoesBy host workspace options config place entry (run host workspace time arguments)) ∧
      (InVenv place.dropLast →
        ∀ settings, settingsAt host.loader workspace config = .ok settings →
          settings.file ≠ .ofLocation place) := by
  obtain ⟨around, entry, names⟩ := exists_names connected here leads
  have named : config ≠ "" := by
    rintro rfl
    exact names.named.1 rfl
  have ran : run host workspace time arguments = document host workspace options time := by
    unfold run
    rw [asked]
  refine ⟨_, entry, names.located, names.stands, names.file, fun listed => ?_,
    fun passed settings => ?_⟩
  · rw [List.dropLast_concat] at listed
    rw [ran]
    refine ⟨names.find_eq connected here listed, fun settings loaded => ?_, ?_, ?_⟩
    · have same := names.ofFile_of_find connected here listed loaded
      have file := file_of_ofFile same
      exact ⟨same, file, file ▸ head?_lines_of_find given named loaded⟩
    · intro request asks
      cases asks with
      | plain unconfigured =>
        rw [given] at unconfigured
        exact absurd unconfigured named
      | configured given' _ loaded =>
        rw [given] at given'
        cases given'
        exact ⟨_, names.ofFile_of_find connected here listed loaded, rfl⟩
    · intro name start debug complains
      exact names.find_ne_notFound connected here listed name start
        (find_of_notFound given complains)
  · rw [List.dropLast_concat] at passed
    exact names.file_ne_of_find connected here passed

/-- A workspace with settings beside the small module, which name it, and others inside of it. -/
def layered : Workspace :=
  Shop.settled.put ["lib", "shop.yaml"] (.file (Text.Utf8.encode "module_dir: ../lib"))

theorem proper_layered : layered.tree.Proper :=
  @Tree.Proper.put _ Shop.proper_settled ["lib"] "shop.yaml" (by decide +kernel) (by decide +kernel)
    (by decide +kernel) _

/-- The file inside of the module is loaded as settings that name the directory around it. -/
theorem ofFile_layered :
    ofFile Yaml.load layered ["lib", "shop.yaml"] (.file (Text.Utf8.encode "module_dir: ../lib")) =
      .ok ⟨.ofString "/lib", .ofString "/lib/shop.yaml", .ofString "/lib", .ofString "/lib/docs",
        [(.text "module_dir", .text "../lib")]⟩ := by
  have table : readTable Yaml.load (.ofLocation ["lib", "shop.yaml"])
      (Text.Utf8.encode "module_dir: ../lib") = .ok [(.text "module_dir", .text "../lib")] := by
    cbv
  have module : moduleDirIn layered (.ofLocation ["lib"])
      [(.text "module_dir", .text "../lib")] = .ok (.ofString "/lib") := by
    decide +kernel
  have output : outputDirIn layered (.ofLocation ["lib"])
      [(.text "module_dir", .text "../lib")] = .ok (.ofString "/lib/docs") := by
    decide +kernel
  have root : Path.ofString "/lib" = .ofLocation ["lib"] := by decide +kernel
  have file : Path.ofString "/lib/shop.yaml" = .ofLocation ["lib", "shop.yaml"] := by
    decide +kernel
  have around : List.dropLast ["lib", "shop.yaml"] = ["lib"] := rfl
  simp only [ofFile, contentOf, around, table, module, output, root, file, bind, Except.bind, pure,
    Except.pure]

/-- A run that names the file inside of the module goes by it, and not by the one above. -/
theorem run_named_layered : layered.isFile (.ofString "shop.yaml") = .ok true ∧
    ∃ settings, settingsAt Yaml.load layered "lib/shop.yaml" = .ok settings ∧
      settings.file = .ofString "/lib/shop.yaml" ∧ settings.outputDir = .ofString "/lib/docs" ∧
      (run .standard layered "" ["--config", "lib/shop.yaml"]).lines.head? =
        some "[CONFIG] Configuration loaded from: /lib/shop.yaml" := by
  refine ⟨by decide +kernel, ?_⟩
  have asked : Command.ofArguments ["--config", "lib/shop.yaml"] =
      .ok (.document { Options.standard with config := some "lib/shop.yaml" }) := by
    decide +kernel
  obtain ⟨place, entry, located, stands, -, goes, -⟩ :=
    run_named proper_layered.connected rfl asked rfl (by decide +kernel) .standard ""
  have there : layered.locate (.ofString "lib/shop.yaml") = .ok ["lib", "shop.yaml"] := by
    decide +kernel
  obtain rfl := Except.ok.inj (located.symm.trans there)
  rw [layered, Workspace.at?_put_self _ (by simp)] at stands
  obtain rfl := Option.some.inj stands
  have goes := goes (by decide +kernel)
  have loaded := (goes.find_eq (by decide +kernel)).trans ofFile_layered
  refine ⟨_, loaded, rfl, rfl, ?_⟩
  rw [(goes.loads _ loaded).2.2]
  decide +kernel

/-- A workspace whose only configuration is in a directory that is passed over. -/
def hidden : Workspace where
  tree := .ofList [([".venv"], .directory), ([".venv", "map.yaml"], .file [])]
  current := []

theorem proper_hidden : hidden.tree.Proper := by
  intro place key
  have keys : hidden.tree.keys = [[".venv"], [".venv", "map.yaml"]] := by decide +kernel
  simp only [keys, List.mem_cons, List.not_mem_nil, or_false] at key
  rcases key with rfl | rfl
  · exact ⟨[], ".venv", rfl, by decide +kernel, rfl⟩
  · exact ⟨[".venv"], "map.yaml", rfl, by decide +kernel, by decide +kernel⟩

/-- A file in such a directory is not loaded when it is named: it is not found, or another one of
its name further up is. -/
theorem run_passed_over : hidden.tree.Connected ∧
    hidden.isFile (.ofString ".venv/map.yaml") = .ok true ∧
      (run .standard hidden "" ["--config", ".venv/map.yaml"]).complaint =
        some (.failed (.configNotFound "map.yaml" (.ofString "/.venv")) false) ∧
    (⟨nested, []⟩ : Workspace).isFile (.ofString "shop/.venv/map.yaml") = .ok true ∧
      findRoot ⟨nested, []⟩ (searchFor "shop/.venv/map.yaml").1
        (searchFor "shop/.venv/map.yaml").2 = .ok (.ofString "/shop") :=
  ⟨proper_hidden.connected, by decide +kernel⟩

end CommandLine

end EventAtlas
