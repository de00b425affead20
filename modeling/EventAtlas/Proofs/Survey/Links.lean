import EventAtlas.Proofs.Survey.Index
import EventAtlas.Proofs.Tree.Lookup
import EventAtlas.Proofs.Xml.Refusal
import EventAtlas.Survey.Links

/-!
# Finding registrations

Each event configuration is read by itself. One that cannot be opened or is ill formed declares
nothing and leaves the others as they are; one whose declared encoding is refused ends the search,
and its failure is that of the whole. Apart from this, finding registrations fails only where the
configurations cannot be listed because a path cannot be looked up.
-/

namespace EventAtlas

namespace Survey

variable {workspace : Workspace} {survey : Survey} {config : Path} {content : Text.Bytes}
  {failure : Failure}

/-! ### One configuration -/

/-- The declared encoding of a configuration is refused, which ends the search. -/
inductive Ends (content : Text.Bytes) : Failure → Prop where
  | encoding {name : String} {fault : Xml.EncodingFault}
      (refuses : Xml.Document.Refuses content name fault) : Ends content (.encoding fault)

/-- The registrations that a configuration declares: none if it cannot be parsed. -/
def declaredLinks (survey : Survey) (config : Path) (content : Text.Bytes) : List Link :=
  match Xml.Document.parse content with
  | .ok root => survey.rootLinks config root
  | .error _ => []

/-- Reading a configuration fails exactly if its encoding ends the search. -/
theorem contentLinks_eq_error_iff :
    (survey.contentLinks config content).result = .error failure ↔ Ends content failure := by
  unfold contentLinks
  constructor
  · intro failed
    split at failed
    · cases failed
    · rcases Trace.result_bind_eq_error_iff.1 failed with failed | ⟨_, -, failed⟩
      · rw [Trace.result_noteIf] at failed
        cases failed
      · cases failed
    · next fault refused =>
      cases failed
      obtain ⟨name, refuses⟩ := Xml.Document.parse_eq_error_iff.1 refused
      exact .encoding refuses
  · rintro ⟨refuses⟩
    rw [Xml.Document.parse_eq_error_iff.2 ⟨_, refuses⟩]
    rfl

/-- What is read of a configuration are the registrations that it declares. -/
theorem eq_declaredLinks {links : List Link}
    (read : (survey.contentLinks config content).result = .ok links) :
    links = survey.declaredLinks config content := by
  unfold contentLinks at read
  unfold declaredLinks
  split at read
  · next root parsed =>
    cases read
    simp only [parsed]
  · next fault parsed =>
    obtain ⟨_, -, none⟩ := Trace.result_bind_eq_ok_iff.1 read
    cases none
    simp only [parsed]
  · cases read

/-- The events that a configuration declares, each with the texts that name its observers. -/
def registered (root : Xml.Element) : List (String × List (Option String)) :=
  (eventElements root).map fun event =>
    ((event.attribute? "name").getD "",
      (event.childrenNamed "observer").map (·.attribute? "instance"))

/-- The observer that a text names; none if there is no text or it is empty. -/
def named (written : Option String) : Option ClassId :=
  let id := ClassId.canonical (written.getD "")
  if id = "" then none else some id

/-- The registrations of an event are those of the observers that the texts name. -/
def entryLinks (survey : Survey) (config : Path) (entry : String × List (Option String)) :
    List Link :=
  (entry.2.filterMap named).map (survey.link config entry.1)

/-- The registrations of a configuration are made from its texts alone. -/
theorem rootLinks_eq_flatMap (root : Xml.Element) :
    survey.rootLinks config root = (registered root).flatMap (survey.entryLinks config) := by
  have same : (named ∘ fun element : Xml.Element => element.attribute? "instance") =
      observerOf := by
    funext element
    simp only [Function.comp_apply, named, observerOf]
  simp only [rootLinks, registered, List.flatMap_map, entryLinks, List.filterMap_map, same]
  rfl

/-! ### The configurations of a module -/

/-- Whether a path is that of an event configuration that counts. -/
def isConfig (survey : Survey) (path : Path) : Bool :=
  hasConfigName path && (!survey.requireEtc || survey.isBelowEtc path)

/-- A pattern for names leads somewhere or nowhere, but it is never a failure to follow it. -/
theorem exists_select_wild (tree : Tree) (pieces : List Glob.Piece) (found : Found) :
    ∃ paths, select tree [.deep, .wild pieces] found = .ok paths := by
  have ends (places : List Found) : ∃ paths, places.mapM (select tree []) = .ok paths :=
    exists_mapM_ok fun place _ => ⟨[place.path], rfl⟩
  have inside (below : Found) : ∃ paths, select tree [.wild pieces] below = .ok paths := by
    rw [select]
    obtain ⟨results, went⟩ := ends _
    rw [went]
    exact ⟨_, rfl⟩
  have all (places : List Found) :
      ∃ paths, places.mapM (select tree [.wild pieces]) = .ok paths :=
    exists_mapM_ok fun place _ => inside place
  rw [select]
  obtain ⟨results, went⟩ := all _
  rw [went]
  exact ⟨_, rfl⟩

/-- A search for names fails exactly if the path of the module is refused. -/
theorem search_wild_eq_error_iff {moduleDir : Path} {pieces : List Glob.Piece} :
    search workspace moduleDir [.wild pieces] = .error failure ↔
      ∃ cause, workspace.Refuses moduleDir cause ∧
        failure = .file cause moduleDir.toString := by
  rw [search, bind_eq_error_iff, Workspace.isDirectory_eq_error_iff]
  refine or_iff_left ?_
  rintro ⟨there, -, failed⟩
  split at failed
  · split at failed
    · next start _ =>
      obtain ⟨paths, selected⟩ := exists_select_wild workspace.tree pieces ⟨start, moduleDir⟩
      rw [selected] at failed
      cases failed
    · cases failed
  · cases failed

/-- The files among what a search for names finds. -/
def searchFiles (workspace : Workspace) (moduleDir : Path) (pieces : List Glob.Piece) :
    Except Failure (List Path) := do
  (← search workspace moduleDir [.wild pieces]).filterM workspace.isFile

/-- They are those of the listed paths that lead to files. -/
theorem searchFiles_eq_ok {moduleDir : Path} {pieces : List Glob.Piece} {files : List Path}
    (found : searchFiles workspace moduleDir pieces = .ok files) :
    ∃ paths, Listed workspace moduleDir [.wild pieces] paths ∧
      files = paths.filter fun path => decide (workspace.isFile path = .ok true) := by
  obtain ⟨paths, searched, filtered⟩ := bind_eq_ok_iff.1 found
  exact ⟨paths, listed_of_search searched, filter_isFile_of_filterM filtered⟩

/-- They can be told exactly if no path that is looked up is refused: neither that of the module
nor one that is found. -/
theorem exists_searchFiles_iff {moduleDir : Path} {pieces : List Glob.Piece} :
    (∃ files, searchFiles workspace moduleDir pieces = .ok files) ↔
      ∀ path, (path = moduleDir ∨
        ∃ last, Reaches workspace moduleDir [.wild pieces] last ∧ last.path = path) →
          workspace.Admits path := by
  constructor
  · rintro ⟨files, found⟩ path visited
    obtain ⟨paths, searched, filtered⟩ := bind_eq_ok_iff.1 found
    rcases visited with rfl | reached
    · intro cause refuses
      rw [search_wild_eq_error_iff.2 ⟨cause, refuses, rfl⟩] at searched
      cases searched
    · have member := (listed_of_search searched).mem_iff.2 reached
      exact Workspace.exists_isFile_iff.1 (exists_of_filterM filtered member)
  · intro admits
    cases found : searchFiles workspace moduleDir pieces with
    | ok files => exact ⟨files, rfl⟩
    | error failure =>
      rcases bind_eq_error_iff.1 found with failed | ⟨paths, searched, failed⟩
      · obtain ⟨cause, refuses, -⟩ := search_wild_eq_error_iff.1 failed
        exact absurd refuses (admits _ (.inl rfl) cause)
      · obtain ⟨before, path, after, rfl, -, failed⟩ := filterM_eq_error_iff.1 failed
        have reached := (listed_of_search searched).mem_iff.1
          (List.mem_append_right before (List.mem_cons_self ..))
        obtain ⟨cause, refuses, -⟩ := Workspace.isFile_eq_error_iff.1 failed
        exact absurd refuses (admits path (.inr reached) cause)

/-- The event configurations are those files that count. -/
theorem configFiles_eq :
    survey.configFiles workspace = (searchFiles workspace survey.moduleDir [.many]).map
      fun files => files.filter survey.isConfig := by
  unfold configFiles searchFiles
  cases search workspace survey.moduleDir [.wild [.many]] with
  | error failure => rfl
  | ok paths =>
    change (paths.filterM workspace.isFile >>= _) = (paths.filterM workspace.isFile).map _
    cases paths.filterM workspace.isFile <;> rfl

/-- The event configurations are those listed files that count. -/
theorem configFiles_eq_ok {configs : List Path}
    (listed : survey.configFiles workspace = .ok configs) :
    ∃ paths, Listed workspace survey.moduleDir [.wild [.many]] paths ∧
      configs = filesOf workspace survey.isConfig paths := by
  rw [configFiles_eq] at listed
  obtain ⟨files, found, rfl⟩ := exists_of_map_eq_ok listed
  obtain ⟨paths, list, rfl⟩ := searchFiles_eq_ok found
  exact ⟨paths, list, rfl⟩

/-- Trees that differ in one file have the same event configurations in the same order, but for
those that lead to this file. -/
theorem elsewhere_configFiles {tree : Tree} {location : Location}
    (same : workspace.tree.SameBut location tree) (proper : workspace.tree.Proper)
    (proper' : tree.Proper) {configs configs' : List Path}
    (listed : survey.configFiles workspace = .ok configs)
    (listed' : survey.configFiles { workspace with tree := tree } = .ok configs') :
    elsewhere workspace location configs =
      elsewhere { workspace with tree := tree } location configs' := by
  obtain ⟨paths, list, rfl⟩ := configFiles_eq_ok listed
  obtain ⟨paths', list', rfl⟩ := configFiles_eq_ok listed'
  exact elsewhere_filesOf same proper proper' list list' _

/-- The search for event configurations looks a path up: that of the module or one below it. -/
def Visits (workspace : Workspace) (survey : Survey) (path : Path) : Prop :=
  path = survey.moduleDir ∨
    ∃ last, Reaches workspace survey.moduleDir [.wild [.many]] last ∧ last.path = path

/-- The event configurations can be listed exactly if no path that is visited is refused. -/
theorem exists_configFiles_iff :
    (∃ configs, survey.configFiles workspace = .ok configs) ↔
      ∀ path, Visits workspace survey path → workspace.Admits path := by
  refine Iff.trans ?_ exists_searchFiles_iff
  rw [configFiles_eq]
  cases searchFiles workspace survey.moduleDir [.many] <;> simp [Except.map]

/-! ### All configurations -/

/-- The configuration at a path ends the search: it can be opened, and its encoding is refused. -/
def EndsAt (workspace : Workspace) (config : Path) (failure : Failure) : Prop :=
  ∃ content, workspace.read config = .ok content ∧ Ends content failure

/-- The registrations that the configuration at a path declares: none if it cannot be opened. -/
def linksAt (workspace : Workspace) (survey : Survey) (config : Path) : List Link :=
  match workspace.read? config with
  | some content => survey.declaredLinks config content
  | none => []

/-- A configuration that cannot be opened is passed over. -/
theorem result_fileLinks_of_unread (unread : workspace.read config = .error failure) :
    (survey.fileLinks workspace config).result = .ok [] := by
  rw [fileLinks, unread]
  change (_ >>= _ : Trace _).result = _
  rw [Trace.result_bind, Trace.result_noteIf]
  rfl

/-- One that can be opened is read. -/
theorem result_fileLinks_of_read (read : workspace.read config = .ok content) :
    (survey.fileLinks workspace config).result = (survey.contentLinks config content).result := by
  rw [fileLinks, read]

/-- Reading the configuration at a path fails exactly if it ends the search. -/
theorem fileLinks_eq_error_iff :
    (survey.fileLinks workspace config).result = .error failure ↔
      EndsAt workspace config failure := by
  unfold EndsAt
  cases read : workspace.read config with
  | ok content => simp [result_fileLinks_of_read read, contentLinks_eq_error_iff]
  | error other => simp [result_fileLinks_of_unread read]

/-- It succeeds exactly if it does not. -/
theorem exists_fileLinks_iff :
    (∃ links, (survey.fileLinks workspace config).result = .ok links) ↔
      ∀ failure, ¬ EndsAt workspace config failure := by
  have fails (failure : Failure) : (survey.fileLinks workspace config).result = .error failure ↔
      EndsAt workspace config failure := fileLinks_eq_error_iff
  simp only [← fails]
  cases (survey.fileLinks workspace config).result <;> simp

/-- What is read of the configuration at a path are the registrations that it declares. -/
theorem eq_linksAt {links : List Link}
    (read : (survey.fileLinks workspace config).result = .ok links) :
    links = linksAt workspace survey config := by
  unfold linksAt Workspace.read?
  cases opened : workspace.read config with
  | ok content =>
    rw [result_fileLinks_of_read opened] at read
    exact eq_declaredLinks read
  | error failure =>
    rw [result_fileLinks_of_unread opened] at read
    exact (Except.ok.inj read).symm

/-- Finding registrations fails where the configurations cannot be listed, or with the failure of
the first configuration whose encoding ends the search. -/
theorem findLinks_eq_error_iff :
    (survey.findLinks workspace).result = .error failure ↔
      survey.configFiles workspace = .error failure ∨
        ∃ configs, survey.configFiles workspace = .ok configs ∧
          ∃ before config after, configs = before ++ config :: after ∧
            (∀ earlier ∈ before, ∀ other, ¬ EndsAt workspace earlier other) ∧
            EndsAt workspace config failure := by
  rw [findLinks, Trace.result_bind_eq_error_iff, Trace.result_ofExcept]
  refine or_congr Iff.rfl (exists_congr fun configs => and_congr Iff.rfl ?_)
  rw [Trace.result_bind_eq_error_iff, Trace.result_mapM, mapM_eq_error_iff, FirstFails]
  simp only [exists_fileLinks_iff, fileLinks_eq_error_iff]
  refine or_iff_left ?_
  rintro ⟨_, -, failed⟩
  cases failed

/-- Registrations are found exactly if those of each event configuration can be read, and they are
all these in turn. -/
theorem findLinks_eq_ok_iff {links : List Link} :
    (survey.findLinks workspace).result = .ok links ↔
      ∃ configs lists, survey.configFiles workspace = .ok configs ∧
        List.Forall₂ (fun config list => (survey.fileLinks workspace config).result = .ok list)
          configs lists ∧ links = lists.flatten := by
  rw [findLinks, Trace.result_bind_eq_ok_iff]
  constructor
  · rintro ⟨configs, listed, found⟩
    obtain ⟨lists, read, found⟩ := Trace.result_bind_eq_ok_iff.1 found
    cases found
    exact ⟨configs, lists, listed, mapM_eq_ok_iff.1 (Trace.result_mapM ▸ read), rfl⟩
  · rintro ⟨configs, lists, listed, read, rfl⟩
    refine ⟨configs, listed, Trace.result_bind_eq_ok_iff.2 ⟨lists, ?_, rfl⟩⟩
    rw [Trace.result_mapM]
    exact mapM_eq_ok_iff.2 read

/-- The registrations that are found are those of each configuration in turn. -/
theorem findLinks_eq_ok {links : List Link}
    (found : (survey.findLinks workspace).result = .ok links) :
    ∃ configs, survey.configFiles workspace = .ok configs ∧
      links = configs.flatMap (linksAt workspace survey) := by
  obtain ⟨configs, lists, listed, read, rfl⟩ := findLinks_eq_ok_iff.1 found
  refine ⟨configs, listed, ?_⟩
  rw [eq_map_of_mapM (mapM_eq_ok_iff.2 read) fun config list => eq_linksAt, List.flatMap_def]

/-- The registrations of a configuration tell which configuration declares them and expect the
sources of their observers where the observers' identifiers lead. -/
theorem of_mem_linksAt {link : Link} (member : link ∈ linksAt workspace survey config) :
    link.config = some config ∧
      link.source = some (Link.candidatePath survey.moduleDir survey.extension link.observer) := by
  unfold linksAt declaredLinks at member
  split at member
  · split at member
    · simp only [rootLinks, eventLinks, List.mem_flatMap, List.mem_map] at member
      obtain ⟨_, -, _, -, rfl⟩ := member
      exact ⟨rfl, rfl⟩
    · cases member
  · cases member

/-- No document is read of a configuration: it cannot be opened, or it cannot be parsed. -/
def Unread (workspace : Workspace) (config : Path) : Prop :=
  ∀ content, workspace.read config = .ok content →
    ∃ refusal, Xml.Document.parse content = .error refusal

/-- Such a configuration declares nothing. -/
theorem Unread.linksAt_eq_nil (unread : Unread workspace config) :
    linksAt workspace survey config = [] := by
  unfold linksAt
  split
  · next content read =>
    obtain ⟨refusal, refused⟩ := unread content (Workspace.read?_eq_some_iff.1 read)
    rw [declaredLinks, refused]
  · rfl

/-- The registrations that are not declared by the configuration at a location. -/
def linksElsewhere (workspace : Workspace) (location : Location) (links : List Link) : List Link :=
  links.filter fun link => link.config.all fun config =>
    decide (workspace.locate config ≠ .ok location)

/-- They are those of the configurations that lead elsewhere. -/
theorem linksElsewhere_flatMap (location : Location) (configs : List Path) :
    linksElsewhere workspace location (configs.flatMap (linksAt workspace survey)) =
      (elsewhere workspace location configs).flatMap (linksAt workspace survey) := by
  induction configs with
  | nil => rfl
  | cons config rest ih =>
    have all (link : Link) (member : link ∈ linksAt workspace survey config) :
        (link.config.all fun config => decide (workspace.locate config ≠ .ok location)) =
          decide (workspace.locate config ≠ .ok location) := by
      rw [(of_mem_linksAt member).1, Option.all_some]
    simp only [linksElsewhere, elsewhere] at ih ⊢
    rw [List.flatMap_cons, List.filter_append, ih, List.filter_congr all, List.filter_cons]
    by_cases here : workspace.locate config = .ok location <;> simp [here]

/-- Where trees differ in one file, configurations that lead elsewhere declare the same. -/
theorem linksElsewhere_eq_of_sameBut {tree : Tree} {location : Location}
    (same : workspace.tree.SameBut location tree) (proper : workspace.tree.Proper)
    (proper' : tree.Proper) {links links' : List Link}
    (found : (survey.findLinks workspace).result = .ok links)
    (found' : (survey.findLinks { workspace with tree := tree }).result = .ok links') :
    linksElsewhere workspace location links =
      linksElsewhere { workspace with tree := tree } location links' := by
  obtain ⟨configs, listed, rfl⟩ := findLinks_eq_ok found
  obtain ⟨configs', listed', rfl⟩ := findLinks_eq_ok found'
  rw [linksElsewhere_flatMap, linksElsewhere_flatMap,
    ← elsewhere_configFiles same proper proper' listed listed']
  refine List.flatMap_congr fun config member => ?_
  obtain ⟨inside, apart⟩ := List.mem_filter.1 member
  obtain ⟨paths, -, rfl⟩ := configFiles_eq_ok listed
  have file := of_decide_eq_true (List.mem_filter.1 (List.mem_filter.1 inside).1).2
  obtain ⟨-, place, _, located, -⟩ := Workspace.isFile_iff.1 file
  have away : place ≠ location := by
    rintro rfl
    simp [located] at apart
  have again := Workspace.locate_of_sameBut same located away
  rw [linksAt, linksAt, Workspace.read?, Workspace.read?,
    Workspace.read_congr located again (same.agree place away)]

/-- Finding registrations fails where the configurations cannot be listed, which only a path that
cannot be looked up brings about, or with the failure of the first configuration whose encoding
ends the search. Otherwise the registrations are those of each configuration in turn: one that
cannot be opened or parsed declares none, and a change of one file changes nothing about those that
others declare. -/
theorem findLinks_passes_over (workspace : Workspace) (survey : Survey) :
    (∀ failure, (survey.findLinks workspace).result = .error failure ↔
      survey.configFiles workspace = .error failure ∨
        ∃ configs, survey.configFiles workspace = .ok configs ∧
          ∃ before config after, configs = before ++ config :: after ∧
            (∀ earlier ∈ before, ∀ other, ¬ EndsAt workspace earlier other) ∧
            EndsAt workspace config failure) ∧
    ((∃ configs, survey.configFiles workspace = .ok configs) ↔
      ∀ path, Visits workspace survey path → workspace.Admits path) ∧
    ∀ links, (survey.findLinks workspace).result = .ok links →
      (∃ configs, survey.configFiles workspace = .ok configs ∧
        links = configs.flatMap (linksAt workspace survey)) ∧
      (∀ config, Unread workspace config → ∀ link ∈ links, link.config ≠ some config) ∧
      ∀ location tree links', workspace.tree.Proper → tree.Proper →
        workspace.tree.SameBut location tree →
        (survey.findLinks { workspace with tree := tree }).result = .ok links' →
          linksElsewhere workspace location links =
            linksElsewhere { workspace with tree := tree } location links' := by
  refine ⟨fun failure => findLinks_eq_error_iff, exists_configFiles_iff, fun links found => ?_⟩
  obtain ⟨configs, listed, all⟩ := findLinks_eq_ok found
  refine ⟨⟨configs, listed, all⟩, ?_, ?_⟩
  · intro config unread link member declared
    rw [all] at member
    obtain ⟨other, -, inside⟩ := List.mem_flatMap.1 member
    obtain rfl : config = other := Option.some.inj (declared.symm.trans (of_mem_linksAt inside).1)
    rw [unread.linksAt_eq_nil] at inside
    cases inside
  · intro location tree links' proper proper' same found'
    exact linksElsewhere_eq_of_sameBut same proper proper' found found'

end Survey

/-! ### A module with one configuration -/

namespace Shop

/-- The class in `lib`, with a configuration beside it. -/
def configuredWith (content : Text.Bytes) : Workspace where
  tree :=
    { entries := [(["lib"], .directory),
        (["lib", "Client.php"], .file (Text.Utf8.encode clientText)),
        (["lib", "events.xml"], .file content)]
      distinct := by simp }
  current := []

variable {content : Text.Bytes}

/-- The configuration is the only one. -/
theorem configFiles_configuredWith :
    survey.configFiles (configuredWith content) = .ok [.ofString "lib/events.xml"] := by
  have inside : (configuredWith content).tree.childNames ["lib"] =
      ["Client.php", "events.xml"] := rfl
  have found : Survey.search (configuredWith content) (.ofString "lib") [.wild [.many]] =
      .ok [.ofString "lib/Client.php", .ofString "lib/events.xml"] :=
    search_wild _ rfl rfl rfl inside (by cbv) (by decide +kernel)
  rw [configFiles_of_search found]
  rfl

/-- The registrations are those of the configuration. -/
theorem findLinks_configuredWith :
    (survey.findLinks (configuredWith content)).result =
      (survey.contentLinks (.ofString "lib/events.xml") content).result := by
  rw [Survey.findLinks, Trace.result_bind, Trace.result_ofExcept, configFiles_configuredWith]
  change (_ >>= _ : Trace _).result = _
  rw [Trace.result_bind, Trace.result_mapM, List.mapM_cons, List.mapM_nil]
  change (((survey.contentLinks _ content).result >>= _) >>= _) = _
  cases (survey.contentLinks (.ofString "lib/events.xml") content).result with
  | error failure => rfl
  | ok links => simp [bind, Except.bind, pure, Except.pure, Trace.done]

/-- They are made from its texts. -/
theorem findLinks_of_registered {entries : List (String × List (Option String))}
    (shown : (Xml.Document.parse content).toOption.map Survey.registered = some entries) :
    (survey.findLinks (configuredWith content)).result =
      .ok (entries.flatMap (survey.entryLinks (.ofString "lib/events.xml"))) := by
  obtain ⟨root, parsed, rfl⟩ := Option.map_eq_some_iff.1 shown
  rw [findLinks_configuredWith, Survey.contentLinks, eq_ok_of_toOption parsed,
    ← Survey.rootLinks_eq_flatMap]
  rfl

end Shop

/-- A configuration in an encoding that nobody knows keeps all registrations from being found. -/
theorem Survey.findLinks_unknown_encoding :
    (Shop.survey.findLinks (Shop.configuredWith (Text.Utf8.encode
      "<?xml version='1.0' encoding='nope'?><config/>"))).result =
        .error (.encoding (.unknown "nope")) := by
  have missing : Xml.Charset.find "nope" = .refused (.unknown "nope") := by
    have shown : (Xml.Charset.find "nope" matches .refused (.unknown "nope")) = true := by
      decide +kernel
    split at shown
    · assumption
    · cases shown
  rw [Shop.findLinks_configuredWith, contentLinks_eq_error_iff]
  exact .encoding ⟨by decide +kernel, by decide +kernel, missing⟩

end EventAtlas
