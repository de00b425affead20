import EventAtlas.Proofs.Link
import EventAtlas.Proofs.Survey.Resolvable
import EventAtlas.Proofs.Survey.Respelling

/-!
# Analyses under other spellings

Since the files are the same under every spelling of a module, so is what is read from them. An
analysis under another spelling is the analysis with all its paths respelled: it has the same
classes and observers, and counts the same.
-/

namespace EventAtlas

/-! ### Classes -/

/-- What a source text shows is the same wherever it stands. -/
theorem ApiClass.ofSource?_mapSource (change : Path → Path) (path : Path) (text : String) :
    ofSource? (change path) text = (ofSource? path text).map (mapSource change) := by
  unfold ofSource?
  cases Source.classId? text with
  | none => rfl
  | some id =>
    dsimp only
    split <;> rfl

/-- Classes are entered with respelled sources as with the sources that they have. -/
theorem Indexing.index_foldl_mapSource (change : Path → Path) (classes : List ApiClass)
    {indexing other : Indexing} (same : other.index = indexing.index.mapSources change) :
    ((classes.map (ApiClass.mapSource change)).foldl add other).index =
      (classes.foldl add indexing).index.mapSources change := by
  induction classes generalizing indexing other with
  | nil => exact same
  | cons found rest ih =>
    refine ih ?_
    have held : other.index.get? (found.mapSource change).id =
        (indexing.index.get? found.id).map (ApiClass.mapSource change) := by
      rw [same]
      exact Roster.get?_mapValues ..
    cases known : indexing.index.get? found.id with
    | none =>
      rw [known] at held
      simp only [add, known, held, Option.map_none]
      rw [same]
      exact (Roster.mapValues_put indexing.index found.id found).symm
    | some kept =>
      rw [known] at held
      simp only [add, known, held, Option.map_some]
      exact same

namespace Survey

variable {workspace : Workspace} {survey : Survey} {moduleDir spelling path : Path}
  {start : Location}

/-- A source file yields the same class under both spellings. -/
theorem Twin.classAt? (twin : Twin workspace moduleDir spelling path) :
    Survey.classAt? workspace (Path.respell moduleDir spelling path) =
      (Survey.classAt? workspace path).map
        (ApiClass.mapSource (Path.respell moduleDir spelling)) := by
  rw [Survey.classAt?, Survey.classAt?, result_indexFile, result_indexFile, twin.readSource?]
  cases workspace.readSource? path with
  | error failure => rfl
  | ok source =>
    cases source with
    | none => rfl
    | some text => exact ApiClass.ofSource?_mapSource ..

/-- The index is the same under both spellings, but for the paths of the sources. -/
theorem Spelled.index_eq (spelled : Spelled workspace survey.moduleDir spelling start)
    {indexing indexing' : Indexing} (built : (survey.buildIndex workspace).result = .ok indexing)
    (built' : ((survey.respelled spelling).buildIndex workspace).result = .ok indexing') :
    indexing'.index = indexing.index.mapSources (Path.respell survey.moduleDir spelling) := by
  rw [buildIndex, result_buildIndexOnto] at built built'
  obtain ⟨files, listed, rfl⟩ := exists_of_map_eq_ok built
  obtain ⟨found, listed', rfl⟩ := exists_of_map_eq_ok built'
  obtain ⟨rfl, twins⟩ := spelled.sourceFiles_eq listed listed'
  have classes : classesOf workspace (files.map (Path.respell survey.moduleDir spelling)) =
      (classesOf workspace files).map
        (ApiClass.mapSource (Path.respell survey.moduleDir spelling)) := by
    rw [classesOf, classesOf, List.filterMap_map, List.map_filterMap]
    exact List.filterMap_congr fun path member => (twins path member).classAt?
  rw [classes]
  exact Indexing.index_foldl_mapSource _ _ rfl

end Survey

/-! ### Registrations -/

/-- The registration with other paths in place of its own. -/
def Link.mapPaths (change : Path → Path) (link : Link) : Link :=
  { link with source := link.source.map change, config := link.config.map change }

namespace Survey

variable {workspace : Workspace} {survey : Survey} {spelling config : Path} {start : Location}

/-- A configuration declares the same under both spellings, if no observer has a slash. -/
theorem Twin.linksAt (twin : Twin workspace survey.moduleDir spelling config)
    (flat : '/' ∉ survey.extension.toList)
    (plain : ∀ link ∈ Survey.linksAt workspace survey config, '/' ∉ link.observer.toList) :
    Survey.linksAt workspace (survey.respelled spelling)
        (Path.respell survey.moduleDir spelling config) =
      (Survey.linksAt workspace survey config).map
        (Link.mapPaths (Path.respell survey.moduleDir spelling)) := by
  unfold Survey.linksAt at plain ⊢
  rw [twin.read?]
  cases opened : workspace.read? config with
  | none => rfl
  | some content =>
    simp only [opened, declaredLinks] at plain ⊢
    split
    · next root parsed =>
      simp only [parsed] at plain
      simp only [rootLinks, eventLinks, List.map_flatMap, List.map_map]
      refine List.flatMap_congr fun event declared => List.map_congr_left fun observer named => ?_
      have noSlash : '/' ∉ observer.toList :=
        plain _ (List.mem_flatMap.2 ⟨event, declared, List.mem_map_of_mem named⟩)
      simp only [link, Function.comp_apply, Link.mapPaths, respelled, Option.map_some,
        Link.candidatePath_eq_below _ flat noSlash, Path.respell_below]
    · rfl

/-- The registrations are the same under both spellings, but for their paths. -/
theorem Spelled.links_eq (spelled : Spelled workspace survey.moduleDir spelling start)
    (flat : '/' ∉ survey.extension.toList) {links links' : List Link}
    (found : (survey.findLinks workspace).result = .ok links)
    (found' : ((survey.respelled spelling).findLinks workspace).result = .ok links')
    (plain : ∀ link ∈ links, '/' ∉ link.observer.toList) :
    links' = links.map (Link.mapPaths (Path.respell survey.moduleDir spelling)) := by
  obtain ⟨configs, listed, rfl⟩ := findLinks_eq_ok found
  obtain ⟨configs', listed', rfl⟩ := findLinks_eq_ok found'
  obtain ⟨rfl, twins⟩ := spelled.configFiles_eq listed listed'
  rw [List.flatMap_map, List.map_flatMap]
  refine List.flatMap_congr fun config member => (twins config member).linksAt flat ?_
  exact fun link inside => plain link (List.mem_flatMap.2 ⟨config, member, inside⟩)

end Survey

/-! ### Observers -/

/-- A declared type stands for the same class. -/
theorem Scope.find?_mapSources (scope : Scope) (change : Path → Path) (index : ApiIndex)
    (declared : String) : scope.find? (index.mapSources change) declared =
      (scope.find? index declared).map (ApiClass.mapSource change) := by
  rw [find?, find?, List.map_findSome?]
  congr 1
  funext id
  exact Roster.get?_mapValues ..

/-- What a source text declares is collected in the same way. -/
theorem Observer.collect_mapSource (change : Path → Path) (index : ApiIndex) (observer : Observer)
    (text : String) : collect (index.mapSources change) (observer.mapSource change) text =
      (collect index observer text).mapSource change := by
  unfold collect
  induction declaredTypes text generalizing observer with
  | nil => rfl
  | cons declared rest ih =>
    rw [List.foldl_cons, List.foldl_cons, ← ih]
    congr 1
    rw [declare, declare, Scope.find?_mapSources]
    cases (Scope.ofSource text).find? index declared <;> rfl

namespace Observers

variable {workspace : Workspace} {index : ApiIndex} {moduleDir spelling : Path} {start : Location}
  {links : List Link} {link : Link} {parts : List String}

/-- A registration gives the same source under both spellings. -/
theorem given_mapPaths (spelled : Survey.Spelled workspace moduleDir spelling start)
    (pointed : link.source = some (moduleDir.below parts)) (sought : Sought workspace link)
    (sought' : Sought workspace (link.mapPaths (Path.respell moduleDir spelling))) :
    given workspace (link.mapPaths (Path.respell moduleDir spelling)) =
      (given workspace link).map fun source =>
        (Path.respell moduleDir spelling source.1, source.2) := by
  have pointed' : (link.mapPaths (Path.respell moduleDir spelling)).source =
      some (spelling.below parts) := by
    rw [Link.mapPaths, pointed, Option.map_some, Path.respell_below]
  have admits := sought _ pointed
  have admits' := sought' _ pointed'
  rw [given, given, pointed, pointed', Option.bind_some, Option.bind_some,
    spelled.isFile_below admits admits']
  cases checked : workspace.isFile (moduleDir.below parts) with
  | error failure => rfl
  | ok there =>
    cases there with
    | false => rfl
    | true =>
      have read := (spelled.twin admits admits' checked).readSource?
      rw [Path.respell_below] at read
      obtain ⟨source, shown⟩ := Workspace.exists_readSource?_of_isFile checked
      rw [read, shown]
      cases source <;> simp

/-- So it adds the same to its observer. -/
theorem take_mapPaths (spelled : Survey.Spelled workspace moduleDir spelling start)
    (pointed : link.source = some (moduleDir.below parts)) (sought : Sought workspace link)
    (sought' : Sought workspace (link.mapPaths (Path.respell moduleDir spelling)))
    (observer : Observer) :
    (take workspace index observer link).mapSource (Path.respell moduleDir spelling) =
      take workspace (index.mapSources (Path.respell moduleDir spelling))
        (observer.mapSource (Path.respell moduleDir spelling))
        (link.mapPaths (Path.respell moduleDir spelling)) := by
  rw [take, take, given_mapPaths spelled pointed sought sought']
  cases given workspace link with
  | none => rfl
  | some source => exact (Observer.collect_mapSource ..).symm

/-- The source of an observer is the one at which a registration points. -/
theorem exists_link_of_source {id : ClassId} {observer : Observer} {path : Path}
    (held : (id, observer) ∈ (Roster.gather Link.observer Observer.new (take workspace index) .empty
      links).entries) (pointed : observer.source = some path) :
    ∃ link ∈ links, link.source = some path := by
  obtain ⟨-, rfl⟩ := get?_gather_take.1 (Roster.get?_eq_some_iff.2 held)
  rw [record_source, Option.map_eq_some_iff] at pointed
  obtain ⟨⟨path, text⟩, last, rfl⟩ := pointed
  obtain ⟨link, own, gives⟩ := List.mem_filterMap.1 (List.mem_of_mem_getLast? last)
  obtain ⟨path', pointed, read⟩ := Option.bind_eq_some_iff.1 gives
  split at read
  · cases read
    exact ⟨link, (List.mem_filter.1 own).1, pointed⟩
  · cases read

end Observers

/-! ### Whole analyses -/

/-- The analysis with other paths in place of its own. -/
def Analysis.mapPaths (change : Path → Path) (analysis : Analysis) : Analysis where
  index := analysis.index.mapSources change
  links := analysis.links.map (Link.mapPaths change)
  observers := analysis.observers.mapSources change
  coverage := analysis.coverage

namespace Survey

variable {workspace : Workspace} {survey : Survey} {spelling : Path} {start : Location}
  {analysis analysis' : Analysis}

/-- Where no observer has a slash, the analysis under another spelling is the analysis with all its
paths respelled. -/
theorem Spelled.analysis_eq (spelled : Spelled workspace survey.moduleDir spelling start)
    (flat : '/' ∉ survey.extension.toList)
    (analyzed : (survey.analyze workspace).result = .ok analysis)
    (analyzed' : ((survey.respelled spelling).analyze workspace).result = .ok analysis')
    (plain : ∀ link ∈ analysis.links, '/' ∉ link.observer.toList) :
    analysis' = analysis.mapPaths (Path.respell survey.moduleDir spelling) := by
  obtain ⟨indexing, built, index, found, resolved, covered⟩ := analyze_eq_ok_iff.1 analyzed
  obtain ⟨indexing', built', index', found', resolved', covered'⟩ := analyze_eq_ok_iff.1 analyzed'
  have sameIndex := spelled.index_eq built built'
  have sameLinks := spelled.links_eq flat found found' plain
  obtain ⟨checkable, gathered⟩ := Observers.resolve_eq_ok_iff.1 resolved
  obtain ⟨checkable', gathered'⟩ := Observers.resolve_eq_ok_iff.1 resolved'
  rw [Observers.checkable_iff] at checkable checkable'
  have steps (observer : Observer) (link : Link) (member : link ∈ analysis.links) :
      (Observers.take workspace analysis.index observer link).mapSource
          (Path.respell survey.moduleDir spelling) =
        Observers.take workspace analysis'.index
          (observer.mapSource (Path.respell survey.moduleDir spelling))
          (link.mapPaths (Path.respell survey.moduleDir spelling)) := by
    have pointed := source_of_findLinks found member
    rw [Link.candidatePath_eq_below _ flat (plain link member)] at pointed
    rw [Observers.take_mapPaths spelled pointed (checkable link member)
      (checkable' _ (sameLinks ▸ List.mem_map_of_mem member)), index', sameIndex, ← index]
  have sameObservers : analysis'.observers =
      analysis.observers.mapSources (Path.respell survey.moduleDir spelling) := by
    rw [gathered', gathered, sameLinks, Observers.mapSources]
    have news (id : ClassId) :
        (Observer.new id).mapSource (Path.respell survey.moduleDir spelling) = .new id := rfl
    have keys : ∀ link ∈ analysis.links,
        (link.mapPaths (Path.respell survey.moduleDir spelling)).observer = link.observer :=
      fun _ _ => rfl
    have swapped := Roster.mapValues_gather news analysis.links keys steps .empty
    exact swapped.symm
  have sameCoverage : analysis'.coverage = analysis.coverage := by
    rw [covered', covered, sameObservers, index', sameIndex, ← index, Coverage.compute_mapSources]
  obtain ⟨_, _, _, _⟩ := analysis'
  dsimp only at index' sameLinks sameObservers sameCoverage
  rw [index', sameIndex, sameLinks, sameObservers, sameCoverage, ← index]
  rfl

end Survey

end EventAtlas
