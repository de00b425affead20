import EventAtlas.Proofs.Documentation.Rerun
import EventAtlas.Proofs.Survey.Invariance
import EventAtlas.Settings
import EventAtlas.Yaml.Load
import Mathlib

/-!
# Documenting a module under another spelling

The pages that a run writes depend on which directory the module is and not on how its path is
spelled. The path stands in front of everything that is found, and is taken away again before
anything is told. So a module that is named by a configuration, whose path is made absolute, has the
same pages as one that is named as it is typed.
-/

namespace EventAtlas

/-- The module of settings is named by a text, which is resolved below the root. -/
theorem Settings.exists_moduleDir_of_find {loader : Settings.Loader} {workspace : Workspace}
    {start : Path} {name : String} {settings : Settings}
    (found : Settings.find loader workspace start name = .ok settings) :
    ∃ text, Yaml.Value.lookup settings.entries "module_dir" = some (.text text) ∧
      settings.moduleDir = workspace.resolve (settings.root.join (.ofString text)) := by
  obtain ⟨root, -, found⟩ := bind_eq_ok_iff.1 found
  obtain ⟨content, -, found⟩ := bind_eq_ok_iff.1 found
  obtain ⟨entries, -, found⟩ := bind_eq_ok_iff.1 found
  obtain ⟨moduleDir, named, found⟩ := bind_eq_ok_iff.1 found
  obtain ⟨outputDir, -, found⟩ := bind_eq_ok_iff.1 found
  cases found
  unfold moduleDirIn at named
  dsimp only at named
  split at named
  · cases named
  obtain ⟨path, given, named⟩ := bind_eq_ok_iff.1 named
  obtain ⟨there, -, named⟩ := bind_eq_ok_iff.1 named
  cases there with
  | false => cases named
  | true =>
    cases named
    unfold pathSetting at given
    split at given
    · next text held =>
      refine ⟨text, ?_, ?_⟩
      · cases known : Yaml.Value.lookup entries "module_dir" with
        | none =>
          rw [known] at held
          cases held
        | some value =>
          rw [known] at held
          exact congrArg some held
      · unfold resolve at given
        split at given
        · cases given
        · exact (Except.ok.inj given).symm
    · cases given

/-- The link to an observer tells how its source goes on from the module. -/
theorem Report.observerLink_respelled {report : Report} {moduleDir spelling : Path}
    (here : report.moduleDir = some moduleDir) {observer : Observer}
    (inside : ∀ path, observer.source = some path → ∃ parts, path = moduleDir.below parts) :
    (report.mapSources (Path.respell moduleDir spelling) (some spelling)).observerLink
        (observer.mapSource (Path.respell moduleDir spelling)) = report.observerLink observer := by
  rw [observerLink, observerLink, Observer.mapSource, mapSources, here]
  cases pointed : observer.source with
  | none => rfl
  | some path =>
    obtain ⟨parts, rfl⟩ := inside path pointed
    simp only [Option.map_some, Path.respell_below, Path.relativeTo?_below]

namespace Documentation

variable {workspace : Workspace} {documentation : Documentation}

/-- The documentation of the module under another spelling, which may be written elsewhere. -/
def respelled (documentation : Documentation) (spelling outputDir : Path) : Documentation :=
  { documentation with
    survey := documentation.survey.respelled spelling
    outputDir := outputDir }

/-- Where everything is ready under both spellings, the report has the same text, and the catalog
has too. -/
theorem Ready.respelled {spelling outputDir : Path} {analysis analysis' : Analysis}
    {text text' : String} (ready : documentation.Ready workspace analysis text)
    (ready' : (documentation.respelled spelling outputDir).Ready workspace analysis' text')
    (same : workspace.locate spelling = workspace.locate documentation.survey.moduleDir)
    (flat : '/' ∉ documentation.survey.extension.toList)
    (plain : ∀ link ∈ analysis.links, '/' ∉ link.observer.toList) :
    text' = text ∧ Report.catalog analysis'.index = Report.catalog analysis.index := by
  obtain ⟨start, here⟩ := ready.exists_at
  obtain ⟨start', there⟩ := ready'.exists_at
  obtain rfl : start' = start := Except.ok.inj
    ((there.located.symm.trans same).trans here.located)
  have spelled : Survey.Spelled workspace documentation.survey.moduleDir spelling start' :=
    ⟨here, there⟩
  obtain rfl := spelled.analysis_eq flat ready.analyzed ready'.analyzed plain
  refine ⟨?_, Report.catalog_mapSources _⟩
  have links : ∀ entry ∈ analysis.observers.entries,
      ((documentation.report analysis).mapSources
          (Path.respell documentation.survey.moduleDir spelling) (some spelling)).observerLink
        (entry.2.mapSource (Path.respell documentation.survey.moduleDir spelling)) =
          (documentation.report analysis).observerLink entry.2 := by
    rintro ⟨id, observer⟩ held
    refine Report.observerLink_respelled rfl fun path pointed => ?_
    obtain ⟨-, -, -, found, resolved, -⟩ := Survey.analyze_eq_ok_iff.1 ready.analyzed
    rw [(Observers.resolve_eq_ok_iff.1 resolved).2] at held
    obtain ⟨link, member, leads⟩ := Observers.exists_link_of_source held pointed
    rw [Survey.source_of_findLinks found member,
      Link.candidatePath_eq_below _ flat (plain link member)] at leads
    exact ⟨_, (Option.some.inj leads).symm⟩
  have unchanged := @Report.build_mapSources _ _ (documentation.report analysis) links
    (some analysis.coverage)
  exact Except.ok.inj (ready'.built.symm.trans (unchanged.trans ready.built))

/-- After two runs, the reports hold the same, and so do the catalogs if they are wanted. -/
structure SamePages (documentation other : Documentation) (after after' : Workspace) : Prop where
  report : ∃ content, after.read? documentation.reportPath = some content ∧
    after'.read? other.reportPath = some content
  catalog : documentation.catalog = true → ∃ content,
    after.read? documentation.catalogPath = some content ∧
      after'.read? other.catalogPath = some content

/-- Every run that succeeds under another spelling writes the same pages as a run at a given
time. -/
def SameUnder (workspace : Workspace) (documentation : Documentation) (time : String)
    (spelling : Path) : Prop :=
  ∀ outputDir time' path,
    ((documentation.respelled spelling outputDir).run workspace time').2.result = .ok path →
      SamePages documentation (documentation.respelled spelling outputDir)
        (documentation.run workspace time).1
        ((documentation.respelled spelling outputDir).run workspace time').1

end Documentation

/-! ### A module that settings name -/

namespace Shop

/-- The small module with settings beside it that name it. -/
def settled : Workspace :=
  workspace.put ["shop.yaml"] (.file (Text.Utf8.encode "module_dir: lib"))

theorem at?_settled {place : Location} (other : place ≠ ["shop.yaml"]) :
    settled.tree.at? place = workspace.tree.at? place := by
  rw [settled, Workspace.at?_put (by simp), if_neg other]

/-- Nothing stands in the place of the settings. -/
theorem free_settings : workspace.tree.at? ["shop.yaml"] = none := by
  decide +kernel

/-- The settings are put into the directory around the module. -/
theorem grows_settled : workspace.Grows ["shop.yaml"] settled :=
  @Workspace.Grows.file _ _ _ [] "shop.yaml" _ .refl rfl ⟨by decide, by decide, by decide⟩
    (Workspace.writable_of_none free_settings) (List.mem_singleton_self _)

theorem proper_settled : settled.tree.Proper :=
  @Tree.Proper.put _ proper_workspace [] _ (by decide +kernel) rfl (by decide +kernel) _

/-- The settings name the module by its absolute path. -/
theorem find_settled : Settings.find Yaml.load settled (.ofString ".") "shop.yaml" =
    .ok ⟨.ofString "/", .ofString "/shop.yaml", .ofString "/lib", .ofString "/docs",
      [(.text "module_dir", .text "lib")]⟩ := by
  have root : Settings.findRoot settled (.ofString ".") "shop.yaml" = .ok (.ofString "/") := by
    decide +kernel
  have table : Settings.readTable Yaml.load (.ofString "/shop.yaml")
      (Text.Utf8.encode "module_dir: lib") = .ok [(.text "module_dir", .text "lib")] := by cbv
  have read : settled.read (.ofString "/shop.yaml") =
      .ok (Text.Utf8.encode "module_dir: lib") := rfl
  have file : (Path.ofString "/").join (.ofString "shop.yaml") = .ofString "/shop.yaml" := by
    decide +kernel
  have module : Settings.moduleDirIn settled (.ofString "/")
      [(.text "module_dir", .text "lib")] = .ok (.ofString "/lib") := by
    decide +kernel
  have output : Settings.outputDirIn settled (.ofString "/")
      [(.text "module_dir", .text "lib")] = .ok (.ofString "/docs") := by
    decide +kernel
  simp only [Settings.find, root, file, read, table, module, output, bind, Except.bind, pure,
    Except.pure]

/-- Beside the settings, the module is ready as before. -/
theorem exists_ready_settled {moduleDir : Path} (there : Survey.At workspace moduleDir ["lib"])
    (short : (moduleDir.below ["Client.php"]).toString.utf8ByteSize ≤ Tree.maxPathBytes) :
    ∃ analysis text, (nested moduleDir).Ready settled analysis text ∧ analysis.links = [] := by
  obtain ⟨analysis, text, ready, none⟩ :=
    exists_ready there short (rfl : (nested moduleDir).survey.moduleDir = _) rfl rfl
  have unsought : ∀ name ∈ ["shop.yaml"], Survey.Unsought name := by
    intro name member
    obtain rfl := List.mem_singleton.1 member
    exact ⟨by decide, by decide +kernel⟩
  have there' : Survey.At workspace (nested moduleDir).survey.moduleDir ["lib"] := there
  have analyzed := there'.analyze_of_grows proper_workspace.connected grows_settled rfl unsought
    ready.analyzed (by simp [none]) fun names name stands => ?_
  · exact ⟨analysis, text, ⟨analyzed, ready.valid, ready.built⟩, none⟩
  · rw [at?_settled (by simp)] at stands
    obtain ⟨rfl, rfl⟩ := stands_in_lib stands
    exact short

end Shop

namespace Documentation

variable {workspace : Workspace} {documentation : Documentation}

/-- Where a run succeeds on a module whose observers have no slashes, each run that succeeds on the
same directory under another spelling writes the same pages. So does one for which settings name the
directory, whose path is then resolved. -/
theorem run_respelled {time : String} {path : Path}
    (flat : '/' ∉ documentation.survey.extension.toList)
    (plain : ∀ links, (documentation.survey.findLinks workspace).result = .ok links →
      ∀ link ∈ links, '/' ∉ link.observer.toList)
    (done : (documentation.run workspace time).2.result = .ok path) :
    (∀ spelling, workspace.locate spelling = workspace.locate documentation.survey.moduleDir →
      documentation.SameUnder workspace time spelling) ∧
    ∀ (loader : Settings.Loader) start name settings,
      Settings.find loader workspace start name = .ok settings →
      ∃ text, Yaml.Value.lookup settings.entries "module_dir" = some (.text text) ∧
        (workspace.tree.Proper → workspace.tree.at? workspace.current = some .directory →
          workspace.locate (settings.root.join (.ofString text)) =
            workspace.locate documentation.survey.moduleDir →
          documentation.SameUnder workspace time settings.moduleDir) := by
  obtain ⟨rfl, made, analysis, text, succeeds⟩ := exists_succeeds_of_run done
  obtain ⟨_, -, -, found, -⟩ := Survey.analyze_eq_ok_iff.1 succeeds.ready.analyzed
  have spellings (spelling : Path)
      (same : workspace.locate spelling = workspace.locate documentation.survey.moduleDir) :
      documentation.SameUnder workspace time spelling := by
    intro outputDir time' path' done'
    obtain ⟨rfl, made', analysis', text', succeeds'⟩ := exists_succeeds_of_run done'
    obtain ⟨rfl, catalog⟩ := succeeds.ready.respelled succeeds'.ready same flat (plain _ found)
    refine ⟨⟨_, succeeds.report_stands.read?, succeeds'.report_stands.read?⟩, fun wanted => ?_⟩
    exact ⟨_, (succeeds.catalog_stands wanted).read?,
      catalog ▸ (succeeds'.catalog_stands wanted).read?⟩
  refine ⟨spellings, fun loader start name settings configured => ?_⟩
  obtain ⟨written, named, resolved⟩ := Settings.exists_moduleDir_of_find configured
  refine ⟨written, named, fun proper around same outputDir time' path' done' => ?_⟩
  obtain ⟨-, _, _, _, succeeds'⟩ := exists_succeeds_of_run done'
  obtain ⟨start, here⟩ := succeeds.ready.exists_at
  obtain ⟨_, there⟩ := succeeds'.ready.exists_at
  have short := (Workspace.locate_eq_ok_iff.1 there.located).1
  have leads : workspace.locate settings.moduleDir = .ok start := by
    rw [resolved]
    refine Workspace.locate_resolve proper.connected (Option.isSome_of_eq_some around)
      (same.trans here.located) (Tree.isSome_of_isDirectory here.directory) ?_
    rw [← resolved]
    exact short
  exact spellings _ (leads.trans here.located.symm) outputDir time' path' done'

/-- The small module has the same pages when its path takes a detour, and when it is named by
settings. -/
theorem run_respelled_nested :
    SamePages (Shop.nested (.ofString "lib")) (Shop.nested (Shop.detoured 1))
        ((Shop.nested (.ofString "lib")).run Shop.settled "").1
        ((Shop.nested (Shop.detoured 1)).run Shop.settled "").1 ∧
      ∃ settings, Settings.find Yaml.load Shop.settled (.ofString ".") "shop.yaml" = .ok settings ∧
        SamePages (Shop.nested (.ofString "lib")) (Shop.nested settings.moduleDir)
          ((Shop.nested (.ofString "lib")).run Shop.settled "").1
          ((Shop.nested settings.moduleDir).run Shop.settled "").1 := by
  have keeps := Shop.grows_settled.keeps
  have runs {spelling : Path} (there : Survey.At Shop.workspace spelling ["lib"])
      (short : (spelling.below ["Client.php"]).toString.utf8ByteSize ≤ Tree.maxPathBytes) :
      ∃ path, ((Shop.nested spelling).run Shop.settled "").2.result = .ok path := by
    obtain ⟨_, _, ready, -⟩ := Shop.exists_ready_settled there short
    obtain ⟨_, _, _, succeeds⟩ := Shop.exists_succeeds_nested keeps
      (fun place inside => Shop.at?_settled (by rintro rfl; simp at inside)) ready
    exact ⟨_, (succeeds.run "").2⟩
  have detour : Survey.At Shop.workspace (Shop.detoured 1) ["lib"] := Shop.at_detoured (by decide)
  have absolute : Survey.At Shop.workspace (.ofString "/lib") ["lib"] := ⟨rfl, rfl, rfl⟩
  obtain ⟨_, done⟩ := runs Shop.at_lib Shop.short_lib
  obtain ⟨_, done'⟩ := runs detour (by decide +kernel)
  obtain ⟨_, done''⟩ := runs absolute (by decide +kernel)
  have plain : ∀ links, ((Shop.nested (.ofString "lib")).survey.findLinks Shop.settled).result =
      .ok links → ∀ link ∈ links, '/' ∉ link.observer.toList := by
    intro links found
    obtain ⟨analysis, _, ready, none⟩ := Shop.exists_ready_settled Shop.at_lib Shop.short_lib
    obtain ⟨_, -, -, found', -⟩ := Survey.analyze_eq_ok_iff.1 ready.analyzed
    rw [found', none] at found
    cases found
    exact fun _ member => absurd member List.not_mem_nil
  obtain ⟨same, configured⟩ := run_respelled (by decide) plain done
  have here := keeps.locate Shop.at_lib.located
  refine ⟨same _ ((keeps.locate detour.located).trans here.symm) _ "" _ done',
    _, Shop.find_settled, ?_⟩
  obtain ⟨text, named, agree⟩ := configured _ _ _ _ Shop.find_settled
  obtain rfl : "lib" = text := by
    have given : Yaml.Value.lookup [(.text "module_dir", .text "lib")] "module_dir" =
        some (.text "lib") := by cbv
    simpa using given.symm.trans named
  exact agree Shop.proper_settled rfl ((keeps.locate absolute.located).trans here.symm) _ "" _ done''

end Documentation

end EventAtlas
