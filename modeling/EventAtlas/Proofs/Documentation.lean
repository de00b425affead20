import EventAtlas.Documentation
import EventAtlas.Proofs.Analysis
import EventAtlas.Proofs.Tree.Write

/-!
# What a failed run leaves

A run writes nothing before the module is analysed, the analysis is found valid and the report has
its text, so a failure up to then leaves the workspace as it was. What has been written by then
stays when something else cannot be written: directories on the way to the output directory, and
the report when the catalog cannot be written after it. A page whose text cannot be encoded leaves
its file empty, whatever was in it. Nothing else is ever changed by a run that fails.
-/

namespace EventAtlas

namespace Documentation

variable {workspace after : Workspace} {documentation : Documentation}
  {time : String} {failure : Failure} {pages : List Page}

/-- A request can be followed if the module is a directory and the diagram format is known. -/
theorem ofRequest_eq_ok_iff {request : Request} :
    ofRequest workspace request = .ok documentation ↔
      workspace.isDirectory request.survey.moduleDir = .ok true ∧
        ∃ diagram, diagramOf request.diagramName request.style = .ok diagram ∧
          documentation = ⟨request.survey, request.outputDir, request.address, request.catalog,
            diagram, request.halves⟩ := by
  unfold ofRequest
  rw [bind_eq_ok_iff]
  constructor
  · rintro ⟨there, looked, followed⟩
    cases there with
    | false => cases followed
    | true =>
      obtain ⟨diagram, known, followed⟩ := bind_eq_ok_iff.1 followed
      cases followed
      exact ⟨looked, diagram, known, rfl⟩
  · rintro ⟨looked, diagram, known, rfl⟩
    exact ⟨true, looked, bind_eq_ok_iff.2 ⟨diagram, known, rfl⟩⟩

/-! ### What is written -/

/-- The page of a report with the given text. -/
def reportPage (documentation : Documentation) (text : String) : Page where
  path := documentation.reportPath
  text := text
  notice := .reportWritten documentation.reportPath

/-- The page of the catalog of an index. -/
def catalogPage (documentation : Documentation) (index : ApiIndex) : Page where
  path := documentation.catalogPath
  text := Report.catalog index
  notice := .catalogWritten documentation.catalogPath

/-- All that is written is there: the module is analysed, the analysis is valid and the report on
it has its text. -/
structure Ready (documentation : Documentation) (workspace : Workspace) (analysis : Analysis)
    (text : String) : Prop where
  analyzed : (documentation.survey.analyze workspace).result = .ok analysis
  valid : analysis.coverage.validate = .ok ()
  built : (documentation.report analysis).build (some analysis.coverage) = .ok text

/-- The pages can be made when everything is ready: the report comes first, and the catalog after
it if it is wanted. -/
theorem prepare_eq_ok_iff :
    (documentation.prepare workspace time).result = .ok pages ↔
      ∃ analysis text, documentation.Ready workspace analysis text ∧
        pages = documentation.reportPage text ::
          if documentation.catalog then [documentation.catalogPage analysis.index] else [] := by
  unfold prepare
  rw [Trace.result_bind_eq_ok_iff]
  constructor
  · rintro ⟨_, -, made⟩
    obtain ⟨_, -, made⟩ := Trace.result_bind_eq_ok_iff.1 made
    obtain ⟨analysis, analyzed, made⟩ := Trace.result_bind_eq_ok_iff.1 made
    obtain ⟨_, valid, made⟩ := bind_eq_ok_iff.1 (Trace.result_ofExcept _ ▸ made)
    obtain ⟨text, built, made⟩ := bind_eq_ok_iff.1 made
    cases made
    refine ⟨analysis, text, ⟨analyzed, valid, built⟩, ?_⟩
    split <;> rfl
  · rintro ⟨analysis, text, ready, rfl⟩
    refine ⟨(), rfl, Trace.result_bind_eq_ok_iff.2 ⟨(), rfl, ?_⟩⟩
    refine Trace.result_bind_eq_ok_iff.2 ⟨analysis, ready.analyzed, ?_⟩
    rw [Trace.result_ofExcept, pages, ready.valid, ready.built]
    cases documentation.catalog <;> rfl

/-- Pages are written one after the other. -/
inductive Wrote (halves : Text.Halves) : Workspace → List Page → Workspace → Prop
  | nil (workspace : Workspace) : Wrote halves workspace [] workspace
  | cons {before between after : Workspace} {page : Page} {rest : List Page} :
      before.writeText halves page.path page.text = (between, .ok ()) →
        Wrote halves between rest after → Wrote halves before (page :: rest) after

variable {halves : Text.Halves}

/-- When pages cannot all be written, those before the first that cannot be written are. -/
theorem wrote_of_publish_error
    (failed : (publish halves workspace pages).2.result = .error failure) :
    ∃ written page rest between, pages = written ++ page :: rest ∧
      Wrote halves workspace written between ∧
      between.writeText halves page.path page.text =
        ((publish halves workspace pages).1, .error failure) := by
  induction pages generalizing workspace with
  | nil => cases failed
  | cons page rest ih =>
    unfold publish at failed ⊢
    split at failed
    · next next done =>
      obtain ⟨others, other, unwritten, between, rfl, wrote, refused⟩ := ih failed
      exact ⟨page :: others, other, unwritten, between, rfl, .cons done wrote, refused⟩
    · next refused =>
      cases failed
      exact ⟨[], page, rest, workspace, rfl, .nil _, refused⟩

/-- When a page and, if it is wanted, a second one cannot both be written, one of them is what
cannot be written. -/
theorem publish_error_cases {first last : Page} {wanted : Bool}
    (failed : (publish halves workspace (first :: if wanted then [last] else [])).2.result =
      .error failure) :
    let after := (publish halves workspace (first :: if wanted then [last] else [])).1
    workspace.writeText halves first.path first.text = (after, .error failure) ∨
      wanted = true ∧ ∃ between,
        workspace.writeText halves first.path first.text = (between, .ok ()) ∧
        between.writeText halves last.path last.text = (after, .error failure) := by
  obtain ⟨written, page, rest, between, parted, wrote, refused⟩ := wrote_of_publish_error failed
  generalize (publish halves workspace _).1 = after at refused ⊢
  cases wrote with
  | nil =>
    obtain ⟨rfl, -⟩ := List.cons.inj parted
    exact .inl refused
  | cons done others =>
    obtain ⟨rfl, later⟩ := List.cons.inj parted
    cases wanted with
    | false => simp at later
    | true =>
      obtain ⟨rfl, second⟩ | ⟨-, empty⟩ := List.singleton_eq_append_iff.1 later
      · obtain ⟨rfl, -⟩ := List.cons.inj second
        cases others
        exact .inr ⟨rfl, between, done, refused⟩
      · cases empty

/-- A run that has its pages publishes them. -/
theorem run_of_prepare (prepared : (documentation.prepare workspace time).result = .ok pages) :
    (documentation.run workspace time).1 = (documentation.publishAll workspace pages).1 ∧
      ((documentation.run workspace time).2.result =
        (documentation.publishAll workspace pages).2.result.map fun _ =>
          documentation.reportPath) := by
  unfold run
  simp only [prepared, Trace.result_bind, true_and]
  cases (documentation.publishAll workspace pages).2.result <;> rfl

/-! ### How a run fails -/

/-- The ways in which a run can fail, with the workspace that it leaves. -/
inductive Fails (workspace : Workspace) (documentation : Documentation) (time : String) :
    Failure → Workspace → Prop
  /-- There are no pages. -/
  | unprepared {failure : Failure}
      (unprepared : (documentation.prepare workspace time).result = .error failure) :
      Fails workspace documentation time failure workspace
  /-- The output directory cannot be made. -/
  | unplaced {failure : Failure} {made : Workspace} {analysis : Analysis} {text : String}
      (ready : documentation.Ready workspace analysis text)
      (making : workspace.makeDirectories documentation.outputDir = (made, .error failure)) :
      Fails workspace documentation time failure made
  /-- The report cannot be written. -/
  | unreported {failure : Failure} {made after : Workspace} {analysis : Analysis} {text : String}
      (ready : documentation.Ready workspace analysis text)
      (making : workspace.makeDirectories documentation.outputDir = (made, .ok ()))
      (refused : made.writeText documentation.halves documentation.reportPath text =
        (after, .error failure)) :
      Fails workspace documentation time failure after
  /-- The report is written, and the catalog cannot be. -/
  | uncataloged {failure : Failure} {made written after : Workspace} {analysis : Analysis}
      {text : String} (wanted : documentation.catalog = true)
      (ready : documentation.Ready workspace analysis text)
      (making : workspace.makeDirectories documentation.outputDir = (made, .ok ()))
      (reported : made.writeText documentation.halves documentation.reportPath text =
        (written, .ok ()))
      (refused : written.writeText documentation.halves documentation.catalogPath
        (Report.catalog analysis.index) = (after, .error failure)) :
      Fails workspace documentation time failure after

/-- A run that fails does so in one of these ways. -/
theorem fails_of_run (failed : (documentation.run workspace time).2.result = .error failure) :
    Fails workspace documentation time failure (documentation.run workspace time).1 := by
  cases prepared : (documentation.prepare workspace time).result with
  | error cause =>
    unfold run at failed ⊢
    simp only [prepared, Trace.result_bind] at failed ⊢
    cases failed
    exact .unprepared prepared
  | ok pages =>
    obtain ⟨left, result⟩ := run_of_prepare prepared
    have unpublished := eq_error_of_map_eq_error (result ▸ failed)
    rw [left]
    obtain ⟨analysis, text, ready, rfl⟩ := prepare_eq_ok_iff.1 prepared
    match making : workspace.makeDirectories documentation.outputDir with
    | (made, .error cause) =>
      simp only [publishAll, making] at unpublished ⊢
      cases unpublished
      exact .unplaced ready making
    | (made, .ok ()) =>
      simp only [publishAll, making] at unpublished ⊢
      obtain refused | ⟨wanted, written, reported, refused⟩ := publish_error_cases unpublished
      · exact .unreported ready making refused
      · exact .uncataloged wanted ready making reported refused

/-- What a run that fails can leave in a file at a place that it has opened. -/
inductive Remains (documentation : Documentation) (workspace : Workspace) (failure : Failure)
    (after : Workspace) (place : Location) : Text.Bytes → Prop
  /-- The whole report. The catalog is wanted, and the failure is that it cannot be written. -/
  | report {written : Workspace} {analysis : Analysis} {text : String}
      (located : after.locate documentation.reportPath = .ok place)
      (wanted : documentation.catalog = true)
      (ready : documentation.Ready workspace analysis text)
      (refused : written.writeText documentation.halves documentation.catalogPath
        (Report.catalog analysis.index) = (after, .error failure)) :
      Remains documentation workspace failure after place (Text.Utf8.encode text)
  /-- Nothing. The report cannot be encoded, which is the failure. -/
  | emptyReport {analysis : Analysis} {text : String} {run : Text.HalfRun}
      (located : after.locate documentation.reportPath = .ok place)
      (ready : documentation.Ready workspace analysis text)
      (unencodable : documentation.halves.encode text = .error run)
      (same : failure = .unwritable run) :
      Remains documentation workspace failure after place []
  /-- Nothing. The catalog is wanted and cannot be encoded, which is the failure. -/
  | emptyCatalog {analysis : Analysis} {text : String} {run : Text.HalfRun}
      (located : after.locate documentation.catalogPath = .ok place)
      (wanted : documentation.catalog = true)
      (ready : documentation.Ready workspace analysis text)
      (unencodable : documentation.halves.encode (Report.catalog analysis.index) = .error run)
      (same : failure = .unwritable run) :
      Remains documentation workspace failure after place []

/-- What stands at a place after a run that fails: what stood there, a directory on the way to the
output directory where nothing stood, or what remains of a page. -/
inductive Accounted (documentation : Documentation) (workspace : Workspace) (failure : Failure)
    (after : Workspace) (place : Location) : Prop
  | same (same : after.tree.at? place = workspace.tree.at? place)
  | directory {above : Path} (free : workspace.tree.at? place = none)
      (stands : after.tree.at? place = some .directory)
      (onWay : above.OnWayTo documentation.outputDir) (located : after.locate above = .ok place)
  | page {content : Text.Bytes} (stands : after.tree.at? place = some (.file content))
      (remains : Remains documentation workspace failure after place content)

/-- What a run that fails leaves. -/
structure Unfinished (documentation : Documentation) (workspace : Workspace) (time : String)
    (failure : Failure) (after : Workspace) : Prop where
  /-- Nothing is written without the pages. -/
  unprepared : ∀ cause, (documentation.prepare workspace time).result = .error cause →
    after = workspace
  /-- Nothing is written if the output directory is there but the report's file does not open. -/
  unreported : workspace.isDirectory documentation.outputDir = .ok true →
    ¬ workspace.Opens documentation.reportPath → after = workspace
  /-- Nothing disappears, and no directory and no locked file changes. -/
  keeps : workspace.Keeps after
  accounted : ∀ place, Accounted documentation workspace failure after place

/-- When everything is ready, there are pages. -/
theorem Ready.prepare_ne_error {analysis : Analysis} {text : String}
    (ready : documentation.Ready workspace analysis text) (cause : Failure) :
    (documentation.prepare workspace time).result ≠ .error cause := by
  rw [prepare_eq_ok_iff.2 ⟨analysis, text, ready, rfl⟩]
  exact nofun

/-- Directories that are made on the way to the output directory are accounted for, whatever is
written elsewhere afterwards. -/
theorem accounted_of_made {made : Workspace} {place : Location}
    (making : Workspace.Made documentation.outputDir workspace made) (keeps : made.Keeps after)
    (same : after.tree.at? place = made.tree.at? place) :
    Accounted documentation workspace failure after place := by
  rcases making.added place with before | ⟨free, stands, above, onWay, located⟩
  · exact .same (same.trans before)
  · exact .directory free (same.trans stands) onWay (keeps.locate located)

/-- Once a page was opened, its place is accounted for by what remains there, and the other places
are as they were before. -/
theorem accounted_of_written {made : Workspace} {path : Path} {content : Text.Bytes}
    {place : Location} (written : Workspace.Written path content place made after)
    (remains : Remains documentation workspace failure after place content)
    (others : ∀ other, after.tree.at? other = made.tree.at? other →
      Accounted documentation workspace failure after other) (other : Location) :
    Accounted documentation workspace failure after other := by
  by_cases here : other = place
  · rw [here]
    exact .page written.stands remains
  · exact others other (written.others other here)

/-- After everything was ready, a run that fails is told by what it made of the output directory. -/
theorem unfinished_of_ready {made : Workspace} {result : Except Failure Unit} {analysis : Analysis}
    {text : String} (ready : documentation.Ready workspace analysis text)
    (making : workspace.makeDirectories documentation.outputDir = (made, result))
    (unreported : made = workspace → ¬ workspace.Opens documentation.reportPath → after = workspace)
    (keeps : made.Keeps after)
    (accounted : ∀ place, Accounted documentation workspace failure after place) :
    documentation.Unfinished workspace time failure after where
  unprepared cause unprepared := absurd unprepared (ready.prepare_ne_error cause)
  unreported there closed := by
    rw [Workspace.makeDirectories_of_isDirectory there] at making
    exact unreported (Prod.mk.inj making).1.symm closed
  keeps := by
    have made := Workspace.made_makeDirectories workspace documentation.outputDir
    rw [making] at made
    exact made.keeps.trans keeps
  accounted := accounted

/-- However a run fails, it leaves no more than what was made of the output directory, a report that
is whole or empty, and an empty catalog. -/
theorem Fails.unfinished (fails : Fails workspace documentation time failure after) :
    documentation.Unfinished workspace time failure after := by
  have directories := Workspace.made_makeDirectories workspace documentation.outputDir
  cases fails with
  | unprepared unprepared =>
    exact ⟨fun _ _ => rfl, fun _ _ => rfl, .refl _, fun _ => .same rfl⟩
  | unplaced ready making =>
    rw [making] at directories
    exact unfinished_of_ready ready making (fun same _ => same) (.refl _)
      fun place => accounted_of_made directories (.refl _) rfl
  | @unreported made _ _ _ ready making refused =>
    rw [making] at directories
    rcases Workspace.of_writeText_error refused with
      rfl | ⟨opens, run, place, rfl, unencodable, written⟩
    · exact unfinished_of_ready ready making (fun same _ => same) (.refl _)
        fun place => accounted_of_made directories (.refl _) rfl
    · have unreported (same : made = workspace) (closed : ¬ workspace.Opens _) :
          after = workspace :=
        absurd (same ▸ opens) closed
      refine unfinished_of_ready ready making unreported written.keeps ?_
      exact accounted_of_written written (.emptyReport written.located ready unencodable rfl)
        fun _ => accounted_of_made directories written.keeps
  | @uncataloged made _ _ _ _ wanted ready making reported refused =>
    rw [making] at directories
    obtain ⟨place, written⟩ := Workspace.exists_written reported
    have unreported (same : made = workspace) (closed : ¬ workspace.Opens _) : after = workspace :=
      absurd (same ▸ Workspace.opens_of_writeText reported) closed
    rcases Workspace.of_writeText_error refused with
      rfl | ⟨-, run, emptied, rfl, unencodable, cleared⟩
    · refine unfinished_of_ready ready making unreported written.keeps ?_
      exact accounted_of_written written (.report written.located wanted ready refused)
        fun _ => accounted_of_made directories written.keeps
    · refine unfinished_of_ready ready making unreported (written.keeps.trans cleared.keeps) ?_
      refine accounted_of_written cleared
        (.emptyCatalog cleared.located wanted ready unencodable rfl) fun other kept => ?_
      -- The file that was emptied is the catalog's, so the report stands where it was written.
      by_cases here : other = place
      · rw [here] at kept ⊢
        exact .page (kept.trans written.stands)
          (.report (cleared.keeps.locate written.located) wanted ready refused)
      · exact accounted_of_made directories (written.keeps.trans cleared.keeps)
          (kept.trans (written.others other here))

end Documentation

/-! ### A catalog that cannot be written -/

namespace Shop

/-- The class alone in `lib`, and in `docs` a directory in the place of the catalog. -/
def blocked : Workspace where
  tree :=
    { entries := [(["lib"], .directory),
        (["lib", "Client.php"], .file (Text.Utf8.encode clientText)),
        (["docs"], .directory),
        (["docs", "index.md"], .directory)]
      distinct := by simp }
  current := []

/-- The module is documented in `docs`, with a catalog. -/
def documentation : Documentation where
  survey := survey
  outputDir := .ofString "docs"
  address := .none
  catalog := true
  diagram := .standard
  halves := .none

/-- The analysis finds the class and nothing else. -/
def classAlone : Analysis where
  index := indexing.index
  links := []
  observers := .empty
  coverage := .compute indexing.index .empty

theorem analyze_blocked : (survey.analyze blocked).result = .ok classAlone := by
  have inside : blocked.tree.childNames ["lib"] = ["Client.php"] := by decide +kernel
  have files : survey.sourceFiles blocked = .ok [.ofString "lib/Client.php"] :=
    sourceFiles_of rfl rfl rfl inside (by decide +kernel)
  have found : Survey.search blocked (.ofString "lib") [.wild [.many]] =
      .ok [.ofString "lib/Client.php"] :=
    search_wild _ rfl rfl rfl inside (by cbv) (by decide +kernel)
  have configs : survey.configFiles blocked = .ok [] := by
    rw [configFiles_of_search found]
    rfl
  have links : (survey.findLinks blocked).result = .ok [] :=
    Trace.result_bind_eq_ok_iff.2 ⟨_, configs, rfl⟩
  exact Survey.analyze_eq_ok_iff.2
    ⟨indexing, buildIndex_of files (by decide +kernel), rfl, links, rfl, rfl⟩

/-- Without observers, the report in the standard diagram has its text. -/
theorem exists_built {documentation : Documentation} (standard : documentation.diagram = .standard)
    {analysis : Analysis} (none : analysis.observers = .empty) :
    ∃ text, (documentation.report analysis).build (some analysis.coverage) = .ok text := by
  have drawn : (documentation.report analysis).diagram = .standard := standard
  have empty : (documentation.report analysis).observers = .empty := none
  obtain ⟨diagram, drawn⟩ : ∃ diagram, (documentation.report analysis).diagramSection =
      .ok diagram := by
    rw [Report.diagramSection, drawn, empty]
    exact ⟨_, rfl⟩
  obtain ⟨rows, listed⟩ : ∃ rows, (documentation.report analysis).observerSection = .ok rows := by
    rw [Report.observerSection, empty,
      show (Roster.empty : Observers).sorted = [] from List.mergeSort_nil]
    exact ⟨_, rfl⟩
  rw [Report.build, Report.render, drawn, listed]
  exact ⟨_, rfl⟩

theorem ready_blocked : ∃ text, documentation.Ready blocked classAlone text := by
  have standard : documentation.diagram = .standard := rfl
  obtain ⟨text, built⟩ := exists_built standard (rfl : classAlone.observers = .empty)
  exact ⟨text, analyze_blocked, rfl, built⟩

/-- The run writes the report and then fails for the catalog. -/
theorem run_blocked : ∃ failure text, (documentation.run blocked "").2.result = .error failure ∧
    (documentation.run blocked "").1.tree.at? ["docs", "checkout.md"] =
      some (.file (Text.Utf8.encode text)) := by
  obtain ⟨text, ready⟩ := ready_blocked
  have prepared : (documentation.prepare blocked "").result =
      .ok [documentation.reportPage text, documentation.catalogPage classAlone.index] :=
    Documentation.prepare_eq_ok_iff.2 ⟨_, _, ready, rfl⟩
  obtain ⟨left, result⟩ := Documentation.run_of_prepare prepared
  have making : blocked.makeDirectories documentation.outputDir = (blocked, .ok ()) :=
    Workspace.makeDirectories_of_isDirectory (by decide +kernel)
  have placed : blocked.placeFor documentation.reportPath = .ok ["docs", "checkout.md"] := rfl
  have free : blocked.tree.at? ["docs", "checkout.md"] = none := by decide +kernel
  have writable := Workspace.writable_of_none free
  have report : Workspace.Written documentation.reportPath (Text.Utf8.encode text)
      ["docs", "checkout.md"] blocked
        (blocked.put ["docs", "checkout.md"] (.file (Text.Utf8.encode text))) :=
    Workspace.written_put placed writable
  have reported : blocked.writeText documentation.halves documentation.reportPath text =
      (_, .ok ()) :=
    Workspace.writeText_eq_ok_iff.2 ⟨rfl, Text.Halves.encodable_none text,
      Workspace.writeFile_eq_ok_iff.2 ⟨_, placed, writable, rfl⟩⟩
  have closed : ¬ (blocked.put ["docs", "checkout.md"]
      (.file (Text.Utf8.encode text))).Opens documentation.catalogPath := by
    have located : blocked.locate documentation.catalogPath = .ok ["docs", "index.md"] := rfl
    exact Workspace.not_opens_of_locate (report.keeps.locate located)
      (report.keeps.isDirectory_tree rfl)
  match cataloged : (blocked.put ["docs", "checkout.md"]
      (.file (Text.Utf8.encode text))).writeText documentation.halves documentation.catalogPath
        (Report.catalog classAlone.index) with
  | (after, .ok ()) => exact absurd (Workspace.opens_of_writeText cataloged) closed
  | (after, .error failure) =>
    rw [left, result]
    simp only [Documentation.publishAll, making, Documentation.publish, Documentation.reportPage,
      reported, Documentation.catalogPage, cataloged]
    rcases Workspace.of_writeText_error cataloged with rfl | ⟨opens, -⟩
    · exact ⟨failure, text, rfl, report.stands⟩
    · exact absurd opens closed

end Shop

namespace Documentation

/-- A run that fails before it has all pages leaves the workspace as it was. One that fails later
leaves nothing new but directories on the way to the output directory, the report if only the
catalog cannot be written, and an empty file in the place of a page that cannot be encoded. -/
theorem run_failed {workspace : Workspace} {documentation : Documentation} {time : String}
    {failure : Failure} (failed : (documentation.run workspace time).2.result = .error failure) :
    documentation.Unfinished workspace time failure (documentation.run workspace time).1 :=
  (fails_of_run failed).unfinished

theorem run_failed_blocked : ∃ failure,
    (Shop.documentation.run Shop.blocked "").2.result = .error failure ∧
      Shop.documentation.Unfinished Shop.blocked "" failure
        (Shop.documentation.run Shop.blocked "").1 := by
  obtain ⟨failure, _, failed, -⟩ := Shop.run_blocked
  exact ⟨failure, failed, run_failed failed⟩

/-- A run can fail although it has written a report where none was before. -/
theorem run_failed_with_report :
    (∃ failure, (Shop.documentation.run Shop.blocked "").2.result = .error failure) ∧
      Shop.blocked.tree.at? ["docs", "checkout.md"] = none ∧
      (Shop.documentation.run Shop.blocked "").1.tree.at? ["docs", "checkout.md"] ≠ none := by
  obtain ⟨failure, text, failed, stands⟩ := Shop.run_blocked
  exact ⟨⟨failure, failed⟩, by decide +kernel, by simp [stands]⟩

end Documentation

end EventAtlas
