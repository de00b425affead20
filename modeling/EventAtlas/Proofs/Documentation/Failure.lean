import EventAtlas.Proofs.Documentation
import EventAtlas.Proofs.Survey.Resolvable

/-!
# Failures of a module and failures of its settings

Reading a configuration and documenting what it asks for fail in different ways: what goes wrong
once a request is there is never one of the failures of a configuration. So a complaint tells which
of the two went wrong.
-/

namespace EventAtlas

/-- The failure is one of finding or reading a configuration. -/
def Failure.isOfSettings : Failure → Bool
  | .configNotFound _ _ | .malformedConfig _ _ | .configNotMapping _ => true
  | .moduleUndefined | .moduleMissing _ | .settingNotText _ => true
  | .notBoolean _ | .notTimestamp _ | .emptyNumber | .timestampOfMapping => true
  | .hugeEscape | .hugePlace | .tooDeep => true
  | _ => false

/-- The computation never fails in one of these ways. -/
abbrev FailsApart {α : Type} (computed : Except Failure α) : Prop :=
  FailsOnly (fun failure => failure.isOfSettings = false) computed

variable {workspace : Workspace} {survey : Survey}

/-! ### Looking at the tree -/

namespace Workspace

theorem failsApart_isFile (path : Path) : FailsApart (workspace.isFile path) := by
  intro failure failed
  obtain ⟨_, -, rfl⟩ := isFile_eq_error_iff.1 failed
  rfl

theorem failsApart_isDirectory (path : Path) : FailsApart (workspace.isDirectory path) := by
  intro failure failed
  obtain ⟨_, -, rfl⟩ := isDirectory_eq_error_iff.1 failed
  rfl

/-- Writing is refused by the file system, for a path that can be none or for the text. -/
theorem failsApart_writeText (halves : Text.Halves) (path : Path) (text : String) :
    FailsApart (workspace.writeText halves path text).2 := by
  intro failure failed
  have refused : workspace.writeText halves path text = (_, .error failure) := Prod.ext rfl failed
  rcases writeText_eq_error_iff.1 refused with
    ⟨-, ⟨-, rfl⟩ | ⟨-, _, rfl, -⟩⟩ | ⟨-, _, rfl, -⟩ <;> rfl

/-- So it is with making directories. -/
theorem failsApart_makeDirectories (path : Path) :
    FailsApart (workspace.makeDirectories path).2 := by
  have chain (paths : List Path) (workspace : Workspace) :
      FailsApart (makeDirectories.go workspace paths).2 := by
    induction paths generalizing workspace with
    | nil => exact .ok _
    | cons path rest ih =>
      unfold makeDirectories.go
      split
      · exact ih _
      · exact .error rfl
  unfold makeDirectories
  split
  · exact .error rfl
  · exact chain _ _

end Workspace

/-! ### Analysing a module -/

namespace Survey

/-- A search along a pattern fails only for the length of a name. -/
theorem failsApart_select (tree : Tree) (pattern : List Glob.Part) (found : Found) :
    FailsApart (select tree pattern found) := by
  induction pattern generalizing found with
  | nil => exact .ok _
  | cons part rest ih =>
    cases part with
    | directory => exact .ok _
    | deep => exact (FailsOnly.mapM ih).bind fun _ => .ok _
    | wild pieces => exact (FailsOnly.mapM ih).bind fun _ => .ok _
    | exact name =>
      rw [select]
      split
      · split
        · exact ih _
        · exact .ok _
      · exact .error rfl
      · exact .ok _

theorem failsApart_search (moduleDir : Path) (pattern : List Glob.Part) :
    FailsApart (search workspace moduleDir pattern) := by
  refine (Workspace.failsApart_isDirectory moduleDir).bind fun there => ?_
  split
  · split
    · exact (failsApart_select _ _ _).bind fun _ => .ok _
    · exact .ok _
  · exact .ok _

theorem failsApart_sourceFiles : FailsApart (survey.sourceFiles workspace) := by
  have pattern : FailsApart survey.sourcePattern := by
    unfold sourcePattern
    split
    · exact .ok _
    · exact .error rfl
  exact pattern.bind fun _ => (failsApart_search _ _).bind fun _ =>
    .filterM Workspace.failsApart_isFile

theorem failsApart_configFiles : FailsApart (survey.configFiles workspace) :=
  (failsApart_search _ _).bind fun _ =>
    (FailsOnly.filterM Workspace.failsApart_isFile).bind fun _ => .ok _

theorem failsApart_buildIndex : FailsApart (survey.buildIndex workspace).result := by
  rw [buildIndex, result_buildIndexOnto]
  exact failsApart_sourceFiles.map

/-- Registrations cannot be found only where files or an encoding come in the way. -/
theorem failsApart_findLinks : FailsApart (survey.findLinks workspace).result := by
  intro failure failed
  rcases findLinks_eq_error_iff.1 failed with unlisted | ⟨_, -, _, _, _, -, -, ends⟩
  · exact failsApart_configFiles failure unlisted
  · obtain ⟨_, -, ⟨_⟩⟩ := ends
    rfl

/-- Sources of observers are looked up like other files. -/
theorem failsApart_resolve (index : ApiIndex) (verbose : Bool) (links : List Link) :
    FailsApart (Observers.resolve workspace index verbose links).result := by
  intro failure failed
  obtain ⟨_, link, _, -, -, lost⟩ := Observers.resolve_eq_error_iff.1 failed
  obtain ⟨_, _, -, -, rfl⟩ := Observers.sourceOf_eq_error_iff.1 lost
  rfl

theorem failsApart_analyze : FailsApart (survey.analyze workspace).result := by
  unfold analyze
  simp only [Trace.result_bind]
  exact failsApart_buildIndex.bind fun _ => (FailsOnly.ok _).bind fun _ =>
    failsApart_findLinks.bind fun _ => (FailsOnly.ok _).bind fun _ =>
    (failsApart_resolve _ _ _).bind fun _ => (FailsOnly.ok _).bind fun _ => .ok _

end Survey

/-! ### Writing about it -/

namespace Diagram

/-- A style can only be missing as a whole table. -/
theorem StyleTable.failsApart_pick (table : StyleTable) (setting : String) (kind : Flow.NodeKind)
    (default : String) : FailsApart (table.pick setting kind default) := by
  cases table with
  | entries values => exact .ok _
  | notTable => exact .error rfl

theorem failsApart_generate (diagram : Diagram) (observers : Observers) :
    FailsApart (diagram.generate observers) := by
  unfold generate render
  split
  · refine FailsOnly.bind (FailsOnly.bind (.mapM fun kind => ?_) fun _ => .ok _) fun _ => .ok _
    exact (StyleTable.failsApart_pick _ _ _ _).bind fun _ => .ok _
  · refine FailsOnly.bind (FailsOnly.bind (.mapM fun node => ?_) fun _ => .ok _) fun _ => .ok _
    exact (StyleTable.failsApart_pick _ _ _ _).bind fun _ =>
      (StyleTable.failsApart_pick _ _ _ _).bind fun _ => .ok _

end Diagram

namespace Report

theorem failsApart_observerLink (report : Report) (observer : Observer) :
    FailsApart (report.observerLink observer) := by
  unfold observerLink
  dsimp only
  split
  · split
    · refine FailsOnly.bind ?_ fun url => ?_
      · unfold SourceAddress.fileUrl?
        split
        · exact .ok _
        · exact .ok _
        · exact .error rfl
      · split <;> exact .ok _
    · exact .ok _
  · exact .ok _

/-- A report fails for its diagram or for the address of a source. -/
theorem failsApart_build (report : Report) (coverage : Option Coverage) :
    FailsApart (report.build coverage) := by
  have diagram : FailsApart report.diagramSection :=
    (Diagram.failsApart_generate _ _).bind fun _ => .ok _
  have observers : FailsApart report.observerSection :=
    (FailsOnly.mapM fun _ => (failsApart_observerLink _ _).bind fun _ => .ok _).bind fun _ => .ok _
  exact diagram.bind fun _ => observers.bind fun _ => .ok _

end Report

namespace Documentation

variable {documentation : Documentation} {time : String}

/-- A request that cannot be followed names no directory or no format. -/
theorem failsApart_ofRequest (request : Request) : FailsApart (ofRequest workspace request) := by
  have diagram : FailsApart (diagramOf request.diagramName request.style) := by
    unfold diagramOf
    split
    · refine FailsOnly.bind ?_ fun _ => .ok _
      unfold Diagram.Register.find
      split
      · exact .ok _
      · exact .error rfl
    · exact .error rfl
  refine (Workspace.failsApart_isDirectory _).bind fun there => ?_
  split
  · exact .error rfl
  · exact diagram.bind fun _ => .ok _

theorem failsApart_prepare : FailsApart (documentation.prepare workspace time).result := by
  have pages (analysis : Analysis) : FailsApart (documentation.pages analysis) := by
    refine FailsOnly.bind ?_ fun _ => (Report.failsApart_build _ _).bind fun _ => .ok _
    unfold Coverage.validate
    split
    · exact .error rfl
    · exact .ok _
  unfold prepare
  simp only [Trace.result_bind, Trace.result_ofExcept]
  exact (FailsOnly.ok _).bind fun _ => (FailsOnly.ok _).bind fun _ =>
    Survey.failsApart_analyze.bind pages

/-- A run never fails as reading a configuration does. -/
theorem failsApart_run : FailsApart (documentation.run workspace time).2.result := by
  intro failure failed
  have fails := fails_of_run failed
  generalize (documentation.run workspace time).1 = after at fails
  cases fails with
  | unprepared unprepared => exact failsApart_prepare failure unprepared
  | unplaced _ making =>
    exact Workspace.failsApart_makeDirectories _ failure (congrArg Prod.snd making)
  | unreported _ _ refused =>
    exact Workspace.failsApart_writeText _ _ _ failure (congrArg Prod.snd refused)
  | uncataloged _ _ _ _ refused =>
    exact Workspace.failsApart_writeText _ _ _ failure (congrArg Prod.snd refused)

end Documentation

end EventAtlas
