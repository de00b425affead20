import EventAtlas.Proofs.Documentation.Rerun
import EventAtlas.Proofs.Path

/-!
# The footprint of a run

A run that succeeds makes the output directory and those above it that are missing, and it writes
the report and, if it is wanted, the catalog. Both tell of the workspace as it was before the run,
even where they are written into the module, and nothing else is touched.
-/

namespace EventAtlas

/-! ### What is on the way to a directory -/

/-- A path on the way to another one is written with no more bytes, unless it is the single dot. -/
theorem Path.OnWayTo.eq_here_or_size_le {above path : Path} (onWay : above.OnWayTo path) :
    above = .here ∨ above.toString.utf8ByteSize ≤ path.toString.utf8ByteSize := by
  obtain ⟨anchored, more, goesOn⟩ := onWay
  by_cases none : above.parts = []
  · by_cases relative : above.anchor = .relative
    · exact .inl (by rw [Path.here, ← relative, ← none])
    · have relative' : path.anchor ≠ .relative := anchored ▸ relative
      have nothing : Text.join "/" [] = "" := rfl
      rw [toString, toString, if_neg fun here => relative here.1,
        if_neg fun here => relative' here.1, none, nothing, String.append_empty, anchored,
        String.utf8ByteSize_append]
      exact .inr (Nat.le_add_right ..)
  · have none' : path.parts ≠ [] := by simp [← goesOn, none]
    have size := utf8ByteSize_join none
    have size' := utf8ByteSize_join none'
    rw [← goesOn, List.map_append, List.sum_append, goesOn] at size'
    rw [toString, toString, if_neg fun here => none here.2, if_neg fun here => none' here.2,
      anchored, String.utf8ByteSize_append, String.utf8ByteSize_append]
    exact .inr (by omega)

/-- Parts that lead to a directory lead to directories all the way. -/
theorem Tree.exists_walk_of_append {tree : Tree} {start place : Location}
    {parts more : List String} (led : tree.walk start (parts ++ more) = .ok place)
    (directory : tree.isDirectory place) :
    ∃ between, tree.walk start parts = .ok between ∧ tree.isDirectory between = true := by
  rw [walk_append] at led
  obtain ⟨between, before, rest⟩ := bind_eq_ok_iff.1 led
  refine ⟨between, before, ?_⟩
  cases more with
  | nil =>
    cases rest
    exact directory
  | cons part others =>
    rw [walk] at rest
    split at rest
    · cases rest
    · cases rest
    · cases rest
    · cases rest
    · next entered => exact isDirectory_of_at? entered

namespace Workspace

variable {workspace : Workspace} {path above : Path}

/-- All that is on the way to a directory is a directory. -/
theorem isDirectory_of_onWayTo (onWay : above.OnWayTo path)
    (there : workspace.isDirectory path = .ok true) : workspace.isDirectory above = .ok true := by
  obtain ⟨plain, place, located, directory⟩ := isDirectory_iff.1 there
  obtain ⟨fits, led⟩ := locate_eq_ok_iff.1 located
  have short : above.toString.utf8ByteSize ≤ Tree.maxPathBytes := by
    rcases onWay.eq_here_or_size_le with rfl | le
    · decide
    · exact le.trans fits
  have start : workspace.start above = workspace.start path := by
    rw [Workspace.start, Workspace.start, Path.isAbsolute, Path.isAbsolute, onWay.anchor]
  obtain ⟨more, goesOn⟩ := onWay.parts
  rw [← goesOn, ← start] at led
  obtain ⟨between, led', directory'⟩ := Tree.exists_walk_of_append led directory
  exact isDirectory_iff.2 ⟨hasNul_of_onWayTo onWay plain, between,
    locate_eq_ok_iff.2 ⟨short, led'⟩, directory'⟩

end Workspace

namespace Documentation

variable {workspace made after : Workspace} {documentation : Documentation} {analysis : Analysis}
  {text : String} {pages : List Page}

/-! ### What writing touches -/

/-- Writing pages changes nothing but what stands where their paths lead. -/
theorem Wrote.others {halves : Text.Halves} (wrote : Wrote halves workspace pages after)
    (place : Location) :
    after.tree.at? place = workspace.tree.at? place ∨
      ∃ page ∈ pages, after.locate page.path = .ok place := by
  induction wrote with
  | nil => exact .inl rfl
  | cons done rest ih =>
    obtain ⟨target, written⟩ := Workspace.exists_written done
    rcases ih with same | ⟨page, member, located⟩
    · by_cases here : place = target
      · exact .inr ⟨_, List.mem_cons_self, here ▸ rest.keeps.locate written.located⟩
      · exact .inl (same.trans (written.others place here))
    · exact .inr ⟨page, List.mem_cons_of_mem _ member, located⟩

/-- The pages are the report and, if it is wanted, the catalog. -/
theorem mem_allPages_iff {page : Page} : page ∈ documentation.allPages analysis text ↔
    page = documentation.reportPage text ∨
      documentation.catalog = true ∧ page = documentation.catalogPage analysis.index := by
  unfold allPages
  split <;> simp_all

/-- What a run leaves that documents an analysis of the workspace. -/
structure Leaves (documentation : Documentation) (workspace : Workspace) (analysis : Analysis)
    (text : String) (after : Workspace) : Prop where
  current : after.current = workspace.current
  /-- The output directory and all that is above it are directories. -/
  directories : ∀ above : Path, above.OnWayTo documentation.outputDir →
    after.isDirectory above = .ok true
  report : Stands after documentation.reportPath text
  catalog : documentation.catalog = true →
    Stands after documentation.catalogPath (Report.catalog analysis.index)
  /-- Whatever stands anywhere is as it was, unless it is a directory on the way to the output
  directory where nothing stood, or one of the pages. -/
  others : ∀ place, after.tree.at? place = workspace.tree.at? place ∨
    (workspace.tree.at? place = none ∧ after.tree.at? place = some .directory ∧
      ∃ above : Path, above.OnWayTo documentation.outputDir ∧ after.locate above = .ok place) ∨
    after.locate documentation.reportPath = .ok place ∨
    documentation.catalog = true ∧ after.locate documentation.catalogPath = .ok place

/-- A run that succeeds leaves just that. -/
theorem Succeeds.leaves (succeeds : documentation.Succeeds workspace made after analysis text) :
    documentation.Leaves workspace analysis text after := by
  have new := Workspace.made_makeDirectories workspace documentation.outputDir
  rw [succeeds.making] at new
  have keeps := succeeds.wrote.keeps
  refine ⟨keeps.current.trans new.current, fun above onWay => ?_, succeeds.report_stands,
    succeeds.catalog_stands, fun place => ?_⟩
  · have there := Workspace.isDirectory_of_makeDirectories succeeds.making
    exact Workspace.isDirectory_of_onWayTo onWay (keeps.isDirectory there)
  · rcases succeeds.wrote.others place with same | ⟨page, member, located⟩
    · rw [same]
      refine (new.added place).imp_right fun ⟨free, directory, above, onWay, located⟩ => ?_
      exact .inl ⟨free, directory, above, onWay, keeps.locate located⟩
    · refine .inr (.inr ?_)
      rcases mem_allPages_iff.1 member with rfl | ⟨wanted, rfl⟩
      · exact .inl located
      · exact .inr ⟨wanted, located⟩

/-- The analysis, its validation and the making of the pages leave the workspace as it is. A run
that succeeds gives the path of the report, and all that it leaves is the report on the workspace as
it was before, the catalog of the same analysis if it is wanted, and the directories around them. -/
theorem run_leaves (workspace : Workspace) (documentation : Documentation) (time : String) :
    (∀ cause, (documentation.prepare workspace time).result = .error cause →
      (documentation.run workspace time).1 = workspace) ∧
    ∀ path, (documentation.run workspace time).2.result = .ok path →
      path = documentation.reportPath ∧ ∃ analysis text,
        documentation.Ready workspace analysis text ∧
          documentation.Leaves workspace analysis text (documentation.run workspace time).1 := by
  refine ⟨fun cause unprepared => ?_, fun path done => ?_⟩
  · rw [run, unprepared]
  · obtain ⟨rfl, made, analysis, text, succeeds⟩ := exists_succeeds_of_run done
    exact ⟨rfl, analysis, text, succeeds.ready, succeeds.leaves⟩

/-- The module is documented in a new directory inside of it, with a catalog. -/
theorem run_leaves_nested : ∃ analysis text,
    (Shop.nested (.ofString "lib")).Ready Shop.workspace analysis text ∧
      (Shop.nested (.ofString "lib")).Leaves Shop.workspace analysis text
        ((Shop.nested (.ofString "lib")).run Shop.workspace "").1 := by
  obtain ⟨_, _, ready, -⟩ := Shop.exists_ready Shop.at_lib Shop.short_lib
    (rfl : (Shop.nested (.ofString "lib")).survey.moduleDir = _) rfl rfl
  obtain ⟨_, _, _, succeeds⟩ := Shop.exists_succeeds_nested (.refl _) (fun _ _ => rfl) ready
  obtain ⟨-, done⟩ := succeeds.run ""
  exact ((run_leaves _ _ "").2 _ done).2

end Documentation

end EventAtlas
