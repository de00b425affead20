import EventAtlas.Proofs.Documentation
import EventAtlas.Proofs.Tree.Growth

/-!
# What a successful run leaves

A run that succeeds has its pages, makes the output directory and writes every page. Afterwards the
report and, if it is wanted, the catalog stand in the output directory, and nothing is different but
for these pages and the directories around them.
-/

namespace EventAtlas.Documentation

variable {workspace made after : Workspace} {documentation : Documentation} {time : String}
  {path : Path} {analysis : Analysis} {text : String} {pages : List Page} {halves : Text.Halves}

/-- Publishing that succeeds writes all pages. -/
theorem wrote_of_publish (done : (publish halves workspace pages).2.result = .ok ()) :
    Wrote halves workspace pages (publish halves workspace pages).1 := by
  induction pages generalizing workspace with
  | nil => exact .nil _
  | cons page rest ih =>
    unfold publish at done ⊢
    split at done
    · next between written =>
      rw [Trace.result_bind_eq_ok_iff] at done
      obtain ⟨_, -, done⟩ := done
      exact .cons written (ih done)
    · cases done

/-- Pages that can be written one after the other are published. -/
theorem publish_of_wrote (wrote : Wrote halves workspace pages after) :
    (publish halves workspace pages).1 = after ∧
      (publish halves workspace pages).2.result = .ok () := by
  induction wrote with
  | nil => exact ⟨rfl, rfl⟩
  | cons written _ ih =>
    unfold publish
    rw [written]
    exact ⟨ih.1, Trace.result_bind_eq_ok_iff.2 ⟨(), rfl, ih.2⟩⟩

/-- Writing pages keeps what stands. -/
theorem Wrote.keeps (wrote : Wrote halves workspace pages after) : workspace.Keeps after := by
  induction wrote with
  | nil workspace => exact .refl workspace
  | cons written _ ih =>
    obtain ⟨place, kept⟩ := Workspace.exists_written written
    exact kept.keeps.trans ih

/-- All pages of a documentation: the report, and the catalog if it is wanted. -/
def allPages (documentation : Documentation) (analysis : Analysis) (text : String) : List Page :=
  documentation.reportPage text ::
    if documentation.catalog then [documentation.catalogPage analysis.index] else []

/-- How a run succeeds. -/
structure Succeeds (documentation : Documentation) (workspace made after : Workspace)
    (analysis : Analysis) (text : String) : Prop where
  ready : documentation.Ready workspace analysis text
  making : workspace.makeDirectories documentation.outputDir = (made, .ok ())
  wrote : Wrote documentation.halves made (documentation.allPages analysis text) after

/-- A run that succeeds gives the path of the report. -/
theorem exists_succeeds_of_run (done : (documentation.run workspace time).2.result = .ok path) :
    path = documentation.reportPath ∧ ∃ made analysis text,
      documentation.Succeeds workspace made (documentation.run workspace time).1 analysis text := by
  cases prepared : (documentation.prepare workspace time).result with
  | error cause =>
    unfold run at done
    simp only [prepared, Trace.result_bind] at done
    cases done
  | ok pages =>
    obtain ⟨left, result⟩ := run_of_prepare prepared
    obtain ⟨_, published, rfl⟩ := exists_of_map_eq_ok (result ▸ done)
    obtain ⟨analysis, text, ready, rfl⟩ := prepare_eq_ok_iff.1 prepared
    refine ⟨rfl, ?_⟩
    rw [left]
    match making : workspace.makeDirectories documentation.outputDir with
    | (made, .error cause) =>
      simp only [publishAll, making] at published
      cases published
    | (made, .ok ()) =>
      simp only [publishAll, making] at published ⊢
      exact ⟨made, analysis, text, ready, making, wrote_of_publish published⟩

/-- A run succeeds when everything that it does does. -/
theorem Succeeds.run (succeeds : documentation.Succeeds workspace made after analysis text)
    (time : String) : (documentation.run workspace time).1 = after ∧
      (documentation.run workspace time).2.result = .ok documentation.reportPath := by
  have prepared : (documentation.prepare workspace time).result =
      .ok (documentation.allPages analysis text) :=
    prepare_eq_ok_iff.2 ⟨analysis, text, succeeds.ready, rfl⟩
  obtain ⟨left, result⟩ := run_of_prepare prepared
  obtain ⟨final, published⟩ := publish_of_wrote succeeds.wrote
  rw [left, result]
  refine ⟨?_, ?_⟩
  · simp only [publishAll, succeeds.making, final]
  · simp only [publishAll, succeeds.making, published]
    rfl

/-! ### The pages -/

/-- The names of the files that a run writes. -/
def pageNames : List String := ["checkout.md", "index.md"]

/-- A text stands where its path has its place. -/
def Stands (workspace : Workspace) (path : Path) (text : String) : Prop :=
  Workspace.hasNul path = false ∧ ∃ place, workspace.placeFor path = .ok place ∧
    workspace.locate path = .ok place ∧
    workspace.tree.at? place = some (.file (Text.Utf8.encode text))

/-- A text that stands is read at its path. -/
theorem Stands.read? (stands : Stands workspace path text) :
    workspace.read? path = some (Text.Utf8.encode text) := by
  obtain ⟨plain, place, -, located, file⟩ := stands
  exact Workspace.read?_eq_some_iff.2 (Workspace.read_eq_ok_iff.2 ⟨plain, place, located, file⟩)

/-- A text that stands is written again without any change. -/
theorem Stands.writeText (stands : Stands workspace path text)
    (encodable : halves.Encodable text) :
    workspace.writeText halves path text = (workspace, .ok ()) := by
  obtain ⟨plain, place, placed, -, file⟩ := stands
  exact Workspace.writeText_of_stands plain encodable placed file

/-- A text that was written stands. -/
theorem stands_of_writeText (done : workspace.writeText halves path text = (after, .ok ())) :
    Stands after path text := by
  obtain ⟨plain, -, written⟩ := Workspace.writeText_eq_ok_iff.1 done
  obtain ⟨place, placed, free, rfl⟩ := Workspace.writeFile_eq_ok_iff.1 written
  have kept : Workspace.Written path (Text.Utf8.encode text) place workspace _ :=
    Workspace.written_put placed free
  exact ⟨plain, place, kept.keeps.placeFor placed, kept.located, kept.stands⟩

/-- Writing a file of another name leaves a text where it stands. -/
theorem Stands.of_writeText {name other : String} {otherPath : Path} {otherText : String}
    (stands : Stands workspace path text) (last : path.parts.getLast? = some name)
    (notUp : name ≠ "..") (last' : otherPath.parts.getLast? = some other) (notUp' : other ≠ "..")
    (apart : name ≠ other)
    (done : workspace.writeText halves otherPath otherText = (after, .ok ())) :
    Stands after path text := by
  obtain ⟨plain, place, placed, located, file⟩ := stands
  obtain ⟨plain', -, written⟩ := Workspace.writeText_eq_ok_iff.1 done
  obtain ⟨place', placed', free, rfl⟩ := Workspace.writeFile_eq_ok_iff.1 written
  have kept : Workspace.Written otherPath (Text.Utf8.encode otherText) place' workspace _ :=
    Workspace.written_put placed' free
  obtain ⟨around, -, -, rfl⟩ := Workspace.place_of_placeFor plain last notUp placed
  obtain ⟨around', -, -, rfl⟩ := Workspace.place_of_placeFor plain' last' notUp' placed'
  have elsewhere : around ++ [name] ≠ around' ++ [other] := fun same =>
    apart (List.singleton_inj.1 (List.append_inj' same rfl).2)
  exact ⟨plain, _, kept.keeps.placeFor placed, kept.keeps.locate located,
    (kept.others _ elsewhere).trans file⟩

theorem getLast?_reportPath (documentation : Documentation) :
    documentation.reportPath.parts.getLast? = some "checkout.md" := by
  simp [reportPath, Path.child]

theorem getLast?_catalogPath (documentation : Documentation) :
    documentation.catalogPath.parts.getLast? = some "index.md" := by
  simp [catalogPath, Path.child]

/-- After a run that succeeds, the report stands at its path. -/
theorem Succeeds.report_stands
    (succeeds : documentation.Succeeds workspace made after analysis text) :
    Stands after documentation.reportPath text := by
  obtain ⟨-, -, wrote⟩ := succeeds
  unfold allPages at wrote
  cases wrote with
  | cons reported rest =>
    have stands := stands_of_writeText reported
    split at rest
    · cases rest with
      | cons cataloged rest =>
        cases rest
        exact stands.of_writeText (getLast?_reportPath _) (by decide) (getLast?_catalogPath _)
          (by decide) (by decide) cataloged
    · cases rest
      exact stands

/-- So does the catalog, if it is wanted. -/
theorem Succeeds.catalog_stands
    (succeeds : documentation.Succeeds workspace made after analysis text)
    (wanted : documentation.catalog = true) :
    Stands after documentation.catalogPath (Report.catalog analysis.index) := by
  obtain ⟨-, -, wrote⟩ := succeeds
  unfold allPages at wrote
  rw [if_pos wanted] at wrote
  cases wrote with
  | cons reported rest =>
    cases rest with
    | cons cataloged rest =>
      cases rest
      exact stands_of_writeText cataloged

/-- Pages that were written could be encoded. -/
theorem Wrote.encodable (wrote : Wrote halves workspace pages after) :
    ∀ page ∈ pages, halves.Encodable page.text := by
  induction wrote with
  | nil => simp
  | cons written _ ih =>
    exact List.forall_mem_cons.2 ⟨(Workspace.writeText_eq_ok_iff.1 written).2.1, ih⟩

/-- A run that succeeds lets the tree grow by pages. -/
theorem Succeeds.grows (succeeds : documentation.Succeeds workspace made after analysis text)
    (connected : workspace.tree.Connected) : workspace.Grows pageNames after := by
  obtain ⟨-, making, wrote⟩ := succeeds
  have directories :
      workspace.Grows pageNames (workspace.makeDirectories documentation.outputDir).1 :=
    Workspace.grows_makeDirectories connected
  rw [making] at directories
  unfold allPages at wrote
  cases wrote with
  | cons reported rest =>
    have report := directories.trans (Workspace.grows_writeText (getLast?_reportPath _) (by decide)
      (by decide) reported)
    split at rest
    · cases rest with
      | cons cataloged rest =>
        cases rest
        exact report.trans (Workspace.grows_writeText (getLast?_catalogPath _) (by decide)
          (by decide) cataloged)
    · cases rest
      exact report

/-- When everything is ready again, a run after one that succeeded succeeds and changes nothing. -/
theorem Succeeds.again (succeeds : documentation.Succeeds workspace made after analysis text)
    (ready : documentation.Ready after analysis text) :
    documentation.Succeeds after after after analysis text := by
  have keeps := succeeds.wrote.keeps
  have encodable := succeeds.wrote.encodable
  refine ⟨ready, ?_, ?_⟩
  · have there := Workspace.isDirectory_of_makeDirectories succeeds.making
    exact Workspace.makeDirectories_of_isDirectory (keeps.isDirectory there)
  · unfold allPages at encodable ⊢
    have report := succeeds.report_stands.writeText (encodable _ List.mem_cons_self)
    split
    · next wanted =>
      have catalog := (succeeds.catalog_stands wanted).writeText
        (encodable (documentation.catalogPage analysis.index) (by simp [wanted]))
      exact .cons report (.cons catalog (.nil _))
    · exact .cons report (.nil _)

end EventAtlas.Documentation
