import EventAtlas.Proofs.Survey.Resolvable
import EventAtlas.Proofs.Link
import EventAtlas.Proofs.Tree.Below

/-!
# What is read of observers

Resolving reads nothing but the sources that registrations point to. As long as their paths stay
within the module, it depends on nothing outside: with anything else there it is the same. An
observer that is registered with two dots or with a slash in front can have its source anywhere.
-/

namespace EventAtlas

namespace Observers

variable {workspace other : Workspace} {links : List Link}

/-- A registration has the same source in two workspaces: it is looked for and read alike. -/
structure SameSource (workspace other : Workspace) (link : Link) : Prop where
  path_eq : sourcePath other link = sourcePath workspace link
  read_eq : ∀ path, sourcePath workspace link = .ok (some path) →
    other.readSource? path = workspace.readSource? path

/-- So it is where its path leads to the same place and the same stands there. -/
theorem sameSource_of_locate {link : Link} {path : Path} (pointed : link.source = some path)
    (located : other.locate path = workspace.locate path)
    (same : ∀ place, workspace.locate path = .ok place →
      other.tree.at? place = workspace.tree.at? place) :
    SameSource workspace other link where
  path_eq := by
    unfold sourcePath Workspace.isFile
    rw [pointed]
    dsimp only
    rw [Workspace.find?_congr located same]
  read_eq expected found := by
    obtain rfl : path = expected := Option.some.inj (pointed.symm.trans (of_sourcePath found).1)
    exact Workspace.readSource?_congr_of_locate located same

/-- Taking a registration is the same with the same source. -/
theorem SameSource.resolveNext_eq {link : Link} (same : SameSource workspace other link)
    (index : ApiIndex) (verbose : Bool) (observers : Observers) :
    resolveNext other index verbose observers link =
      resolveNext workspace index verbose observers link := by
  rw [resolveNext, resolveNext, same.path_eq]
  cases found : sourcePath workspace link with
  | error failure => rfl
  | ok path =>
    cases path with
    | none => rfl
    | some path =>
      have read : readAt other (some path) = readAt workspace (some path) := by
        rw [readAt, readAt, same.read_eq path found]
      simp only [Trace.ofExcept, bind, Trace.andThen, read]

/-- Resolving depends on the sources of the registrations alone. -/
theorem resolve_congr (same : ∀ link ∈ links, SameSource workspace other link)
    (index : ApiIndex) (verbose : Bool) :
    resolve other index verbose links = resolve workspace index verbose links := by
  unfold resolve
  generalize Roster.empty = observers
  induction links generalizing observers with
  | nil => rfl
  | cons link rest ih =>
    obtain ⟨here, later⟩ := List.forall_mem_cons.1 same
    rw [List.foldlM_cons, List.foldlM_cons, here.resolveNext_eq]
    exact congrArg _ (funext fun observers => ih later observers)

/-- A registration whose path stays within a directory has the same source in all workspaces that
agree there. -/
theorem sameSource_of_within {link : Link} {path base : Path} {start : Location}
    (pointed : link.source = some path) (within : path.Within base)
    (located : workspace.locate base = .ok start) (again : other.locate base = .ok start)
    (agree : Tree.AgreeBelow start workspace.tree other.tree) :
    SameSource workspace other link := by
  obtain ⟨parts, rfl, forward⟩ := Path.within_iff.1 within
  refine sameSource_of_locate pointed ?_ fun place led => ?_
  · rw [Workspace.locate_below located, Workspace.locate_below again, agree.walk forward]
  · rw [Workspace.locate_below located] at led
    split at led
    · cases led
    · rw [Tree.place_of_walk forward led]
      exact agree _ (List.prefix_append ..)

/-- The path at which a source is expected stays within the module exactly if what is written after
the module has no field of two dots and does not start with a slash, or is a path within the module
by itself. This is so of every text without dots and slashes. Where it is so of all registrations
that are found, resolving them depends on nothing but what stands in the module. -/
theorem reads_within (workspace : Workspace) (survey : Survey) :
    (∀ text, (Link.candidatePath survey.moduleDir survey.extension text).Within survey.moduleDir ↔
      let written := Link.slashed (ClassId.canonical text) ++ survey.extension
      if written.toList.head? = some '/' then (Path.ofString written).Within survey.moduleDir
      else "..".toList ∉ Text.fields '/' written.toList) ∧
    ('/' ∉ survey.extension.toList → survey.extension ≠ ".." →
      ∀ text : String, '/' ∉ text.toList → '.' ∉ text.toList →
        (Link.candidatePath survey.moduleDir survey.extension text).Within survey.moduleDir) ∧
    ∀ links, (survey.findLinks workspace).result = .ok links →
      (∀ link ∈ links, (Link.candidatePath survey.moduleDir survey.extension
        link.observer).Within survey.moduleDir) →
      ∀ start, workspace.locate survey.moduleDir = .ok start →
        ∀ other : Workspace, other.locate survey.moduleDir = .ok start →
          Tree.AgreeBelow start workspace.tree other.tree →
          ∀ index verbose, resolve other index verbose links =
            resolve workspace index verbose links := by
  refine ⟨fun text => Link.candidatePath_within_iff,
    fun flat single text noSlash noDot => Link.candidatePath_within flat single noSlash noDot, ?_⟩
  intro links found within start located other again agree index verbose
  refine resolve_congr (fun link member => ?_) index verbose
  exact sameSource_of_within (Survey.source_of_findLinks found member) (within link member) located
    again agree

end Observers

/-- An observer that is registered with two dots in front has its source beside the module, and
it is read there. -/
theorem Observers.reads_beside :
    ¬ (Link.candidatePath Shop.survey.moduleDir Shop.survey.extension "..\\Placed").Within
        Shop.survey.moduleDir ∧
      sourceOf Shop.workspace (Shop.survey.link (.ofString "lib/events.xml") "paid" "..\\Placed") =
        .ok (some (.ofString "lib/../Placed.php", Shop.placedText)) ∧
      Shop.workspace.locate (.ofString "lib/../Placed.php") = .ok ["Placed.php"] ∧
      Shop.workspace.locate Shop.survey.moduleDir = .ok ["lib"] := by
  refine ⟨by decide +kernel, ?_, by decide +kernel, by decide +kernel⟩
  rw [sourceOf]
  decide +kernel

end EventAtlas
