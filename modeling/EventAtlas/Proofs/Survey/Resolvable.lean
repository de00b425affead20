import EventAtlas.Proofs.Survey.Links
import EventAtlas.Proofs.Survey.Resolve

/-!
# When observers can be resolved

Nothing that is missing or locked keeps observers from being resolved: an observer without a source
still has its record. The one way to fail is a source whose expected path cannot be looked up, for
its length or for a locked directory on the way, and then there are no records at all. Since the
path is made from the text that names the observer, a configuration can bring this about.
-/

namespace EventAtlas

namespace Observers

variable {workspace : Workspace} {index : ApiIndex} {verbose : Bool} {links : List Link}

/-- The path at which the source of a registration is expected can be looked up, if there is
one. -/
def Sought (workspace : Workspace) (link : Link) : Prop :=
  ∀ path, link.source = some path → workspace.Admits path

/-- What can be looked for is read or passed over. -/
theorem exists_readAt {link : Link} {path : Option Path}
    (found : sourcePath workspace link = .ok path) :
    ∃ source, readAt workspace path = .ok source := by
  cases path with
  | none => exact ⟨none, rfl⟩
  | some path =>
    obtain ⟨source, read⟩ := Workspace.exists_readSource?_of_isFile (of_sourcePath found).2
    refine ⟨source.map (path, ·), ?_⟩
    rw [readAt, read]
    rfl

/-- A source cannot be looked up exactly if its path is refused; the failure names the path. -/
theorem sourceOf_eq_error_iff {link : Link} {failure : Failure} :
    sourceOf workspace link = .error failure ↔ ∃ path cause, link.source = some path ∧
      workspace.Refuses path cause ∧ failure = .file cause path.toString := by
  have looked : sourcePath workspace link = .error failure ↔ ∃ path cause,
      link.source = some path ∧ workspace.Refuses path cause ∧
        failure = .file cause path.toString := by
    unfold sourcePath
    cases link.source with
    | none => simp [pure, Except.pure]
    | some path =>
      rw [bind_eq_error_iff, Workspace.isFile_eq_error_iff]
      simp [pure, Except.pure]
  rw [sourceOf, bind_eq_error_iff, looked]
  refine or_iff_left ?_
  rintro ⟨path, found, failed⟩
  obtain ⟨source, read⟩ := exists_readAt found
  rw [read] at failed
  cases failed

/-- Every other source can be looked up. -/
theorem exists_sourceOf_iff {link : Link} :
    (∃ source, sourceOf workspace link = .ok source) ↔ Sought workspace link := by
  cases looked : sourceOf workspace link with
  | ok source =>
    simp only [Except.ok.injEq, exists_eq', true_iff]
    intro path pointed cause refuses
    rw [sourceOf_eq_error_iff.2 ⟨path, cause, pointed, refuses, rfl⟩] at looked
    cases looked
  | error failure =>
    obtain ⟨path, cause, pointed, refuses, -⟩ := sourceOf_eq_error_iff.1 looked
    simp only [reduceCtorEq, exists_false, false_iff]
    exact fun sought => sought path pointed cause refuses

/-- Resolving fails with the failure of the first source that cannot be looked up. -/
theorem resolve_eq_error_iff {failure : Failure} :
    (resolve workspace index verbose links).result = .error failure ↔
      FirstFails (sourceOf workspace) links failure :=
  Trace.result_foldlM_eq_error_iff result_resolveNext _

/-- All files can be looked for exactly if no path is refused. -/
theorem checkable_iff : Checkable workspace links ↔ ∀ link ∈ links, Sought workspace link := by
  simp only [Checkable, Workspace.exists_isFile_iff, Sought]

end Observers

/-- The registrations that are found expect the sources of their observers where the observers'
identifiers lead. -/
theorem Survey.source_of_findLinks {workspace : Workspace} {survey : Survey} {links : List Link}
    (found : (survey.findLinks workspace).result = .ok links) {link : Link} (member : link ∈ links) :
    link.source = some (Link.candidatePath survey.moduleDir survey.extension link.observer) := by
  obtain ⟨configs, -, rfl⟩ := findLinks_eq_ok found
  obtain ⟨config, -, inside⟩ := List.mem_flatMap.1 member
  exact (of_mem_linksAt inside).2

namespace Observers

/-- Resolving fails exactly where the path to a source cannot be looked up, with the first such
path. Otherwise there is a record for every observer that is registered. Registrations that a
survey finds are resolved exactly if every identifier of an observer leads to a path that can be
looked up. -/
theorem resolve_full (workspace : Workspace) (index : ApiIndex) (verbose : Bool)
    (links : List Link) :
    (∀ failure, (resolve workspace index verbose links).result = .error failure ↔
      ∃ before link after path cause, links = before ++ link :: after ∧
        (∀ earlier ∈ before, Sought workspace earlier) ∧ link.source = some path ∧
        workspace.Refuses path cause ∧ failure = .file cause path.toString) ∧
    ((∀ link ∈ links, Sought workspace link) →
      ∃ observers, (resolve workspace index verbose links).result = .ok observers ∧
        observers.keys = (links.map Link.observer).eraseDups ∧
        ∀ link ∈ links, ∃ observer, observers.get? link.observer = some observer ∧
          Recorded workspace links link.observer observer) ∧
    ∀ survey : Survey, (survey.findLinks workspace).result = .ok links →
      ((∃ observers, (resolve workspace index verbose links).result = .ok observers) ↔
        ∀ link ∈ links, workspace.Admits
          (Link.candidatePath survey.moduleDir survey.extension link.observer)) := by
  refine ⟨fun failure => ?_, fun sought => ?_, fun survey found => ?_⟩
  · rw [resolve_eq_error_iff, FirstFails]
    simp only [exists_sourceOf_iff, sourceOf_eq_error_iff, exists_and_left]
  · refine ⟨_, result_resolve (checkable_iff.2 sought) verbose, Roster.keys_gather_empty links, ?_⟩
    intro link member
    exact ⟨_, get?_gather_take.2 ⟨⟨link, member, rfl⟩, rfl⟩, recorded_record ..⟩
  · simp only [resolve_eq_ok_iff, exists_and_left, exists_eq, and_true, checkable_iff, Sought]
    refine forall₂_congr fun link member => ?_
    simp [Survey.source_of_findLinks found member]

end Observers

namespace Shop

/-- The characters of a name that is too long for a file once the extension follows it. -/
def longChars : List Char :=
  List.replicate 252 'A'

/-- The name. -/
def longName : String :=
  String.ofList longChars

/-- A configuration that registers an observer of this name. -/
def longNameContent : Text.Bytes :=
  ("<config><event name='paid'><observer instance='".toList ++ longChars ++
    "'/></event></config>".toList).map fun c => c.toNat.toUInt8

/-- The registration in it. -/
def longNameLink : Link :=
  survey.link (.ofString "lib/events.xml") "paid" longName

theorem canonical_longName : ClassId.canonical longName = longName := by
  have kept : ClassId.canonicalChars longChars = longChars := by decide +kernel
  rw [ClassId.canonical, longName, String.toList_ofList, kept]

theorem slashed_longName : Link.slashed longName = longName := by
  have kept : longChars.map (fun c => if c = ClassId.separator then '/' else c) = longChars := by
    decide +kernel
  rw [Link.slashed, longName, String.toList_ofList, kept]

theorem toList_longName : (longName ++ ".php").toList = longChars ++ ".php".toList := by
  rw [String.toList_append, longName, String.toList_ofList]

/-- The source of the observer is expected in `lib`, under the name with the extension. -/
theorem candidatePath_longName :
    Link.candidatePath survey.moduleDir survey.extension longName =
      ⟨.relative, ["lib", longName ++ ".php"]⟩ := by
  have relative : Path.Anchor.ofSlashes
      ((longChars ++ ".php".toList).takeWhile (· == '/')).length = .relative := by
    decide +kernel
  have single : Text.fields '/' (longChars ++ ".php".toList) = [longChars ++ ".php".toList] := by
    decide +kernel
  have kept : [longChars ++ ".php".toList].filter (fun part => part ≠ [] ∧ part ≠ ['.']) =
      [longChars ++ ".php".toList] := by decide +kernel
  have part : Path.ofString (longName ++ ".php") = ⟨.relative, [longName ++ ".php"]⟩ := by
    rw [Path.ofString, Path.partsOf, toList_longName, relative, single, kept, List.map_singleton,
      ← toList_longName, String.ofList_toList]
  rw [Link.candidatePath, canonical_longName, slashed_longName]
  change Path.join _ (Path.ofString (longName ++ ".php")) = _
  rw [part]
  rfl

theorem findLinks_longName :
    (survey.findLinks (configuredWith longNameContent)).result = .ok [longNameLink] := by
  have shown : (Xml.Document.parse longNameContent).toOption.map Survey.registered =
      some [("paid", [some longName])] := by decide +kernel
  have named : Survey.named (some longName) = some longName := by
    have written : longName ≠ "" := by decide +kernel
    rw [Survey.named, Option.getD_some, canonical_longName, if_neg written]
  rw [findLinks_of_registered shown]
  simp [Survey.entryLinks, named, longNameLink]

theorem refuses_longName : (configuredWith longNameContent).Refuses
    ⟨.relative, ["lib", longName ++ ".php"]⟩ .nameTooLong := by
  have plain : (longChars ++ ".php".toList).contains '\x00' = false := by decide +kernel
  have parted : (Path.mk .relative ["lib", longName ++ ".php"]).parts =
      ["lib"] ++ (longName ++ ".php") :: [] := rfl
  refine .barred ?_ (by decide +kernel) parted rfl ?_
  · simp only [Workspace.hasNul, List.any_cons, List.any_nil, toList_longName, plain]
    rfl
  · exact .long rfl (by decide +kernel) (by decide +kernel)

end Shop

/-- An observer of such a name is found, and then no observer at all is resolved. -/
theorem Observers.resolve_long_name :
    (Shop.survey.findLinks (Shop.configuredWith Shop.longNameContent)).result =
        .ok [Shop.longNameLink] ∧
      ∃ failure, ∀ index verbose, (resolve (Shop.configuredWith Shop.longNameContent) index verbose
        [Shop.longNameLink]).result = .error failure := by
  have pointed : Shop.longNameLink.source = some ⟨.relative, ["lib", Shop.longName ++ ".php"]⟩ :=
    congrArg some Shop.candidatePath_longName
  have failed := sourceOf_eq_error_iff.2 ⟨_, _, pointed, Shop.refuses_longName, rfl⟩
  exact ⟨Shop.findLinks_longName, _, fun index verbose =>
    resolve_eq_error_iff.2 ⟨[], _, [], rfl, by simp, failed⟩⟩

end EventAtlas
