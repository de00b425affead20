import EventAtlas.Proofs.Survey.Growth
import EventAtlas.Proofs.Text.Lower

/-!
# Registrations in document order

The registrations of a module are those of its event configurations, one file after the other in the
order of their paths, and within a file in the order of the document. Which files are event
configurations is told by the tree, and which registrations a file holds by its document. Where only
configurations below a directory `etc` count, the registrations are those of them, and the others
are left out.
-/

namespace EventAtlas

namespace Path

/-- Different components in order are in the order of words. -/
theorem lt_of_componentsLe {left right : List String} (le : componentsLe left right = true)
    (apart : left ≠ right) : left < right := by
  fun_induction componentsLe left right with
  | case1 right =>
    cases right with
    | nil => exact absurd rfl apart
    | cons => exact List.nil_lt_cons ..
  | case2 => cases le
  | case3 part lefts rights ih =>
    exact List.cons_lt_cons_iff.2 (.inr ⟨rfl, ih le fun same => apart (same ▸ rfl)⟩)
  | case4 left lefts right rights different =>
    have le : left ≤ right := of_decide_eq_true le
    refine List.cons_lt_cons_iff.2 (.inl ?_)
    by_contra notLt
    exact different (String.le_antisymm le (String.not_lt.1 notLt))

/-- So are the parts of different paths with one anchor. -/
theorem parts_lt_of_le {left right : Path} (anchors : left.anchor = right.anchor)
    (le : Path.le left right = true) (apart : left ≠ right) : left.parts < right.parts := by
  obtain ⟨anchor, parts⟩ := left
  obtain ⟨_, parts'⟩ := right
  obtain rfl : anchor = _ := anchors
  have different : parts ≠ parts' := fun same => apart (same ▸ rfl)
  cases anchor with
  | relative => exact lt_of_componentsLe le different
  | root | doubleRoot =>
    have lt := lt_of_componentsLe le fun same => different (List.cons.inj same).2
    simpa [components, isAbsolute] using lt

/-- A path lies below a directory `etc` that lies below another path. -/
def BelowEtc (path base : Path) : Prop :=
  ∃ names name, path = base.below (names ++ [name]) ∧ "etc" ∈ names

end Path

namespace Survey

variable {workspace : Workspace} {survey : Survey} {config : Path} {content : Text.Bytes}

theorem isBelowEtc_iff : survey.isBelowEtc config = true ↔ config.BelowEtc survey.moduleDir := by
  unfold isBelowEtc Path.BelowEtc
  cases relative : config.relativeTo? survey.moduleDir with
  | none =>
    simp only [Bool.false_eq_true, false_iff]
    rintro ⟨names, name, rfl, -⟩
    rw [Path.relativeTo?_below] at relative
    cases relative
  | some inside =>
    obtain ⟨-, rfl⟩ := Path.relativeTo?_eq_some_iff.1 relative
    simp only [List.contains_iff_mem]
    constructor
    · intro member
      have some : inside.parts ≠ [] := by
        intro none
        rw [none] at member
        cases member
      exact ⟨_, _, by rw [List.dropLast_append_getLast some], member⟩
    · rintro ⟨names, name, same, member⟩
      rw [Path.below_inj.1 same, List.dropLast_concat]
      exact member

instance (path base : Path) : Decidable (path.BelowEtc base) :=
  decidable_of_iff _ (@isBelowEtc_iff ⟨base, "", false, false⟩ path)

/-! ### One file -/

/-- The events that a document declares: those directly in its outermost element or, only if there
are none, those in the `events` elements there. -/
def declaredEvents (root : Xml.Element) : List Xml.Element :=
  if root.childrenNamed "event" = [] then
    (root.childrenNamed "events").flatMap (·.childrenNamed "event")
  else root.childrenNamed "event"

/-- The registration that an observer element stands for: none if it names no observer. -/
def observerLinks (survey : Survey) (config : Path) (event observer : Xml.Element) : List Link :=
  let id := ClassId.canonical ((observer.attribute? "instance").getD "")
  if id = "" then []
  else [{
    event := (event.attribute? "name").getD ""
    observer := id
    source := some (Link.candidatePath survey.moduleDir survey.extension id)
    config := some config }]

/-- The registrations in a file: none if it may not be opened or holds no well-formed document, and
one for each observer element of each declared event otherwise. -/
inductive Registers (survey : Survey) (config : Path) : Entry → List Link → Prop
  | locked : Registers survey config .lockedFile []
  | illFormed {content : Text.Bytes} {fault : Xml.Fault}
      (refused : Xml.Document.parse content = .error (.illFormed fault)) :
      Registers survey config (.file content) []
  | wellFormed {content : Text.Bytes} {root : Xml.Element}
      (parsed : Xml.Document.parse content = .ok root) :
      Registers survey config (.file content) ((declaredEvents root).flatMap fun event =>
        (event.childrenNamed "observer").flatMap (survey.observerLinks config event))

theorem eventElements_eq (root : Xml.Element) : eventElements root = declaredEvents root := by
  unfold eventElements declaredEvents
  split
  · next none => rw [if_pos none]
  · next some => rw [if_neg some]

/-- The registrations of an event are those of its observer elements, one after the other. -/
theorem eventLinks_eq_flatMap (event : Xml.Element) :
    survey.eventLinks config event =
      (event.childrenNamed "observer").flatMap (survey.observerLinks config event) := by
  unfold eventLinks
  induction event.childrenNamed "observer" with
  | nil => rfl
  | cons observer rest ih =>
    rw [List.flatMap_cons, ← ih, List.filterMap_cons, observerOf, observerLinks]
    by_cases none : ClassId.canonical ((observer.attribute? "instance").getD "") = ""
    · simp [none]
    · simp [none, link]

/-- What is read of the content of a file are the registrations in it. -/
theorem registers_of_contentLinks {links : List Link}
    (read : (survey.contentLinks config content).result = .ok links) :
    Registers survey config (.file content) links := by
  unfold contentLinks at read
  split at read
  · next root parsed =>
    cases read
    rw [rootLinks, eventElements_eq, funext eventLinks_eq_flatMap]
    exact .wellFormed parsed
  · next fault refused =>
    obtain ⟨_, -, none⟩ := Trace.result_bind_eq_ok_iff.1 read
    cases none
    exact .illFormed refused
  · cases read

/-- What is read of a file that a path leads to are the registrations in it. -/
theorem registers_of_fileLinks {links : List Link} (file : workspace.isFile config = .ok true)
    (read : (survey.fileLinks workspace config).result = .ok links) :
    ∃ place entry, workspace.locate config = .ok place ∧
      workspace.tree.at? place = some entry ∧ Registers survey config entry links := by
  obtain ⟨plain, place, entry, located, stands, file⟩ := Workspace.isFile_iff.1 file
  refine ⟨place, entry, located, stands, ?_⟩
  rcases Entry.isFile_iff.1 file with ⟨content, rfl⟩ | rfl
  · have opened := Workspace.read_eq_ok_iff.2 ⟨plain, place, located, stands⟩
    rw [result_fileLinks_of_read opened] at read
    exact registers_of_contentLinks read
  · have unread : workspace.read config = .error (.file .notPermitted config.toString) := by
      simp [Workspace.read, plain, located, bind, Except.bind, Tree.read, stands]
    rw [result_fileLinks_of_unread unread] at read
    cases read
    exact .locked

/-! ### The files -/

variable {configs : List Path}

/-- A path is that of an event configuration that counts: a file below the module whose name is
`events.xml` in some case, below a directory `etc` in the module if that is asked for. -/
def Configures (workspace : Workspace) (survey : Survey) (config : Path) : Prop :=
  ∃ start names name entry, At workspace survey.moduleDir start ∧
    config = survey.moduleDir.below (names ++ [name]) ∧
    workspace.tree.at? (start ++ (names ++ [name])) = some entry ∧ entry.isFile = true ∧
    name.toList.map Char.toLower = "events.xml".toList ∧
    (survey.requireEtc = true → "etc" ∈ names)

/-- A path with a name has the name of an event configuration if the name is `events.xml` in some
case. -/
theorem hasConfigName_below_iff {base : Path} {names : List String} {name : String} :
    hasConfigName (base.below (names ++ [name])) = true ↔
      name.toList.map Char.toLower = "events.xml".toList := by
  have last : (base.below (names ++ [name])).name = name := by simp [Path.name, Path.below]
  have ascii : ∀ c ∈ configName.toList, c.toNat < 128 ∧ c ≠ 'k' ∧ c ≠ 'i' := by decide
  rw [hasConfigName, last, decide_eq_true_eq, Text.lower_eq_iff ascii, configName]

/-- Which files below a module are event configurations that count. -/
theorem isConfig_below_iff {names : List String} {name : String} :
    survey.isConfig (survey.moduleDir.below (names ++ [name])) = true ↔
      name.toList.map Char.toLower = "events.xml".toList ∧
        (survey.requireEtc = true → "etc" ∈ names) := by
  have below : survey.isBelowEtc (survey.moduleDir.below (names ++ [name])) = true ↔
      "etc" ∈ names := by
    simp [isBelowEtc, Path.relativeTo?_below]
  rw [isConfig, Bool.and_eq_true, hasConfigName_below_iff, Bool.or_eq_true, below,
    Bool.not_eq_true', ← Bool.not_eq_true, Classical.or_iff_not_imp_left, not_not]

/-- The event configurations are the files that are ones. -/
theorem mem_configFiles_iff (connected : workspace.tree.Connected)
    (listed : survey.configFiles workspace = .ok configs) :
    config ∈ configs ↔ Configures workspace survey config := by
  rw [configFiles_eq] at listed
  obtain ⟨files, searched, rfl⟩ := exists_of_map_eq_ok listed
  rw [List.mem_filter, mem_searchFiles_iff connected searched]
  constructor
  · rintro ⟨⟨start, names, name, entry, there, rfl, -, stands, file⟩, counts⟩
    obtain ⟨named, etc⟩ := isConfig_below_iff.1 counts
    exact ⟨start, names, name, entry, there, rfl, stands, file, named, etc⟩
  · rintro ⟨start, names, name, entry, there, rfl, stands, file, named, etc⟩
    have any : Glob.accepts [.many] name.toList = true :=
      Glob.accepts_many_iff.2 ⟨[], List.nil_suffix, by simp [Glob.accepts]⟩
    exact ⟨⟨start, names, name, entry, there, rfl, any, stands, file⟩,
      isConfig_below_iff.2 ⟨named, etc⟩⟩

/-- They are in the order of their paths, each once. -/
theorem pairwise_configFiles (connected : workspace.tree.Connected)
    (listed : survey.configFiles workspace = .ok configs) :
    configs.Pairwise fun left right => left.parts < right.parts := by
  have anchored : ∀ config ∈ configs, config.anchor = survey.moduleDir.anchor := by
    intro config member
    obtain ⟨_, _, _, _, -, rfl, -⟩ := (mem_configFiles_iff connected listed).1 member
    rfl
  obtain ⟨paths, list, rfl⟩ := configFiles_eq_ok listed
  have ordered : (filesOf workspace survey.isConfig paths).Pairwise
      fun left right => Path.le left right = true ∧ left ≠ right :=
    ((list.ordered.and list.distinct).filter _).filter _
  refine ordered.imp_of_mem fun {left right} member member' ⟨le, apart⟩ => ?_
  exact Path.parts_lt_of_le ((anchored left member).trans (anchored right member').symm) le apart

/-- With a directory `etc` asked for, they are those below one. -/
theorem configFiles_requireEtc : configFiles workspace { survey with requireEtc := true } =
    (configFiles workspace { survey with requireEtc := false }).map fun configs =>
      configs.filter fun config => config.BelowEtc survey.moduleDir := by
  have counts (path : Path) : isConfig { survey with requireEtc := true } path =
      (decide (path.BelowEtc survey.moduleDir) &&
        isConfig { survey with requireEtc := false } path) := by
    have below : isBelowEtc { survey with requireEtc := true } path =
        decide (path.BelowEtc survey.moduleDir) := by
      rw [Bool.eq_iff_iff, isBelowEtc_iff, decide_eq_true_eq]
    simp [isConfig, below, Bool.and_comm]
  rw [configFiles_eq, configFiles_eq]
  cases searchFiles workspace survey.moduleDir [.many] with
  | error failure => rfl
  | ok files =>
    refine congrArg Except.ok (Eq.trans ?_ (List.filter_filter ..).symm)
    exact List.filter_congr fun path _ => counts path

/-- An event configuration is a file. -/
theorem isFile_of_mem_configFiles (listed : survey.configFiles workspace = .ok configs) :
    ∀ config ∈ configs, workspace.isFile config = .ok true := by
  intro config member
  obtain ⟨paths, -, rfl⟩ := configFiles_eq_ok listed
  exact of_decide_eq_true (List.mem_filter.1 (List.mem_filter.1 member).1).2

/-! ### All registrations -/

/-- Leaving files out leaves out what is listed for them. -/
theorem exists_forall₂_filter {α β : Type} {gives : α → List β → Prop} {items : List α}
    {lists : List (List β)} (pairs : List.Forall₂ gives items lists) {keep : α → Bool}
    {keepListed : β → Bool}
    (agree : ∀ item list, gives item list → ∀ listed ∈ list, keepListed listed = keep item) :
    ∃ kept, List.Forall₂ gives (items.filter keep) kept ∧
      kept.flatten = lists.flatten.filter keepListed := by
  induction pairs with
  | nil => exact ⟨[], .nil, rfl⟩
  | @cons item list rest others given _ ih =>
    obtain ⟨kept, pairs, same⟩ := ih
    have here := agree item list given
    rw [List.flatten_cons, List.filter_append, ← same]
    cases wanted : keep item with
    | true =>
      rw [List.filter_cons_of_pos wanted]
      refine ⟨list :: kept, .cons given pairs, ?_⟩
      rw [List.flatten_cons, List.filter_eq_self.2 fun listed member =>
        (here listed member).trans wanted]
    | false =>
      rw [List.filter_cons_of_neg (Bool.eq_false_iff.1 wanted)]
      refine ⟨kept, pairs, ?_⟩
      rw [List.filter_eq_nil_iff.2 fun listed member =>
        Bool.eq_false_iff.1 ((here listed member).trans wanted), List.nil_append]

/-- The event configurations of a module, in the order of their paths and each once, with the
registrations in each of them. -/
structure InOrder (workspace : Workspace) (survey : Survey) (configs : List Path)
    (lists : List (List Link)) : Prop where
  ordered : configs.Pairwise fun left right => left.parts < right.parts
  mem_iff : ∀ config, config ∈ configs ↔ Configures workspace survey config
  registers : List.Forall₂ (fun config list => ∃ place entry,
    workspace.locate config = .ok place ∧ workspace.tree.at? place = some entry ∧
      Registers survey config entry list) configs lists

/-- The registrations of a module are those in its event configurations, in the order of the paths
of these, and for each of them in the order of the document. Where a directory `etc` is asked for,
they are those that are declared below one, if all registrations can be found. -/
theorem findLinks_in_order (connected : workspace.tree.Connected) (survey : Survey) :
    (∀ links, (survey.findLinks workspace).result = .ok links →
      ∃ configs lists, InOrder workspace survey configs lists ∧ links = lists.flatten) ∧
    ∀ all, (findLinks workspace { survey with requireEtc := false }).result = .ok all →
      (findLinks workspace { survey with requireEtc := true }).result =
        .ok (all.filter fun link => link.config.any fun config =>
          config.BelowEtc survey.moduleDir) := by
  refine ⟨fun links found => ?_, fun all found => ?_⟩
  · obtain ⟨configs, lists, listed, read, rfl⟩ := findLinks_eq_ok_iff.1 found
    refine ⟨configs, lists, ⟨pairwise_configFiles connected listed,
      fun config => mem_configFiles_iff connected listed, ?_⟩, rfl⟩
    have files := (List.forall₂_and_left configs lists).2
      ⟨isFile_of_mem_configFiles listed, read⟩
    exact files.imp fun config list ⟨file, read⟩ => registers_of_fileLinks file read
  · obtain ⟨configs, lists, listed, read, rfl⟩ := findLinks_eq_ok_iff.1 found
    have declared (config : Path) (list : List Link)
        (read : (survey.fileLinks workspace config).result = .ok list) : ∀ link ∈ list,
          (link.config.any fun config => decide (config.BelowEtc survey.moduleDir)) =
            decide (config.BelowEtc survey.moduleDir) := by
      intro link member
      rw [(of_mem_linksAt (eq_linksAt read ▸ member)).1, Option.any_some]
    obtain ⟨kept, read', same⟩ := exists_forall₂_filter read declared
    refine findLinks_eq_ok_iff.2 ⟨_, kept, ?_, read', same.symm⟩
    rw [configFiles_requireEtc, listed]
    rfl

end Survey

/-! ### A configuration with events in both places -/

namespace Shop

/-- A configuration with events in both places, one observer without a name and one with. -/
def mixedContent : Text.Bytes :=
  Text.Utf8.encode <|
    "<config><events><event name='lost'><observer instance='Lost'/></event></events>" ++
    "<event name='paid'><observer/><observer instance='Placed'/></event></config>"

/-- The only registration in it. -/
def mixedLink : Link :=
  survey.link (.ofString "lib/events.xml") "paid" "Placed"

theorem findLinks_mixed :
    (survey.findLinks (configuredWith mixedContent)).result = .ok [mixedLink] := by
  have shown : (Xml.Document.parse mixedContent).toOption.map Survey.registered =
      some [("paid", [none, some "Placed"])] := by decide +kernel
  have unnamed : Survey.named none = none := by decide +kernel
  have named : Survey.named (some "Placed") = some "Placed" := by decide +kernel
  rw [findLinks_of_registered shown]
  simp [Survey.entryLinks, unnamed, named, mixedLink]

theorem proper_configuredWith (content : Text.Bytes) : (configuredWith content).tree.Proper := by
  intro place key
  simp only [Roster.keys, configuredWith, List.map_cons, List.map_nil, List.mem_cons,
    List.not_mem_nil, or_false] at key
  rcases key with rfl | rfl | rfl
  · exact ⟨[], "lib", rfl, by decide +kernel, rfl⟩
  · exact ⟨["lib"], "Client.php", rfl, by decide +kernel, rfl⟩
  · exact ⟨["lib"], "events.xml", rfl, by decide +kernel, rfl⟩

end Shop

/-- The registration is found, and none is left where a directory `etc` is asked for. -/
theorem Survey.findLinks_in_order_mixed :
    (Shop.configuredWith Shop.mixedContent).tree.Connected ∧
      (∃ configs lists, InOrder (Shop.configuredWith Shop.mixedContent) Shop.survey configs lists ∧
        [Shop.mixedLink] = lists.flatten) ∧
      (findLinks (Shop.configuredWith Shop.mixedContent)
        { Shop.survey with requireEtc := true }).result = .ok [] := by
  have connected := (Shop.proper_configuredWith Shop.mixedContent).connected
  have inOrder := findLinks_in_order connected Shop.survey
  have none : [Shop.mixedLink].filter (fun link => link.config.any fun config =>
      config.BelowEtc Shop.survey.moduleDir) = [] := by decide +kernel
  exact ⟨connected, inOrder.1 _ Shop.findLinks_mixed,
    (inOrder.2 _ Shop.findLinks_mixed).trans (congrArg Except.ok none)⟩

end EventAtlas
