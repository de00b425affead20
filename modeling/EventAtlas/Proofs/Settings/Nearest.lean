import EventAtlas.Proofs.Tree.Below
import EventAtlas.Proofs.Tree.Lookup
import EventAtlas.Settings
import EventAtlas.Yaml.Load

/-!
# The nearest configuration

The directories that a search goes through are the beginnings of a location, the longest one first.
So it stops at the nearest of those that hold a file of the name and are not passed over. Only paths
that the system refuses come in its way: of those that it looks at, the first ones are the longest
and go through the most directories, so that it either fails at once or never. What is loaded then
depends on the directory and the tree alone, since all paths that follow start at the root, and on
how the text of the file is loaded, whatever that does.
-/

namespace EventAtlas

namespace Path

variable {place other : Location} {name : String}

/-- The path that leads from the root to a location. -/
def ofLocation (place : Location) : Path where
  anchor := .root
  parts := place

/-- It takes up the bytes of its names and one more for each of them. -/
theorem utf8ByteSize_ofLocation (below : place ≠ []) :
    (ofLocation place).toString.utf8ByteSize =
      (place.map fun part => part.utf8ByteSize + 1).sum := by
  have slash : Anchor.root.text.utf8ByteSize = 1 := by decide
  have joined := utf8ByteSize_join below
  rw [toString, if_neg fun none => below none.2, String.utf8ByteSize_append, ← joined]
  change Anchor.root.text.utf8ByteSize + (Text.join "/" place).utf8ByteSize = _
  rw [slash, Nat.add_comm]

/-- A file of some name has a longer path in a directory than in those above it. -/
theorem utf8ByteSize_ofLocation_mono (above : place <+: other) (name : String) :
    (ofLocation (place ++ [name])).toString.utf8ByteSize ≤
      (ofLocation (other ++ [name])).toString.utf8ByteSize := by
  obtain ⟨between, rfl⟩ := above
  rw [utf8ByteSize_ofLocation (by simp), utf8ByteSize_ofLocation (by simp)]
  simp only [List.map_append, List.sum_append]
  omega

/-- What is above a location has no longer path than the location. -/
theorem utf8ByteSize_ofLocation_le (above : place <+: other) :
    (ofLocation place).toString.utf8ByteSize ≤ (ofLocation other).toString.utf8ByteSize := by
  obtain ⟨between, rfl⟩ := above
  cases place with
  | nil =>
    cases between with
    | nil => exact Nat.le_refl _
    | cons name rest =>
      have slash : (ofLocation []).toString.utf8ByteSize = 1 := by decide
      rw [slash, utf8ByteSize_ofLocation (by simp), List.nil_append, List.map_cons, List.sum_cons]
      omega
  | cons name rest =>
    rw [utf8ByteSize_ofLocation (by simp), utf8ByteSize_ofLocation (by simp)]
    simp only [List.map_append, List.sum_append]
    omega

/-- A name is written as it is. -/
theorem ofString_of_isName (named : Tree.IsName name) : ofString name = ⟨.relative, [name]⟩ := by
  obtain ⟨some, noDot, -, noSlash, -⟩ := named
  have front : name.toList.takeWhile (· == '/') = [] := by
    cases chars : name.toList with
    | nil => rfl
    | cons c rest =>
      have apart : c ≠ '/' := by
        rintro rfl
        exact noSlash (chars ▸ List.mem_cons_self ..)
      simp [apart]
  have counts : IsPart name.toList := by
    refine ⟨fun none => some (String.toList_inj.1 none), fun dot => noDot (String.toList_inj.1 dot)⟩
  have parts : partsOf name.toList = [name] := by
    rw [partsOf_eq, Text.fields_of_not_mem noSlash, List.filter_singleton, decide_eq_true counts]
    simp
  rw [ofString, front, parts]
  rfl

/-- A file of a name stands in a directory under that name. -/
theorem join_of_isName (named : Tree.IsName name) (place : Location) :
    (ofLocation place).join (.ofString name) = ofLocation (place ++ [name]) := by
  rw [ofString_of_isName named]
  rfl

/-- No part of a resolved path goes back, and all of them are parts of the path or of the current
directory. -/
theorem of_mem_foldl_step {parts start : List String} (forward : ".." ∉ start) {part : String}
    (member : part ∈ parts.foldl step start) : part ≠ ".." ∧ (part ∈ start ∨ part ∈ parts) := by
  induction parts generalizing start with
  | nil => exact ⟨ne_of_mem_of_not_mem member forward, .inl member⟩
  | cons first rest ih =>
    rw [List.foldl_cons, step] at member
    split at member
    · obtain ⟨apart, inside⟩ := ih (fun up => forward (List.mem_of_mem_dropLast up)) member
      exact ⟨apart, inside.imp List.mem_of_mem_dropLast (List.mem_cons_of_mem _)⟩
    · next apart =>
      obtain ⟨apart', inside⟩ := ih (by simpa [Ne.symm apart] using forward) member
      refine ⟨apart', ?_⟩
      simp only [List.mem_append, List.mem_cons] at inside ⊢
      tauto

end Path

namespace Tree

/-- A file stands at a location, locked or not. -/
def HoldsFile (tree : Tree) (place : Location) : Prop :=
  ∃ entry, tree.at? place = some entry ∧ entry.isFile = true

instance (tree : Tree) (place : Location) : Decidable (tree.HoldsFile place) :=
  decidable_of_iff ((tree.at? place).any Entry.isFile = true) (Option.any_eq_true ..)

/-- From the root down to a location, no directory is locked. -/
def Unlocked (tree : Tree) (place : Location) : Prop :=
  ∀ above, above <+: place → tree.at? above ≠ some .lockedDirectory

/-- In a connected tree, no directory is locked on the way to one that is not. -/
theorem Connected.unlocked {tree : Tree} {place : Location} (connected : tree.Connected)
    (directory : tree.at? place = some .directory) : tree.Unlocked place := by
  rintro above ⟨names, rfl⟩ locked
  have led : tree.walk above names = .ok (above ++ names) :=
    connected.walk_to (Option.isSome_of_eq_some directory)
  cases names with
  | nil =>
    rw [List.append_nil, locked] at directory
    cases directory
  | cons name rest =>
    rw [walk, locked] at led
    cases led

/-- Nothing stands in a tree but what its entries hold. -/
theorem at?_ne_lockedDirectory {tree : Tree} (unlocked : Entry.lockedDirectory ∉ tree.values)
    (place : Location) : tree.at? place ≠ some .lockedDirectory := by
  intro locked
  have below : place ≠ [] := by
    rintro rfl
    cases locked
  rw [at?_of_ne_nil below, Roster.get?_eq_some_iff] at locked
  exact unlocked (List.mem_map_of_mem locked)

end Tree

namespace Workspace

variable {workspace : Workspace} {place : Location}

/-- Where nothing is locked, paths are refused for their length alone. -/
theorem Refuses.eq_nameTooLong {path : Path} {cause : FileCause}
    (refuses : workspace.Refuses path cause)
    (unlocked : ∀ place, workspace.tree.at? place ≠ some .lockedDirectory) :
    cause = .nameTooLong := by
  cases refuses with
  | long => rfl
  | barred _ _ _ _ bars =>
    cases bars with
    | locked locked => exact absurd locked (unlocked _)
    | long => rfl

/-- Names that paths can go through hold no character that ends a path. -/
theorem hasNul_ofLocation (passable : ∀ part ∈ place, Tree.Passable part) :
    hasNul (.ofLocation place) = false := by
  rw [hasNul, List.any_eq_false]
  intro part member
  simpa using (passable part member).2.1

/-- In a connected tree, the path that leads to a location by names that can be passed is refused
exactly if it is too long or a directory on the way is locked. -/
theorem admits_ofLocation_iff (connected : workspace.tree.Connected)
    (passable : ∀ part ∈ place, Tree.Passable part) :
    workspace.Admits (.ofLocation place) ↔
      (Path.ofLocation place).toString.utf8ByteSize ≤ Tree.maxPathBytes ∧
        workspace.tree.Unlocked place.dropLast := by
  have plain := hasNul_ofLocation passable
  constructor
  · intro admits
    have fits : (Path.ofLocation place).toString.utf8ByteSize ≤ Tree.maxPathBytes :=
      Nat.le_of_not_lt fun long => admits _ (.long plain long)
    refine ⟨fits, fun above onWay locked => ?_⟩
    cases place using List.reverseRecOn with
    | nil =>
      rw [List.prefix_nil.1 onWay] at locked
      cases locked
    | append_singleton around last =>
      rw [List.dropLast_concat] at onWay
      obtain ⟨between, rfl⟩ := onWay
      have led := connected.walk_root (Option.isSome_of_eq_some locked)
      -- What comes after the locked directory begins with some name.
      obtain ⟨name, after, further⟩ : ∃ name after, between ++ [last] = name :: after :=
        List.exists_cons_of_ne_nil (by simp)
      have parted : (Path.ofLocation (above ++ between ++ [last])).parts =
          above ++ name :: after := by
        rw [← further, ← List.append_assoc]
        rfl
      exact admits _ (.barred plain fits parted led (.locked locked))
  · rintro ⟨fits, unlocked⟩ cause refuses
    cases refuses with
    | long _ long => exact absurd long (Nat.not_lt.2 fits)
    | @barred before after name above _ _ _ parted led bars =>
      obtain rfl : place = before ++ name :: after := parted
      have forward : ".." ∉ before := fun up => (passable _ (by simp [up])).1 rfl
      obtain rfl : above = before := Tree.place_of_walk forward led
      cases bars with
      | locked locked =>
        refine unlocked above ?_ locked
        rw [List.dropLast_append_of_ne_nil (by simp)]
        exact List.prefix_append ..
      | long _ _ long =>
        have short := (passable name (by simp)).2.2
        exact absurd long (Nat.not_lt.2 short)

/-- Whether a file stands at a location can be told, unless its path is refused. -/
theorem isFile_ofLocation (connected : workspace.tree.Connected)
    (passable : ∀ part ∈ place, Tree.Passable part)
    (admits : workspace.Admits (.ofLocation place)) :
    workspace.isFile (.ofLocation place) = .ok (decide (workspace.tree.HoldsFile place)) := by
  have there_iff : workspace.isFile (.ofLocation place) = .ok true ↔
      workspace.tree.HoldsFile place := by
    rw [isFile_iff]
    constructor
    · rintro ⟨-, found, entry, located, stands, file⟩
      have forward : ".." ∉ place := fun up => (passable _ up).1 rfl
      obtain rfl := Tree.place_of_walk forward (locate_eq_ok_iff.1 located).2
      exact ⟨entry, stands, file⟩
    · rintro ⟨entry, stands, file⟩
      have fits := ((admits_ofLocation_iff connected passable).1 admits).1
      have led := connected.walk_root (Option.isSome_of_eq_some stands)
      exact ⟨hasNul_ofLocation passable, place, entry, locate_eq_ok_iff.2 ⟨fits, led⟩, stands, file⟩
  obtain ⟨there, looked⟩ := exists_isFile_iff.2 admits
  rw [looked] at there_iff ⊢
  simp only [Except.ok.injEq] at there_iff ⊢
  rw [Bool.eq_iff_iff, there_iff, decide_eq_true_iff]

end Workspace

namespace Settings

variable {workspace : Workspace} {tree : Tree} {name : String} {first place root : Location}
  {start : Path} {failure : Failure}

/-! ### The directories of a search -/

/-- A word occurs in a text exactly if it is a piece of it. -/
theorem occursIn_iff {word text : List Char} : occursIn word text = true ↔ word <:+: text := by
  induction text with
  | nil => simp [occursIn]
  | cons c rest ih =>
    rw [occursIn, Bool.or_eq_true, List.isPrefixOf_iff_prefix, ih, List.infix_cons_iff]

/-- A directory in which a search can end: it holds a file of the name, and `.venv` is not a part of
its path. -/
def Eligible (tree : Tree) (name : String) (place : Location) : Prop :=
  tree.HoldsFile (place ++ [name]) ∧
    ¬ ".venv".toList <:+: (Path.ofLocation place).toString.toList

instance : Decidable (Eligible tree name place) :=
  inferInstanceAs (Decidable (_ ∧ _))

/-- The nearest of those directories, from a location on upwards. -/
structure Nearest (tree : Tree) (name : String) (first root : Location) : Prop where
  above : root <+: first
  eligible : Eligible tree name root
  /-- All others are further up. -/
  nearest : ∀ other, other <+: first → Eligible tree name other → other <+: root

/-- There is only one that is nearest. -/
theorem Nearest.unique {other : Location} (one : Nearest tree name first root)
    (again : Nearest tree name first other) : root = other :=
  (again.nearest _ one.above one.eligible).eq_of_length_le
    (one.nearest _ again.above again.eligible).length_le

/-- Above the root there is nothing. -/
theorem upwards_nil : upwards (.ofLocation []) = [.ofLocation []] := rfl

/-- A location comes first, and then what is above it. -/
theorem upwards_concat (place : Location) (part : String) :
    upwards (.ofLocation (place ++ [part])) =
      .ofLocation (place ++ [part]) :: upwards (.ofLocation place) := by
  have above (count : Nat) : (place ++ [part]).take (place.length + 1 - (count + 1)) =
      place.take (place.length - count) := by
    rw [Nat.add_sub_add_right, List.take_append_of_le_length (Nat.sub_le ..)]
  simp only [upwards, Path.ofLocation, List.length_append, List.length_singleton,
    List.range_succ_eq_map (n := place.length + 1), List.map_cons, List.map_map]
  refine congrArg₂ _ (by simp) (List.map_congr_left fun count _ => ?_)
  simp only [Function.comp_apply, Nat.succ_eq_add_one, above]

/-! ### What a search finds -/

/-- The names of a file in a directory can be passed if those of the directory can. -/
theorem passable_concat (named : Tree.IsName name) (passable : ∀ part ∈ place, Tree.Passable part) :
    ∀ part ∈ place ++ [name], Tree.Passable part := by
  obtain ⟨-, -, notUp, -, noNul, short⟩ := named
  intro part member
  rcases List.mem_append.1 member with before | last
  · exact passable part before
  · exact List.mem_singleton.1 last ▸ ⟨notUp, noNul, short⟩

/-- If a file of some name can be looked for in a directory, it can in those above it. -/
theorem admits_above (connected : workspace.tree.Connected) (named : Tree.IsName name)
    (passable : ∀ part ∈ first, Tree.Passable part) (above : place <+: first)
    (admits : workspace.Admits (.ofLocation (first ++ [name]))) :
    workspace.Admits (.ofLocation (place ++ [name])) := by
  have passable' : ∀ part ∈ place, Tree.Passable part := fun part member =>
    passable part (above.subset member)
  rw [Workspace.admits_ofLocation_iff connected (passable_concat named passable),
    List.dropLast_concat] at admits
  rw [Workspace.admits_ofLocation_iff connected (passable_concat named passable'),
    List.dropLast_concat]
  exact ⟨(Path.utf8ByteSize_ofLocation_mono above name).trans admits.1,
    fun further onWay => admits.2 further (onWay.trans above)⟩

/-- A search ends in its first directory or goes on with the others. -/
theorem search_cons (connected : workspace.tree.Connected) (named : Tree.IsName name)
    (passable : ∀ part ∈ place, Tree.Passable part)
    (admits : workspace.Admits (.ofLocation (place ++ [name])))
    (rest : List Path) : search workspace name (.ofLocation place :: rest) =
      if Eligible workspace.tree name place then .ok (some (.ofLocation place))
      else search workspace name rest := by
  have looked := Workspace.isFile_ofLocation connected (passable_concat named passable) admits
  have passed : isPassedOver (.ofLocation place) = true ↔
      ".venv".toList <:+: (Path.ofLocation place).toString.toList := occursIn_iff
  rw [search, Path.join_of_isName named, looked]
  by_cases holds : workspace.tree.HoldsFile (place ++ [name])
  · by_cases skipped : isPassedOver (.ofLocation place) = true
    · have refused : ¬ Eligible workspace.tree name place := fun eligible =>
        eligible.2 (passed.1 skipped)
      simp [bind, Except.bind, skipped, refused]
    · have eligible : Eligible workspace.tree name place :=
        ⟨holds, fun inside => skipped (passed.2 inside)⟩
      simp [bind, Except.bind, skipped, eligible, holds, pure, Except.pure]
  · have refused : ¬ Eligible workspace.tree name place := fun eligible => holds eligible.1
    simp [bind, Except.bind, holds, refused]

/-- A search upwards finds the nearest directory, or there is none. -/
theorem search_upwards (connected : workspace.tree.Connected) (named : Tree.IsName name)
    (passable : ∀ part ∈ first, Tree.Passable part)
    (admits : workspace.Admits (.ofLocation (first ++ [name]))) :
    (∃ root, search workspace name (upwards (.ofLocation first)) = .ok (some (.ofLocation root)) ∧
      Nearest workspace.tree name first root) ∨
    search workspace name (upwards (.ofLocation first)) = .ok none ∧
      ∀ place, place <+: first → ¬ Eligible workspace.tree name place := by
  induction first using List.reverseRecOn with
  | nil =>
    rw [upwards_nil, search_cons connected named passable admits]
    by_cases eligible : Eligible workspace.tree name []
    · refine .inl ⟨[], if_pos eligible, List.prefix_rfl, eligible, fun other above _ => above⟩
    · refine .inr ⟨if_neg eligible, fun place above => ?_⟩
      rwa [List.prefix_nil.1 above]
  | append_singleton first part ih =>
    have above : first <+: first ++ [part] := List.prefix_append ..
    rw [upwards_concat, search_cons connected named passable admits]
    by_cases eligible : Eligible workspace.tree name (first ++ [part])
    · exact .inl ⟨_, if_pos eligible, List.prefix_rfl, eligible, fun other inside _ => inside⟩
    · rw [if_neg eligible]
      have later := ih (fun part member => passable part (above.subset member))
        (admits_above connected named passable above admits)
      -- Nothing is between the location and the one above it.
      have refused {place : Location} (inside : place <+: first ++ [part])
          (holds : Eligible workspace.tree name place) : place <+: first := by
        rcases List.prefix_concat_iff.1 inside with rfl | further
        · exact absurd holds eligible
        · exact further
      rcases later with ⟨root, found, near⟩ | ⟨found, none⟩
      · exact .inl ⟨root, found, near.above.trans above, near.eligible, fun other inside holds =>
          near.nearest other (refused inside holds) holds⟩
      · exact .inr ⟨found, fun place inside holds => none place (refused inside holds) holds⟩

/-- A search fails at once if the path of the first file that it looks for is refused. -/
theorem search_of_refuses {cause : FileCause} (named : Tree.IsName name)
    (refuses : workspace.Refuses (.ofLocation (first ++ [name])) cause) :
    search workspace name (upwards (.ofLocation first)) =
      .error (.file cause (Path.ofLocation (first ++ [name])).toString) := by
  have begun : ∃ rest, upwards (.ofLocation first) = .ofLocation first :: rest := by
    cases first using List.reverseRecOn with
    | nil => exact ⟨[], upwards_nil⟩
    | append_singleton first part => exact ⟨_, upwards_concat first part⟩
  obtain ⟨rest, begun⟩ := begun
  rw [begun, search, Path.join_of_isName named,
    Workspace.isFile_eq_error_iff.2 ⟨cause, refuses, rfl⟩]
  rfl

/-! ### Where a search starts -/

/-- The location from which a search goes upwards: what a path means here, or the directory around
it if a file stands there. -/
def searchedFrom (workspace : Workspace) (start : Path) : Location :=
  let place := (workspace.resolve start).parts
  if workspace.tree.HoldsFile place then place.dropLast else place

/-- What a path means can be passed if its parts can and the current directory is in the tree. -/
theorem passable_resolve (connected : workspace.tree.Connected)
    (here : workspace.tree.at? workspace.current = some .directory)
    (plain : Workspace.hasNul start = false)
    (short : ∀ part ∈ start.parts, part.utf8ByteSize ≤ Tree.maxNameBytes) :
    ∀ part ∈ (workspace.resolve start).parts, Tree.Passable part := by
  have around := Option.isSome_of_eq_some here
  intro part member
  obtain ⟨notUp, inside⟩ := Path.of_mem_foldl_step (by simp) member
  have origin : part ∈ workspace.current ∨ part ∈ start.parts := by
    rcases inside with none | inside
    · cases none
    · cases absolute : start.isAbsolute with
      | true =>
        rw [Path.join_of_absolute absolute] at inside
        exact .inr inside
      | false =>
        rw [Path.join_of_relative absolute] at inside
        exact List.mem_append.1 inside
  rcases origin with inCurrent | inStart
  · exact connected.passable_root around part inCurrent
  · rw [Workspace.hasNul, List.any_eq_false] at plain
    exact ⟨notUp, by simpa using plain part inStart, short part inStart⟩

/-- The names on the way to where a search starts can be passed as well. -/
theorem passable_searchedFrom
    (passable : ∀ part ∈ (workspace.resolve start).parts, Tree.Passable part) :
    ∀ part ∈ searchedFrom workspace start, Tree.Passable part := by
  intro part member
  unfold searchedFrom at member
  dsimp only at member
  split at member
  · exact passable part (List.mem_of_mem_dropLast member)
  · exact passable part member

/-- A search can look for its files: its start can be a path, the paths that it looks at first,
which are the longest of all, are not too long, and no directory is locked on the way to where it
starts. -/
structure Fits (workspace : Workspace) (start : Path) (name : String) : Prop where
  plain : Workspace.hasNul start = false
  resolved : (workspace.resolve start).toString.utf8ByteSize ≤ Tree.maxPathBytes
  file : (Path.ofLocation (searchedFrom workspace start ++ [name])).toString.utf8ByteSize ≤
    Tree.maxPathBytes
  unlocked : workspace.tree.Unlocked (searchedFrom workspace start)

/-- So its start and the first file of the name can be looked up. -/
theorem fits_iff (connected : workspace.tree.Connected) (named : Tree.IsName name)
    (plain : Workspace.hasNul start = false)
    (passable : ∀ part ∈ (workspace.resolve start).parts, Tree.Passable part) :
    Fits workspace start name ↔ workspace.Admits (workspace.resolve start) ∧
      workspace.Admits (.ofLocation (searchedFrom workspace start ++ [name])) := by
  have first : workspace.Admits (.ofLocation (searchedFrom workspace start ++ [name])) ↔ _ :=
    Workspace.admits_ofLocation_iff connected
      (passable_concat named (passable_searchedFrom passable))
  have whole : workspace.Admits (workspace.resolve start) ↔ _ :=
    Workspace.admits_ofLocation_iff connected passable
  rw [first, whole, List.dropLast_concat]
  constructor
  · rintro ⟨-, resolved, file, unlocked⟩
    refine ⟨⟨resolved, fun above onWay => unlocked above (onWay.trans ?_)⟩, file, unlocked⟩
    unfold searchedFrom
    dsimp only
    split
    · exact List.prefix_rfl
    · exact List.dropLast_prefix _
  · rintro ⟨⟨resolved, -⟩, file, unlocked⟩
    exact ⟨plain, resolved, file, unlocked⟩

/-- A path can be resolved if it can be one. -/
theorem resolve_of_plain (plain : Workspace.hasNul start = false) :
    resolve workspace start = .ok (workspace.resolve start) := by
  rw [resolve, plain]
  rfl

/-- What comes of a search whose start can be looked up. -/
theorem findRoot_eq (connected : workspace.tree.Connected) (plain : Workspace.hasNul start = false)
    (passable : ∀ part ∈ (workspace.resolve start).parts, Tree.Passable part)
    (admits : workspace.Admits (workspace.resolve start)) :
    findRoot workspace start name =
      match search workspace name (upwards (.ofLocation (searchedFrom workspace start))) with
      | .ok (some root) => .ok root
      | .ok none => .error (.configNotFound name (workspace.resolve start))
      | .error failure => .error failure := by
  have looked : workspace.isFile (workspace.resolve start) =
      .ok (decide (workspace.tree.HoldsFile (workspace.resolve start).parts)) :=
    Workspace.isFile_ofLocation connected passable admits
  have first : (if workspace.tree.HoldsFile (workspace.resolve start).parts then
      (workspace.resolve start).parent else workspace.resolve start) =
        .ofLocation (searchedFrom workspace start) := by
    unfold searchedFrom
    dsimp only
    split <;> rfl
  rw [findRoot, resolve_of_plain plain]
  simp only [bind, Except.bind, looked, decide_eq_true_eq, first]
  cases search workspace name (upwards (.ofLocation (searchedFrom workspace start))) with
  | error failure => rfl
  | ok found => cases found <;> rfl

/-- What a search from a path comes to. -/
structure Finds (workspace : Workspace) (start : Path) (name : String) : Prop where
  /-- It finds the nearest directory. -/
  root_iff : Fits workspace start name → ∀ root, findRoot workspace start name = .ok root ↔
    ∃ place, root = .ofLocation place ∧
      Nearest workspace.tree name (searchedFrom workspace start) place
  /-- It fails only if there is none, and then it says so. -/
  failure_iff : Fits workspace start name → ∀ failure,
    findRoot workspace start name = .error failure ↔
      failure = .configNotFound name (workspace.resolve start) ∧
        ∀ place, place <+: searchedFrom workspace start → ¬ Eligible workspace.tree name place
  /-- Where its start or the first file of the name is refused, it fails for the same cause. -/
  of_not_fits : Workspace.hasNul start = false → ¬ Fits workspace start name → ∃ path cause,
    (path = workspace.resolve start ∨
      path = .ofLocation (searchedFrom workspace start ++ [name])) ∧
    workspace.Refuses path cause ∧
    findRoot workspace start name = .error (.file cause path.toString)
  /-- From what can be no path, there is no search. -/
  of_hasNul : Workspace.hasNul start = true → findRoot workspace start name = .error .nulInPath

/-- A search that can look for its files finds the nearest directory, or says that there is none. -/
theorem Fits.outcome (fits : Fits workspace start name) (connected : workspace.tree.Connected)
    (named : Tree.IsName name)
    (passable : ∀ part ∈ (workspace.resolve start).parts, Tree.Passable part) :
    (∃ root, findRoot workspace start name = .ok (.ofLocation root) ∧
      Nearest workspace.tree name (searchedFrom workspace start) root) ∨
    findRoot workspace start name = .error (.configNotFound name (workspace.resolve start)) ∧
      ∀ place, place <+: searchedFrom workspace start → ¬ Eligible workspace.tree name place := by
  obtain ⟨begun, first⟩ := (fits_iff connected named fits.plain passable).1 fits
  rw [findRoot_eq connected fits.plain passable begun]
  rcases search_upwards connected named (passable_searchedFrom passable) first with
    ⟨root, found, near⟩ | ⟨found, none⟩
  · exact .inl ⟨root, by rw [found], near⟩
  · exact .inr ⟨by rw [found], none⟩

/-- A search finds the nearest directory, as far as the system can look for it. -/
theorem finds (connected : workspace.tree.Connected) (named : Tree.IsName name)
    (here : workspace.tree.at? workspace.current = some .directory)
    (short : ∀ part ∈ start.parts, part.utf8ByteSize ≤ Tree.maxNameBytes) :
    Finds workspace start name := by
  refine ⟨fun fits root => ?_, fun fits failure => ?_, fun plain stuck => ?_, fun nul => ?_⟩
  · have passable := passable_resolve connected here fits.plain short
    rcases fits.outcome connected named passable with ⟨place, found, near⟩ | ⟨found, none⟩
    · rw [found, Except.ok.injEq]
      constructor
      · rintro rfl
        exact ⟨place, rfl, near⟩
      · rintro ⟨other, rfl, again⟩
        rw [near.unique again]
    · rw [found]
      simp only [reduceCtorEq, false_iff]
      rintro ⟨place, -, near⟩
      exact none place near.above near.eligible
  · have passable := passable_resolve connected here fits.plain short
    rcases fits.outcome connected named passable with ⟨place, found, near⟩ | ⟨found, none⟩
    · rw [found]
      simp only [reduceCtorEq, false_iff]
      rintro ⟨-, none⟩
      exact none place near.above near.eligible
    · rw [found, Except.error.injEq]
      exact ⟨fun same => ⟨same.symm, none⟩, fun ⟨same, _⟩ => same.symm⟩
  · have passable := passable_resolve connected here plain short
    rw [fits_iff connected named plain passable, not_and] at stuck
    by_cases begun : workspace.Admits (workspace.resolve start)
    · -- The start can be looked up, and the first file of the name cannot.
      obtain ⟨cause, refuses⟩ := Workspace.not_admits_iff.1 (stuck begun)
      refine ⟨_, cause, .inr rfl, refuses, ?_⟩
      rw [findRoot_eq connected plain passable begun, search_of_refuses named refuses]
    · obtain ⟨cause, refuses⟩ := Workspace.not_admits_iff.1 begun
      refine ⟨_, cause, .inl rfl, refuses, ?_⟩
      rw [findRoot, resolve_of_plain plain]
      simp only [bind, Except.bind, Workspace.isFile_eq_error_iff.2 ⟨cause, refuses, rfl⟩]
  · rw [findRoot, resolve, if_pos nul]
    rfl

/-! ### Loading from another place -/

/-- A path from the root leads to the same place from every directory. -/
theorem locate_of_absolute {path : Path} (absolute : path.isAbsolute = true)
    (current other : Location) : (⟨tree, current⟩ : Workspace).locate path =
      (⟨tree, other⟩ : Workspace).locate path := by
  simp only [Workspace.locate, Workspace.start, absolute, if_true]

/-- A path from the root means the same in every directory. -/
theorem resolve_of_absolute {path : Path} (absolute : path.isAbsolute = true)
    (current other : Location) : (⟨tree, current⟩ : Workspace).resolve path =
      (⟨tree, other⟩ : Workspace).resolve path := by
  rw [Workspace.resolve, Workspace.resolve, Path.resolve, Path.resolve,
    Path.join_of_absolute absolute, Path.join_of_absolute absolute]

/-- What goes on from a directory starts at the root if the directory does. -/
theorem isAbsolute_join {directory : Path} (absolute : directory.isAbsolute = true) (tail : Path) :
    (directory.join tail).isAbsolute = true := by
  unfold Path.join
  split
  · next tailAbsolute => exact tailAbsolute
  · exact absolute

/-- What a search finds is one of its directories. -/
theorem mem_of_search {directories : List Path} {found : Path}
    (done : search workspace name directories = .ok (some found)) : found ∈ directories := by
  induction directories with
  | nil => cases done
  | cons directory rest ih =>
    obtain ⟨there, -, done⟩ := bind_eq_ok_iff.1 done
    split at done
    · cases done
      exact List.mem_cons_self ..
    · exact List.mem_cons_of_mem _ (ih done)

/-- The directory that a search finds starts at the root. -/
theorem isAbsolute_of_findRoot {found : Path} (done : findRoot workspace start name = .ok found) :
    found.isAbsolute = true := by
  obtain ⟨resolved, ready, done⟩ := bind_eq_ok_iff.1 done
  obtain ⟨there, -, done⟩ := bind_eq_ok_iff.1 done
  obtain ⟨held, searched, done⟩ := bind_eq_ok_iff.1 done
  have anchored : resolved.anchor = .root := by
    unfold resolve at ready
    split at ready <;> cases ready
    rfl
  cases held with
  | none => cases done
  | some root =>
    cases done
    obtain ⟨count, -, rfl⟩ := List.mem_map.1 (mem_of_search searched)
    cases there <;> simp [Path.isAbsolute, Path.parent, anchored]

/-- A setting that is a path means the same in every directory, and it starts at the root. -/
theorem pathSetting_congr {directory : Path} (absolute : directory.isAbsolute = true)
    (current other : Location) (setting : String) (value : Yaml.Value) :
    pathSetting ⟨tree, current⟩ directory setting value =
      pathSetting ⟨tree, other⟩ directory setting value := by
  unfold pathSetting
  split
  · rw [resolve, resolve, resolve_of_absolute (isAbsolute_join absolute _) current other]
  · rfl

/-- A setting that is a path starts at the root. -/
theorem isAbsolute_of_pathSetting {directory path : Path} {setting : String} {value : Yaml.Value}
    (given : pathSetting workspace directory setting value = .ok path) :
    path.isAbsolute = true := by
  unfold pathSetting resolve at given
  split at given
  · split at given <;> cases given
    rfl
  · cases given

/-- So does the module directory. -/
theorem moduleDirIn_congr {directory : Path} (absolute : directory.isAbsolute = true)
    (current other : Location) (entries : List (Yaml.Value × Yaml.Value)) :
    moduleDirIn ⟨tree, current⟩ directory entries =
      moduleDirIn ⟨tree, other⟩ directory entries := by
  unfold moduleDirIn
  dsimp only
  rw [pathSetting_congr absolute current other]
  split
  · rfl
  · cases given : pathSetting ⟨tree, other⟩ directory "module_dir"
        ((Yaml.Value.lookup entries "module_dir").getD .null) with
    | error failure => rfl
    | ok path =>
      have led : (⟨tree, current⟩ : Workspace).locate path =
          (⟨tree, other⟩ : Workspace).locate path :=
        locate_of_absolute (isAbsolute_of_pathSetting given) current other
      have looked : (⟨tree, current⟩ : Workspace).isDirectory path =
          (⟨tree, other⟩ : Workspace).isDirectory path := by
        rw [Workspace.isDirectory, Workspace.isDirectory,
          Workspace.find?_congr led fun _ _ => rfl]
      simp only [bind, Except.bind, looked]

/-- Where searches find the same directory, the same is loaded. -/
theorem find_congr {loader : Loader} {current other : Location} {start' : Path} {found : Path}
    (done : findRoot ⟨tree, current⟩ start name = .ok found)
    (done' : findRoot ⟨tree, other⟩ start' name = .ok found) :
    find loader ⟨tree, current⟩ start name = find loader ⟨tree, other⟩ start' name := by
  have absolute := isAbsolute_of_findRoot done
  have content : (⟨tree, current⟩ : Workspace).read (found.join (.ofString name)) =
      (⟨tree, other⟩ : Workspace).read (found.join (.ofString name)) :=
    Workspace.read_congr_of_locate
      (locate_of_absolute (isAbsolute_join absolute _) current other) fun _ _ => rfl
  have output (entries : List (Yaml.Value × Yaml.Value)) :
      outputDirIn ⟨tree, current⟩ found entries = outputDirIn ⟨tree, other⟩ found entries :=
    pathSetting_congr absolute current other _ _
  simp only [find, done, done', bind, Except.bind, content, output,
    moduleDirIn_congr absolute current other]

/-- A search finds the nearest directory that holds a file of the name and is not passed over, as
far as the paths on the way are not refused, and however the text of a file is loaded, the same is
loaded for all searches that find this directory. -/
theorem find_nearest {tree : Tree} {name : String} (connected : tree.Connected)
    (named : Tree.IsName name) :
    (∀ current start, tree.at? current = some .directory →
      (∀ part ∈ start.parts, part.utf8ByteSize ≤ Tree.maxNameBytes) →
      Finds ⟨tree, current⟩ start name) ∧
    ∀ current start other start' found, findRoot ⟨tree, current⟩ start name = .ok found →
      findRoot ⟨tree, other⟩ start' name = .ok found → ∀ loader,
        find loader ⟨tree, current⟩ start name = find loader ⟨tree, other⟩ start' name ∧
          load loader ⟨tree, current⟩ start name = load loader ⟨tree, other⟩ start' name := by
  constructor
  · intro current start here short
    exact finds connected named here short
  · intro current start other start' found done done' loader
    have same := @find_congr _ _ _ loader _ _ _ _ done done'
    exact ⟨same, by rw [load, load, same]⟩

/-- A tree with a configuration in its root, one further down and one that is passed over. -/
def nested : Tree :=
  .ofList [(["map.yaml"], .file []), (["shop"], .directory), (["shop", "map.yaml"], .file []),
    (["shop", ".venv"], .directory), (["shop", ".venv", "map.yaml"], .file [])]

theorem proper_nested : nested.Proper := by
  intro place key
  have keys : nested.keys = [["map.yaml"], ["shop"], ["shop", "map.yaml"], ["shop", ".venv"],
      ["shop", ".venv", "map.yaml"]] := by
    decide +kernel
  simp only [keys, List.mem_cons, List.not_mem_nil, or_false] at key
  rcases key with rfl | rfl | rfl | rfl | rfl
  · exact ⟨[], "map.yaml", rfl, by decide +kernel, rfl⟩
  · exact ⟨[], "shop", rfl, by decide +kernel, rfl⟩
  · exact ⟨["shop"], "map.yaml", rfl, by decide +kernel, by decide +kernel⟩
  · exact ⟨["shop"], ".venv", rfl, by decide +kernel, by decide +kernel⟩
  · exact ⟨["shop", ".venv"], "map.yaml", rfl, by decide +kernel, by decide +kernel⟩

/-- Nothing in it is locked. -/
theorem unlocked_nested (place : Location) : nested.Unlocked place :=
  fun above _ => Tree.at?_ne_lockedDirectory (by decide) above

/-- What is decided for the beginnings of a location tells which one is nearest. -/
theorem nearest_of_inits (above : root <+: first) (eligible : Eligible tree name root)
    (others : ∀ other ∈ first.inits, Eligible tree name other → other <+: root) :
    Nearest tree name first root :=
  ⟨above, eligible, fun other inside => others other ((List.mem_inits ..).2 inside)⟩

/-- From the directory that is passed over, the one around it is found. So it is from its own file,
and the same is loaded. -/
theorem find_nearest_nested :
    findRoot ⟨nested, ["shop"]⟩ (.ofString ".venv/bin") "map.yaml" =
        .ok (.ofLocation ["shop"]) ∧
      find Yaml.load ⟨nested, ["shop"]⟩ (.ofString ".venv/bin") "map.yaml" =
        find Yaml.load ⟨nested, []⟩ (.ofString "shop/map.yaml") "map.yaml" := by
  have named : Tree.IsName "map.yaml" := by decide +kernel
  obtain ⟨finds, same⟩ := find_nearest proper_nested.connected named
  have inside : searchedFrom ⟨nested, ["shop"]⟩ (.ofString ".venv/bin") =
      ["shop", ".venv", "bin"] := by
    decide +kernel
  have around : searchedFrom ⟨nested, []⟩ (.ofString "shop/map.yaml") = ["shop"] := by
    decide +kernel
  have near : Nearest nested "map.yaml" ["shop", ".venv", "bin"] ["shop"] :=
    nearest_of_inits (by decide) (by decide +kernel) (by decide +kernel)
  have near' : Nearest nested "map.yaml" ["shop"] ["shop"] :=
    nearest_of_inits (by decide) (by decide +kernel) (by decide +kernel)
  have fits : Fits ⟨nested, ["shop"]⟩ (.ofString ".venv/bin") "map.yaml" :=
    ⟨by decide, by decide +kernel, by rw [inside]; decide +kernel, unlocked_nested _⟩
  have fits' : Fits ⟨nested, []⟩ (.ofString "shop/map.yaml") "map.yaml" :=
    ⟨by decide, by decide +kernel, by rw [around]; decide +kernel, unlocked_nested _⟩
  have found := ((finds ["shop"] _ rfl (by decide +kernel)).root_iff fits _).2
    ⟨_, rfl, inside ▸ near⟩
  have found' := ((finds [] _ rfl (by decide +kernel)).root_iff fits' _).2 ⟨_, rfl, around ▸ near'⟩
  exact ⟨found, (same _ _ _ _ _ found found' _).1⟩

/-- A path that goes down as often as is asked for. -/
def descent (count : Nat) : Path where
  anchor := .relative
  parts := List.replicate count "a"

/-- Each of its names is short and can be passed. -/
theorem eq_of_mem_descent {count : Nat} {part : String} (member : part ∈ (descent count).parts) :
    part = "a" :=
  List.eq_of_mem_replicate member

/-- It means the same from the root. -/
theorem resolve_descent (count : Nat) :
    (⟨tree, []⟩ : Workspace).resolve (descent count) = .ofLocation (descent count).parts := by
  have forward : ".." ∉ (descent count).parts := fun up =>
    absurd (eq_of_mem_descent up) (by decide)
  rw [Workspace.resolve, Path.resolve, Path.join_of_relative rfl]
  exact congrArg Path.ofLocation (Tree.foldl_step_of_forward forward)

/-- It takes two bytes for each step. -/
theorem utf8ByteSize_descent {count : Nat} (some : 0 < count) :
    (Path.ofLocation (descent count).parts).toString.utf8ByteSize = 2 * count := by
  have below : (descent count).parts ≠ [] := by
    rw [descent, ne_eq, List.replicate_eq_nil_iff]
    exact Nat.ne_of_gt some
  have single : "a".utf8ByteSize = 1 := by decide
  rw [Path.utf8ByteSize_ofLocation below, descent]
  simp [single, Nat.mul_comm]

/-- A tree with a configuration in its root. -/
def shallow : Tree :=
  .ofList [([defaultName], .file [])]

theorem proper_shallow : shallow.Proper := by
  intro place key
  obtain rfl : place = [defaultName] := List.mem_singleton.1 key
  exact ⟨[], defaultName, rfl, by decide +kernel, rfl⟩

/-- Its root is the nearest directory from everywhere. -/
theorem nearest_shallow (first : Location) : Nearest shallow defaultName first [] := by
  refine ⟨List.nil_prefix, by decide +kernel, ?_⟩
  rintro other - ⟨⟨entry, stands, -⟩, -⟩
  have key : other ++ [defaultName] ∈ shallow.keys :=
    (Tree.isSome_at?_iff (by simp)).1 (Option.isSome_iff_exists.2 ⟨_, stands⟩)
  have same : other ++ [defaultName] = [defaultName] := List.mem_singleton.1 key
  rw [List.append_left_eq_self.1 same]

/-- A search from far below fails for the length of the path, although the names on the way are
short and there is a nearest directory. -/
theorem findRoot_descent : shallow.Connected ∧ Tree.IsName defaultName ∧
    Workspace.hasNul (descent 2100) = false ∧
    (∀ part ∈ (descent 2100).parts, part.utf8ByteSize ≤ Tree.maxNameBytes) ∧
    Nearest shallow defaultName (searchedFrom ⟨shallow, []⟩ (descent 2100)) [] ∧
    ∃ path : Path, findRoot ⟨shallow, []⟩ (descent 2100) defaultName =
      .error (.file .nameTooLong path.toString) := by
  have connected := proper_shallow.connected
  have named : Tree.IsName defaultName := by decide +kernel
  have plain : Workspace.hasNul (descent 2100) = false := by
    rw [Workspace.hasNul, List.any_eq_false]
    intro part member
    rw [eq_of_mem_descent member]
    decide
  have short : ∀ part ∈ (descent 2100).parts, part.utf8ByteSize ≤ Tree.maxNameBytes := by
    intro part member
    rw [eq_of_mem_descent member]
    decide
  have long : ¬ Fits ⟨shallow, []⟩ (descent 2100) defaultName := by
    intro fits
    have resolved := fits.resolved
    rw [resolve_descent, utf8ByteSize_descent (by decide)] at resolved
    exact absurd resolved (by decide)
  obtain ⟨path, cause, -, refuses, failed⟩ :=
    (finds connected named rfl short).of_not_fits plain long
  obtain rfl := refuses.eq_nameTooLong (Tree.at?_ne_lockedDirectory (by decide))
  exact ⟨connected, named, plain, short, nearest_shallow _, path, failed⟩

end Settings

end EventAtlas
