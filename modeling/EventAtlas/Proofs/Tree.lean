import EventAtlas.Proofs.Result
import EventAtlas.Proofs.Roster
import EventAtlas.Tree
import Mathlib.Data.List.Basic
import Mathlib.Data.List.Induction

/-!
# Following paths in trees

In a proper tree every entry has a name and stands in a directory, so following the names that
lead to an entry leads there. Two trees that differ in one file have the same directories. Whatever
path leads anywhere else than to this file in one of them leads to the same place in the other.
-/

namespace EventAtlas

/-- The directories are those that can be entered and those that are locked. -/
theorem Entry.isDirectory_iff {entry : Entry} :
    entry.isDirectory = true ↔ entry = .directory ∨ entry = .lockedDirectory := by
  cases entry <;> simp [isDirectory]

/-- The other entries are files. -/
theorem Entry.isFile_iff {entry : Entry} :
    entry.isFile = true ↔ (∃ content, entry = .file content) ∨ entry = .lockedFile := by
  cases entry <;> simp [isFile, isDirectory]

/-- A file is no directory that can be entered. -/
theorem Entry.ne_directory_of_isFile {entry : Entry} (file : entry.isFile = true) :
    entry ≠ .directory := by
  rintro rfl
  cases file

namespace Tree

/-- A name that an entry can have. -/
def IsName (name : String) : Prop :=
  name ≠ "" ∧ name ≠ "." ∧ name ≠ ".." ∧ '/' ∉ name.toList ∧ '\x00' ∉ name.toList ∧
    name.utf8ByteSize ≤ maxNameBytes

instance (name : String) : Decidable (IsName name) := by
  unfold IsName
  infer_instance

/-- Every entry has a name and stands in a directory. -/
def Proper (tree : Tree) : Prop :=
  ∀ place ∈ tree.keys, ∃ above name, place = above ++ [name] ∧ IsName name ∧
    tree.at? above = some .directory

variable {tree other : Tree}

/-- Below the root, the entries are those of the roster. -/
theorem at?_of_ne_nil {place : Location} (below : place ≠ []) :
    tree.at? place = tree.get? place := by
  cases place with
  | nil => exact absurd rfl below
  | cons name rest => rfl

/-- The root is a directory. -/
@[simp] theorem at?_nil : tree.at? [] = some .directory := rfl

/-- A place where no directory stands is below the root. -/
theorem ne_nil_of_ne_directory {place : Location} (free : tree.at? place ≠ some .directory) :
    place ≠ [] := by
  rintro rfl
  exact free rfl

theorem isDirectory_iff {place : Location} :
    tree.isDirectory place = true ↔
      tree.at? place = some .directory ∨ tree.at? place = some .lockedDirectory := by
  simp only [isDirectory, Option.any_eq_true, Entry.isDirectory_iff]
  constructor
  · rintro ⟨entry, stands, rfl | rfl⟩
    · exact .inl stands
    · exact .inr stands
  · rintro (stands | stands)
    · exact ⟨_, stands, .inl rfl⟩
    · exact ⟨_, stands, .inr rfl⟩

/-- Something stands where a directory stands. -/
theorem isSome_of_isDirectory {place : Location} (directory : tree.isDirectory place) :
    (tree.at? place).isSome := by
  obtain ⟨entry, stands, -⟩ := (Option.any_eq_true ..).1 directory
  exact Option.isSome_iff_exists.2 ⟨entry, stands⟩

/-- A directory that can be entered is a directory. -/
theorem isDirectory_of_at? {place : Location} (stands : tree.at? place = some .directory) :
    tree.isDirectory place = true :=
  isDirectory_iff.2 (.inl stands)

/-- What is no directory cannot be entered. -/
theorem ne_directory_of_not_isDirectory {place : Location} (free : ¬ tree.isDirectory place) :
    tree.at? place ≠ some .directory :=
  fun stands => free (isDirectory_of_at? stands)

/-- Something stands at every key but at none that is missing. -/
theorem isSome_at?_iff {place : Location} (below : place ≠ []) :
    (tree.at? place).isSome ↔ place ∈ tree.keys := by
  rw [at?_of_ne_nil below, Option.isSome_iff_ne_none, ne_eq, Roster.get?_eq_none_iff, not_not]

/-- What is read at a place is the content of the file there, if it can be opened. -/
theorem read_eq_ok_iff {place : Location} {content : Text.Bytes} :
    tree.read place = .ok content ↔ tree.at? place = some (.file content) := by
  unfold read
  cases tree.at? place with
  | none => simp
  | some entry => cases entry <;> simp

/-- A file may be written at a place: nothing stands there, or a file that can be opened. -/
def Writable (tree : Tree) (place : Location) : Prop :=
  ∀ entry, tree.at? place = some entry → ∃ content, entry = .file content

/-- A file is written where one may be. -/
theorem write_eq_ok_iff {place : Location} {content : Text.Bytes} :
    tree.write place content = .ok other ↔
      tree.Writable place ∧ other = tree.put place (.file content) := by
  unfold write Writable
  cases tree.at? place with
  | none => simp [eq_comm]
  | some entry => cases entry <;> simp [eq_comm]

/-- In a proper tree, what stands somewhere below the root has a name and stands in a
directory. -/
theorem Proper.around (proper : tree.Proper) {above : Location} {name : String} {entry : Entry}
    (stands : tree.at? (above ++ [name]) = some entry) :
    IsName name ∧ tree.at? above = some .directory := by
  have key : above ++ [name] ∈ tree.keys :=
    (isSome_at?_iff (by simp)).1 (Option.isSome_iff_exists.2 ⟨entry, stands⟩)
  obtain ⟨above', name', same, named, around⟩ := proper _ key
  obtain ⟨rfl, last⟩ := List.append_inj' same rfl
  rw [List.singleton_inj] at last
  subst last
  exact ⟨named, around⟩

/-- A name that a path can go through on its way down. -/
def Passable (name : String) : Prop :=
  name ≠ ".." ∧ '\x00' ∉ name.toList ∧ name.utf8ByteSize ≤ maxNameBytes

/-- Every entry stands in a directory, under a name that paths can go through. -/
def Connected (tree : Tree) : Prop :=
  ∀ above name, (tree.at? (above ++ [name])).isSome →
    Passable name ∧ tree.at? above = some .directory

/-- A proper tree is connected. -/
theorem Proper.connected (proper : tree.Proper) : tree.Connected := by
  intro above name stands
  obtain ⟨entry, stands⟩ := Option.isSome_iff_exists.1 stands
  obtain ⟨⟨-, -, notUp, -, noNul, short⟩, around⟩ := proper.around stands
  exact ⟨⟨notUp, noNul, short⟩, around⟩

/-- The names inside a directory are those under which something stands there. -/
theorem mem_childNames {place : Location} {name : String} :
    name ∈ tree.childNames place ↔ (tree.at? (place ++ [name])).isSome := by
  rw [isSome_at?_iff (by simp)]
  simp only [childNames, List.mem_filterMap]
  constructor
  · rintro ⟨key, member, named⟩
    split at named
    · next inside =>
      have split := List.dropLast_append_getLast? name (Option.mem_def.2 named)
      rwa [← inside, split]
    · cases named
  · intro member
    exact ⟨place ++ [name], member, by simp⟩

/-- The directories from a place on are the place itself and the directories below it. -/
theorem mem_directoriesFrom {place start : Location} :
    place ∈ tree.directoriesFrom start ↔
      place = start ∨ start <+: place ∧ tree.isDirectory place = true := by
  simp only [directoriesFrom, List.mem_cons, List.mem_map, List.mem_filter, decide_eq_true_eq,
    List.isPrefixOf_iff_prefix, isDirectory, Option.any_eq_true]
  constructor
  · rintro (rfl | ⟨⟨key, entry⟩, ⟨member, directory, inside, apart⟩, rfl⟩)
    · exact .inl rfl
    · simp only at directory inside apart ⊢
      have below : key ≠ [] := by
        rintro rfl
        exact apart (List.prefix_nil.1 inside).symm
      rw [at?_of_ne_nil below]
      exact .inr ⟨inside, entry, Roster.get?_eq_some_iff.2 member, directory⟩
  · rintro (rfl | ⟨inside, entry, stands, directory⟩)
    · exact .inl rfl
    · by_cases same : place = start
      · exact .inl same
      · have below : place ≠ [] := by
          rintro rfl
          exact same (List.prefix_nil.1 inside).symm
        rw [at?_of_ne_nil below, Roster.get?_eq_some_iff] at stands
        exact .inr ⟨(place, entry), ⟨stands, directory, inside, same⟩, rfl⟩

/-! ### Walks -/

/-- Parts are followed one list after the other. -/
theorem walk_append (start : Location) (parts more : List String) :
    tree.walk start (parts ++ more) =
      tree.walk start parts >>= fun place => tree.walk place more := by
  induction parts generalizing start with
  | nil => rfl
  | cons part rest ih =>
    rw [List.cons_append, walk, walk]
    cases tree.at? start with
    | none => rfl
    | some entry =>
      cases entry with
      | file content => rfl
      | lockedFile => rfl
      | lockedDirectory => rfl
      | directory =>
        simp only [ih]
        split
        · rfl
        · split
          · rfl
          · split <;> rfl

/-- A single part of a directory leads to the directory above or to what stands inside. -/
theorem walk_singleton_eq_ok_iff {start place : Location} {part : String} :
    tree.walk start [part] = .ok place ↔ tree.at? start = some .directory ∧
      (part = ".." ∧ place = start.dropLast ∨
        part ≠ ".." ∧ part.utf8ByteSize ≤ maxNameBytes ∧
          (tree.at? (start ++ [part])).isSome ∧ place = start ++ [part]) := by
  simp only [walk]
  cases tree.at? start with
  | none => simp
  | some entry =>
    cases entry with
    | file content => simp
    | lockedFile => simp
    | lockedDirectory => simp
    | directory =>
      by_cases above : part = ".."
      · simp only [above, if_true, ne_eq, not_true, false_and, or_false, true_and,
          Except.ok.injEq]
        exact eq_comm
      · by_cases long : maxNameBytes < part.utf8ByteSize
        · simp only [above, long, if_true, if_false, ne_eq, Nat.not_le.2 long, false_and, or_false,
            and_false, reduceCtorEq]
        · cases tree.at? (start ++ [part]) with
          | none => simp [above, long]
          | some entry =>
            simp only [above, if_neg long, if_false, ne_eq, not_false_eq_true, false_and, false_or,
              true_and, Option.isNone_some, Option.isSome_some, Nat.not_lt.1 long,
              Bool.false_eq_true, Except.ok.injEq]
            exact eq_comm

/-- In a connected tree, the names that lead from a place to an entry below it lead there. -/
theorem Connected.walk_to (connected : tree.Connected) {start : Location} {names : List String}
    (stands : (tree.at? (start ++ names)).isSome) :
    tree.walk start names = .ok (start ++ names) := by
  induction names using List.reverseRecOn with
  | nil => simp [walk]
  | append_singleton names name ih =>
    rw [← List.append_assoc] at stands ⊢
    obtain ⟨⟨notUp, -, short⟩, around⟩ := connected _ _ stands
    rw [walk_append, ih (Option.isSome_of_eq_some around)]
    exact walk_singleton_eq_ok_iff.2 ⟨around, .inr ⟨notUp, short, stands, rfl⟩⟩

/-- From the root, the names of an entry's location lead to it. -/
theorem Connected.walk_root (connected : tree.Connected) {place : Location}
    (stands : (tree.at? place).isSome) : tree.walk [] place = .ok place :=
  @Connected.walk_to _ connected [] _ stands

/-- All names that lead down to an entry are names that paths can go through. -/
theorem Connected.passable (connected : tree.Connected) {start : Location} {names : List String}
    (stands : (tree.at? (start ++ names)).isSome) : ∀ name ∈ names, Passable name := by
  induction names using List.reverseRecOn with
  | nil => simp
  | append_singleton names name ih =>
    rw [← List.append_assoc] at stands
    obtain ⟨passable, around⟩ := connected _ _ stands
    intro other member
    rcases List.mem_append.1 member with before | last
    · exact ih (Option.isSome_of_eq_some around) other before
    · exact List.mem_singleton.1 last ▸ passable

/-- So are all names of the location of an entry. -/
theorem Connected.passable_root (connected : tree.Connected) {place : Location}
    (stands : (tree.at? place).isSome) : ∀ name ∈ place, Passable name :=
  @Connected.passable _ connected [] _ stands

/-! ### Trees that differ in one file -/

/-- The trees agree everywhere but at one location, and there neither of them has a directory. -/
structure SameBut (location : Location) (tree other : Tree) : Prop where
  agree : ∀ place, place ≠ location → tree.at? place = other.at? place
  left_file : ¬ tree.isDirectory location
  right_file : ¬ other.isDirectory location

variable {location : Location}

/-- Differing in one file has no direction. -/
theorem SameBut.symm (same : SameBut location tree other) : SameBut location other tree where
  agree place apart := (same.agree place apart).symm
  left_file := same.right_file
  right_file := same.left_file

/-- Where a directory stands, the trees do not differ. -/
theorem SameBut.ne_of_isDirectory (same : SameBut location tree other) {place : Location}
    (directory : tree.isDirectory place) : place ≠ location := by
  rintro rfl
  exact same.left_file directory

/-- Trees that differ in one file have the same directories. -/
theorem SameBut.isDirectory (same : SameBut location tree other) {place : Location}
    (directory : tree.isDirectory place) : other.isDirectory place = true := by
  rwa [Tree.isDirectory, ← same.agree place (same.ne_of_isDirectory directory)]

/-- They can enter the same directories. -/
theorem SameBut.directory (same : SameBut location tree other) {place : Location}
    (directory : tree.at? place = some .directory) : other.at? place = some .directory := by
  rw [← same.agree place (same.ne_of_isDirectory (isDirectory_of_at? directory)), directory]

/-- A single part that leads elsewhere than to the differing file leads there in both trees. -/
theorem SameBut.step (same : SameBut location tree other) {start place : Location}
    {part : String} (led : tree.walk start [part] = .ok place) (apart : place ≠ location) :
    other.walk start [part] = .ok place := by
  obtain ⟨directory, up | ⟨notUp, short, stands, rfl⟩⟩ := walk_singleton_eq_ok_iff.1 led
  · exact walk_singleton_eq_ok_iff.2 ⟨same.directory directory, .inl up⟩
  · rw [same.agree _ apart] at stands
    exact walk_singleton_eq_ok_iff.2
      ⟨same.directory directory, .inr ⟨notUp, short, stands, rfl⟩⟩

/-- Parts that lead elsewhere than to the differing file lead there in both trees. -/
theorem SameBut.walk (same : SameBut location tree other) {start place : Location}
    {parts : List String} (led : tree.walk start parts = .ok place) (apart : place ≠ location) :
    other.walk start parts = .ok place := by
  induction parts using List.reverseRecOn generalizing place with
  | nil => exact led
  | append_singleton parts part ih =>
    rw [walk_append] at led ⊢
    obtain ⟨between, before, last⟩ := bind_eq_ok_iff.1 led
    -- The last part is followed from a directory, which is not where the trees differ.
    have elsewhere : between ≠ location :=
      same.ne_of_isDirectory (isDirectory_of_at? (walk_singleton_eq_ok_iff.1 last).1)
    rw [ih before elsewhere]
    exact same.step last apart

/-- What stands in a tree after something was put somewhere below the root. -/
theorem at?_put {place : Location} (below : location ≠ []) (entry : Entry) :
    Tree.at? (tree.put location entry) place =
      if place = location then some entry else tree.at? place := by
  cases place with
  | nil => simp [Ne.symm below]
  | cons name rest => simp [at?, Roster.get?_put]

/-- Writing a file changes nothing anywhere else. -/
theorem sameBut_put (free : ¬ tree.isDirectory location) (content : Text.Bytes) :
    tree.SameBut location (tree.put location (.file content)) := by
  have below := ne_nil_of_ne_directory (ne_directory_of_not_isDirectory free)
  refine ⟨fun place apart => ?_, free, ?_⟩
  · rw [at?_put below, if_neg apart]
  · rw [Tree.isDirectory, at?_put below, if_pos rfl]
    simp [Entry.isDirectory]

/-- Putting something into a directory, where no directory stands, keeps a tree connected. -/
theorem Connected.put (connected : tree.Connected) {around : Location} {name : String}
    (passable : Passable name) (directory : tree.at? around = some .directory)
    (free : tree.at? (around ++ [name]) ≠ some .directory) (entry : Entry) :
    Connected (tree.put (around ++ [name]) entry) := by
  have below := ne_nil_of_ne_directory free
  have kept {place : Location} (stands : tree.at? place = some .directory) :
      Tree.at? (tree.put (around ++ [name]) entry) place = some .directory := by
    rw [at?_put below, if_neg (by rintro rfl; exact free stands), stands]
  intro above other stands
  rw [at?_put below] at stands
  split at stands
  · next same =>
    obtain ⟨rfl, last⟩ := List.append_inj' same rfl
    obtain rfl : other = name := List.singleton_inj.1 last
    exact ⟨passable, kept directory⟩
  · obtain ⟨passable', directory'⟩ := connected above other stands
    exact ⟨passable', kept directory'⟩

/-- Writing a file under a name into a directory keeps a tree proper. -/
theorem Proper.put (proper : tree.Proper) {above : Location} {name : String} (named : IsName name)
    (around : tree.at? above = some .directory)
    (free : ¬ tree.isDirectory (above ++ [name])) (content : Text.Bytes) :
    Proper (tree.put (above ++ [name]) (.file content)) := by
  have same := sameBut_put free content
  intro place key
  rw [Roster.keys_put] at key
  have known : place ∈ tree.keys ∨ place = above ++ [name] := by
    split at key
    · exact .inl key
    · simpa using key
  rcases known with before | rfl
  · obtain ⟨above', name', rfl, named', around'⟩ := proper place before
    exact ⟨above', name', rfl, named', same.directory around'⟩
  · exact ⟨above, name, rfl, named, same.directory around⟩

end Tree

namespace Workspace

variable {workspace : Workspace} {path : Path} {place : Location}

/-- A path leads to a location when it is short enough and its parts lead there. -/
theorem locate_eq_ok_iff :
    workspace.locate path = .ok place ↔ path.toString.utf8ByteSize ≤ Tree.maxPathBytes ∧
      workspace.tree.walk (workspace.start path) path.parts = .ok place := by
  unfold locate
  split
  · next long => simp [Nat.not_le.2 long]
  · next short => simp [Nat.not_lt.1 short]

/-- A path leads to an entry when it can be a path and leads to the entry's location. -/
theorem find?_eq_some_iff {entry : Entry} :
    workspace.find? path = .ok (some entry) ↔ hasNul path = false ∧
      ∃ place, workspace.locate path = .ok place ∧ workspace.tree.at? place = some entry := by
  unfold find?
  by_cases nul : hasNul path
  · simp [nul]
  · cases located : workspace.locate path with
    | error cause => cases cause <;> simp [nul, FileCause.isAbsence]
    | ok place => simp [nul]

/-- A property of entries is found true at a path that leads to an entry that has it. -/
theorem find?_any_iff {holds : Entry → Bool} :
    (do return (← workspace.find? path).any holds : Except Failure Bool) = .ok true ↔
      hasNul path = false ∧ ∃ place entry, workspace.locate path = .ok place ∧
        workspace.tree.at? place = some entry ∧ holds entry = true := by
  rw [bind_eq_ok_iff]
  constructor
  · rintro ⟨found, looked, there⟩
    have there : found.any holds = true := Except.ok.inj there
    obtain ⟨entry, rfl, has⟩ := (Option.any_eq_true ..).1 there
    obtain ⟨plain, place, located, stands⟩ := find?_eq_some_iff.1 looked
    exact ⟨plain, place, entry, located, stands, has⟩
  · rintro ⟨plain, place, entry, located, stands, has⟩
    exact ⟨_, find?_eq_some_iff.2 ⟨plain, place, located, stands⟩, congrArg Except.ok has⟩

/-- A path leads to a file when it leads to a location where a file stands. -/
theorem isFile_iff :
    workspace.isFile path = .ok true ↔ hasNul path = false ∧ ∃ place entry,
      workspace.locate path = .ok place ∧ workspace.tree.at? place = some entry ∧
        entry.isFile = true :=
  find?_any_iff

/-- A path leads to a directory when it leads to a location where a directory stands. -/
theorem isDirectory_iff :
    workspace.isDirectory path = .ok true ↔ hasNul path = false ∧ ∃ place,
      workspace.locate path = .ok place ∧ workspace.tree.isDirectory place = true := by
  simp only [isDirectory, find?_any_iff, Tree.isDirectory, Option.any_eq_true, exists_and_left]

/-- A content is read from a file that can be opened. -/
theorem read_eq_ok_iff {content : Text.Bytes} :
    workspace.read path = .ok content ↔ hasNul path = false ∧ ∃ place,
      workspace.locate path = .ok place ∧ workspace.tree.at? place = some (.file content) := by
  unfold read
  by_cases nul : hasNul path
  · simp [nul]
  · cases located : workspace.locate path with
    | error cause => simp [nul, bind, Except.bind]
    | ok place =>
      simp only [nul, bind, Except.bind, Bool.false_eq_true, if_false, true_and, Except.ok.injEq,
        exists_eq_left', ← Tree.read_eq_ok_iff]
      cases workspace.tree.read place <;> simp

/-- The text of a source file is read from the bytes of a file that can be opened. -/
theorem readSource?_eq_some_iff {text : String} :
    workspace.readSource? path = .ok (some text) ↔ ∃ content, workspace.read path = .ok content ∧
      text = String.ofList (Text.unifyLineEnds (Text.Utf8.decodeLossy content)) := by
  unfold readSource?
  cases workspace.read path with
  | ok content => simp [eq_comm]
  | error failure => cases failure <;> simp

/-- What can be a path for the system is read or passed over. -/
theorem exists_readSource? (plain : hasNul path = false) :
    ∃ source, workspace.readSource? path = .ok source := by
  simp only [readSource?, read, plain, Bool.false_eq_true, if_false]
  cases workspace.locate path >>= workspace.tree.read <;> exact ⟨_, rfl⟩

/-- Whether or not it can be opened, a file is read or passed over. -/
theorem exists_readSource?_of_isFile (there : workspace.isFile path = .ok true) :
    ∃ source, workspace.readSource? path = .ok source :=
  exists_readSource? (isFile_iff.1 there).1

/-- The content of the file that a path leads to; none if there is no file or it is locked. -/
def read? (workspace : Workspace) (path : Path) : Option Text.Bytes :=
  (workspace.read path).toOption

theorem read?_eq_some_iff {content : Text.Bytes} :
    workspace.read? path = some content ↔ workspace.read path = .ok content := by
  unfold read?
  cases workspace.read path <;> simp [Except.toOption]

/-- What is read at a path depends on what stands where it leads. -/
theorem read_congr {tree : Tree} (located : workspace.locate path = .ok place)
    (again : { workspace with tree := tree }.locate path = .ok place)
    (same : workspace.tree.at? place = tree.at? place) :
    { workspace with tree := tree }.read path = workspace.read path := by
  simp only [read, located, again, bind, Except.bind, Tree.read, same]

/-- So does the text of a source file. -/
theorem readSource?_congr {tree : Tree} (located : workspace.locate path = .ok place)
    (again : { workspace with tree := tree }.locate path = .ok place)
    (same : workspace.tree.at? place = tree.at? place) :
    { workspace with tree := tree }.readSource? path = workspace.readSource? path := by
  rw [readSource?, readSource?, read_congr located again same]

end Workspace

end EventAtlas
