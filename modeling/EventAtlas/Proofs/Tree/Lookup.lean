import EventAtlas.Proofs.Tree

/-!
# Paths that cannot be looked up

A path is looked up without a failure unless the system refuses it: for its length, or because it
goes on after a directory that is locked or with a name that is too long. That is settled by the
length of the whole path and by what follows, on the way, after directories: what comes after
something missing or after a file is never looked at.
-/

namespace EventAtlas

namespace Tree

variable {tree : Tree} {cause : FileCause}

/-- A directory keeps a path from going on with a name: the directory is locked, or the name is
longer than names may be. -/
inductive Bars (tree : Tree) (place : Location) (name : String) : FileCause → Prop
  | locked (locked : tree.at? place = some .lockedDirectory) : Bars tree place name .notPermitted
  | long (directory : tree.at? place = some .directory) (notUp : name ≠ "..")
      (long : maxNameBytes < name.utf8ByteSize) : Bars tree place name .nameTooLong

/-- A cause for which a path is barred never means that nothing is there. -/
theorem Bars.not_isAbsence {place : Location} {name : String} (bars : tree.Bars place name cause) :
    cause.isAbsence = false := by
  cases bars <;> rfl

/-- Following a single part stops for anything but absence exactly if the directory bars it. -/
theorem walk_singleton_eq_error_iff (present : cause.isAbsence = false) {place : Location}
    {name : String} : tree.walk place [name] = .error cause ↔ tree.Bars place name cause := by
  constructor
  · intro stopped
    rw [walk] at stopped
    split at stopped
    · cases stopped
      cases present
    · cases stopped
      cases present
    · cases stopped
      cases present
    · next locked =>
      cases stopped
      exact .locked locked
    · next directory =>
      split at stopped
      · cases stopped
      · next notUp =>
        split at stopped
        · next long =>
          cases stopped
          exact .long directory notUp long
        · split at stopped
          · cases stopped
            cases present
          · cases stopped
  · intro bars
    cases bars with
    | locked locked => rw [walk, locked]
    | long directory notUp long => rw [walk, directory]; simp [notUp, long]

/-- Following parts stops for anything but absence exactly where a directory bars a part to which
those before it lead. -/
theorem walk_eq_error_iff (present : cause.isAbsence = false) {start : Location}
    {parts : List String} :
    tree.walk start parts = .error cause ↔ ∃ before name after place,
      parts = before ++ name :: after ∧ tree.walk start before = .ok place ∧
        tree.Bars place name cause := by
  constructor
  · intro stopped
    induction parts generalizing start with
    | nil => cases stopped
    | cons part rest ih =>
      rw [← List.singleton_append, walk_append] at stopped
      cases led : tree.walk start [part] with
      | error other =>
        rw [led] at stopped
        cases stopped
        exact ⟨[], part, rest, start, rfl, rfl, (walk_singleton_eq_error_iff present).1 led⟩
      | ok between =>
        rw [led] at stopped
        obtain ⟨before, name, after, place, rfl, walked, bars⟩ := ih stopped
        refine ⟨part :: before, name, after, place, rfl, ?_, bars⟩
        rw [← List.singleton_append, walk_append, led]
        exact walked
  · rintro ⟨before, name, after, place, rfl, walked, bars⟩
    have stopped := (walk_singleton_eq_error_iff present).2 bars
    rw [← List.singleton_append, walk_append, walked]
    change tree.walk place ([name] ++ after) = _
    rw [walk_append, stopped]
    rfl

end Tree

namespace Workspace

variable {workspace : Workspace} {path : Path} {cause : FileCause}

/-- Looking a path up is refused for a cause: it is a path for the system but longer than paths may
be, or it leads to a directory that keeps it from going on. -/
inductive Refuses (workspace : Workspace) (path : Path) : FileCause → Prop
  | long (plain : hasNul path = false)
      (long : Tree.maxPathBytes < path.toString.utf8ByteSize) :
      Refuses workspace path .nameTooLong
  | barred {before after : List String} {name : String} {place : Location} {cause : FileCause}
      (plain : hasNul path = false)
      (short : path.toString.utf8ByteSize ≤ Tree.maxPathBytes)
      (parted : path.parts = before ++ name :: after)
      (led : workspace.tree.walk (workspace.start path) before = .ok place)
      (bars : workspace.tree.Bars place name cause) : Refuses workspace path cause

/-- Looking a path up is refused for no cause. -/
def Admits (workspace : Workspace) (path : Path) : Prop :=
  ∀ cause, ¬ workspace.Refuses path cause

theorem not_admits_iff : ¬ workspace.Admits path ↔ ∃ cause, workspace.Refuses path cause := by
  simp [Admits]

/-- What is refused can be a path for the system. -/
theorem Refuses.plain (refuses : workspace.Refuses path cause) : hasNul path = false := by
  cases refuses <;> assumption

/-- A path is never refused because nothing is there. -/
theorem Refuses.not_isAbsence (refuses : workspace.Refuses path cause) :
    cause.isAbsence = false := by
  cases refuses with
  | long => rfl
  | barred _ _ _ _ bars => exact bars.not_isAbsence

/-- Locating a path stops for anything but absence exactly if the path is refused. -/
theorem locate_eq_error_iff (plain : hasNul path = false) (present : cause.isAbsence = false) :
    workspace.locate path = .error cause ↔ workspace.Refuses path cause := by
  unfold locate
  split
  · next long =>
    rw [Except.error.injEq]
    constructor
    · rintro rfl
      exact .long plain long
    · intro refuses
      cases refuses with
      | long => rfl
      | barred _ short => exact absurd long (Nat.not_lt.2 short)
  · next short =>
    rw [Tree.walk_eq_error_iff present]
    constructor
    · rintro ⟨before, name, after, place, parted, led, bars⟩
      exact .barred plain (Nat.not_lt.1 short) parted led bars
    · intro refuses
      cases refuses with
      | long _ long => exact absurd long short
      | barred _ _ parted led bars => exact ⟨_, _, _, _, parted, led, bars⟩

/-- A path is refused if it can be a path and locating it stops for anything but absence. -/
theorem refuses_iff : workspace.Refuses path cause ↔
    hasNul path = false ∧ cause.isAbsence = false ∧ workspace.locate path = .error cause := by
  constructor
  · intro refuses
    exact ⟨refuses.plain, refuses.not_isAbsence,
      (locate_eq_error_iff refuses.plain refuses.not_isAbsence).2 refuses⟩
  · rintro ⟨plain, present, stopped⟩
    exact (locate_eq_error_iff plain present).1 stopped

/-- What is located is not refused. -/
theorem admits_of_locate {place : Location} (located : workspace.locate path = .ok place) :
    workspace.Admits path := by
  intro cause refuses
  obtain ⟨-, -, stopped⟩ := refuses_iff.1 refuses
  rw [located] at stopped
  cases stopped

/-- A path cannot be looked up exactly if it is refused; the failure names the path. -/
theorem find?_eq_error_iff {failure : Failure} :
    workspace.find? path = .error failure ↔
      ∃ cause, workspace.Refuses path cause ∧ failure = .file cause path.toString := by
  unfold find?
  constructor
  · intro failed
    split at failed
    · cases failed
    · next plain =>
      split at failed
      · cases failed
      · next cause located =>
        split at failed
        · cases failed
        · next present =>
          cases failed
          exact ⟨cause, (locate_eq_error_iff (Bool.eq_false_iff.2 plain)
            (Bool.eq_false_iff.2 present)).1 located, rfl⟩
  · rintro ⟨cause, refuses, rfl⟩
    have present := refuses.not_isAbsence
    rw [refuses.plain, (locate_eq_error_iff refuses.plain present).2 refuses]
    simp [present]

/-- It cannot be told whether a path leads to a file exactly if it is refused. -/
theorem isFile_eq_error_iff {failure : Failure} :
    workspace.isFile path = .error failure ↔
      ∃ cause, workspace.Refuses path cause ∧ failure = .file cause path.toString := by
  rw [isFile, bind_eq_error_iff, find?_eq_error_iff]
  refine or_iff_left ?_
  rintro ⟨found, -, failed⟩
  cases failed

/-- Nor can it be told whether it leads to a directory. -/
theorem isDirectory_eq_error_iff {failure : Failure} :
    workspace.isDirectory path = .error failure ↔
      ∃ cause, workspace.Refuses path cause ∧ failure = .file cause path.toString := by
  rw [isDirectory, bind_eq_error_iff, find?_eq_error_iff]
  refine or_iff_left ?_
  rintro ⟨found, -, failed⟩
  cases failed

/-- Of every other path it can be told. -/
theorem exists_isFile_iff :
    (∃ there, workspace.isFile path = .ok there) ↔ workspace.Admits path := by
  cases looked : workspace.isFile path with
  | ok there =>
    simp only [Except.ok.injEq, exists_eq', true_iff]
    intro cause refuses
    rw [isFile_eq_error_iff.2 ⟨cause, refuses, rfl⟩] at looked
    cases looked
  | error failure =>
    obtain ⟨cause, refuses, -⟩ := isFile_eq_error_iff.1 looked
    simp only [reduceCtorEq, exists_false, false_iff]
    exact not_admits_iff.2 ⟨cause, refuses⟩

end Workspace

end EventAtlas
