import EventAtlas.Proofs.Text.Halves
import EventAtlas.Proofs.Tree

/-!
# Writing into workspaces

Whatever is written is put at a place where nothing stands or a file that can be opened. Every path
that led somewhere before still leads there, and the path under which something was written leads to
it. A text that cannot be encoded leaves an empty file. A directory is made together with the
missing ones above it, and whether that succeeds or fails midway, nothing but directories on the way
is added. A directory that is there is not made again.
-/

namespace EventAtlas

namespace Path

/-- A path is on the way to another one if it is this path or one of those above it. -/
structure OnWayTo (above path : Path) : Prop where
  anchor : above.anchor = path.anchor
  parts : above.parts <+: path.parts

/-- A path is on the way to itself. -/
theorem OnWayTo.refl (path : Path) : path.OnWayTo path :=
  ⟨rfl, List.prefix_rfl⟩

/-- What is on the way to the directory above a path is on the way to the path. -/
theorem OnWayTo.of_parent {above path : Path} (onWay : above.OnWayTo path.parent) :
    above.OnWayTo path :=
  ⟨onWay.anchor, onWay.parts.trans (List.dropLast_prefix _)⟩

end Path

namespace Workspace

variable {before between after workspace : Workspace} {path : Path} {place around : Location}

/-- The workspace with something put at a place of its tree. -/
def put (workspace : Workspace) (place : Location) (entry : Entry) : Workspace :=
  { workspace with tree := workspace.tree.put place entry }

/-- What stands in a workspace after something was put somewhere below the root. -/
theorem at?_put {other : Location} (below : place ≠ []) (entry : Entry) :
    (workspace.put place entry).tree.at? other =
      if other = place then some entry else workspace.tree.at? other :=
  Tree.at?_put below entry

/-- What was put somewhere below the root stands there. -/
theorem at?_put_self (workspace : Workspace) (below : place ≠ []) (entry : Entry) :
    (workspace.put place entry).tree.at? place = some entry := by
  rw [at?_put below, if_pos rfl]

/-! ### What is kept -/

/-- Nothing disappears, and what is no file that can be opened stays as it is. -/
structure Keeps (before after : Workspace) : Prop where
  current : after.current = before.current
  fixed : ∀ place entry, before.tree.at? place = some entry →
    (∀ content, entry ≠ .file content) → after.tree.at? place = some entry
  present : ∀ place, (before.tree.at? place).isSome → (after.tree.at? place).isSome

/-- Directories that can be entered stay. -/
theorem Keeps.directory (keeps : before.Keeps after) (place : Location)
    (stands : before.tree.at? place = some .directory) :
    after.tree.at? place = some .directory :=
  keeps.fixed place _ stands nofun

/-- All directories stay. -/
theorem Keeps.isDirectory_tree (keeps : before.Keeps after)
    (directory : before.tree.isDirectory place) : after.tree.isDirectory place = true := by
  rw [Tree.isDirectory_iff] at directory ⊢
  exact directory.imp (keeps.directory place) fun locked => keeps.fixed place _ locked nofun

/-- A workspace keeps what stands in it. -/
theorem Keeps.refl (workspace : Workspace) : workspace.Keeps workspace :=
  ⟨rfl, fun _ _ stands _ => stands, fun _ stands => stands⟩

/-- What is kept time after time is kept. -/
theorem Keeps.trans (first : before.Keeps between) (second : between.Keeps after) :
    before.Keeps after where
  current := second.current.trans first.current
  fixed place entry stands other :=
    second.fixed place entry (first.fixed place entry stands other) other
  present place stands := second.present place (first.present place stands)

/-- A place where something may be written is below the root. -/
theorem ne_nil_of_writable (writable : workspace.tree.Writable place) : place ≠ [] := by
  rintro rfl
  obtain ⟨content, same⟩ := writable .directory rfl
  cases same

/-- Where nothing stands, something may be written. -/
theorem writable_of_none (free : workspace.tree.at? place = none) :
    workspace.tree.Writable place := by
  intro entry stands
  rw [free] at stands
  cases stands

/-- No directory stands where something may be written. -/
theorem ne_directory_of_writable (writable : workspace.tree.Writable place) :
    workspace.tree.at? place ≠ some .directory := by
  intro stands
  obtain ⟨content, same⟩ := writable _ stands
  cases same

/-- Putting something where it may be written keeps the rest. -/
theorem keeps_put (writable : workspace.tree.Writable place) (entry : Entry) :
    workspace.Keeps (workspace.put place entry) := by
  have below := ne_nil_of_writable writable
  refine ⟨rfl, fun other kept stands fixed => ?_, fun other stands => ?_⟩
  · have apart : other ≠ place := by
      rintro rfl
      obtain ⟨content, same⟩ := writable kept stands
      exact fixed content same
    rw [at?_put below, if_neg apart, stands]
  · rw [at?_put below]
    split
    · rfl
    · exact stands

/-- What is kept is kept when the same is put on both sides. -/
theorem Keeps.put (keeps : before.Keeps after) (below : place ≠ []) (entry : Entry) :
    (before.put place entry).Keeps (after.put place entry) := by
  refine ⟨keeps.current, fun other kept stands fixed => ?_, fun other stands => ?_⟩
  · rw [at?_put below] at stands ⊢
    split
    · next same => rwa [if_pos same] at stands
    · next apart => exact keeps.fixed _ _ (by rwa [if_neg apart] at stands) fixed
  · rw [at?_put below] at stands ⊢
    split
    · rfl
    · next apart => exact keeps.present _ (by rwa [if_neg apart] at stands)

/-- Parts lead where they led before. -/
theorem Keeps.walk (keeps : before.Keeps after) {start : Location} {parts : List String}
    (led : before.tree.walk start parts = .ok place) :
    after.tree.walk start parts = .ok place := by
  induction parts using List.reverseRecOn generalizing place with
  | nil => exact led
  | append_singleton parts part ih =>
    rw [Tree.walk_append] at led ⊢
    obtain ⟨between, way, last⟩ := bind_eq_ok_iff.1 led
    rw [ih way]
    obtain ⟨directory, up | ⟨notUp, short, stands, rfl⟩⟩ := Tree.walk_singleton_eq_ok_iff.1 last
    · exact Tree.walk_singleton_eq_ok_iff.2 ⟨keeps.directory _ directory, .inl up⟩
    · exact Tree.walk_singleton_eq_ok_iff.2
        ⟨keeps.directory _ directory, .inr ⟨notUp, short, keeps.present _ stands, rfl⟩⟩

/-- Paths start where they started before. -/
theorem Keeps.start (keeps : before.Keeps after) : after.start path = before.start path := by
  unfold Workspace.start
  rw [keeps.current]

/-- Paths lead where they led before. -/
theorem Keeps.locate (keeps : before.Keeps after) (located : before.locate path = .ok place) :
    after.locate path = .ok place := by
  obtain ⟨short, led⟩ := locate_eq_ok_iff.1 located
  exact locate_eq_ok_iff.2 ⟨short, keeps.start ▸ keeps.walk led⟩

/-- What led to a directory still does. -/
theorem Keeps.isDirectory (keeps : before.Keeps after)
    (there : before.isDirectory path = .ok true) : after.isDirectory path = .ok true := by
  rw [isDirectory_iff] at there ⊢
  obtain ⟨plain, place, located, directory⟩ := there
  exact ⟨plain, place, keeps.locate located, keeps.isDirectory_tree directory⟩

/-! ### Where something is written -/

/-- A path has a directory around it if all its parts but the last lead to one. -/
theorem directoryAround_eq_ok_iff :
    workspace.directoryAround path = .ok around ↔
      path.toString.utf8ByteSize ≤ Tree.maxPathBytes ∧
        workspace.tree.walk (workspace.start path) path.parts.dropLast = .ok around ∧
        workspace.tree.at? around = some .directory := by
  unfold directoryAround
  by_cases long : Tree.maxPathBytes < path.toString.utf8ByteSize
  · simp [long, Nat.not_le.2 long, bind, Except.bind]
  · rw [if_neg long]
    beta_reduce
    rw [bind_eq_ok_iff]
    simp only [Nat.not_lt.1 long, true_and]
    constructor
    · rintro ⟨between, led, there⟩
      split at there
      · next directory =>
        cases there
        exact ⟨led, directory⟩
      all_goals cases there
    · rintro ⟨led, directory⟩
      exact ⟨around, led, by rw [directory]; rfl⟩

/-- A path whose last part is no name leads back to what is there. Any other path has its place
inside the directory around it. -/
theorem placeFor_eq_ok_iff :
    workspace.placeFor path = .ok place ↔
      ∃ around, workspace.directoryAround path = .ok around ∧
        ((∀ name, path.parts.getLast? = some name → name = "..") ∧
            workspace.locate path = .ok place ∨
          ∃ name, path.parts.getLast? = some name ∧ name ≠ ".." ∧
            name.utf8ByteSize ≤ Tree.maxNameBytes ∧ place = around ++ [name]) := by
  unfold placeFor
  rw [bind_eq_ok_iff]
  refine exists_congr fun around => and_congr_right fun inside => ?_
  obtain ⟨short, led, -⟩ := directoryAround_eq_ok_iff.1 inside
  match last : path.parts.getLast? with
  | none =>
    have located : workspace.locate path = .ok (workspace.start path) := by
      rw [List.getLast?_eq_none_iff] at last
      rw [last] at led
      exact locate_eq_ok_iff.2 ⟨short, by rw [last]; rfl⟩
    simp [located, pure, Except.pure]
  | some name =>
    by_cases up : name = ".."
    · subst up
      simp
    · by_cases long : Tree.maxNameBytes < name.utf8ByteSize
      · simp [up, long, Nat.not_le.2 long, bind, Except.bind]
      · simp [up, long, Nat.not_lt.1 long, pure, Except.pure, eq_comm]

/-- Once something stands at the place for a path, the path leads there. -/
theorem Keeps.locate_of_placeFor (keeps : before.Keeps after)
    (placed : before.placeFor path = .ok place) (stands : (after.tree.at? place).isSome) :
    after.locate path = .ok place := by
  obtain ⟨around, inside, ⟨-, located⟩ | ⟨name, last, notUp, short, rfl⟩⟩ :=
    placeFor_eq_ok_iff.1 placed
  · exact keeps.locate located
  · obtain ⟨fits, led, directory⟩ := directoryAround_eq_ok_iff.1 inside
    refine locate_eq_ok_iff.2 ⟨fits, ?_⟩
    rw [← List.dropLast_append_getLast? name (Option.mem_def.2 last), Tree.walk_append,
      keeps.start, keeps.walk led]
    exact Tree.walk_singleton_eq_ok_iff.2
      ⟨keeps.directory _ directory, .inr ⟨notUp, short, stands, rfl⟩⟩

/-- The place for a path that leads to a directory is this directory, unless the path has no parts
and starts at one that is locked. -/
theorem placeFor_of_locate (located : workspace.locate path = .ok place)
    (directory : workspace.tree.isDirectory place) :
    workspace.placeFor path = .ok place ∨ workspace.placeFor path = .error .notPermitted := by
  obtain ⟨fits, led⟩ := locate_eq_ok_iff.1 located
  cases last : path.parts.getLast? with
  | none =>
    have none : path.parts = [] := List.getLast?_eq_none_iff.1 last
    rw [none] at led
    rcases Tree.isDirectory_iff.1 directory with open_ | locked
    · exact .inl (placeFor_eq_ok_iff.2 ⟨place,
        directoryAround_eq_ok_iff.2 ⟨fits, by rw [none]; exact led, open_⟩,
        .inl ⟨by simp [last], located⟩⟩)
    · refine .inr ?_
      rw [placeFor, directoryAround, if_neg (Nat.not_lt.2 fits), none]
      change (workspace.tree.walk (workspace.start path) [] >>= _) >>= _ = _
      rw [led]
      simp [bind, Except.bind, locked]
  | some name =>
    rw [← List.dropLast_append_getLast? name (Option.mem_def.2 last), Tree.walk_append] at led
    obtain ⟨around, inside, step⟩ := bind_eq_ok_iff.1 led
    obtain ⟨there, up | ⟨notUp, short, -, rfl⟩⟩ := Tree.walk_singleton_eq_ok_iff.1 step
    · exact .inl (placeFor_eq_ok_iff.2
        ⟨around, directoryAround_eq_ok_iff.2 ⟨fits, inside, there⟩,
          .inl ⟨by simp [last, up.1], located⟩⟩)
    · exact .inl (placeFor_eq_ok_iff.2
        ⟨around, directoryAround_eq_ok_iff.2 ⟨fits, inside, there⟩,
          .inr ⟨name, last, notUp, short, rfl⟩⟩)

/-- A file is written at the place for its path, if it may be written there. -/
theorem writeFile_eq_ok_iff {content : Text.Bytes} :
    workspace.writeFile path content = .ok after ↔
      ∃ place, workspace.placeFor path = .ok place ∧ workspace.tree.Writable place ∧
        after = workspace.put place (.file content) := by
  unfold writeFile
  rw [bind_eq_ok_iff]
  refine exists_congr fun place => and_congr_right fun _ => ?_
  rw [bind_eq_ok_iff]
  constructor
  · rintro ⟨tree, written, done⟩
    cases done
    obtain ⟨writable, rfl⟩ := Tree.write_eq_ok_iff.1 written
    exact ⟨writable, rfl⟩
  · rintro ⟨writable, rfl⟩
    exact ⟨_, Tree.write_eq_ok_iff.2 ⟨writable, rfl⟩, rfl⟩

/-- A file can be opened at a path in order to write it. -/
def Opens (workspace : Workspace) (path : Path) : Prop :=
  hasNul path = false ∧
    ∃ place, workspace.placeFor path = .ok place ∧ workspace.tree.Writable place

/-- A path opens exactly if anything is written there. -/
theorem exists_writeFile_iff (plain : hasNul path = false) (content : Text.Bytes) :
    (∃ after, workspace.writeFile path content = .ok after) ↔ workspace.Opens path := by
  simp only [writeFile_eq_ok_iff, Opens, plain, true_and]
  constructor
  · rintro ⟨_, place, placed, writable, -⟩
    exact ⟨place, placed, writable⟩
  · rintro ⟨place, placed, writable⟩
    exact ⟨_, place, placed, writable, rfl⟩

variable {halves : Text.Halves} {text : String} {failure : Failure}

/-- A text is written as the file of its bytes, if its path opens and it can be encoded. -/
theorem writeText_eq_ok_iff :
    workspace.writeText halves path text = (after, .ok ()) ↔ hasNul path = false ∧
      halves.Encodable text ∧ workspace.writeFile path (Text.Utf8.encode text) = .ok after := by
  unfold writeText writeEncoded
  by_cases nul : hasNul path
  · simp [nul]
  · cases encoded : halves.encode text with
    | ok content =>
      obtain ⟨encodable, rfl⟩ := Text.Halves.encode_eq_ok_iff.1 encoded
      cases written : workspace.writeFile path (Text.Utf8.encode text) <;>
        simp [nul, encodable, written, Except.toOption, Except.mapError, bind, Except.bind]
    | error run =>
      have refused : ¬ halves.Encodable text := fun encodable => by
        rw [Text.Halves.encode_eq_ok_iff.2 ⟨encodable, rfl⟩] at encoded
        cases encoded
      cases written : workspace.writeFile path [] <;>
        simp [nul, refused, written, Except.toOption, Except.mapError, bind, Except.bind]

/-- An encodable text is written where a file may be written. -/
theorem writeText_of_writable (plain : hasNul path = false) (encodable : halves.Encodable text)
    (placed : workspace.placeFor path = .ok place) (writable : workspace.tree.Writable place) :
    workspace.writeText halves path text =
      (workspace.put place (.file (Text.Utf8.encode text)), .ok ()) :=
  writeText_eq_ok_iff.2
    ⟨plain, encodable, writeFile_eq_ok_iff.2 ⟨place, placed, writable, rfl⟩⟩

/-- When a text cannot be written, nothing has changed because its path does not open, or its file
is left empty because the text cannot be encoded. -/
theorem writeText_eq_error_iff :
    workspace.writeText halves path text = (after, .error failure) ↔
      after = workspace ∧ (hasNul path = true ∧ failure = .nulInPath ∨
        hasNul path = false ∧ ∃ cause, failure = .file cause path.toString ∧
          workspace.writeFile path ((halves.encode text).toOption.getD []) = .error cause) ∨
      hasNul path = false ∧ ∃ run, failure = .unwritable run ∧
        halves.encode text = .error run ∧ workspace.writeFile path [] = .ok after := by
  unfold writeText writeEncoded
  by_cases nul : hasNul path
  · simp [nul, eq_comm]
  · cases encoded : halves.encode text with
    | ok content =>
      cases written : workspace.writeFile path content <;>
        simp [nul, written, Except.toOption, Except.mapError, bind, Except.bind, eq_comm]
    | error run =>
      cases written : workspace.writeFile path [] <;>
        simp [nul, written, Except.toOption, Except.mapError, bind, Except.bind, eq_comm, and_comm]

/-- After a file was written, its path leads to it, and nothing else has changed. -/
structure Written (path : Path) (content : Text.Bytes) (place : Location)
    (before after : Workspace) : Prop where
  keeps : before.Keeps after
  located : after.locate path = .ok place
  writable : before.tree.Writable place
  stands : after.tree.at? place = some (.file content)
  others : ∀ other, other ≠ place → after.tree.at? other = before.tree.at? other

/-- A file is written at the place for its path. -/
theorem written_put {content : Text.Bytes} (placed : workspace.placeFor path = .ok place)
    (writable : workspace.tree.Writable place) :
    Written path content place workspace (workspace.put place (.file content)) := by
  have keeps := keeps_put writable (.file content)
  have below := ne_nil_of_writable writable
  have stands := at?_put_self workspace below (.file content)
  exact ⟨keeps, keeps.locate_of_placeFor placed (Option.isSome_of_eq_some stands), writable, stands,
    fun other apart => by rw [at?_put below, if_neg apart]⟩

/-- What is written is a file at some place. -/
theorem exists_written_of_writeFile {content : Text.Bytes}
    (done : before.writeFile path content = .ok after) :
    ∃ place, Written path content place before after := by
  obtain ⟨place, placed, writable, rfl⟩ := writeFile_eq_ok_iff.1 done
  exact ⟨place, written_put placed writable⟩

/-- A text is written as the file of its bytes. -/
theorem exists_written (done : before.writeText halves path text = (after, .ok ())) :
    ∃ place, Written path (Text.Utf8.encode text) place before after :=
  exists_written_of_writeFile (writeText_eq_ok_iff.1 done).2.2

/-- A text that cannot be written leaves everything as it was or, if it cannot be encoded, an empty
file. -/
theorem of_writeText_error
    (refused : before.writeText halves path text = (after, .error failure)) :
    after = before ∨ before.Opens path ∧ ∃ run place, failure = .unwritable run ∧
      halves.encode text = .error run ∧ Written path [] place before after := by
  rcases writeText_eq_error_iff.1 refused with ⟨same, -⟩ | ⟨plain, run, same, encoded, done⟩
  · exact .inl same
  · obtain ⟨place, written⟩ := exists_written_of_writeFile done
    exact .inr ⟨(exists_writeFile_iff plain []).1 ⟨after, done⟩, run, place, same, encoded, written⟩

/-- Where a text is written, the path opens. -/
theorem opens_of_writeText (done : before.writeText halves path text = (after, .ok ())) :
    before.Opens path := by
  obtain ⟨plain, -, done⟩ := writeText_eq_ok_iff.1 done
  exact (exists_writeFile_iff plain _).1 ⟨after, done⟩

/-- No text can be written over a directory. -/
theorem not_opens_of_locate (located : workspace.locate path = .ok place)
    (directory : workspace.tree.isDirectory place) : ¬ workspace.Opens path := by
  rintro ⟨-, place', placed, writable⟩
  rcases placeFor_of_locate located directory with same | refused
  · rw [same] at placed
    cases placed
    rw [Tree.isDirectory, Option.any_eq_true] at directory
    obtain ⟨entry, stands, directory⟩ := directory
    obtain ⟨content, rfl⟩ := writable entry stands
    cases directory
  · rw [refused] at placed
    cases placed

/-! ### Directories -/

/-- A directory can be made where nothing stands. -/
theorem makeDirectory_eq_ok_iff :
    workspace.makeDirectory path = .ok after ↔
      ∃ place, workspace.placeFor path = .ok place ∧ workspace.tree.at? place = none ∧
        after = workspace.put place .directory := by
  unfold makeDirectory
  rw [bind_eq_ok_iff]
  refine exists_congr fun place => and_congr_right fun _ => ?_
  cases stands : workspace.tree.at? place with
  | none => simp [pure, Except.pure, put, eq_comm]
  | some entry => simp [bind, Except.bind]

/-- All that is different afterwards is that directories stand on the way of a path where nothing
stood before. -/
structure Made (path : Path) (before after : Workspace) : Prop where
  current : after.current = before.current
  added : ∀ place, after.tree.at? place = before.tree.at? place ∨
    before.tree.at? place = none ∧ after.tree.at? place = some .directory ∧
      ∃ above : Path, above.OnWayTo path ∧ after.locate above = .ok place

/-- Nothing has to be made. -/
theorem Made.refl (path : Path) (workspace : Workspace) : Made path workspace workspace :=
  ⟨rfl, fun _ => .inl rfl⟩

/-- Making directories keeps what stands. -/
theorem Made.keeps (made : Made path before after) : before.Keeps after where
  current := made.current
  fixed place entry stands _ := by
    rcases made.added place with same | ⟨free, -⟩
    · rw [same, stands]
    · rw [free] at stands
      cases stands
  present place stands := by
    rcases made.added place with same | ⟨-, directory, -⟩
    · rwa [same]
    · rw [directory]
      rfl

/-- Directories are made one after the other. -/
theorem Made.trans (first : Made path before between) (second : Made path between after) :
    Made path before after where
  current := second.current.trans first.current
  added place := by
    rcases second.added place with same | ⟨free, directory, onWay⟩
    · rw [same]
      refine (first.added place).imp_right fun ⟨free, directory, above, onWay, located⟩ => ?_
      exact ⟨free, directory, above, onWay, second.keeps.locate located⟩
    · rcases first.added place with same' | ⟨_, directory', -⟩
      · exact .inr ⟨same' ▸ free, directory, onWay⟩
      · rw [directory'] at free
        cases free

/-- A single directory on the way of a path. -/
theorem made_put {above : Path} (onWay : above.OnWayTo path)
    (placed : workspace.placeFor above = .ok place) (free : workspace.tree.at? place = none) :
    Made path workspace (workspace.put place .directory) := by
  have vacant := writable_of_none free
  have below := ne_nil_of_writable vacant
  have keeps := keeps_put vacant .directory
  refine ⟨rfl, fun other => ?_⟩
  by_cases here : other = place
  · subst here
    have stands := at?_put_self workspace below .directory
    exact .inr ⟨free, stands, above, onWay,
      keeps.locate_of_placeFor placed (Option.isSome_of_eq_some stands)⟩
  · exact .inl (by rw [at?_put below, if_neg here])

/-- Making a directory unless it is there makes no other one. -/
theorem made_ensureDirectory {above : Path} (onWay : above.OnWayTo path) :
    Made path workspace (workspace.ensureDirectory above).1 := by
  unfold ensureDirectory
  split
  · next made =>
    obtain ⟨place, placed, free, rfl⟩ := makeDirectory_eq_ok_iff.1 made
    exact made_put onWay placed free
  · split
    · exact .refl ..
    · exact .refl ..

/-- The paths that have to be made are on the way to the last one. -/
theorem onWayTo_of_mem_missingChain {fuel : Nat} {above : Path}
    (member : above ∈ workspace.missingChain path fuel) : above.OnWayTo path := by
  induction fuel generalizing path with
  | zero =>
    rw [missingChain, List.mem_singleton] at member
    exact member ▸ .refl path
  | succ fuel ih =>
    unfold missingChain at member
    split at member
    · split at member
      · rw [List.mem_singleton] at member
        exact member ▸ .refl path
      · rcases List.mem_append.1 member with before | last
        · exact (ih before).of_parent
        · exact List.mem_singleton.1 last ▸ .refl path
    · rw [List.mem_singleton] at member
      exact member ▸ .refl path

/-- Making the directories of a chain makes no others, even if it fails midway. -/
theorem made_go {chain : List Path} (onWay : ∀ above ∈ chain, above.OnWayTo path) :
    Made path workspace (makeDirectories.go workspace chain).1 := by
  induction chain generalizing workspace with
  | nil => exact .refl ..
  | cons above rest ih =>
    obtain ⟨here, later⟩ := List.forall_mem_cons.1 onWay
    have step : Made path workspace (workspace.ensureDirectory above).1 :=
      made_ensureDirectory here
    unfold makeDirectories.go
    split
    · next ensured =>
      rw [ensured] at step
      exact step.trans (ih later)
    · next ensured =>
      rw [ensured] at step
      exact step

/-- Making a directory and those above it makes no others, even if it fails midway. -/
theorem made_makeDirectories (workspace : Workspace) (path : Path) :
    Made path workspace (workspace.makeDirectories path).1 := by
  unfold makeDirectories
  split
  · exact .refl ..
  · exact made_go fun above member => onWayTo_of_mem_missingChain member

/-- A directory that is there is not made again. -/
theorem makeDirectories_of_isDirectory (there : workspace.isDirectory path = .ok true) :
    workspace.makeDirectories path = (workspace, .ok ()) := by
  obtain ⟨plain, place, located, directory⟩ := isDirectory_iff.1 there
  have refused : ∃ cause, workspace.makeDirectory path = .error cause ∧ cause ≠ .notFound := by
    unfold makeDirectory
    rcases placeFor_of_locate located directory with placed | refused
    · obtain ⟨entry, stands, -⟩ := (Option.any_eq_true ..).1 directory
      exact ⟨.exists, by simp [placed, stands, bind, Except.bind], by decide⟩
    · exact ⟨.notPermitted, by simp [refused, bind, Except.bind], by decide⟩
  obtain ⟨cause, refused, present⟩ := refused
  have chain (fuel : Nat) : workspace.missingChain path fuel = [path] := by
    cases fuel with
    | zero => rfl
    | succ fuel =>
      rw [missingChain, refused]
      split
      · next same => exact absurd (Except.error.inj same) present
      · rfl
  unfold makeDirectories
  rw [if_neg (by simp [plain]), chain]
  simp [makeDirectories.go, ensureDirectory, refused, there]

/-- A directory that can be made at once is made alone. -/
theorem makeDirectories_of_makeDirectory (plain : hasNul path = false)
    (made : workspace.makeDirectory path = .ok after) :
    workspace.makeDirectories path = (after, .ok ()) := by
  have chain (fuel : Nat) : workspace.missingChain path fuel = [path] := by
    cases fuel with
    | zero => rfl
    | succ fuel => rw [missingChain, made]
  unfold makeDirectories
  rw [if_neg (by simp [plain]), chain]
  simp [makeDirectories.go, ensureDirectory, made]

end Workspace

end EventAtlas
