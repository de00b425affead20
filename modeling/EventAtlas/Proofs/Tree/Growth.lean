import EventAtlas.Proofs.Tree.Write

/-!
# Trees that grow

Making directories and writing files only ever puts something into a directory: a directory where
nothing stood, or a file where one may be written. When all files are written under a few names, a
place of any other name holds what it held, unless a directory was made there. Writing a file again
with what it holds changes nothing.
-/

namespace EventAtlas

/-- Entering a value under the key that holds it changes nothing. -/
theorem Roster.put_of_get? {κ α : Type} [DecidableEq κ] {roster : Roster κ α} {key : κ} {value : α}
    (held : roster.get? key = some value) : roster.put key value = roster := by
  have present : key ∈ roster.keys := mem_keys_of_get? held
  have same : replaceIn key value roster.entries = roster.entries := by
    unfold replaceIn
    conv_rhs => rw [← List.map_id roster.entries]
    refine List.map_congr_left fun entry member => ?_
    split
    · next here =>
      obtain ⟨key', value'⟩ := entry
      dsimp only at here
      subst here
      rw [get?_eq_some_iff.2 member, Option.some.injEq] at held
      rw [held]
      rfl
    · rfl
  unfold put
  simp [present, same]

namespace Workspace

/-- Things are put into directories, one after the other: directories where nothing stands, and
files under some names where they may be written. -/
inductive Grows (names : List String) (before : Workspace) : Workspace → Prop
  | refl : Grows names before before
  | directory {between : Workspace} {around : Location} {name : String}
      (grows : Grows names before between) (inside : between.tree.at? around = some .directory)
      (passable : Tree.Passable name) (free : between.tree.at? (around ++ [name]) = none) :
      Grows names before (between.put (around ++ [name]) .directory)
  | file {between : Workspace} {around : Location} {name : String} {content : Text.Bytes}
      (grows : Grows names before between) (inside : between.tree.at? around = some .directory)
      (passable : Tree.Passable name) (writable : between.tree.Writable (around ++ [name]))
      (listed : name ∈ names) :
      Grows names before (between.put (around ++ [name]) (.file content))

variable {names : List String} {before between after workspace : Workspace} {path : Path}
  {place : Location}

/-- What grows time after time grows. -/
theorem Grows.trans (first : Grows names before between) (second : Grows names between after) :
    Grows names before after := by
  induction second with
  | refl => exact first
  | directory _ inside passable free ih => exact .directory ih inside passable free
  | file _ inside passable writable listed ih => exact .file ih inside passable writable listed

/-- Growing keeps what stands. -/
theorem Grows.keeps (grows : Grows names before after) : before.Keeps after := by
  induction grows with
  | refl => exact .refl before
  | directory _ _ _ free ih => exact ih.trans (keeps_put (writable_of_none free) _)
  | file _ _ _ writable _ ih => exact ih.trans (keeps_put writable _)

/-- Growing keeps trees connected. -/
theorem Grows.connected (grows : Grows names before after) (connected : before.tree.Connected) :
    after.tree.Connected := by
  induction grows with
  | refl => exact connected
  | directory _ inside passable free ih => exact ih.put passable inside (by simp [free]) _
  | file _ inside passable writable _ ih =>
    exact ih.put passable inside (ne_directory_of_writable writable) _

/-- Under any other name, nothing appears but directories, and nothing is changed. -/
theorem Grows.at?_eq_some_iff (grows : Grows names before after) {above : Location} {name : String}
    (other : name ∉ names) {entry : Entry} (solid : entry ≠ .directory) :
    after.tree.at? (above ++ [name]) = some entry ↔
      before.tree.at? (above ++ [name]) = some entry := by
  induction grows with
  | refl => rfl
  | directory _ _ _ free ih =>
    rw [at?_put (by simp)]
    split
    · next same =>
      rw [same] at ih ⊢
      simp [← ih, free, Ne.symm solid]
    · exact ih
  | file _ _ _ _ listed ih =>
    rw [at?_put (by simp), if_neg, ih]
    rintro same
    obtain ⟨-, last⟩ := List.append_inj' same rfl
    exact other (List.singleton_inj.1 last ▸ listed)

/-- No directory is locked that was not locked before. -/
theorem Grows.locked (grows : Grows names before after)
    (locked : after.tree.at? place = some .lockedDirectory) :
    before.tree.at? place = some .lockedDirectory := by
  induction grows with
  | refl => exact locked
  | directory _ _ _ _ ih | file _ _ _ _ _ ih =>
    rw [at?_put (by simp)] at locked
    split at locked
    · cases locked
    · exact ih locked

/-! ### What is made and written -/

/-- The parts of a path that can be a path hold no character that ends paths. -/
theorem nul_not_mem_of_mem_parts (plain : hasNul path = false) {part : String}
    (member : part ∈ path.parts) : '\x00' ∉ part.toList := by
  have all := List.any_eq_false.1 plain part member
  simpa using all

/-- A path on the way to one that can be a path can be one too. -/
theorem hasNul_of_onWayTo {above : Path} (onWay : above.OnWayTo path)
    (plain : hasNul path = false) : hasNul above = false := by
  rw [hasNul, List.any_eq_false] at plain ⊢
  exact fun part member => plain part (onWay.parts.subset member)

/-- The place of a path that ends with a name is in a directory, under this name. -/
theorem place_of_placeFor {name : String} (plain : hasNul path = false)
    (last : path.parts.getLast? = some name) (notUp : name ≠ "..")
    (placed : workspace.placeFor path = .ok place) :
    ∃ around, workspace.tree.at? around = some .directory ∧ Tree.Passable name ∧
      place = around ++ [name] := by
  obtain ⟨around, inside, ⟨only, -⟩ | ⟨name', last', -, short, rfl⟩⟩ :=
    placeFor_eq_ok_iff.1 placed
  · exact absurd (only name last) notUp
  · obtain rfl : name' = name := Option.some.inj (last'.symm.trans last)
    obtain ⟨-, -, directory⟩ := directoryAround_eq_ok_iff.1 inside
    exact ⟨around, directory,
      ⟨notUp, nul_not_mem_of_mem_parts plain (List.mem_of_mem_getLast? last), short⟩, rfl⟩

/-- In a connected tree, a path for whose place there is nothing yet ends with a name. -/
theorem exists_name_of_placeFor (connected : workspace.tree.Connected)
    (placed : workspace.placeFor path = .ok place) (free : workspace.tree.at? place = none) :
    ∃ name, path.parts.getLast? = some name ∧ name ≠ ".." := by
  obtain ⟨around, inside, ⟨only, located⟩ | ⟨name, last, notUp, -⟩⟩ :=
    placeFor_eq_ok_iff.1 placed
  · -- Without a name at the end, the path leads to a directory or to the one above it.
    exfalso
    obtain ⟨-, led, directory⟩ := directoryAround_eq_ok_iff.1 inside
    obtain ⟨-, led'⟩ := locate_eq_ok_iff.1 located
    cases last : path.parts.getLast? with
    | none =>
      rw [List.getLast?_eq_none_iff.1 last] at led led'
      obtain rfl : around = place := Except.ok.inj (led.symm.trans led')
      rw [directory] at free
      cases free
    | some name =>
      rw [← List.dropLast_append_getLast? name (Option.mem_def.2 last), Tree.walk_append, led,
        only name last] at led'
      obtain ⟨-, ⟨-, rfl⟩ | ⟨notUp, -⟩⟩ := Tree.walk_singleton_eq_ok_iff.1 led'
      · cases around using List.reverseRecOn with
        | nil => cases free
        | append_singleton above name =>
          have around := (connected above name (Option.isSome_of_eq_some directory)).2
          rw [List.dropLast_concat, around] at free
          cases free
      · exact notUp rfl
  · exact ⟨name, last, notUp⟩

/-- Making a directory unless it is there makes trees grow. -/
theorem grows_ensureDirectory (connected : workspace.tree.Connected)
    (plain : hasNul path = false) : Grows names workspace (workspace.ensureDirectory path).1 := by
  unfold ensureDirectory
  split
  · next made =>
    obtain ⟨place, placed, free, rfl⟩ := makeDirectory_eq_ok_iff.1 made
    obtain ⟨name, last, notUp⟩ := exists_name_of_placeFor connected placed free
    obtain ⟨around, inside, passable, rfl⟩ := place_of_placeFor plain last notUp placed
    exact .directory .refl inside passable free
  · split
    · exact .refl
    · exact .refl

/-- So does making the directories of a chain. -/
theorem grows_go {chain : List Path} (connected : workspace.tree.Connected)
    (plain : ∀ above ∈ chain, hasNul above = false) :
    Grows names workspace (makeDirectories.go workspace chain).1 := by
  induction chain generalizing workspace with
  | nil => exact .refl
  | cons above rest ih =>
    obtain ⟨here, later⟩ := List.forall_mem_cons.1 plain
    have step : Grows names workspace (workspace.ensureDirectory above).1 :=
      grows_ensureDirectory connected here
    unfold makeDirectories.go
    split
    · next ensured =>
      rw [ensured] at step
      exact step.trans (ih (step.connected connected) later)
    · next ensured =>
      rw [ensured] at step
      exact step

/-- So does making a directory and those above it. -/
theorem grows_makeDirectories (connected : workspace.tree.Connected) :
    Grows names workspace (workspace.makeDirectories path).1 := by
  unfold makeDirectories
  split
  · exact .refl
  · next plain =>
    refine grows_go connected fun above member => ?_
    exact hasNul_of_onWayTo (onWayTo_of_mem_missingChain member) (by simpa using plain)

/-- So does writing a text into a file of one of the names. -/
theorem grows_writeText {halves : Text.Halves} {text name : String}
    (last : path.parts.getLast? = some name) (notUp : name ≠ "..") (listed : name ∈ names)
    (done : before.writeText halves path text = (after, .ok ())) : Grows names before after := by
  obtain ⟨plain, -, done⟩ := writeText_eq_ok_iff.1 done
  obtain ⟨place, placed, writable, rfl⟩ := writeFile_eq_ok_iff.1 done
  obtain ⟨around, inside, passable, rfl⟩ := place_of_placeFor plain last notUp placed
  exact .file .refl inside passable writable listed

/-! ### Doing it again -/

/-- What is kept has the places that it had. -/
theorem Keeps.placeFor (keeps : before.Keeps after) (placed : before.placeFor path = .ok place) :
    after.placeFor path = .ok place := by
  obtain ⟨around, inside, way⟩ := placeFor_eq_ok_iff.1 placed
  obtain ⟨fits, led, directory⟩ := directoryAround_eq_ok_iff.1 inside
  refine placeFor_eq_ok_iff.2 ⟨around, directoryAround_eq_ok_iff.2
    ⟨fits, keeps.start ▸ keeps.walk led, keeps.directory _ directory⟩, ?_⟩
  exact way.imp_left fun ⟨only, located⟩ => ⟨only, keeps.locate located⟩

/-- A text that stands where it is to be written is written without any change. -/
theorem writeText_of_stands {halves : Text.Halves} {text : String} (plain : hasNul path = false)
    (encodable : halves.Encodable text) (placed : workspace.placeFor path = .ok place)
    (stands : workspace.tree.at? place = some (.file (Text.Utf8.encode text))) :
    workspace.writeText halves path text = (workspace, .ok ()) := by
  have writable : workspace.tree.Writable place := fun entry held =>
    ⟨_, Option.some.inj (held.symm.trans stands)⟩
  have held := Tree.at?_of_ne_nil (ne_nil_of_writable writable) ▸ stands
  rw [writeText_of_writable plain encodable placed writable, put, Roster.put_of_get? held]

/-- Of a chain whose directories were made, the last one is there. -/
theorem isDirectory_of_go {chain : List Path} {path : Path} (plain : hasNul path = false)
    (made : makeDirectories.go before (chain ++ [path]) = (after, .ok ())) :
    after.isDirectory path = .ok true := by
  induction chain generalizing before with
  | nil =>
    rw [List.nil_append] at made
    simp only [makeDirectories.go, ensureDirectory] at made
    split at made
    · next ensured =>
      cases made
      split at ensured
      · next done =>
        cases ensured
        obtain ⟨place, placed, free, rfl⟩ := makeDirectory_eq_ok_iff.1 done
        have vacant := writable_of_none free
        have stands := at?_put_self before (ne_nil_of_writable vacant) .directory
        exact isDirectory_iff.2 ⟨plain, place,
          (keeps_put vacant _).locate_of_placeFor placed (Option.isSome_of_eq_some stands),
          Tree.isDirectory_of_at? stands⟩
      · split at ensured
        · next there =>
          cases ensured
          exact there
        · cases ensured
    · cases made
  | cons above rest ih =>
    rw [List.cons_append, makeDirectories.go] at made
    split at made
    · exact ih made
    · cases made

/-- A directory that was made is there. -/
theorem isDirectory_of_makeDirectories (made : before.makeDirectories path = (after, .ok ())) :
    after.isDirectory path = .ok true := by
  unfold makeDirectories at made
  split at made
  · cases made
  · next plain =>
    obtain ⟨chain, ends⟩ :
        ∃ chain, before.missingChain path path.parts.length = chain ++ [path] := by
      cases path.parts.length with
      | zero => exact ⟨[], rfl⟩
      | succ fuel =>
        unfold missingChain
        split
        · split
          · exact ⟨[], rfl⟩
          · exact ⟨_, rfl⟩
        · exact ⟨[], rfl⟩
    rw [ends] at made
    exact isDirectory_of_go (by simpa using plain) made

end Workspace

end EventAtlas
