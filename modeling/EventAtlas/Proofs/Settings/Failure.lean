import EventAtlas.Proofs.CommandLine
import EventAtlas.Proofs.Documentation.Spelling
import EventAtlas.Proofs.Tree.Lookup

/-!
# How reading a configuration fails

A wrong value or a missing file is what a configuration that cannot be used is reported by. That is
how most failures of finding and reading it are classed, whatever the file holds and however its
text is loaded. The others come from paths that the system refuses, from a file that may not be
read, from contents that are refused for something other than their form, and from settings that
should be paths and are neither texts nor empty.
-/

namespace EventAtlas

/-- The failure is classed as a wrong value or a missing file. -/
def Failure.Announced (failure : Failure) : Prop :=
  failure.kind.Is .value ∨ failure.kind.Is .missingFile

instance (failure : Failure) : Decidable failure.Announced :=
  inferInstanceAs (Decidable (_ ∨ _))

/-- The classes of what is announced. -/
theorem Failure.announced_iff {failure : Failure} :
    failure.Announced ↔ failure.kind ∈ [.value, .emptyIndex, .unicode, .missingFile] := by
  unfold Failure.Announced
  cases failure.kind <;> decide

namespace Settings

variable {loader : Loader} {workspace : Workspace} {start root file : Path} {name : String}
  {failure : Failure} {cause : FileCause} {entries : List (Yaml.Value × Yaml.Value)}

/-! ### Finding the file -/

/-- A search goes on after a directory: no file of the name is there, or the directory is one that
is passed over. -/
def GoesOn (workspace : Workspace) (name : String) (directory : Path) : Prop :=
  ∃ there, workspace.isFile (directory.join (.ofString name)) = .ok there ∧
    (there && !isPassedOver directory) = false

/-- A search fails at the first path that is refused, if it comes there. -/
inductive Stops (workspace : Workspace) (name : String) : List Path → FileCause → Path → Prop
  | here {directory : Path} {rest : List Path} {cause : FileCause}
      (refuses : workspace.Refuses (directory.join (.ofString name)) cause) :
      Stops workspace name (directory :: rest) cause (directory.join (.ofString name))
  | later {directory path : Path} {rest : List Path} {cause : FileCause}
      (goesOn : GoesOn workspace name directory) (stops : Stops workspace name rest cause path) :
      Stops workspace name (directory :: rest) cause path

/-- The cause never means that nothing is there. -/
theorem Stops.not_isAbsence {directories : List Path} {path : Path}
    (stops : Stops workspace name directories cause path) : cause.isAbsence = false := by
  induction stops with
  | here refuses => exact refuses.not_isAbsence
  | later _ _ ih => exact ih

/-- That is the only way for a search to fail. -/
theorem search_eq_error_iff {directories : List Path} :
    search workspace name directories = .error failure ↔
      ∃ cause path, Stops workspace name directories cause path ∧
        failure = .file cause path.toString := by
  constructor
  · intro failed
    induction directories with
    | nil => cases failed
    | cons directory rest ih =>
      rcases bind_eq_error_iff.1 failed with unread | ⟨there, looked, failed⟩
      · obtain ⟨cause, refuses, rfl⟩ := Workspace.isFile_eq_error_iff.1 unread
        exact ⟨cause, _, .here refuses, rfl⟩
      · split at failed
        · cases failed
        · next goesOn =>
          obtain ⟨cause, path, stops, rfl⟩ := ih failed
          exact ⟨cause, path, .later ⟨there, looked, Bool.eq_false_iff.2 goesOn⟩ stops, rfl⟩
  · rintro ⟨cause, path, stops, rfl⟩
    induction stops with
    | here refuses =>
      exact bind_eq_error_iff.2 (.inl (Workspace.isFile_eq_error_iff.2 ⟨_, refuses, rfl⟩))
    | later goesOn _ ih =>
      obtain ⟨there, looked, goesOn⟩ := goesOn
      refine bind_eq_error_iff.2 (.inr ⟨there, looked, ?_⟩)
      rw [if_neg (Bool.eq_false_iff.1 goesOn)]
      exact ih

/-- The first directory of a search: what its start means, or the directory around it if a file
stands there. -/
def StartsAt (workspace : Workspace) (start first : Path) : Prop :=
  Workspace.hasNul start = false ∧ ∃ there, workspace.isFile (workspace.resolve start) = .ok there ∧
    first = if there then (workspace.resolve start).parent else workspace.resolve start

/-- How no directory is found. -/
inductive Lost (workspace : Workspace) (start : Path) (name : String) : Failure → Prop
  /-- The start can be no path. -/
  | nul (nul : Workspace.hasNul start = true) : Lost workspace start name .nulInPath
  /-- The start cannot be looked up. -/
  | start {cause : FileCause} (plain : Workspace.hasNul start = false)
      (refuses : workspace.Refuses (workspace.resolve start) cause) :
      Lost workspace start name (.file cause (workspace.resolve start).toString)
  /-- A file on the way up cannot be looked up. -/
  | search {first path : Path} {cause : FileCause} (starts : StartsAt workspace start first)
      (stops : Stops workspace name (upwards first) cause path) :
      Lost workspace start name (.file cause path.toString)
  /-- No file of the name is there. -/
  | nowhere {first : Path} (starts : StartsAt workspace start first)
      (none : search workspace name (upwards first) = .ok none) :
      Lost workspace start name (.configNotFound name (workspace.resolve start))

theorem findRoot_eq_error_iff :
    findRoot workspace start name = .error failure ↔ Lost workspace start name failure := by
  cases nul : Workspace.hasNul start with
  | true =>
    have failed : findRoot workspace start name = .error .nulInPath := by
      rw [findRoot, resolve, if_pos nul]
      rfl
    rw [failed, Except.error.injEq]
    constructor
    · rintro rfl
      exact .nul nul
    · rintro (_ | ⟨plain, -⟩ | ⟨⟨plain, -⟩, -⟩ | ⟨⟨plain, -⟩, -⟩)
      · rfl
      all_goals
        rw [nul] at plain
        cases plain
  | false =>
    have ready : resolve workspace start = .ok (workspace.resolve start) := by
      rw [resolve, nul]
      rfl
    rw [findRoot, ready]
    change (workspace.isFile (workspace.resolve start) >>= _) = _ ↔ _
    rw [bind_eq_error_iff, Workspace.isFile_eq_error_iff]
    constructor
    · rintro (⟨cause, refuses, rfl⟩ | ⟨there, looked, failed⟩)
      · exact .start nul refuses
      · have starts : StartsAt workspace start _ := ⟨nul, there, looked, rfl⟩
        rcases bind_eq_error_iff.1 failed with stopped | ⟨found, searched, failed⟩
        · obtain ⟨cause, path, stops, rfl⟩ := search_eq_error_iff.1 stopped
          exact .search starts stops
        · cases found with
          | some root => cases failed
          | none =>
            cases failed
            exact .nowhere starts searched
    · rintro (nul' | ⟨-, refuses⟩ | ⟨⟨-, there, looked, rfl⟩, stops⟩ |
        ⟨⟨-, there, looked, rfl⟩, none⟩)
      · rw [nul] at nul'
        cases nul'
      · exact .inl ⟨_, refuses, rfl⟩
      · have stopped := search_eq_error_iff.2 ⟨_, _, stops, rfl⟩
        exact .inr ⟨there, looked, bind_eq_error_iff.2 (.inl stopped)⟩
      · exact .inr ⟨there, looked, bind_eq_error_iff.2 (.inr ⟨_, none, rfl⟩)⟩

/-! ### Reading it -/

/-- How a content gives no table. -/
inductive Unread (loader : Loader) (file : Path) (content : Text.Bytes) : Failure → Prop
  /-- The content is no text. -/
  | undecoded (none : Text.Utf8.decode? content = none) :
      Unread loader file content (failureOf file (.malformed .badBytes))
  /-- The text cannot be loaded. -/
  | refused {text : List Char} {refusal : Yaml.Refusal}
      (decoded : Text.Utf8.decode? content = some text)
      (refused : loader (Text.unifyLineEnds text) = .error refusal) :
      Unread loader file content (failureOf file refusal)
  /-- It holds something else. -/
  | other {text : List Char} {value : Yaml.Value}
      (decoded : Text.Utf8.decode? content = some text)
      (loaded : loader (Text.unifyLineEnds text) = .ok value)
      (other : ∀ entries, value ≠ .table entries) :
      Unread loader file content (.configNotMapping file)

theorem readTable_eq_error_iff {content : Text.Bytes} :
    readTable loader file content = .error failure ↔ Unread loader file content failure := by
  cases decoded : Text.Utf8.decode? content with
  | none =>
    have failed : readTable loader file content = .error (failureOf file (.malformed .badBytes)) := by
      unfold readTable
      rw [decoded]
      rfl
    rw [failed, Except.error.injEq]
    constructor
    · rintro rfl
      exact .undecoded decoded
    · rintro (_ | ⟨decoded', -⟩ | ⟨decoded', -, -⟩)
      · rfl
      all_goals
        rw [decoded] at decoded'
        cases decoded'
  | some text =>
    constructor
    · intro failed
      unfold readTable at failed
      rw [decoded] at failed
      change ((loader (Text.unifyLineEnds text)).mapError (failureOf file) >>= _) = _ at failed
      rcases bind_eq_error_iff.1 failed with failed | ⟨value, loaded, failed⟩
      · obtain ⟨refusal, refused, rfl⟩ := exists_of_mapError_eq_error failed
        exact .refused decoded refused
      · have loaded := eq_ok_of_mapError_eq_ok loaded
        split at failed
        · cases failed
        · next other =>
          cases failed
          exact .other decoded loaded other
    · intro unread
      unfold readTable
      cases unread with
      | undecoded none =>
        rw [decoded] at none
        cases none
      | refused decoded' refused =>
        rw [decoded']
        change ((loader _).mapError (failureOf file) >>= _) = _
        rw [refused]
        rfl
      | other decoded' loaded other =>
        rw [decoded']
        change ((loader _).mapError (failureOf file) >>= _) = _
        rw [loaded]
        refine bind_eq_error_iff.2 (.inr ⟨_, rfl, ?_⟩)
        split
        · next entries => exact absurd rfl (other entries)
        · rfl

/-! ### Its paths -/

/-- A value can be no path: it is something other than a text. -/
def NoPath (value : Yaml.Value) : Prop :=
  value.isSomething = true ∧ ∀ text, value ≠ .text text

/-- A setting that is to be a path fails if it is no text, or if its text can be no path. -/
theorem pathSetting_eq_error_iff {setting : String} {value : Yaml.Value} :
    pathSetting workspace root setting value = .error failure ↔
      (∃ text, value = .text text ∧ Workspace.hasNul (root.join (.ofString text)) = true ∧
        failure = .nulInPath) ∨
      (∀ text, value ≠ .text text) ∧ failure = .settingNotText setting := by
  unfold pathSetting resolve
  split
  · next text =>
    split
    · next nul =>
      rw [Except.error.injEq]
      constructor
      · rintro rfl
        exact .inl ⟨text, rfl, nul, rfl⟩
      · rintro (⟨_, -, -, rfl⟩ | ⟨other, -⟩)
        · rfl
        · exact absurd rfl (other text)
    · next plain =>
      constructor
      · intro failed
        cases failed
      · rintro (⟨_, ⟨⟩, nul, -⟩ | ⟨other, -⟩)
        · exact absurd nul plain
        · exact absurd rfl (other text)
  · next other =>
    rw [Except.error.injEq]
    constructor
    · rintro rfl
      exact .inr ⟨other, rfl⟩
    · rintro (⟨text, rfl, -⟩ | ⟨-, rfl⟩)
      · exact absurd rfl (other text)
      · rfl

/-- Otherwise the setting gives what its text means below the root. -/
theorem pathSetting_eq_ok_iff {setting : String} {value : Yaml.Value} {path : Path} :
    pathSetting workspace root setting value = .ok path ↔ ∃ text, value = .text text ∧
      Workspace.hasNul (root.join (.ofString text)) = false ∧
      path = workspace.resolve (root.join (.ofString text)) := by
  unfold pathSetting resolve
  split
  · next text =>
    split
    · next nul => simp [nul]
    · next plain =>
      rw [Except.ok.injEq]
      constructor
      · rintro rfl
        exact ⟨text, rfl, Bool.eq_false_iff.2 plain, rfl⟩
      · rintro ⟨_, ⟨⟩, -, rfl⟩
        rfl
  · next other =>
    constructor
    · intro given
      cases given
    · rintro ⟨text, rfl, -⟩
      exact absurd rfl (other text)

/-- A setting that is something is in the table. -/
theorem exists_given {setting : String}
    (something : ((Yaml.Value.lookup entries setting).getD .null).isSomething = true) :
    ∃ value, Yaml.Value.lookup entries setting = some value ∧ value.isSomething = true := by
  cases given : Yaml.Value.lookup entries setting with
  | none =>
    rw [given] at something
    cases something
  | some value =>
    rw [given] at something
    exact ⟨value, rfl, something⟩

/-- A text is something unless it is empty. -/
theorem isSomething_text_iff {text : String} :
    (Yaml.Value.text text).isSomething = true ↔ text ≠ "" := by
  simp [Yaml.Value.isSomething]

/-- How the module directory cannot be told. -/
inductive ModuleFails (workspace : Workspace) (root : Path)
    (entries : List (Yaml.Value × Yaml.Value)) : Failure → Prop
  /-- It is not named. -/
  | undefined
      (nothing : ((Yaml.Value.lookup entries "module_dir").getD .null).isSomething = false) :
      ModuleFails workspace root entries .moduleUndefined
  /-- What it is named by is no text. -/
  | notText {value : Yaml.Value} (given : Yaml.Value.lookup entries "module_dir" = some value)
      (noPath : NoPath value) : ModuleFails workspace root entries (.settingNotText "module_dir")
  /-- The text can be no path. -/
  | nul {text : String} (given : Yaml.Value.lookup entries "module_dir" = some (.text text))
      (some : text ≠ "") (nul : Workspace.hasNul (root.join (.ofString text)) = true) :
      ModuleFails workspace root entries .nulInPath
  /-- The path cannot be looked up. -/
  | refused {text : String} {cause : FileCause}
      (given : Yaml.Value.lookup entries "module_dir" = some (.text text))
      (some : text ≠ "") (plain : Workspace.hasNul (root.join (.ofString text)) = false)
      (refuses : workspace.Refuses (workspace.resolve (root.join (.ofString text))) cause) :
      ModuleFails workspace root entries
        (.file cause (workspace.resolve (root.join (.ofString text))).toString)
  /-- No directory is there. -/
  | missing {text : String} (given : Yaml.Value.lookup entries "module_dir" = some (.text text))
      (some : text ≠ "") (plain : Workspace.hasNul (root.join (.ofString text)) = false)
      (none : workspace.isDirectory (workspace.resolve (root.join (.ofString text))) = .ok false) :
      ModuleFails workspace root entries
        (.moduleMissing (workspace.resolve (root.join (.ofString text))))

/-- When the setting is something, the directory is looked for where it leads. -/
theorem moduleDirIn_of_given {value : Yaml.Value}
    (given : Yaml.Value.lookup entries "module_dir" = some value)
    (something : value.isSomething = true) : moduleDirIn workspace root entries =
      pathSetting workspace root "module_dir" value >>= fun path =>
        workspace.isDirectory path >>= fun there =>
          if there then .ok path else .error (.moduleMissing path) := by
  unfold moduleDirIn
  simp only [given, Option.getD_some, something]
  rfl

theorem moduleDirIn_eq_error_iff :
    moduleDirIn workspace root entries = .error failure ↔
      ModuleFails workspace root entries failure := by
  have led {text : String} (given : Yaml.Value.lookup entries "module_dir" = some (.text text))
      (some : text ≠ "") (plain : Workspace.hasNul (root.join (.ofString text)) = false) :
      moduleDirIn workspace root entries =
        workspace.isDirectory (workspace.resolve (root.join (.ofString text))) >>= fun there =>
          if there then .ok (workspace.resolve (root.join (.ofString text)))
          else .error (.moduleMissing (workspace.resolve (root.join (.ofString text)))) := by
    rw [moduleDirIn_of_given given (isSomething_text_iff.2 some),
      pathSetting_eq_ok_iff.2 ⟨text, rfl, plain, rfl⟩]
    rfl
  constructor
  · intro failed
    cases something : ((Yaml.Value.lookup entries "module_dir").getD .null).isSomething with
    | false =>
      unfold moduleDirIn at failed
      simp only [something] at failed
      cases failed
      exact .undefined something
    | true =>
      obtain ⟨value, given, something⟩ := exists_given something
      rw [moduleDirIn_of_given given something] at failed
      rcases bind_eq_error_iff.1 failed with noPath | ⟨path, leads, failed⟩
      · rcases pathSetting_eq_error_iff.1 noPath with ⟨text, rfl, nul, rfl⟩ | ⟨other, rfl⟩
        · exact .nul given (isSomething_text_iff.1 something) nul
        · exact .notText given ⟨something, other⟩
      · obtain ⟨text, rfl, plain, rfl⟩ := pathSetting_eq_ok_iff.1 leads
        have some := isSomething_text_iff.1 something
        rcases bind_eq_error_iff.1 failed with unread | ⟨there, looked, failed⟩
        · obtain ⟨cause, refuses, rfl⟩ := Workspace.isDirectory_eq_error_iff.1 unread
          exact .refused given some plain refuses
        · cases there with
          | true => cases failed
          | false =>
            cases failed
            exact .missing given some plain looked
  · intro fails
    cases fails with
    | undefined nothing =>
      unfold moduleDirIn
      simp only [nothing]
      rfl
    | notText given noPath =>
      rw [moduleDirIn_of_given given noPath.1, bind_eq_error_iff]
      exact .inl (pathSetting_eq_error_iff.2 (.inr ⟨noPath.2, rfl⟩))
    | nul given some nul =>
      rw [moduleDirIn_of_given given (isSomething_text_iff.2 some), bind_eq_error_iff]
      exact .inl (pathSetting_eq_error_iff.2 (.inl ⟨_, rfl, nul, rfl⟩))
    | refused given some plain refuses =>
      rw [led given some plain, bind_eq_error_iff]
      exact .inl (Workspace.isDirectory_eq_error_iff.2 ⟨_, refuses, rfl⟩)
    | missing given some plain none =>
      rw [led given some plain, none]
      rfl

/-- What the output directory is named by: a setting that is nothing leaves it to the default. -/
def outputValue (entries : List (Yaml.Value × Yaml.Value)) : Yaml.Value :=
  let value := (Yaml.Value.lookup entries "output_dir").getD .null
  if value.isSomething then value else .text defaultOutput

/-- It is no text exactly if the setting can be no path. -/
theorem outputValue_ne_text_iff :
    (∀ text, outputValue entries ≠ .text text) ↔
      ∃ value, Yaml.Value.lookup entries "output_dir" = some value ∧ NoPath value := by
  unfold outputValue
  dsimp only
  split
  · next something =>
    obtain ⟨value, given, something⟩ := exists_given something
    simp [given, NoPath, something]
  · next nothing =>
    constructor
    · intro other
      exact absurd rfl (other defaultOutput)
    · rintro ⟨value, given, something, -⟩
      rw [given] at nothing
      exact absurd something nothing

/-- How the output directory cannot be told. -/
inductive OutputFails (root : Path) (entries : List (Yaml.Value × Yaml.Value)) : Failure → Prop
  /-- What it is named by can be no path. -/
  | nul {text : String} (named : outputValue entries = .text text)
      (nul : Workspace.hasNul (root.join (.ofString text)) = true) :
      OutputFails root entries .nulInPath
  /-- It is no text. -/
  | notText {value : Yaml.Value} (given : Yaml.Value.lookup entries "output_dir" = some value)
      (noPath : NoPath value) : OutputFails root entries (.settingNotText "output_dir")

theorem outputDirIn_eq_error_iff :
    outputDirIn workspace root entries = .error failure ↔ OutputFails root entries failure := by
  change pathSetting workspace root "output_dir" (outputValue entries) = _ ↔ _
  rw [pathSetting_eq_error_iff, outputValue_ne_text_iff]
  constructor
  · rintro (⟨text, named, nul, rfl⟩ | ⟨⟨value, given, noPath⟩, rfl⟩)
    · exact .nul named nul
    · exact .notText given noPath
  · rintro (⟨named, nul⟩ | ⟨given, noPath⟩)
    · exact .inl ⟨_, named, nul, rfl⟩
    · exact .inr ⟨⟨_, given, noPath⟩, rfl⟩

/-! ### All of it -/

/-- A path leads to a file that may not be opened. -/
def Locked (workspace : Workspace) (path : Path) : Prop :=
  ∃ place, workspace.locate path = .ok place ∧ workspace.tree.at? place = some .lockedFile

/-- What stops the reading of a file that is there is that it may not be opened. -/
theorem read_eq_error_iff_of_isFile {path : Path} (there : workspace.isFile path = .ok true) :
    workspace.read path = .error failure ↔
      Locked workspace path ∧ failure = .file .notPermitted path.toString := by
  obtain ⟨plain, place, entry, located, stands, file⟩ := Workspace.isFile_iff.1 there
  have locked_iff : Locked workspace path ↔ entry = .lockedFile := by
    constructor
    · rintro ⟨other, located', locked⟩
      obtain rfl := Except.ok.inj (located.symm.trans located')
      exact Option.some.inj (stands.symm.trans locked)
    · rintro rfl
      exact ⟨place, located, stands⟩
  rw [locked_iff, Workspace.read, if_neg (by simp [plain]), located]
  simp only [bind, Except.bind, Tree.read, stands]
  cases entry with
  | file content => simp
  | lockedFile => simp [eq_comm]
  | directory => cases file
  | lockedDirectory => cases file

/-- Where a search ends, a file of the name is there. -/
theorem isFile_of_findRoot (found : findRoot workspace start name = .ok root) :
    workspace.isFile (root.join (.ofString name)) = .ok true := by
  have inside {directories : List Path}
      (searched : search workspace name directories = .ok (some root)) :
      workspace.isFile (root.join (.ofString name)) = .ok true := by
    induction directories with
    | nil => cases searched
    | cons directory rest ih =>
      obtain ⟨there, looked, searched⟩ := bind_eq_ok_iff.1 searched
      split at searched
      · next kept =>
        cases searched
        rw [looked, (Bool.and_eq_true_iff.1 kept).1]
      · exact ih searched
  obtain ⟨resolved, -, found⟩ := bind_eq_ok_iff.1 found
  obtain ⟨there, -, found⟩ := bind_eq_ok_iff.1 found
  obtain ⟨held, searched, found⟩ := bind_eq_ok_iff.1 found
  cases held with
  | none => cases found
  | some directory =>
    cases found
    exact inside searched

/-- A search ends in a directory where the file of the name can be read. -/
structure Holds (workspace : Workspace) (start : Path) (name : String) (root : Path)
    (content : Text.Bytes) : Prop where
  found : findRoot workspace start name = .ok root
  read : workspace.read (root.join (.ofString name)) = .ok content

/-- The file there is loaded as a table. -/
def Loads (loader : Loader) (workspace : Workspace) (start : Path) (name : String) (root : Path)
    (entries : List (Yaml.Value × Yaml.Value)) : Prop :=
  ∃ content, Holds workspace start name root content ∧
    readTable loader (root.join (.ofString name)) content = .ok entries

/-- Reading a configuration fails in the first of its stages that fails. -/
inductive Fails (loader : Loader) (workspace : Workspace) (start : Path) (name : String) :
    Failure → Prop
  | lost {failure : Failure} (lost : Lost workspace start name failure) :
      Fails loader workspace start name failure
  | locked {root : Path} (found : findRoot workspace start name = .ok root)
      (locked : Locked workspace (root.join (.ofString name))) :
      Fails loader workspace start name
        (.file .notPermitted (root.join (.ofString name)).toString)
  | unread {root : Path} {content : Text.Bytes} {failure : Failure}
      (holds : Holds workspace start name root content)
      (unread : Unread loader (root.join (.ofString name)) content failure) :
      Fails loader workspace start name failure
  | module {root : Path} {entries : List (Yaml.Value × Yaml.Value)} {failure : Failure}
      (loads : Loads loader workspace start name root entries)
      (fails : ModuleFails workspace root entries failure) :
      Fails loader workspace start name failure
  | output {root moduleDir : Path} {entries : List (Yaml.Value × Yaml.Value)} {failure : Failure}
      (loads : Loads loader workspace start name root entries)
      (there : moduleDirIn workspace root entries = .ok moduleDir)
      (fails : OutputFails root entries failure) : Fails loader workspace start name failure

theorem find_eq_error_iff :
    find loader workspace start name = .error failure ↔
      Fails loader workspace start name failure := by
  constructor
  · intro failed
    rcases bind_eq_error_iff.1 failed with lost | ⟨root, found, failed⟩
    · exact .lost (findRoot_eq_error_iff.1 lost)
    rcases bind_eq_error_iff.1 failed with stopped | ⟨content, read, failed⟩
    · obtain ⟨locked, rfl⟩ := (read_eq_error_iff_of_isFile (isFile_of_findRoot found)).1 stopped
      exact .locked found locked
    rcases bind_eq_error_iff.1 failed with unread | ⟨entries, table, failed⟩
    · exact .unread ⟨found, read⟩ (readTable_eq_error_iff.1 unread)
    rcases bind_eq_error_iff.1 failed with fails | ⟨moduleDir, there, failed⟩
    · exact .module ⟨content, ⟨found, read⟩, table⟩ (moduleDirIn_eq_error_iff.1 fails)
    rcases bind_eq_error_iff.1 failed with fails | ⟨_, -, failed⟩
    · exact .output ⟨content, ⟨found, read⟩, table⟩ there (outputDirIn_eq_error_iff.1 fails)
    · cases failed
  · have loaded {root : Path} {entries : List (Yaml.Value × Yaml.Value)}
        (loads : Loads loader workspace start name root entries)
        (fails : (moduleDirIn workspace root entries >>= fun moduleDir =>
          outputDirIn workspace root entries >>= fun outputDir =>
            .ok (Settings.mk root (root.join (.ofString name)) moduleDir outputDir entries)) =
          .error failure) : find loader workspace start name = .error failure := by
      obtain ⟨content, ⟨found, read⟩, table⟩ := loads
      refine bind_eq_error_iff.2 (.inr ⟨_, found, bind_eq_error_iff.2 (.inr ⟨_, read, ?_⟩)⟩)
      exact bind_eq_error_iff.2 (.inr ⟨_, table, fails⟩)
    intro fails
    cases fails with
    | lost lost => exact bind_eq_error_iff.2 (.inl (findRoot_eq_error_iff.2 lost))
    | locked found locked =>
      have stopped := (read_eq_error_iff_of_isFile (isFile_of_findRoot found)).2 ⟨locked, rfl⟩
      exact bind_eq_error_iff.2 (.inr ⟨_, found, bind_eq_error_iff.2 (.inl stopped)⟩)
    | unread holds unread =>
      refine bind_eq_error_iff.2 (.inr ⟨_, holds.found, ?_⟩)
      refine bind_eq_error_iff.2 (.inr ⟨_, holds.read, ?_⟩)
      exact bind_eq_error_iff.2 (.inl (readTable_eq_error_iff.2 unread))
    | module loads fails =>
      exact loaded loads (bind_eq_error_iff.2 (.inl (moduleDirIn_eq_error_iff.2 fails)))
    | output loads there fails =>
      refine loaded loads (bind_eq_error_iff.2 (.inr ⟨_, there, ?_⟩))
      exact bind_eq_error_iff.2 (.inl (outputDirIn_eq_error_iff.2 fails))

/-- The class of the failure for a content that cannot be loaded. -/
def refusalKind : Yaml.Refusal → Failure.Kind
  | .malformed _ => .value
  | .notBoolean _ => .key
  | .notTimestamp _ => .attribute
  | .emptyNumber => .index
  | .timestampOfMapping => .type
  | .hugeEscape | .hugePlace => .overflow
  | .tooDeep => .recursion

theorem kind_failureOf (file : Path) (refusal : Yaml.Refusal) :
    (failureOf file refusal).kind = refusalKind refusal := by
  cases refusal <;> rfl

/-- What the file system refuses is announced only if nothing is there. -/
theorem not_announced_of_present {path : String} (present : cause.isAbsence = false) :
    ¬ (Failure.file cause path).Announced := by
  rw [Failure.announced_iff]
  cases cause with
  | notFound => cases present
  | _ => simp [Failure.kind, Failure.kindOf]

/-- How reading a configuration fails in a way that is not announced, with the class of the
failure. -/
inductive Escapes (loader : Loader) (workspace : Workspace) (start : Path) (name : String) :
    Failure.Kind → Prop
  /-- The path of the place where the search starts is refused. -/
  | start {cause : FileCause} (plain : Workspace.hasNul start = false)
      (refuses : workspace.Refuses (workspace.resolve start) cause) :
      Escapes loader workspace start name (Failure.kindOf cause)
  /-- So is that of the file in a directory to which the search comes. -/
  | search {first path : Path} {cause : FileCause} (starts : StartsAt workspace start first)
      (stops : Stops workspace name (upwards first) cause path) :
      Escapes loader workspace start name (Failure.kindOf cause)
  /-- The file may not be opened. -/
  | locked {root : Path} (found : findRoot workspace start name = .ok root)
      (locked : Locked workspace (root.join (.ofString name))) :
      Escapes loader workspace start name .notPermitted
  /-- Its text is refused for something other than its form. -/
  | content {root : Path} {content : Text.Bytes} {text : List Char} {refusal : Yaml.Refusal}
      (holds : Holds workspace start name root content)
      (decoded : Text.Utf8.decode? content = some text)
      (refused : loader (Text.unifyLineEnds text) = .error refusal)
      (formed : ∀ fault, refusal ≠ .malformed fault) :
      Escapes loader workspace start name (refusalKind refusal)
  /-- The module directory is named by something that can be no path. -/
  | moduleNotText {root : Path} {entries : List (Yaml.Value × Yaml.Value)} {value : Yaml.Value}
      (loads : Loads loader workspace start name root entries)
      (given : Yaml.Value.lookup entries "module_dir" = some value) (noPath : NoPath value) :
      Escapes loader workspace start name .type
  /-- Its path is refused. -/
  | moduleRefused {root : Path} {entries : List (Yaml.Value × Yaml.Value)} {text : String}
      {cause : FileCause} (loads : Loads loader workspace start name root entries)
      (given : Yaml.Value.lookup entries "module_dir" = some (.text text)) (some : text ≠ "")
      (plain : Workspace.hasNul (root.join (.ofString text)) = false)
      (refuses : workspace.Refuses (workspace.resolve (root.join (.ofString text))) cause) :
      Escapes loader workspace start name (Failure.kindOf cause)
  /-- The module directory is there, and the output directory is named by something that can be no
  path. -/
  | outputNotText {root moduleDir : Path} {entries : List (Yaml.Value × Yaml.Value)}
      {value : Yaml.Value} (loads : Loads loader workspace start name root entries)
      (there : moduleDirIn workspace root entries = .ok moduleDir)
      (given : Yaml.Value.lookup entries "output_dir" = some value) (noPath : NoPath value) :
      Escapes loader workspace start name .type

/-- When no directory is found, only a path that is refused is not announced. -/
theorem Lost.escapes (lost : Lost workspace start name failure) (other : ¬ failure.Announced) :
    Escapes loader workspace start name failure.kind := by
  rw [Failure.announced_iff] at other
  cases lost with
  | nul => simp [Failure.kind] at other
  | start plain refuses => exact .start plain refuses
  | search starts stops => exact .search starts stops
  | nowhere => simp [Failure.kind] at other

/-- When the file gives no table, only what is refused for something other than its form is not
announced. -/
theorem Unread.escapes {content : Text.Bytes} (holds : Holds workspace start name root content)
    (unread : Unread loader (root.join (.ofString name)) content failure)
    (other : ¬ failure.Announced) : Escapes loader workspace start name failure.kind := by
  rw [Failure.announced_iff] at other
  cases unread with
  | undecoded => simp [Failure.kind, failureOf] at other
  | refused decoded refused =>
    rw [kind_failureOf] at other ⊢
    refine .content holds decoded refused ?_
    rintro fault rfl
    simp [refusalKind] at other
  | other => simp [Failure.kind] at other

/-- When the module directory cannot be told, only something that is no path or a path that is
refused is not announced. -/
theorem ModuleFails.escapes (loads : Loads loader workspace start name root entries)
    (fails : ModuleFails workspace root entries failure) (other : ¬ failure.Announced) :
    Escapes loader workspace start name failure.kind := by
  rw [Failure.announced_iff] at other
  cases fails with
  | undefined => simp [Failure.kind] at other
  | notText given noPath => exact .moduleNotText loads given noPath
  | nul => simp [Failure.kind] at other
  | refused given some plain refuses => exact .moduleRefused loads given some plain refuses
  | missing => simp [Failure.kind] at other

/-- Each of these ways comes from a failure that is not announced. -/
theorem Escapes.exists_failure {kind : Failure.Kind}
    (escapes : Escapes loader workspace start name kind) :
    ∃ failure, find loader workspace start name = .error failure ∧ failure.kind = kind ∧
      ¬ failure.Announced := by
  cases escapes with
  | start plain refuses =>
    exact ⟨_, find_eq_error_iff.2 (.lost (.start plain refuses)), rfl,
      not_announced_of_present refuses.not_isAbsence⟩
  | search starts stops =>
    exact ⟨_, find_eq_error_iff.2 (.lost (.search starts stops)), rfl,
      not_announced_of_present stops.not_isAbsence⟩
  | locked found locked =>
    exact ⟨_, find_eq_error_iff.2 (.locked found locked), rfl, not_announced_of_present rfl⟩
  | @content _ _ _ refusal holds decoded refused formed =>
    refine ⟨_, find_eq_error_iff.2 (.unread holds (.refused decoded refused)),
      kind_failureOf _ _, ?_⟩
    rw [Failure.announced_iff, kind_failureOf]
    cases refusal with
    | malformed fault => exact absurd rfl (formed fault)
    | _ => simp [refusalKind]
  | moduleNotText loads given noPath =>
    exact ⟨_, find_eq_error_iff.2 (.module loads (.notText given noPath)), rfl, by decide⟩
  | moduleRefused loads given some plain refuses =>
    exact ⟨_, find_eq_error_iff.2 (.module loads (.refused given some plain refuses)), rfl,
      not_announced_of_present refuses.not_isAbsence⟩
  | outputNotText loads there given noPath =>
    exact ⟨_, find_eq_error_iff.2 (.output loads there (.notText given noPath)), rfl, by decide⟩

/-- However the text of a configuration is loaded, reading it succeeds, or fails in a way that is
announced, but for the ways that are listed here. -/
theorem find_escapes_iff (loader : Loader) (workspace : Workspace) (start : Path) (name : String)
    (kind : Failure.Kind) :
    (∃ failure, find loader workspace start name = .error failure ∧ ¬ failure.Announced ∧
      failure.kind = kind) ↔ Escapes loader workspace start name kind := by
  constructor
  · rintro ⟨failure, failed, other, rfl⟩
    cases find_eq_error_iff.1 failed with
    | lost lost => exact lost.escapes other
    | locked found locked => exact .locked found locked
    | unread holds unread => exact unread.escapes holds other
    | module loads fails => exact fails.escapes loads other
    | output loads there fails =>
      cases fails with
      | nul => exact absurd (Failure.announced_iff.2 (by decide)) other
      | notText given noPath => exact .outputNotText loads there given noPath
  · intro escapes
    obtain ⟨failure, failed, same, other⟩ := escapes.exists_failure
    exact ⟨failure, failed, other, same⟩

/-- The small module with settings beside it, which name it by a number. -/
def numbered : Workspace :=
  Shop.settled.put ["shop.yaml"] (.file (Text.Utf8.encode "module_dir: 5"))

/-- The settings are there and hold a table, and yet the failure is not announced. -/
theorem find_numbered :
    find Yaml.load numbered .here "shop.yaml" = .error (.settingNotText "module_dir") ∧
      ¬ (Failure.settingNotText "module_dir").Announced := by
  have loads : Loads Yaml.load numbered .here "shop.yaml" (.ofString "/")
      [(.text "module_dir", .int 5)] :=
    ⟨Text.Utf8.encode "module_dir: 5", ⟨by decide +kernel, by decide +kernel⟩, by cbv⟩
  have given : Yaml.Value.lookup [(.text "module_dir", .int 5)] "module_dir" = some (.int 5) := by
    cbv
  have noPath : NoPath (.int 5) := by
    refine ⟨rfl, fun text same => ?_⟩
    cases same
  exact ⟨find_eq_error_iff.2 (.module loads (.notText given noPath)), by decide⟩

end Settings

end EventAtlas
