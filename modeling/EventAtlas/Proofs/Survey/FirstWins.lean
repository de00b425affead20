import EventAtlas.Proofs.Survey.Listing
import EventAtlas.Proofs.Trace
import EventAtlas.Survey.Index

/-!
# The first file of a class stands for it

Every source file yields at most one class. Indexing is a fold over the classes that the files
yield, and `FirstWins` is what one more class keeps: the index holds the first class of each
identifier, and all others are listed as duplicates.
-/

namespace EventAtlas

namespace Survey

/-- The class of a source file is that of the text that is read from it. -/
theorem result_indexFile (workspace : Workspace) (verbose : Bool) (path : Path) :
    (indexFile workspace verbose path).result =
      (workspace.readSource? path).map fun source => source.bind (ApiClass.ofSource? path) := by
  unfold indexFile
  rw [Trace.result_bind, Trace.result_ofExcept]
  cases workspace.readSource? path with
  | error failure => rfl
  | ok source =>
    cases source with
    | none => cases verbose <;> rfl
    | some text =>
      change (Trace.noteIf (verbose && text.isEmpty) (.emptySource path) >>= fun _ =>
        (pure (ApiClass.ofSource? path text) : Trace _)).result = _
      rw [Trace.result_bind, Trace.result_noteIf]
      rfl

/-- The class that a source file yields, if any. -/
def classAt? (workspace : Workspace) (path : Path) : Option ApiClass :=
  match (indexFile workspace false path).result with
  | .ok found => found
  | .error _ => none

/-- The classes that source files yield, in the order of the files. -/
def classesOf (workspace : Workspace) (files : List Path) : List ApiClass :=
  files.filterMap (classAt? workspace)

variable {workspace : Workspace} {survey : Survey} {path : Path} {files : List Path}

/-- Indexing a file yields its class. -/
theorem indexFile_of_isFile (there : workspace.isFile path = .ok true) (verbose : Bool) :
    (indexFile workspace verbose path).result = .ok (classAt? workspace path) := by
  obtain ⟨source, read⟩ := Workspace.exists_readSource?_of_isFile there
  simp [classAt?, result_indexFile, read, Except.map]

/-- A class that a file yields is that of a text read from it. -/
theorem exists_text_of_classAt? {found : ApiClass} (yields : classAt? workspace path = some found) :
    ∃ text, ApiClass.ofSource? path text = some found := by
  unfold classAt? at yields
  rw [result_indexFile] at yields
  cases read : workspace.readSource? path with
  | error failure => simp [read, Except.map] at yields
  | ok source =>
    simp only [read, Except.map] at yields
    obtain ⟨text, -, ofText⟩ := Option.bind_eq_some_iff.1 yields
    exact ⟨text, ofText⟩

/-- Files that are read alike yield the same class. -/
theorem classAt?_congr {other : Workspace}
    (same : workspace.readSource? path = other.readSource? path) :
    classAt? workspace path = classAt? other path := by
  simp only [classAt?, result_indexFile, same]

/-- Every source file is a file. -/
theorem isFile_of_mem_sourceFiles (listed : survey.sourceFiles workspace = .ok files)
    (member : path ∈ files) : workspace.isFile path = .ok true := by
  obtain ⟨_, _, _, _, rfl⟩ := sourceFiles_eq_ok listed
  exact of_decide_eq_true (List.mem_filter.1 member).2

/-- Indexing fails exactly when the source files cannot be listed. Otherwise it enters the classes
that the files yield, one after the other. -/
theorem result_buildIndexOnto (workspace : Workspace) (survey : Survey)
    (listed : List (ClassId × Path)) :
    (survey.buildIndexOnto workspace listed).result =
      (survey.sourceFiles workspace).map fun files =>
        (classesOf workspace files).foldl Indexing.add (.start listed) := by
  unfold buildIndexOnto
  rw [Trace.result_bind, Trace.result_ofExcept]
  cases found : survey.sourceFiles workspace with
  | error failure => rfl
  | ok files =>
    change (files.foldlM (indexNext workspace survey.verbose) _).result = _
    rw [Trace.result_foldlM_eq_ok fun indexing path =>
      (classAt? workspace path).elim indexing indexing.add]
    · simp only [Except.map, classesOf, List.foldl_filterMap]
      congr
      funext indexing path
      cases classAt? workspace path <;> rfl
    · intro indexing path member
      unfold indexNext
      rw [Trace.result_bind,
        indexFile_of_isFile (isFile_of_mem_sourceFiles found member) survey.verbose]
      cases yields : classAt? workspace path <;> rfl

end Survey

namespace Indexing

/-- The classes of a list whose identifier is known when they are reached: from the start, or by an
earlier class of the list. -/
def repeated (known : List ClassId) : List ApiClass → List ApiClass
  | [] => []
  | found :: rest =>
    if found.id ∈ known then found :: repeated known rest
    else repeated (found.id :: known) rest

/-- One more class at the end is repeated if its identifier is known by then. -/
theorem repeated_append_singleton (known : List ClassId) (classes : List ApiClass)
    (found : ApiClass) :
    repeated known (classes ++ [found]) = repeated known classes ++
      if found.id ∈ known ∨ found.id ∈ classes.map (·.id) then [found] else [] := by
  induction classes generalizing known with
  | nil =>
    by_cases here : found.id ∈ known <;> simp [repeated, here]
  | cons first rest ih =>
    rw [List.cons_append, repeated, repeated]
    by_cases here : first.id ∈ known
    · rw [if_pos here, if_pos here, ih, List.cons_append]
      by_cases same : found.id = first.id
      · simp [same, here]
      · simp [same]
    · rw [if_neg here, if_neg here, ih]
      simp only [List.mem_cons, List.map_cons, or_assoc, or_left_comm]

/-- Of some classes, the first of each identifier is indexed, in the order in which the identifiers
first occur. The others are listed after what was listed before. -/
structure FirstWins (classes : List ApiClass) (listed : List (ClassId × Path))
    (indexing : Indexing) : Prop where
  get?_eq : ∀ id, indexing.index.get? id = classes.find? (·.id = id)
  keys_eq : indexing.index.keys = (classes.map (·.id)).eraseDups
  duplicates_eq : indexing.duplicates =
    listed ++ (repeated [] classes).map fun found => (found.id, found.source)
  /-- No class is lost. -/
  length_eq : classes.length = indexing.index.size + (repeated [] classes).length

variable {classes : List ApiClass} {listed : List (ClassId × Path)} {indexing : Indexing}

/-- At the start nothing is indexed and nothing new is listed. -/
theorem FirstWins.start : FirstWins [] listed (.start listed) where
  get?_eq _ := rfl
  keys_eq := rfl
  duplicates_eq := by simp [Indexing.start, repeated]
  length_eq := rfl

/-- A class is indexed under an identifier exactly if some class has it. -/
theorem FirstWins.get?_eq_none_iff (wins : FirstWins classes listed indexing) {id : ClassId} :
    indexing.index.get? id = none ↔ id ∉ classes.map (·.id) := by
  rw [wins.get?_eq, List.find?_eq_none]
  simp

/-- One more class is indexed if it is the first of its identifier, and listed otherwise. -/
theorem FirstWins.add (wins : FirstWins classes listed indexing) (found : ApiClass) :
    FirstWins (classes ++ [found]) listed (indexing.add found) := by
  unfold Indexing.add
  split
  · next absent =>
    have new : found.id ∉ classes.map (·.id) := wins.get?_eq_none_iff.1 absent
    have notKey : found.id ∉ indexing.index.keys := Roster.get?_eq_none_iff.1 absent
    have none_repeated : repeated [] (classes ++ [found]) = repeated [] classes := by
      simp only [repeated_append_singleton, List.not_mem_nil, false_or, if_neg new,
        List.append_nil]
    refine ⟨fun id => ?_, ?_, ?_, ?_⟩
    · rw [Roster.get?_put, wins.get?_eq, List.find?_append]
      by_cases same : id = found.id
      · subst same
        rw [if_pos rfl, ← wins.get?_eq, absent]
        simp
      · simp [same, Ne.symm same]
    · rw [Roster.keys_put, if_neg notKey, wins.keys_eq, List.map_append, List.map_singleton,
        eraseDups_concat, if_neg new]
    · rw [none_repeated]
      exact wins.duplicates_eq
    · rw [none_repeated, List.length_append, wins.length_eq, Roster.size_put, if_neg notKey]
      simp only [List.length_singleton]
      omega
  · next kept held =>
    have known : found.id ∈ classes.map (·.id) := by
      by_contra new
      rw [wins.get?_eq_none_iff.2 new] at held
      cases held
    have one_repeated : repeated [] (classes ++ [found]) = repeated [] classes ++ [found] := by
      simp only [repeated_append_singleton, List.not_mem_nil, false_or, if_pos known]
    refine ⟨fun id => ?_, ?_, ?_, ?_⟩
    · rw [wins.get?_eq, List.find?_append]
      by_cases same : found.id = id
      · subst same
        rw [← wins.get?_eq, held]
        rfl
      · simp [same]
    · rw [wins.keys_eq, List.map_append, List.map_singleton, eraseDups_concat, if_pos known]
    · rw [one_repeated, List.map_append, wins.duplicates_eq, List.append_assoc]
      rfl
    · rw [one_repeated, List.length_append, List.length_append, wins.length_eq]
      rfl

/-- Entering classes one after the other indexes the first of each identifier. -/
theorem firstWins_foldl (classes : List ApiClass) (listed : List (ClassId × Path)) :
    FirstWins classes listed (classes.foldl add (.start listed)) := by
  induction classes using List.reverseRecOn with
  | nil => exact .start
  | append_singleton classes found ih =>
    rw [List.foldl_append]
    exact ih.add found

/-- What was listed before stays in front and changes nothing else. -/
theorem foldl_add_start (classes : List ApiClass) (listed : List (ClassId × Path)) :
    classes.foldl add (.start listed) =
      { index := (classes.foldl add (.start [])).index
        duplicates := listed ++ (classes.foldl add (.start [])).duplicates } := by
  induction classes using List.reverseRecOn with
  | nil => simp [start]
  | append_singleton classes found ih =>
    rw [List.foldl_append, List.foldl_append, ih]
    simp only [List.foldl_cons, List.foldl_nil, add]
    split <;> simp

end Indexing

end EventAtlas
