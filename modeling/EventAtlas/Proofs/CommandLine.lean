import EventAtlas.CommandLine
import EventAtlas.Proofs.Documentation.Rerun

/-!
# How the program ends

Whatever options ask for, the program ends with zero or with one. With zero, the report stands in
the output directory that was asked for, and nothing is complained about. With one, the complaint
tells by its first words what kind of failure it was: a wrong value or a missing file is reported as
an error that a user can mend, and every other failure as an unexpected one.
-/

namespace EventAtlas

/-! ### Kinds of failures -/

/-- The kinds of failures. -/
inductive Failure.Kind where
  /-- A value that cannot be used. -/
  | value
  /-- No class in the module: the module is such a value. -/
  | emptyIndex
  /-- A text that has no bytes, or bytes that make no text: such a value as well. -/
  | unicode
  /-- Something that the file system refuses. -/
  | system
  /-- The file system refuses it because a file is missing. -/
  | missingFile
  /-- The file system refuses it because something is there already. -/
  | exists
  /-- The file system refuses it because there is a directory. -/
  | isDirectory
  /-- The file system refuses it because there is no directory. -/
  | notDirectory
  /-- The file system refuses it because it is not permitted. -/
  | notPermitted
  /-- A value of a type that an operation does not take. -/
  | type
  /-- A value of a type that has no such operation. -/
  | attribute
  /-- A name that stands for nothing. -/
  | lookup
  /-- A key that is not in a table. -/
  | key
  /-- A position that is not in a text. -/
  | index
  /-- A number that is too large. -/
  | overflow
  /-- Functions that call each other too deep. -/
  | recursion
deriving DecidableEq

namespace Failure

/-- The kind of which a kind is a special case. -/
def Kind.parent? : Kind → Option Kind
  | .emptyIndex | .unicode => some .value
  | .missingFile | .exists | .isDirectory | .notDirectory | .notPermitted => some .system
  | .key | .index => some .lookup
  | .value | .system | .type | .attribute | .lookup | .overflow | .recursion => none

/-- A kind is another one or a special case of it. -/
inductive Kind.Is : Kind → Kind → Prop
  | refl (kind : Kind) : Is kind kind
  | parent {kind above other : Kind} : kind.parent? = some above → Is above other → Is kind other

theorem Kind.is_iff {kind other : Kind} :
    kind.Is other ↔ kind = other ∨ kind.parent? = some other := by
  constructor
  · rintro (_ | ⟨up, rest⟩)
    · exact .inl rfl
    · -- No kind that has special cases is one itself.
      rcases rest with _ | ⟨up', -⟩
      · exact .inr up
      · cases kind <;> cases up <;> cases up'
  · rintro (rfl | up)
    · exact .refl _
    · exact .parent up (.refl _)

instance (kind other : Kind) : Decidable (kind.Is other) :=
  decidable_of_iff _ Kind.is_iff.symm

/-- The kind of what the file system refuses for a cause. -/
def kindOf : FileCause → Kind
  | .notFound => .missingFile
  | .exists => .exists
  | .isDirectory => .isDirectory
  | .notDirectory => .notDirectory
  | .notPermitted => .notPermitted
  | .nameTooLong => .system

/-- The kind of a failure. -/
def kind : Failure → Kind
  | .noApiClasses => .emptyIndex
  | .noModule _ | .unknownDiagram _ _ | .splitDeepWildcard => .value
  | .malformedConfig _ _ | .configNotMapping _ | .moduleUndefined => .value
  | .nulInPath | .encoding .multiByte => .value
  | .encoding (.unreadable _) | .unwritable _ => .unicode
  | .configNotFound _ _ | .moduleMissing _ => .missingFile
  | .file cause _ => kindOf cause
  | .diagramNotAName | .settingNotText _ | .timestampOfMapping => .type
  | .stylesNotTable _ | .addressNotText | .notTimestamp _ => .attribute
  | .encoding (.unknown _) | .encoding (.notText _) => .lookup
  | .notBoolean _ => .key
  | .emptyNumber => .index
  | .hugeEscape | .hugePlace => .overflow
  | .tooDeep => .recursion

/-- A user can mend wrong values and missing files, and nothing else. -/
theorem isMendable_iff (failure : Failure) :
    failure.isMendable = true ↔ failure.kind.Is .value ∨ failure.kind.Is .missingFile := by
  cases failure with
  | file cause path => cases cause <;> simp [isMendable, kind, kindOf, Kind.is_iff, Kind.parent?]
  | encoding fault => cases fault <;> simp [isMendable, kind, Kind.is_iff, Kind.parent?]
  | _ => simp [isMendable, kind, Kind.is_iff, Kind.parent?]

end Failure

namespace CommandLine

variable {host : Host} {workspace : Workspace} {options : Options} {time : String}
  {failure : Failure}

/-! ### What is asked for -/

/-- What options ask for: what they say themselves, or what the configuration says that they
name. -/
inductive Asks (host : Host) (workspace : Workspace) (options : Options) : Request → Prop
  | plain {moduleDir : String} (unconfigured : options.config.getD "" = "")
      (given : options.moduleDir = some moduleDir) (named : moduleDir ≠ "") :
      Asks host workspace options (requestOf host.halves options moduleDir)
  | configured {config : String} {settings : Settings} (given : options.config = some config)
      (named : config ≠ "")
      (found : Settings.find host.loader workspace (searchFor config).1 (searchFor config).2 =
        .ok settings) :
      Asks host workspace options (settings.request host.halves options.verbose)

/-- How what options ask for can fail. -/
inductive Fails (host : Host) (workspace : Workspace) (options : Options) (time : String) :
    Failure → Prop
  /-- The configuration is not found or cannot be read. -/
  | configuration {failure : Failure} {config : String} (given : options.config = some config)
      (named : config ≠ "")
      (lost : Settings.find host.loader workspace (searchFor config).1 (searchFor config).2 =
        .error failure) :
      Fails host workspace options time failure
  /-- The request cannot be followed. -/
  | request {failure : Failure} {request : Request} (asks : Asks host workspace options request)
      (refused : Documentation.ofRequest workspace request = .error failure) :
      Fails host workspace options time failure
  /-- The module cannot be documented. -/
  | run {failure : Failure} {request : Request} {documentation : Documentation}
      (asks : Asks host workspace options request)
      (followed : Documentation.ofRequest workspace request = .ok documentation)
      (failed : (documentation.run workspace time).2.result = .error failure) :
      Fails host workspace options time failure

/-- A text that is left out for being empty is empty or missing. -/
theorem eq_empty_of_filter_eq_none {value : Option String}
    (none : value.filter (· ≠ "") = none) : value.getD "" = "" := by
  cases value with
  | none => rfl
  | some text => simpa using none

/-- Without a request, options name nothing. With one, it is what they ask for, unless it fails. -/
theorem request?_cases (host : Host) (workspace : Workspace) (options : Options) (time : String) :
    request? host workspace options = none ∧ options.config.getD "" = "" ∧
        options.moduleDir.getD "" = "" ∨
      ∃ trace, request? host workspace options = some trace ∧
        (∀ request, trace.result = .ok request → Asks host workspace options request) ∧
        ∀ failure, trace.result = .error failure → Fails host workspace options time failure := by
  unfold request?
  cases configured : options.config.filter (· ≠ "") with
  | some config =>
    obtain ⟨given, some⟩ := Option.filter_eq_some_iff.1 configured
    have named : config ≠ "" := of_decide_eq_true some
    refine .inr ⟨_, rfl, fun request done => ?_, fun failure failed => ?_⟩
    · obtain ⟨settings, loaded, done⟩ := Trace.result_bind_eq_ok_iff.1 done
      obtain ⟨_, found, loaded⟩ := Trace.result_bind_eq_ok_iff.1 loaded
      cases done
      cases loaded
      exact .configured given named found
    · rcases Trace.result_bind_eq_error_iff.1 failed with lost | ⟨_, -, failed⟩
      · rcases Trace.result_bind_eq_error_iff.1 lost with lost | ⟨_, -, lost⟩
        · exact .configuration given named lost
        · cases lost
      · cases failed
  | none =>
    have unconfigured := eq_empty_of_filter_eq_none configured
    cases given : options.moduleDir.filter (· ≠ "") with
    | some moduleDir =>
      obtain ⟨given, some⟩ := Option.filter_eq_some_iff.1 given
      refine .inr ⟨_, rfl, fun request done => ?_, fun failure failed => ?_⟩
      · cases done
        exact .plain unconfigured given (of_decide_eq_true some)
      · cases failed
    | none => exact .inl ⟨rfl, unconfigured, eq_empty_of_filter_eq_none given⟩

/-- A request is followed by a run, unless it fails or cannot be followed. -/
theorem fulfil_cases (workspace : Workspace) (trace : Trace Request) (time : String) :
    (∃ request documentation, trace.result = .ok request ∧
        Documentation.ofRequest workspace request = .ok documentation ∧
        (fulfil workspace trace time).1 = (documentation.run workspace time).1 ∧
        (fulfil workspace trace time).2.result = (documentation.run workspace time).2.result) ∨
      ∃ failure, (fulfil workspace trace time).2.result = .error failure ∧
        (trace.result = .error failure ∨ ∃ request, trace.result = .ok request ∧
          Documentation.ofRequest workspace request = .error failure) := by
  cases done : (trace >>= fun request =>
      Trace.ofExcept (Documentation.ofRequest workspace request)).result with
  | error failure =>
    refine .inr ⟨failure, ?_, Trace.result_bind_eq_error_iff.1 done⟩
    simp only [fulfil, done]
  | ok documentation =>
    obtain ⟨request, asked, followed⟩ := Trace.result_bind_eq_ok_iff.1 done
    refine .inl ⟨request, documentation, asked, followed, ?_⟩
    simp only [fulfil, done, Trace.result_bind, true_and]
    rfl

/-! ### How the program ends -/

/-- The program ends well: it complains about nothing, and where the output directory that was
asked for is, the report on the workspace as it was before stands. -/
structure EndsWell (host : Host) (workspace : Workspace) (options : Options)
    (outcome : Outcome) : Prop where
  exitCode : outcome.exitCode = 0
  silent : outcome.errorText = ""
  reported : ∃ request documentation analysis text, Asks host workspace options request ∧
    Documentation.ofRequest workspace request = .ok documentation ∧
    documentation.Ready workspace analysis text ∧
    outcome.workspace.read? (request.outputDir.child "checkout.md") =
      some (Text.Utf8.encode text)

/-- The first words of the complaint about a kind of failure. -/
def leadOf (kind : Failure.Kind) : String :=
  if kind.Is .value ∨ kind.Is .missingFile then "Error: " else "Unexpected error: "

/-- The program ends badly: options name nothing, or what they ask for fails, and the complaint
starts with the words for it. -/
structure EndsBadly (host : Host) (workspace : Workspace) (options : Options) (time : String)
    (outcome : Outcome) : Prop where
  exitCode : outcome.exitCode = 1
  complains : options.config.getD "" = "" ∧ options.moduleDir.getD "" = "" ∧
      "Error: ".toList <+: outcome.errorText.toList ∨
    ∃ failure, Fails host workspace options time failure ∧
      (leadOf failure.kind).toList <+: outcome.errorText.toList

/-- A failure of what options ask for ends the program badly. -/
theorem EndsBadly.of_fails {lines : List String} {after : Workspace}
    (fails : Fails host workspace options time failure) :
    EndsBadly host workspace options time
      { lines, complaint := some (.failed failure options.debug), workspace := after } := by
  have lead : (if failure.isMendable then "Error: " else "Unexpected error: ") =
      leadOf failure.kind := by
    simp only [Failure.isMendable_iff, leadOf]
  refine ⟨rfl, .inr ⟨failure, fails, ?_⟩⟩
  simp only [Outcome.errorText, Option.map_some, Option.getD_some, Complaint.text,
    Complaint.failureText, lead, String.append_assoc, String.toList_append]
  exact List.prefix_append ..

/-- Documenting a module ends well or badly. -/
theorem document_ends (host : Host) (workspace : Workspace) (options : Options) (time : String) :
    EndsWell host workspace options (document host workspace options time) ∨
      EndsBadly host workspace options time (document host workspace options time) := by
  unfold document
  rcases request?_cases host workspace options time with
    ⟨none, unconfigured, unnamed⟩ | ⟨trace, some, asks, fails⟩
  · rw [none]
    have lead : "Error: ".toList <+: Complaint.noSource.text.toList := by decide
    exact .inr ⟨rfl, .inl ⟨unconfigured, unnamed, lead⟩⟩
  · simp only [some]
    rcases fulfil_cases workspace trace time with
      ⟨request, documentation, asked, followed, left, result⟩ | ⟨failure, result, failed⟩
    · cases ran : (documentation.run workspace time).2.result with
      | error failure =>
        rw [result, ran]
        exact .inr (.of_fails (.run (asks _ asked) followed ran))
      | ok path =>
        obtain ⟨-, made, analysis, text, succeeds⟩ := Documentation.exists_succeeds_of_run ran
        rw [result, ran, left]
        refine .inl ⟨rfl, rfl, request, documentation, analysis, text, asks _ asked, followed,
          succeeds.ready, ?_⟩
        -- The documentation has its output directory from the request.
        obtain ⟨-, _, -, rfl⟩ := Documentation.ofRequest_eq_ok_iff.1 followed
        exact succeeds.report_stands.read?
    · rw [result]
      refine .inr (.of_fails ?_)
      rcases failed with failed | ⟨request, asked, refused⟩
      · exact fails _ failed
      · exact .request (asks _ asked) refused

/-- With arguments that ask neither for help nor for the version, the program ends well or
badly. -/
theorem run_ends {arguments : List String}
    (asked : Command.ofArguments arguments = .ok (.document options)) (host : Host)
    (workspace : Workspace) (time : String) :
    EndsWell host workspace options (run host workspace time arguments) ∨
      EndsBadly host workspace options time (run host workspace time arguments) := by
  unfold run
  rw [asked]
  exact document_ends host workspace options time

/-- What the small module is documented with. -/
def nestedArguments : List String :=
  ["--module-dir", "lib", "--output-dir=lib/docs", "--endpoint"]

/-- These arguments ask for a documentation inside of the module, with a catalog. -/
def nestedOptions : Options :=
  { Options.standard with moduleDir := some "lib", outputDir := "lib/docs", catalog := true }

/-- The report on the small module stands where it was asked for. -/
theorem run_ends_well_nested :
    Command.ofArguments nestedArguments = .ok (.document nestedOptions) ∧
      EndsWell .standard Shop.workspace nestedOptions
        (run .standard Shop.workspace "" nestedArguments) := by
  have asked : Command.ofArguments nestedArguments = .ok (.document nestedOptions) := by
    decide +kernel
  refine ⟨asked, (run_ends asked .standard Shop.workspace "").resolve_right fun badly => ?_⟩
  obtain ⟨_, _, ready, -⟩ := Shop.exists_ready Shop.at_lib Shop.short_lib
    (rfl : (Shop.nested (.ofString "lib")).survey.moduleDir = _) rfl rfl
  obtain ⟨_, _, _, succeeds⟩ := Shop.exists_succeeds_nested (.refl _) (fun _ _ => rfl) ready
  obtain ⟨-, done⟩ := succeeds.run ""
  have followed : Documentation.ofRequest Shop.workspace (requestOf .none nestedOptions "lib") =
      .ok (Shop.nested (.ofString "lib")) := rfl
  have unique {request : Request} (asks : Asks .standard Shop.workspace nestedOptions request) :
      request = requestOf .none nestedOptions "lib" := by
    cases asks with
    | plain _ given =>
      obtain rfl := Option.some.inj given
      rfl
    | configured given => cases given
  rcases badly.complains with ⟨-, unnamed, -⟩ | ⟨failure, fails, -⟩
  · exact absurd unnamed (by decide)
  · cases fails with
    | configuration given => cases given
    | request asks refused =>
      rw [unique asks, followed] at refused
      cases refused
    | run asks followed' failed =>
      rw [unique asks, followed] at followed'
      cases followed'
      rw [done] at failed
      cases failed

end CommandLine

end EventAtlas
