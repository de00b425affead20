import EventAtlas.Proofs.Observer
import EventAtlas.Proofs.Source.Constructor

/-!
# Names and what they mean

To the language of the sources, a class type means one class: a backslash in front makes the name
final, an imported alias stands for the imported name, and any other name belongs to the namespace
of the file. Attribution reads no backslash in front and tries up to three names in order. It reads
imports and the namespace by patterns, which miss some that the language knows. If they agree with
the language on what a type depends on, and no more than the backslash is left out, what the type
means is one of the names that are tried, so it is what attribution finds unless the index holds
another one of them.
-/

namespace EventAtlas

open Source (WrittenType)

namespace Scope

/-- The class that a name without a backslash in front means in a file with these imports and this
namespace. -/
def relative (scope : Scope) (name : String) : ClassId :=
  let (head, rest) := ClassId.splitFirst name
  match scope.imports.get? head with
  | some imported => if rest = "" then imported else ClassId.qualify imported rest
  | none =>
    match scope.space with
    | none => name
    | some space => if space = "" then name else ClassId.qualify space name

/-- The class that a written type means by the rules of the language, in a file with these imports
and this namespace. -/
def meaning (scope : Scope) (type : WrittenType) : ClassId :=
  match type.lead ++ type.name.toList with
  | '\\' :: final => String.ofList final
  | written => scope.relative (String.ofList written)

/-- Two scopes agree on what a name depends on: the import of its first segment, if there is one,
and the namespace. -/
structure AgreesOn (scope given : Scope) (name : String) : Prop where
  imported : scope.imports.get? (ClassId.splitFirst name).1 =
    given.imports.get? (ClassId.splitFirst name).1
  space : scope.space = given.space

/-- So the name means the same class. -/
theorem AgreesOn.relative_eq {scope given : Scope} {name : String}
    (agrees : scope.AgreesOn given name) : given.relative name = scope.relative name := by
  unfold relative
  dsimp only
  rw [agrees.imported, agrees.space]

/-- What a name means is one of the names under which it is looked up. -/
theorem relative_mem_candidates (scope : Scope) {name : String}
    (plain : ClassId.canonical name = name) : scope.relative name ∈ scope.candidates name := by
  unfold relative candidates
  rw [plain]
  dsimp only
  cases imported : scope.imports.get? (ClassId.splitFirst name).1 with
  | some target => simp [imported?, imported]
  | none =>
    cases spaced : scope.space with
    | none => simp
    | some space =>
      by_cases bare : space = ""
      · simp [bare]
      · simp [local?, spaced, bare]

/-- A name in canonical form does not start with a backslash. -/
theorem toList_ne_of_canonical {name : String} (plain : ClassId.canonical name = name)
    {rest : List Char} : name.toList ≠ '\\' :: rest := by
  intro slashed
  have chars : ClassId.canonicalChars name.toList = '\\' :: rest := by
    rw [← slashed, ← String.toList_ofList (l := ClassId.canonicalChars name.toList)]
    exact congrArg String.toList plain
  have start := List.head?_dropWhile_not (· == ClassId.separator)
    ((Text.trim name.toList).dropWhile (· == '?'))
  rw [ClassId.canonicalChars] at chars
  rw [chars] at start
  cases start

/-- What a type means that is read whole is one of the names under which it is looked up, where the
scopes agree. -/
theorem meaning_mem_candidates {scope given : Scope} {type : WrittenType}
    (agrees : scope.AgreesOn given type.name) (whole : type.Whole)
    (plain : ClassId.canonical type.name = type.name) :
    given.meaning type ∈ scope.candidates type.name := by
  unfold meaning
  rcases whole with unmarked | marked
  · rw [unmarked, List.nil_append]
    split
    · next slashed => exact absurd slashed (toList_ne_of_canonical plain)
    · rw [String.ofList_toList, agrees.relative_eq]
      exact scope.relative_mem_candidates plain
  · rw [marked]
    simp [candidates, plain]

/-- How a written type is looked up: under the name as written, the name through the imports and
the name inside the namespace, in this order, as far as there are such names. -/
structure LookedUp (index : ApiIndex) (scope : Scope) (type : WrittenType) : Prop where
  candidates : scope.candidates type.name =
    type.name :: ((scope.imported? type.name).toList ++ (scope.local? type.name).toList)
  /-- The class that is found stands under the first of the names that the index holds. -/
  found_iff : ∀ found, scope.find? index type.name = some found ↔
    ∃ before name after, scope.candidates type.name = before ++ name :: after ∧
      (∀ earlier ∈ before, index.get? earlier = none) ∧ index.get? name = some found
  none_iff : scope.find? index type.name = none ↔
    ∀ name ∈ scope.candidates type.name, index.get? name = none
  /-- In whatever scope the file is, if the one that was read agrees with it, then what a type
  means that is read whole is one of the names. -/
  meaning_mem : ∀ given : Scope, scope.AgreesOn given type.name → type.Whole →
    given.meaning type ∈ scope.candidates type.name
  /-- If the index holds none of the others, this is what is found. -/
  find?_eq_meaning : ∀ given : Scope, scope.AgreesOn given type.name → type.Whole →
    (∀ name ∈ scope.candidates type.name, name ≠ given.meaning type → index.get? name = none) →
      scope.find? index type.name = index.get? (given.meaning type)

/-- The class that is found stands under the first name that the index holds. -/
theorem find?_eq_some_iff {index : ApiIndex} {scope : Scope} {declared : String}
    {found : ApiClass} : scope.find? index declared = some found ↔
      ∃ before name after, scope.candidates declared = before ++ name :: after ∧
        (∀ earlier ∈ before, index.get? earlier = none) ∧ index.get? name = some found := by
  rw [find?, List.findSome?_eq_some_iff]
  constructor
  · rintro ⟨before, name, after, split, held, passed⟩
    exact ⟨before, name, after, split, passed, held⟩
  · rintro ⟨before, name, after, split, passed, held⟩
    exact ⟨before, name, after, split, held, passed⟩

/-- The first value among names of which only one can have a value is the value of that name. -/
theorem findSome?_eq_of_only {names : List ClassId} {only : ClassId} {index : ApiIndex}
    (member : only ∈ names) (others : ∀ name ∈ names, name ≠ only → index.get? name = none) :
    names.findSome? index.get? = index.get? only := by
  induction names with
  | nil => simp at member
  | cons name rest ih =>
    rw [List.findSome?_cons]
    by_cases here : name = only
    · subst here
      cases held : index.get? name with
      | some found => rfl
      | none =>
        -- Nothing stands under any of the names.
        simp only [List.findSome?_eq_none_iff]
        intro other later
        by_cases same : other = name
        · rw [same, held]
        · exact others other (List.mem_cons_of_mem _ later) same
    · have empty : index.get? name = none := others name (List.mem_cons_self ..) here
      have later : only ∈ rest := (List.mem_cons.1 member).resolve_left (Ne.symm here)
      rw [empty]
      exact ih later fun other below => others other (List.mem_cons_of_mem _ below)

/-- A type in canonical form is looked up in order. -/
theorem lookedUp (index : ApiIndex) (scope : Scope) {type : WrittenType}
    (plain : ClassId.canonical type.name = type.name) : LookedUp index scope type where
  candidates := by rw [Scope.candidates, plain]
  found_iff found := find?_eq_some_iff
  none_iff := by rw [find?, List.findSome?_eq_none_iff]
  meaning_mem _ agrees whole := meaning_mem_candidates agrees whole plain
  find?_eq_meaning _ agrees whole others :=
    findSome?_eq_of_only (meaning_mem_candidates agrees whole plain) others

end Scope

namespace Observer

/-- The class types that the constructor of a source text declares, as they are written. -/
def writtenTypes (source : String) : List WrittenType :=
  match Source.constructorParameters? source with
  | some parameters => Source.writtenTypes parameters
  | none => []

/-- The written types of a source are its declared types. -/
theorem map_name_writtenTypes (source : String) :
    (writtenTypes source).map (·.name) = declaredTypes source := by
  unfold writtenTypes declaredTypes
  cases Source.constructorParameters? source with
  | none => rfl
  | some parameters => exact Source.map_name_writtenTypes parameters

/-- A written type of a source is its own canonical form. -/
theorem canonical_of_mem_writtenTypes {source : String} {type : WrittenType}
    (member : type ∈ writtenTypes source) : ClassId.canonical type.name = type.name := by
  unfold writtenTypes at member
  split at member
  · next parameters _ =>
    have declared : type.name ∈ Source.parameterTypes parameters :=
      Source.map_name_writtenTypes parameters ▸ List.mem_map_of_mem member
    exact Source.canonical_of_mem_parameterTypes declared
  · simp at member

/-- A source matches a class when it is found for one of the written types. -/
theorem matches_iff {index : ApiIndex} {source : String} {found : ApiClass} :
    Matches index source found ↔
      ∃ type ∈ writtenTypes source,
        (Scope.ofSource source).find? index type.name = some found := by
  unfold Matches
  rw [← map_name_writtenTypes]
  simp

/-- What a set of an observer is credited with from one source comes from the classes found for
the written types of that source, and from nothing else. -/
theorem Credited.mem_collect_new {view : Observer → NameSet} {part : ApiClass → String → Prop}
    (credited : Credited view part) {index : ApiIndex} {source : String} {id : ClassId}
    {name : String} :
    name ∈ view (collect index (.new id) source) ↔
      ∃ type ∈ writtenTypes source, ∃ found,
        (Scope.ofSource source).find? index type.name = some found ∧ part found name := by
  rw [credited.mem_collect]
  simp only [credited.new, false_or, matches_iff]
  constructor
  · rintro ⟨found, ⟨type, member, held⟩, shown⟩
    exact ⟨type, member, found, held, shown⟩
  · rintro ⟨type, member, found, held, shown⟩
    exact ⟨found, ⟨type, member, held⟩, shown⟩

/-- An observer whose type is written relative to its namespace. -/
def placedSource : String :=
  "<?php\nnamespace App;\nclass Placed \x7b function __construct(Pay\\Client $client) \x7b\x7d \x7d"

/-- An index that holds a class of the written name outside of the namespace. -/
def payIndex : ApiIndex :=
  .ofList [("Pay\\Client",
    { id := "Pay\\Client"
      source := .ofString "Client.php"
      endpoints := .ofList ["/v2/payments"]
      sdkCalls := .empty })]

/-- The type as it is written. -/
theorem mem_writtenTypes_placedSource :
    (⟨[], "Pay\\Client"⟩ : WrittenType) ∈ writtenTypes placedSource := by
  decide +kernel

/-- Attribution does not follow the meaning of types, even in the scope that was read: a name that
is relative to the namespace is also taken for the class of that name outside of it. -/
theorem find?_ne_meaning :
    ¬ ∀ (source : String) (index : ApiIndex), ∀ type ∈ writtenTypes source,
      (Scope.ofSource source).find? index type.name =
        index.get? ((Scope.ofSource source).meaning type) := by
  intro follows
  have same := follows placedSource payIndex _ mem_writtenTypes_placedSource
  revert same
  decide +kernel

/-- One source credits an observer with the classes found for its types, and each type is looked
up in order. The class that a type means in its file is one of the names that are tried if the type
is read whole and the imports and the namespace that it depends on are read as they are; no other
class is found then unless the index holds another one of these names. -/
theorem collect_looks_up (index : ApiIndex) (source : String) (id : ClassId) :
    (∀ name, name ∈ (collect index (.new id) source).resolved ↔
      ∃ type ∈ writtenTypes source, ∃ found,
        (Scope.ofSource source).find? index type.name = some found ∧ name = found.id) ∧
    (∀ endpoint, endpoint ∈ (collect index (.new id) source).endpoints ↔
      ∃ type ∈ writtenTypes source, ∃ found,
        (Scope.ofSource source).find? index type.name = some found ∧
          endpoint ∈ found.endpoints) ∧
    (∀ call, call ∈ (collect index (.new id) source).sdkCalls ↔
      ∃ type ∈ writtenTypes source, ∃ found,
        (Scope.ofSource source).find? index type.name = some found ∧ call ∈ found.sdkCalls) ∧
    ∀ type ∈ writtenTypes source, (Scope.ofSource source).LookedUp index type :=
  ⟨fun _ => credited_resolved.mem_collect_new, fun _ => credited_endpoints.mem_collect_new,
    fun _ => credited_sdkCalls.mem_collect_new,
    fun _ member => Scope.lookedUp index _ (canonical_of_mem_writtenTypes member)⟩

/-- The class outside of the namespace is credited, as the name that is tried first. -/
theorem collect_looks_up_placed :
    (Scope.ofSource placedSource).LookedUp payIndex ⟨[], "Pay\\Client"⟩ ∧
      "Pay\\Client" ∈ (collect payIndex (.new "App\\Placed") placedSource).resolved := by
  obtain ⟨resolved, -, -, looked⟩ := collect_looks_up payIndex placedSource "App\\Placed"
  have held : ((Scope.ofSource placedSource).find? payIndex "Pay\\Client").map (·.id) =
      some "Pay\\Client" := by
    decide +kernel
  obtain ⟨found, held, id⟩ := Option.map_eq_some_iff.1 held
  exact ⟨looked _ mem_writtenTypes_placedSource,
    (resolved _).2 ⟨_, mem_writtenTypes_placedSource, found, held, id.symm⟩⟩

end Observer

end EventAtlas
