import EventAtlas.Api.Index
import EventAtlas.Proofs.NameSet
import EventAtlas.Proofs.Source.Constructor
import EventAtlas.Proofs.Text.Plain

/-!
# What sources show is plain

Endpoints, calls and declared types are read character by character, and none of the characters
that are accepted has a meaning in a table. So whatever a source holds, what is found in it can
stand in a row.
-/

namespace EventAtlas

open Text

variable {text rest : List Char} {source : String}

theorem acceptsPlain_digit : AcceptsPlain isDecimalDigit :=
  acceptsPlain_iff.2 (by decide)

theorem acceptsPlain_slash : AcceptsPlain (· == '/') :=
  acceptsPlain_iff.2 (by decide)

/-! ### Endpoints -/

theorem Endpoint.acceptsPlain_isPathChar : AcceptsPlain isPathChar :=
  acceptsPlain_iff.2 (by decide +kernel)

/-- A version is plain. -/
theorem Endpoint.passes_of_afterVersion? (read : afterVersion? text = some rest) :
    Passes text rest := by
  simp only [afterVersion?, Option.bind_eq_bind, Option.bind_eq_some_iff] at read
  obtain ⟨first, letter, ⟨digits, second⟩, numbered, slash⟩ := read
  refine (passes_of_afterKeyword? (by decide) letter).trans ?_
  exact (passes_of_run? acceptsPlain_digit numbered).trans (passes_of_after? acceptsPlain_slash slash)

/-- The endpoints of a source are plain. -/
theorem Endpoint.plain_of_mem_detect {endpoint : String} (found : endpoint ∈ detect source) :
    Plain endpoint := by
  obtain ⟨chars, member, rfl⟩ := List.mem_map.1 (NameSet.mem_ofList.1 found)
  obtain ⟨place, left, read⟩ := read_of_mem_findAll member
  simp only [Endpoint.read, Option.bind_eq_bind, Option.bind_eq_some_iff] at read
  obtain ⟨inside, slash, path, version, ⟨run, after⟩, ran, same⟩ := read
  simp only [Option.some.injEq, Prod.mk.injEq] at same
  obtain ⟨rfl, rfl⟩ := same
  have passes : Passes place after :=
    ((passes_of_after? acceptsPlain_slash slash).trans (passes_of_afterVersion? version)).trans
      (passes_of_run? acceptsPlain_isPathChar ran)
  exact plain_ofList passes.take

/-! ### Calls -/

/-- A keyword that is read is plain in small letters. -/
theorem SdkCall.isPlain_of_anyKeyword? {words : List String} {found : List Char}
    (plain : ∀ word ∈ words, ∀ c ∈ word.toList, c.toNat < 128 ∧ IsPlain c)
    (read : anyKeyword? words text = some (found, rest)) : ∀ c ∈ lower found, IsPlain c := by
  obtain ⟨⟨word, listed, spells⟩, -⟩ := spelled_of_anyKeyword? read
  intro c member
  obtain ⟨written, inside, lowered⟩ := List.mem_flatMap.1 member
  obtain ⟨ascii, plain⟩ := plain word listed _ (spells.foldCase_mem inside)
  exact isPlain_of_mem_lowerChar ascii plain c lowered

/-- The calls of the client library in a source are plain. -/
theorem SdkCall.plain_of_mem_detect {call : String} (found : call ∈ detect source) :
    Plain call := by
  obtain ⟨⟨resource, action⟩, member, rfl⟩ := List.mem_map.1 (NameSet.mem_ofList.1 found)
  obtain ⟨place, left, read⟩ := read_of_mem_findAll member
  simp only [SdkCall.read, Option.bind_eq_bind, Option.bind_eq_some_iff] at read
  obtain ⟨_, -, ⟨first, _⟩, named, _, -, ⟨second, _⟩, acted, _, -, same⟩ := read
  simp only [Option.some.injEq, Prod.mk.injEq] at same
  obtain ⟨⟨rfl, rfl⟩, rfl⟩ := same
  have resources := isPlain_of_anyKeyword? (by decide +kernel) named
  have actions := isPlain_of_anyKeyword? (by decide +kernel) acted
  refine plain_ofList fun c member => ?_
  simp only [List.mem_append, List.mem_cons, List.not_mem_nil, or_false] at member
  rcases member with (inside | rfl | rfl) | inside
  · exact resources c inside
  · decide
  · decide
  · exact actions c inside

/-- The calls through the wrapper in a source are plain. -/
theorem WrapperCall.plain_of_mem_detect {call : String} (found : call ∈ detect source) :
    Plain call := by
  obtain ⟨chars, member, rfl⟩ := List.mem_map.1 (NameSet.mem_ofList.1 found)
  obtain ⟨place, left, read⟩ := read_of_mem_findAll member
  simp only [WrapperCall.read, Option.bind_eq_bind, Option.bind_eq_some_iff] at read
  obtain ⟨_, -, _, -, ⟨_, _⟩, -, _, -, literal, -, path, version, ⟨run, after⟩, ran, _, -, same⟩ :=
    read
  simp only [Option.some.injEq, Prod.mk.injEq] at same
  obtain ⟨rfl, rfl⟩ := same
  have plainChar : AcceptsPlain isPathChar := acceptsPlain_iff.2 (by decide +kernel)
  have passes := (Endpoint.passes_of_afterVersion? version).trans (passes_of_run? plainChar ran)
  exact Plain.append (by decide +kernel) (plain_ofList passes.take)

/-- The calls that a source shows: those of the client library, those through the wrapper, and the
mark if the source is indirect. -/
theorem ApiClass.mem_callsOf_iff {call : String} : call ∈ callsOf source ↔
    call ∈ SdkCall.detect source ∨ call ∈ WrapperCall.detect source ∨
      WrapperCall.hasIndirect source = true ∧ call = WrapperCall.indirectMark := by
  rw [callsOf]
  split
  · next indirect => simp [indirect, or_assoc]
  · next literal => simp [literal]

/-- All calls that a source shows are plain. -/
theorem ApiClass.plain_of_mem_callsOf {call : String} (found : call ∈ callsOf source) :
    Plain call := by
  rcases mem_callsOf_iff.1 found with library | wrapper | ⟨-, rfl⟩
  · exact SdkCall.plain_of_mem_detect library
  · exact WrapperCall.plain_of_mem_detect wrapper
  · decide +kernel

/-! ### Types -/

/-- The types that a parameter list declares are plain. -/
theorem Source.plain_of_mem_parameterTypes {parameters : List Char} {declared : String}
    (member : declared ∈ parameterTypes parameters) : Plain declared := by
  obtain ⟨type, found, rfl⟩ := List.mem_map.1 member
  obtain ⟨_, _, read⟩ := read_of_mem_findAll found
  obtain ⟨first, others, rfl, upper, accepted⟩ := type_of_readParameter read
  have plain : AcceptsPlain isTypeChar := acceptsPlain_iff.2 (by decide)
  refine plain_ofList (List.forall_mem_cons.2 ⟨plain _ (isTypeChar_of_isUpper upper), ?_⟩)
  exact fun c inside => plain c (accepted c inside)

end EventAtlas
