import EventAtlas.ClassId
import EventAtlas.Proofs.Text.Blank
import EventAtlas.Proofs.Text.Reader
import EventAtlas.Source.Constructor

/-!
# Parameter types as they are written

What is read of the type of a parameter starts with a capital letter. A backslash in front of it is
left out, although to the language of the sources it means something, and so is whatever else of
the name stands there. `writtenTypes` reads the same types and keeps what is left out.
-/

namespace EventAtlas.Source

open Text

/-- A character of a name in the language of the sources. -/
def isNameChar (c : Char) : Bool :=
  isTypeChar c || decide (0x80 ≤ c.toNat)

/-- A class type of a parameter as the source writes it. -/
structure WrittenType where
  /-- What stands of the name in front of what is read. -/
  lead : List Char
  name : String
deriving DecidableEq

/-- Only a leading backslash, if anything, is left out when the type is read. -/
def WrittenType.Whole (type : WrittenType) : Prop :=
  type.lead = [] ∨ type.lead = ['\\']

/-- The class types that a parameter list declares, in order, as they are written. -/
def writtenTypes (parameters : List Char) : List WrittenType :=
  go [] 0 parameters
where
  /-- Goes on after `skip` more characters; `lead` is the name that stands before the next
  one. -/
  go : (lead : List Char) → Nat → List Char → List WrittenType
    | _, _, [] => []
    | lead, skip + 1, c :: rest => go (extend lead c) skip rest
    | lead, 0, c :: rest =>
      match readParameter (c :: rest) with
      | some (type, left) =>
        { lead, name := String.ofList type } ::
          go (extend lead c) (rest.length - left.length) rest
      | none => go (extend lead c) 0 rest
  /-- The name before the next character. -/
  extend (lead : List Char) (c : Char) : List Char :=
    if isNameChar c then lead ++ [c] else []

/-- What is read of the written types are the declared types. -/
theorem map_name_writtenTypes (parameters : List Char) :
    (writtenTypes parameters).map (·.name) = parameterTypes parameters := by
  have general : ∀ (text lead : List Char) (skip : Nat),
      (writtenTypes.go lead skip text).map (·.name) =
        (findAll.go readParameter skip text).map String.ofList := by
    intro text
    induction text with
    | nil => simp [writtenTypes.go, findAll.go]
    | cons c rest ih =>
      intro lead skip
      cases skip with
      | succ skip => simp only [writtenTypes.go, findAll.go, ih]
      | zero =>
        simp only [writtenTypes.go, findAll.go]
        cases readParameter (c :: rest) with
        | none => exact ih _ _
        | some found => simp only [List.map_cons, ih]
  exact general parameters [] 0

/-- What is read as a type starts with a capital and goes on with type characters. -/
theorem type_of_readParameter {text type rest : List Char}
    (read : readParameter text = some (type, rest)) :
    ∃ first others, type = first :: others ∧ first.isUpper = true ∧
      ∀ c ∈ others, isTypeChar c = true := by
  simp only [readParameter, Option.bind_eq_bind, Option.bind_eq_some_iff] at read
  obtain ⟨inside, started, ⟨run, left⟩, ran, _, _, _, _, ⟨_, _⟩, _, same⟩ := read
  obtain ⟨first, upper, rfl⟩ := after?_eq_some_iff.1 started
  have whole : inside = run ++ left := append_of_run? ran
  refine ⟨first, run, ?_, upper, accepts_of_run? ran⟩
  simp only [Option.some.injEq, Prod.mk.injEq] at same
  have length : (first :: inside).length - left.length = (first :: run).length := by
    simp only [whole, List.length_cons, List.length_append]
    omega
  rw [← same.1, length, whole, ← List.cons_append, List.take_left]

/-- A capital is a type character. -/
theorem isTypeChar_of_isUpper {c : Char} (upper : c.isUpper = true) : isTypeChar c = true := by
  have alpha : c.isAlpha = (c.isUpper || c.isLower) := rfl
  simp [isTypeChar, Char.isAlphanum, alpha, upper]

/-- No type character is blank. -/
theorem isBlank_of_isTypeChar {c : Char} (accepted : isTypeChar c = true) : isBlank c = false := by
  have either : isAsciiWord c = true ∨ c = '\\' := by simpa [isTypeChar, isAsciiWord] using accepted
  rcases either with word | rfl
  · have bounds := toNat_of_isAsciiWord word
    exact isBlank_of_toNat (by omega) (by omega)
  · decide

/-- A class type that is read is its own canonical form. -/
theorem canonical_of_mem_parameterTypes {parameters : List Char} {declared : String}
    (member : declared ∈ parameterTypes parameters) : ClassId.canonical declared = declared := by
  obtain ⟨type, found, rfl⟩ := List.mem_map.1 member
  obtain ⟨_, _, read⟩ := read_of_mem_findAll found
  obtain ⟨first, others, rfl, upper, accepted⟩ := type_of_readParameter read
  have plain : ∀ c ∈ first :: others, isBlank c = false := by
    intro c member
    rcases List.mem_cons.1 member with rfl | later
    · exact isBlank_of_isTypeChar (isTypeChar_of_isUpper upper)
    · exact isBlank_of_isTypeChar (accepted c later)
  have noMark : (first == '?') = false := by
    rw [beq_eq_false_iff_ne]
    rintro rfl
    cases upper
  have noSlash : (first == ClassId.separator) = false := by
    rw [beq_eq_false_iff_ne]
    rintro rfl
    cases upper
  rw [ClassId.canonical, ClassId.canonicalChars, String.toList_ofList, trim_eq_self plain]
  simp [noMark, noSlash]

end EventAtlas.Source
