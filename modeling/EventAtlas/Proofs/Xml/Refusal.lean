import EventAtlas.Proofs.Result
import EventAtlas.Xml.Document

/-!
# Encodings that are refused

Whether the encoding of a document is refused is settled by its declaration alone: by the name that
stands there, as it reads in the encoding that the first bytes point to. What follows the
declaration is not looked at any more.
-/

namespace EventAtlas.Xml

namespace Encoding

/-- The names of the encodings that need no looking up, in capital letters. -/
def builtInNames : List String :=
  ["UTF-8", "ISO-8859-1", "US-ASCII", "UTF-16", "UTF-16BE", "UTF-16LE"]

/-- A declared name has to be looked up. -/
def IsForeign (name : String) : Prop :=
  String.ofList (name.toList.map Char.toUpper) ∉ builtInNames

instance (name : String) : Decidable (IsForeign name) :=
  inferInstanceAs (Decidable (String.ofList (name.toList.map Char.toUpper) ∉ builtInNames))

variable {detected : Encoding} {name : String}

/-- An encoding that needs no looking up is followed or contradicts the bytes. -/
theorem choose_of_builtIn (detected : Encoding) (builtIn : ¬ IsForeign name) :
    choose detected name = .contradicted ∨ ∃ encoding, choose detected name = .go encoding := by
  have sameWidth (declared : Encoding) (condition : Prop) [Decidable condition] :
      (if condition then Choice.go declared else .contradicted) = .contradicted ∨
        ∃ encoding, (if condition then Choice.go declared else .contradicted) = .go encoding := by
    split
    · exact .inr ⟨_, rfl⟩
    · exact .inl rfl
  rw [IsForeign, not_not] at builtIn
  simp only [builtInNames, List.mem_cons, List.not_mem_nil, or_false] at builtIn
  rcases builtIn with same | same | same | same | same | same <;>
    rw [choose, same] <;> exact sameWidth _ _

/-- A foreign name leads where looking it up leads. -/
theorem choose_of_isForeign (foreign : IsForeign name) :
    choose detected name = match Charset.find name with
      | .single high => .go (.single high)
      | .alien => .contradicted
      | .refused fault => .refused fault := by
  simp only [IsForeign, builtInNames, List.mem_cons, List.not_mem_nil, or_false, not_or] at foreign
  obtain ⟨utf8, latin1, ascii, utf16, utf16be, utf16le⟩ := foreign
  unfold choose
  split
  · next same => exact absurd same utf8
  · next same => exact absurd same latin1
  · next same => exact absurd same ascii
  · next same => exact absurd same utf16
  · next same => exact absurd same utf16be
  · next same => exact absurd same utf16le
  · rfl

/-- An encoding is refused exactly if its name is foreign and looking it up finds a fault. -/
theorem choose_eq_refused_iff {fault : EncodingFault} :
    choose detected name = .refused fault ↔
      IsForeign name ∧ Charset.find name = .refused fault := by
  by_cases foreign : IsForeign name
  · rw [choose_of_isForeign foreign]
    cases Charset.find name <;> simp [foreign]
  · rcases choose_of_builtIn detected foreign with same | ⟨encoding, same⟩ <;>
      simp [same, foreign]

end Encoding

namespace Document

/-- The encoding that a document declares, as its declaration reads in the encoding that the first
bytes point to. -/
def declaredEncoding? (bytes : Text.Bytes) : Option String :=
  let (detected, body) := Encoding.detect bytes
  match Declaration.read (readable (detected.decode body)) with
  | .ok (some (declaration, _)) => declaration.encoding
  | _ => none

/-- The declared encoding of a document is refused for a fault. -/
structure Refuses (bytes : Text.Bytes) (name : String) (fault : EncodingFault) : Prop where
  declared : declaredEncoding? bytes = some name
  foreign : Encoding.IsForeign name
  found : Charset.find name = .refused fault

variable {bytes : Text.Bytes} {fault : EncodingFault}

/-- The encoding for a declared name is refused where looking it up finds a fault. -/
theorem encodingFor_eq_error_iff {detected : Encoding} {declared : Option String} :
    encodingFor detected declared = .error (.encoding fault) ↔ ∃ name, declared = some name ∧
      Encoding.choose detected name = .refused fault := by
  cases declared with
  | none => simp [encodingFor]
  | some name =>
    simp only [encodingFor, Option.some.injEq, exists_eq_left']
    cases Encoding.choose detected name <;> simp

/-- A document is refused for its encoding exactly if its declaration refuses it. -/
theorem parse_eq_error_iff :
    parse bytes = .error (.encoding fault) ↔ ∃ name, Refuses bytes name fault := by
  have decoded : decode bytes = .error (.encoding fault) ↔ ∃ name, Refuses bytes name fault := by
    have refuses (name : String) : Refuses bytes name fault ↔
        declaredEncoding? bytes = some name ∧
          Encoding.choose (Encoding.detect bytes).1 name = .refused fault := by
      rw [Encoding.choose_eq_refused_iff]
      exact ⟨fun ⟨declared, foreign, found⟩ => ⟨declared, foreign, found⟩,
        fun ⟨declared, foreign, found⟩ => ⟨declared, foreign, found⟩⟩
    simp only [refuses, ← encodingFor_eq_error_iff, decode, declaredEncoding?]
    obtain ⟨detected, body⟩ := Encoding.detect bytes
    simp only [bind_eq_error_iff]
    cases Declaration.read (readable (detected.decode body)) with
    | error other => simp [Except.mapError, encodingFor]
    | ok declaration =>
      simp only [Except.mapError, reduceCtorEq, false_or, Except.ok.injEq, exists_eq_left']
      -- Bytes that make no character come to light only after the encoding was found.
      cases declaration <;>
      · refine or_iff_left ?_
        rintro ⟨encoding, -, failed⟩
        dsimp only at failed
        split at failed
        · cases failed
        · cases failed
  rw [parse, bind_eq_error_iff, decoded]
  refine or_iff_left ?_
  rintro ⟨document, -, failed⟩
  split at failed
  · cases failed
  · cases failed

end Document

end EventAtlas.Xml
