import EventAtlas.Text.Halves
import Mathlib.Data.List.TakeWhile

/-!
# Texts that can be encoded

A text has bytes exactly if none of its characters stands for a half of a surrogate pair, and then
they are those of its characters.
-/

namespace EventAtlas.Text.Halves

variable {halves : Halves} {text : String}

/-- A text can be encoded if none of its characters stands for a half. -/
def Encodable (halves : Halves) (text : String) : Prop :=
  ∀ c ∈ text.toList, halves c = .none

/-- There are no first halves exactly if there are none. -/
theorem firstRun?_eq_none_iff {text : List Char} :
    halves.firstRun? text = .none ↔ ∀ c ∈ text, halves c = .none := by
  unfold firstRun?
  split
  · next whole => simpa [List.dropWhile_eq_nil_iff] using whole
  · next c rest parted =>
    have head : (halves c).isNone = false := by
      simpa [parted] using List.head?_dropWhile_not (fun c => (halves c).isNone) text
    have member : c ∈ text := (List.dropWhile_sublist _).subset (parted ▸ List.mem_cons_self ..)
    simp only [Option.map_eq_none_iff]
    constructor
    · intro none
      simp [none] at head
    · exact fun all => all c member

/-- The bytes of a text are those of its characters, if it can be encoded. -/
theorem encode_eq_ok_iff {content : Bytes} :
    halves.encode text = .ok content ↔ halves.Encodable text ∧ content = Utf8.encode text := by
  unfold encode Encodable
  rw [← firstRun?_eq_none_iff]
  cases halves.firstRun? text.toList <;> simp [eq_comm]

/-- Where no character stands for a half, every text can be encoded. -/
theorem encodable_none (text : String) : none.Encodable text :=
  fun _ _ => rfl

end EventAtlas.Text.Halves
