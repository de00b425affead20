import EventAtlas.Proofs.Api.SdkCall
import EventAtlas.Proofs.Text.Lower

/-!
# Calls and the words that they are noted in

The words of a call count in any case, and a call is noted in lower case. The two do not agree on
three characters that count as a letter: the long s and the dotless i are their own lower case, and
that of the capital I with a dot ends in a combining dot. So what is noted is in the words of the
client library exactly if the call is written in ASCII. The words that are meant can always be read
from it.
-/

namespace EventAtlas

open Text

namespace Text

variable {c : Char} {word piece : List Char}

/-- A character that counts as one of ASCII is one, or one of the four beyond. -/
theorem mem_sharedLetters_of_wide (ascii : (foldCase c).toNat < 128) (wide : 128 ≤ c.toNat) :
    c ∈ sharedLetters := by
  by_contra other
  rw [foldCase_eq_toLower other, toLower_of_wide wide] at ascii
  omega

/-- The lower case of a character of ASCII is what it counts as. -/
theorem lowerChar_of_ascii (ascii : c.toNat < 128) : lowerChar c = [foldCase c] := by
  have other : c ∉ sharedLetters := by
    have wide : ∀ d ∈ sharedLetters, 128 ≤ d.toNat := by decide
    exact fun shared => absurd (wide c shared) (by omega)
  rw [lowerChar, if_pos ascii, foldCase_eq_toLower other]

/-- But for the Kelvin sign, the lower case of those beyond ASCII does not stay within it. -/
theorem exists_wide_of_shared (shared : c ∈ sharedLetters) (other : foldCase c ≠ 'k') :
    ∃ d ∈ lowerChar c, 128 ≤ d.toNat := by
  have checked : ∀ c ∈ sharedLetters, foldCase c ≠ 'k' →
      (lowerChar c).any (fun d => decide (128 ≤ d.toNat)) = true := by
    decide +kernel
  obtain ⟨d, lowered, wide⟩ := List.any_eq_true.1 (checked c shared other)
  exact ⟨d, lowered, of_decide_eq_true wide⟩

/-- The letters of a text in lower case, told from what they count as. The combining dot, which is
what the capital I with a dot has besides its letter, is left out. -/
def letters (lowered : List Char) : List Char :=
  (lowered.filter (· ≠ '\u0307')).map foldCase

/-- A word in small letters of ASCII, none of which is `k`. -/
def IsSmall (word : List Char) : Prop :=
  ∀ w ∈ word, w.toNat < 128 ∧ w ≠ 'k' ∧ foldCase w = w

instance : Decidable (IsSmall word) :=
  inferInstanceAs (Decidable (∀ w ∈ word, _))

/-- Letters are told character by character. -/
theorem letters_lowerChar (ascii : (foldCase c).toNat < 128)
    (small : foldCase (foldCase c) = foldCase c) : letters (lowerChar c) = [foldCase c] := by
  by_cases wide : 128 ≤ c.toNat
  · have checked : ∀ c ∈ sharedLetters, letters (lowerChar c) = [foldCase c] := by decide +kernel
    exact checked c (mem_sharedLetters_of_wide ascii wide)
  · have kept : foldCase c ≠ '\u0307' := by
      intro same
      rw [same] at ascii
      exact absurd ascii (by decide)
    rw [lowerChar_of_ascii (by omega), letters]
    simp [kept, small]

/-- The word that a piece spells can be read from the lower case of the piece. -/
theorem Spells.letters_lower (spells : Spells word piece) (small : IsSmall word) :
    letters (lower piece) = word := by
  subst spells
  induction piece with
  | nil => rfl
  | cons c piece ih =>
    have first := small (foldCase c) (by simp)
    have others := ih fun w member => small w (List.mem_cons_of_mem _ member)
    have here := letters_lowerChar first.1 first.2.2
    rw [lower, letters] at others
    rw [letters] at here
    rw [letters, lower, List.flatMap_cons, List.filter_append, List.map_append, here, others,
      List.map_cons, List.singleton_append]

/-- The lower case of a piece stays within ASCII exactly if the piece is written in ASCII. -/
theorem Spells.lower_ascii_iff (spells : Spells word piece) (small : IsSmall word) :
    (∀ d ∈ lower piece, d.toNat < 128) ↔ ∀ c ∈ piece, c.toNat < 128 := by
  constructor
  · intro ascii c member
    by_contra wide
    have counted := small _ (spells.foldCase_mem member)
    have shared := mem_sharedLetters_of_wide counted.1 (Nat.le_of_not_lt wide)
    obtain ⟨d, lowered, far⟩ := exists_wide_of_shared shared counted.2.1
    have near := ascii d (List.mem_flatMap.2 ⟨c, member, lowered⟩)
    omega
  · intro ascii d lowered
    obtain ⟨c, member, here⟩ := List.mem_flatMap.1 lowered
    rw [lowerChar_of_ascii (ascii c member), List.mem_singleton] at here
    exact here ▸ (small _ (spells.foldCase_mem member)).1

/-- The lower case of a piece that is written in ASCII is the word that it spells. -/
theorem Spells.lower_eq (spells : Spells word piece) (ascii : ∀ c ∈ piece, c.toNat < 128) :
    lower piece = word := by
  subst spells
  induction piece with
  | nil => rfl
  | cons c piece ih =>
    have others := ih fun d member => ascii d (List.mem_cons_of_mem _ member)
    rw [lower] at others
    rw [lower, List.flatMap_cons, lowerChar_of_ascii (ascii c (by simp)), others, List.map_cons,
      List.singleton_append]

end Text

namespace SdkCall

/-- How a call of an action on a resource is noted. -/
def noted (resource action : String) : String :=
  resource ++ "::" ++ action

/-- A call that is noted in the words of the client library. -/
def InVocabulary (call : String) : Prop :=
  ∃ resource ∈ resources, ∃ action ∈ actions, call = noted resource action

instance (call : String) : Decidable (InVocabulary call) :=
  inferInstanceAs (Decidable (∃ resource ∈ resources, ∃ action ∈ actions, _))

/-- The call that is meant by a noted one. -/
def meant (call : String) : String :=
  String.ofList (letters call.toList)

/-- The words of the client library are small. -/
theorem isSmall_of_mem {word : String} (listed : word ∈ resources ++ actions) :
    IsSmall word.toList := by
  have checked : ∀ word ∈ resources ++ actions, IsSmall word.toList := by decide
  exact checked word listed

/-- So are the calls of its vocabulary. -/
theorem InVocabulary.ascii {call : String} (known : InVocabulary call) :
    ∀ c ∈ call.toList, c.toNat < 128 := by
  have checked : ∀ resource ∈ resources, ∀ action ∈ actions,
      ∀ c ∈ (noted resource action).toList, c.toNat < 128 := by decide
  obtain ⟨resource, named, action, acted, rfl⟩ := known
  exact checked resource named action acted

/-- What is noted of a call is made of the lower case of its words. -/
theorem toList_signature (resource action : List Char) :
    (signature resource action).toList = lower resource ++ [':', ':'] ++ lower action := by
  rw [signature, String.toList_ofList]

/-- The call that is meant can be read from what is noted of it. -/
theorem meant_signature {named acted : String} {resource action : List Char}
    (spells : Spells named.toList resource) (spells' : Spells acted.toList action)
    (small : IsSmall named.toList) (small' : IsSmall acted.toList) :
    meant (signature resource action) = noted named acted := by
  have mark : letters [':', ':'] = [':', ':'] := by decide
  have parted : letters (lower resource ++ [':', ':'] ++ lower action) =
      letters (lower resource) ++ letters [':', ':'] ++ letters (lower action) := by
    simp [letters]
  rw [meant, toList_signature, parted, spells.letters_lower small, mark,
    spells'.letters_lower small', noted, ← String.toList_inj]
  simp

/-- A call is noted in the words of the client library exactly if it is written in ASCII. -/
theorem inVocabulary_signature_iff {named acted : String} {resource action : List Char}
    (listed : named ∈ resources) (listed' : acted ∈ actions)
    (spells : Spells named.toList resource) (spells' : Spells acted.toList action) :
    InVocabulary (signature resource action) ↔ ∀ c ∈ resource ++ action, c.toNat < 128 := by
  have small := isSmall_of_mem (List.mem_append_left actions listed)
  have small' := isSmall_of_mem (List.mem_append_right resources listed')
  constructor
  · intro known
    have ascii := known.ascii
    rw [toList_signature] at ascii
    have first := (spells.lower_ascii_iff small).1 fun d member => ascii d (by simp [member])
    have second := (spells'.lower_ascii_iff small').1 fun d member => ascii d (by simp [member])
    intro c member
    exact (List.mem_append.1 member).elim (first c) (second c)
  · intro ascii
    refine ⟨named, listed, acted, listed', ?_⟩
    rw [← String.toList_inj, toList_signature,
      spells.lower_eq fun c member => ascii c (List.mem_append_left _ member),
      spells'.lower_eq fun c member => ascii c (List.mem_append_right _ member), noted]
    simp

/-- What is found is noted for the calls that stand in the source, each with a resource and an action
of the client library. They can be read from what is noted, and that is in the words of the library
exactly if the call is written in ASCII. -/
theorem noted_in_vocabulary_iff (source call : String) : call ∈ detect source ↔
    ∃ resource action, StandsIn source resource action ∧ call = signature resource action ∧
      (∃ named ∈ resources, ∃ acted ∈ actions, Spells named.toList resource ∧
        Spells acted.toList action ∧ meant call = noted named acted) ∧
      (InVocabulary call ↔ ∀ c ∈ resource ++ action, c.toNat < 128) := by
  constructor
  · intro found
    obtain ⟨resource, action, stands, rfl⟩ := mem_detect_iff.1 found
    obtain ⟨_, _, _, -, writes⟩ := id stands
    obtain ⟨-, ⟨named, listed, spells⟩, ⟨acted, listed', spells'⟩, -, -, -, -⟩ := writes
    have known := meant_signature spells spells'
      (isSmall_of_mem (List.mem_append_left actions listed))
      (isSmall_of_mem (List.mem_append_right resources listed'))
    exact ⟨resource, action, stands, rfl,
      ⟨named, listed, acted, listed', spells, spells', known⟩,
      inVocabulary_signature_iff listed listed' spells spells'⟩
  · rintro ⟨resource, action, stands, same, -⟩
    exact mem_detect_iff.2 ⟨resource, action, stands, same⟩

/-- A source with a call that is written with a long s. -/
def longText : String :=
  "$c->payment\u017f->create($d);"

/-- Its call is noted with the long s. The words of a call of the library are read from it, but it
is not written in ASCII. -/
theorem noted_in_vocabulary_iff_long :
    "payment\u017f::create" ∈ detect longText ∧
      ∃ resource action, StandsIn longText resource action ∧
        (∃ named ∈ resources, ∃ acted ∈ actions,
          meant "payment\u017f::create" = noted named acted) ∧
        ¬ ∀ c ∈ resource ++ action, c.toNat < 128 := by
  have found : "payment\u017f::create" ∈ detect longText := by decide +kernel
  have outside : ¬ InVocabulary "payment\u017f::create" := by decide +kernel
  obtain ⟨resource, action, stands, -, ⟨named, listed, acted, listed', -, -, read⟩, known⟩ :=
    (noted_in_vocabulary_iff longText _).1 found
  exact ⟨found, resource, action, stands, ⟨named, listed, acted, listed', read⟩,
    fun ascii => outside (known.2 ascii)⟩

/-- So not every call is noted in the words of the library. -/
theorem call_outside_vocabulary :
    ¬ ∀ source, ∀ call ∈ detect source, InVocabulary call := by
  intro all
  have found : "payment\u017f::create" ∈ detect longText := by decide +kernel
  exact absurd (all longText _ found) (by decide +kernel)

end SdkCall

end EventAtlas
