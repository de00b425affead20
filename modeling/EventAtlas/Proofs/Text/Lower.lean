import EventAtlas.Proofs.Text.Reader
import EventAtlas.Text.Fold
import EventAtlas.Text.Lower
import Mathlib.Data.List.Basic

/-!
# Lower case of ASCII texts

Beyond ASCII, lower case leads to ASCII only from the Kelvin sign and from the capital I with a dot.
So a text whose lower case is an ASCII text without `k` and `i` is this text in some case.
-/

namespace EventAtlas.Text

/-- The small forms beyond ASCII are characters, and but for that of the Kelvin sign they are no
ASCII letters. -/
theorem isValidChar_of_small? {run : CapitalRun} (listed : run ∈ capitalRuns) {code small : Nat}
    (found : run.small? code = some small) :
    small.isValidChar ∧ (128 ≤ small ∨ small = 'k'.toNat) := by
  have bounds : ∀ run ∈ capitalRuns,
      (128 ≤ run.small ∨ run.small = 'k'.toNat ∧ run.first = run.last) ∧
      (run.small + (run.last - run.first) < 0xd800 ∨
        0xdfff < run.small ∧ run.small + (run.last - run.first) < 0x110000) := by
    decide +kernel
  obtain ⟨low, high⟩ := bounds run listed
  unfold CapitalRun.small? at found
  split at found
  · next inside =>
    obtain rfl := Option.some.inj found
    refine ⟨?_, ?_⟩
    · rcases high with below | ⟨above, below⟩
      · exact .inl (by omega)
      · exact .inr ⟨by omega, by omega⟩
    · rcases low with wide | ⟨kelvin, single⟩
      · exact .inl (by omega)
      · exact .inr (by omega)
  · cases found

/-- The lower case of a character beyond ASCII starts with a character beyond ASCII, with `k` or
with `i`. -/
theorem exists_lowerChar_eq_cons {c : Char} (wide : 128 ≤ c.toNat) :
    ∃ d rest, lowerChar c = d :: rest ∧ (128 ≤ d.toNat ∨ d = 'k' ∨ d = 'i') := by
  unfold lowerChar
  rw [if_neg (Nat.not_lt.2 wide)]
  split
  · exact ⟨_, _, rfl, .inr (.inr rfl)⟩
  · split
    · next small found =>
      obtain ⟨run, listed, found⟩ := List.exists_of_findSome?_eq_some found
      obtain ⟨valid, far | kelvin⟩ := isValidChar_of_small? listed found
      · refine ⟨_, _, rfl, .inl ?_⟩
        rwa [Char.ofNat, dif_pos valid]
      · exact ⟨_, _, rfl, .inr (.inl (by rw [kelvin, Char.ofNat_toNat]))⟩
    · exact ⟨c, [], rfl, .inl wide⟩

/-- Only the empty text has an empty lower case. -/
theorem lower_eq_nil_iff {text : List Char} : lower text = [] ↔ text = [] := by
  cases text with
  | nil => simp [lower]
  | cons c rest =>
    simp only [lower, List.flatMap_cons, List.append_eq_nil_iff, reduceCtorEq, iff_false, not_and]
    intro none
    by_cases wide : 128 ≤ c.toNat
    · obtain ⟨_, _, lowered, -⟩ := exists_lowerChar_eq_cons wide
      cases lowered.symm.trans none
    · rw [lowerChar, if_pos (Nat.lt_of_not_le wide)] at none
      cases none

/-- Beyond ASCII, no character has another case in ASCII. -/
theorem toLower_of_wide {c : Char} (wide : 128 ≤ c.toNat) : c.toLower = c := by
  unfold Char.toLower
  split
  · next capital =>
    have small : c.toNat ≤ 90 := capital.2
    omega
  · rfl

/-- The lower case of a character that counts as one of ASCII has that character, and otherwise
only characters beyond ASCII. -/
theorem eq_foldCase_or_of_mem_lowerChar {c d : Char} (ascii : (foldCase c).toNat < 128)
    (member : d ∈ lowerChar c) : d = foldCase c ∨ 128 ≤ d.toNat := by
  revert d
  unfold foldCase at ascii ⊢
  split
  · next same =>
    subst same
    decide +kernel
  · split
    · next same =>
      subst same
      decide +kernel
    · split
      · next either =>
        rcases either with rfl | rfl <;> decide +kernel
      · next notLong notKelvin notDotted =>
        rw [if_neg notLong, if_neg notKelvin, if_neg notDotted] at ascii
        have small : c.toNat < 128 := by
          by_contra large
          rw [toLower_of_wide (Nat.le_of_not_lt large)] at ascii
          exact large ascii
        simp [lowerChar, small]

/-- The lower case of a text is an ASCII text without `k` and `i` exactly if the text is made of
the letters of that text in some case. -/
theorem lower_eq_iff {small text : List Char}
    (ascii : ∀ c ∈ small, c.toNat < 128 ∧ c ≠ 'k' ∧ c ≠ 'i') :
    lower text = small ↔ text.map Char.toLower = small := by
  induction text generalizing small with
  | nil => rfl
  | cons c rest ih =>
    by_cases wide : 128 ≤ c.toNat
    · obtain ⟨d, others, lowered, far⟩ := exists_lowerChar_eq_cons wide
      rw [lower, List.flatMap_cons, lowered, List.map_cons, toLower_of_wide wide]
      constructor
      · rintro rfl
        obtain ⟨low, noK, noI⟩ := ascii d List.mem_cons_self
        exact absurd far (by simp [noK, noI, low])
      · rintro rfl
        exact absurd (ascii c List.mem_cons_self).1 (Nat.not_lt.2 wide)
    · have lowered : lowerChar c = [c.toLower] := by
        rw [lowerChar, if_pos (Nat.lt_of_not_le wide)]
      rw [lower, List.flatMap_cons, lowered, List.map_cons, List.singleton_append]
      cases small with
      | nil => simp
      | cons s others =>
        rw [List.cons.injEq, List.cons.injEq]
        exact and_congr_right fun _ => ih fun c member => ascii c (List.mem_cons_of_mem _ member)

end EventAtlas.Text
