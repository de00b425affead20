import EventAtlas.Flow.Slug
import EventAtlas.Proofs.Text.Keyword
import EventAtlas.Proofs.Text.Lower

/-!
# What slugs are made of

A slug has no characters but ASCII small letters, digits and underscores, whatever the label is. It
keeps the letters and digits of the label's lower-case form, and between two of them there is an
underscore exactly if the form has something else there. No two underscores stand side by side, so
there is nothing left to collapse in a slug and it is its own slug.
-/

namespace EventAtlas.Flow

variable {inGap : Bool} {text : List Char} {c : Char}

/-- A character that identifiers are made of: one that slugs keep, or an underscore. -/
def isIdChar (c : Char) : Bool :=
  isSlugChar c || c == '_'

/-- Collapsing leaves nothing but kept characters and underscores. -/
theorem isIdChar_of_mem_collapse (member : c ∈ collapse inGap text) : isIdChar c = true := by
  induction text generalizing inGap with
  | nil => simp [collapse] at member
  | cons first rest ih =>
    rw [collapse] at member
    split at member
    · next kept =>
      rcases List.mem_cons.1 member with rfl | later
      · simp [isIdChar, kept]
      · exact ih later
    · split at member
      · exact ih member
      · rcases List.mem_cons.1 member with rfl | later
        · simp [isIdChar]
        · exact ih later

/-- A slug is made of kept characters and underscores. -/
theorem isIdChar_of_mem_slug {label : String} (member : c ∈ (slug label).toList) :
    isIdChar c = true := by
  rw [slug, String.toList_ofList] at member
  exact isIdChar_of_mem_collapse member

/-! ### Lower case -/

/-- Slugs keep the small letters and the digits of ASCII. -/
theorem isSlugChar_eq (c : Char) : isSlugChar c = (c.isLower || c.isDigit) := rfl

/-- Among characters that are no capitals, slugs keep the letters and digits of ASCII. -/
theorem isSlugChar_eq_isAlphanum (small : c.isUpper = false) : isSlugChar c = c.isAlphanum := by
  have alphanum : c.isAlphanum = (c.isUpper || c.isLower || c.isDigit) := rfl
  rw [isSlugChar_eq, alphanum, small, Bool.false_or]

/-- No character is a capital in lower case. -/
theorem isUpper_of_mem_lower (member : c ∈ Text.lower text) : c.isUpper = false := by
  obtain ⟨d, -, member⟩ := List.mem_flatMap.1 member
  refine Bool.eq_false_iff.2 fun capital => ?_
  have bounds := Text.toNat_of_isUpper capital
  unfold Text.lowerChar at member
  split at member
  · obtain rfl := List.mem_singleton.1 member
    by_cases capital' : d.isUpper = true
    · have before := Text.toNat_of_isUpper capital'
      have moved := Text.toNat_toLower_of_isUpper capital'
      omega
    · exact capital' (Text.toLower_eq_self capital' ▸ capital)
  · split at member
    · have apart : ∀ c ∈ ['i', '\u0307'], c.isUpper = false := by decide
      exact absurd capital (by simp [apart c member])
    · split at member
      · next wide _ small found =>
        obtain ⟨run, listed, found⟩ := List.exists_of_findSome?_eq_some found
        obtain ⟨valid, range⟩ := Text.isValidChar_of_small? listed found
        have same : c.toNat = small := by
          rw [List.mem_singleton.1 member, Char.ofNat, dif_pos valid]
          rfl
        have kelvin : 'k'.toNat = 107 := rfl
        omega
      · obtain rfl := List.mem_singleton.1 member
        omega

/-- The code points of what identifiers are made of. -/
theorem toNat_of_isIdChar (idChar : isIdChar c = true) : 90 < c.toNat ∧ c.toNat < 128 ∨
    c.toNat < 65 := by
  simp only [isIdChar, isSlugChar, Bool.or_eq_true, Bool.and_eq_true, decide_eq_true_eq,
    Char.le_def, UInt32.le_iff_toNat_le, beq_iff_eq] at idChar
  rcases idChar with (⟨above, below⟩ | ⟨-, below⟩) | rfl
  · exact .inl ⟨lt_of_lt_of_le (by decide) above, lt_of_le_of_lt below (by decide)⟩
  · exact .inr (lt_of_le_of_lt below (by decide))
  · exact .inl (by decide)

/-- What identifiers are made of is in lower case. -/
theorem lowerChar_of_isIdChar (idChar : isIdChar c = true) : Text.lowerChar c = [c] := by
  have bounds := toNat_of_isIdChar idChar
  have other : ¬ c.isUpper = true := fun capital => by
    have inside := Text.toNat_of_isUpper capital
    omega
  rw [Text.lowerChar, if_pos (by omega), Text.toLower_eq_self other]

/-! ### Collapsing -/

/-- The characters that are kept stay in their order. -/
theorem filter_collapse (inGap : Bool) (text : List Char) :
    (collapse inGap text).filter isSlugChar = text.filter isSlugChar := by
  have mark : isSlugChar '_' = false := rfl
  induction text generalizing inGap with
  | nil => rfl
  | cons first rest ih =>
    rw [collapse]
    split
    · next kept => rw [List.filter_cons_of_pos kept, List.filter_cons_of_pos kept, ih]
    · next other =>
      rw [List.filter_cons_of_neg other]
      split
      · exact ih true
      · rw [List.filter_cons_of_neg (by simp [mark]), ih]

/-- A kept character parts a text: what comes before it and after it is collapsed by itself. -/
theorem collapse_append_cons (kept : isSlugChar c = true) (inGap : Bool)
    (before after : List Char) : collapse inGap (before ++ c :: after) =
      collapse inGap before ++ c :: collapse false after := by
  induction before generalizing inGap with
  | nil => simp only [List.nil_append, collapse, if_pos kept]
  | cons first rest ih =>
    rw [List.cons_append, collapse, collapse]
    split
    · rw [ih, List.cons_append]
    · split
      · exact ih true
      · rw [ih, List.cons_append]

/-- An underscore comes of what is not kept, and only of that. -/
theorem underscore_mem_collapse_iff :
    '_' ∈ collapse false text ↔ ∃ c ∈ text, isSlugChar c = false := by
  induction text with
  | nil => simp [collapse]
  | cons first rest ih =>
    rw [collapse]
    split
    · next kept =>
      have apart : '_' ≠ first := by
        rintro rfl
        cases kept
      simp [apart, ih, kept]
    · next other => simp [other]

/-- Nothing comes of nothing only. -/
theorem collapse_eq_nil_iff : collapse false text = [] ↔ text = [] := by
  cases text with
  | nil => simp [collapse]
  | cons first rest =>
    rw [collapse]
    split <;> simp

/-- What is left of a stretch that already has its underscore brings no other one, and no two of
them stand side by side. -/
theorem collapse_single (inGap : Bool) (text : List Char) :
    (inGap = true → (collapse inGap text).head? ≠ some '_') ∧
      ¬ ['_', '_'] <:+: collapse inGap text := by
  induction text generalizing inGap with
  | nil => simp [collapse]
  | cons first rest ih =>
    rw [collapse]
    split
    · next kept =>
      have apart : first ≠ '_' := by
        rintro rfl
        cases kept
      refine ⟨fun _ => by simp [apart], fun double => ?_⟩
      rcases List.infix_cons_iff.1 double with front | later
      · exact apart (List.cons_prefix_cons.1 front).1.symm
      · exact (ih false).2 later
    · split
      · next gap => exact ⟨fun _ => (ih true).1 rfl, (ih true).2⟩
      · next start =>
        refine ⟨fun gap => absurd gap start, fun double => ?_⟩
        rcases List.infix_cons_iff.1 double with front | later
        · obtain ⟨_, again⟩ := (List.cons_prefix_cons.1 front).2
          exact (ih true).1 rfl (by rw [← again]; rfl)
        · exact (ih true).2 later

/-- Where there is nothing to collapse, a text stays as it is. -/
theorem collapse_eq_self (made : ∀ c ∈ text, isIdChar c = true)
    (begins : inGap = true → text.head? ≠ some '_') (single : ¬ ['_', '_'] <:+: text) :
    collapse inGap text = text := by
  induction text generalizing inGap with
  | nil => rfl
  | cons first rest ih =>
    have later : ¬ ['_', '_'] <:+: rest := fun double => single (List.infix_cons double)
    have made' : ∀ c ∈ rest, isIdChar c = true := fun c member =>
      made c (List.mem_cons_of_mem _ member)
    rw [collapse]
    split
    · rw [ih made' (fun gap => absurd gap Bool.false_ne_true) later]
    · next other =>
      obtain rfl : first = '_' := by
        have idChar := made first List.mem_cons_self
        simpa [isIdChar, other] using idChar
      rw [if_neg fun gap => begins gap rfl, ih made' (fun _ starts => ?_) later]
      obtain ⟨rest, rfl⟩ := List.head?_eq_some_iff.1 starts
      exact single ⟨[], rest, rfl⟩

/-! ### Slugs -/

/-- What a slug tells of its label. -/
structure Normal (label slug : String) : Prop where
  made : ∀ c ∈ slug.toList, c.isLower = true ∨ c.isDigit = true ∨ c = '_'
  single : ¬ ['_', '_'] <:+: slug.toList
  eq_empty_iff : slug = "" ↔ label = ""
  /-- The letters and digits of ASCII are those of the label in lower case, in their order. -/
  kept : slug.toList.filter Char.isAlphanum = (Text.lower label.toList).filter Char.isAlphanum
  /-- For any two of them, the slug has the same letters and digits before, between and after them,
  and an underscore between them exactly if there is something else between them in the label. -/
  parted : ∀ before first between second after,
    Text.lower label.toList = before ++ first :: between ++ second :: after →
    first.isAlphanum = true → second.isAlphanum = true →
    ∃ before' between' after',
      slug.toList = before' ++ first :: between' ++ second :: after' ∧
      before'.filter Char.isAlphanum = before.filter Char.isAlphanum ∧
      between'.filter Char.isAlphanum = between.filter Char.isAlphanum ∧
      after'.filter Char.isAlphanum = after.filter Char.isAlphanum ∧
      ('_' ∈ between' ↔ ∃ c ∈ between, c.isAlphanum = false)

/-- The letters and digits of a text without capitals are what slugs keep of it. -/
theorem filter_isAlphanum (small : ∀ c ∈ text, c.isUpper = false) :
    text.filter Char.isAlphanum = text.filter isSlugChar :=
  List.filter_congr fun c member => (isSlugChar_eq_isAlphanum (small c member)).symm

/-- No character of a collapsed text is a capital. -/
theorem isUpper_of_mem_collapse (member : c ∈ collapse inGap text) : c.isUpper = false := by
  have bounds := toNat_of_isIdChar (isIdChar_of_mem_collapse member)
  refine Bool.eq_false_iff.2 fun capital => ?_
  have inside := Text.toNat_of_isUpper capital
  omega

/-- Collapsing keeps the letters and digits of a text without capitals. -/
theorem filter_isAlphanum_collapse (small : ∀ c ∈ text, c.isUpper = false) :
    (collapse inGap text).filter Char.isAlphanum = text.filter Char.isAlphanum := by
  rw [filter_isAlphanum fun _ => isUpper_of_mem_collapse, filter_collapse, filter_isAlphanum small]

/-- A collapsed text is in lower case. -/
theorem lower_collapse : Text.lower (collapse inGap text) = collapse inGap text := by
  have single : ∀ c ∈ collapse inGap text, Text.lowerChar c = [c] := fun c member =>
    lowerChar_of_isIdChar (isIdChar_of_mem_collapse member)
  rw [Text.lower, List.flatMap_congr single, List.flatMap_singleton']

/-- Between two letters or digits of a text without capitals, collapsing keeps an underscore exactly
if there is something else between them. -/
theorem exists_collapse_between {before between after : List Char} {first second : Char}
    (small : ∀ c ∈ before ++ first :: between ++ second :: after, c.isUpper = false)
    (counts : first.isAlphanum = true) (counts' : second.isAlphanum = true) :
    ∃ before' between' after', collapse inGap (before ++ first :: between ++ second :: after) =
        before' ++ first :: between' ++ second :: after' ∧
      before'.filter Char.isAlphanum = before.filter Char.isAlphanum ∧
      between'.filter Char.isAlphanum = between.filter Char.isAlphanum ∧
      after'.filter Char.isAlphanum = after.filter Char.isAlphanum ∧
      ('_' ∈ between' ↔ ∃ c ∈ between, c.isAlphanum = false) := by
  have kept : ∀ c ∈ before ++ first :: between ++ second :: after,
      isSlugChar c = c.isAlphanum := fun c member => isSlugChar_eq_isAlphanum (small c member)
  simp only [List.append_assoc, List.cons_append, List.forall_mem_append,
    List.forall_mem_cons] at small kept ⊢
  obtain ⟨smallBefore, -, smallBetween, -, smallAfter⟩ := small
  obtain ⟨-, keptFirst, keptBetween, keptSecond, -⟩ := kept
  refine ⟨collapse inGap before, collapse false between, collapse false after, ?_,
    filter_isAlphanum_collapse smallBefore, filter_isAlphanum_collapse smallBetween,
    filter_isAlphanum_collapse smallAfter, ?_⟩
  · rw [collapse_append_cons (keptFirst.trans counts),
      collapse_append_cons (keptSecond.trans counts')]
  · rw [underscore_mem_collapse_iff]
    exact exists_congr fun c => and_congr_right fun member => by rw [keptBetween c member]

/-- A slug is a normal form of its label, and the one of itself. -/
theorem slug_normal (label : String) :
    Normal label (slug label) ∧ slug (slug label) = slug label := by
  have written : (slug label).toList = collapse false (Text.lower label.toList) :=
    String.toList_ofList
  have small : ∀ c ∈ Text.lower label.toList, c.isUpper = false := fun _ => isUpper_of_mem_lower
  have single := (collapse_single false (Text.lower label.toList)).2
  refine ⟨⟨fun c member => ?_, ?_, ?_, ?_, ?_⟩, ?_⟩
  · have idChar := isIdChar_of_mem_slug member
    simpa [isIdChar, isSlugChar_eq, or_assoc] using idChar
  · rwa [written]
  · rw [← String.toList_inj, written, ← String.toList_inj]
    exact collapse_eq_nil_iff.trans Text.lower_eq_nil_iff
  · rw [written]
    exact filter_isAlphanum_collapse small
  · rintro before first between second after whole counts counts'
    rw [written, whole]
    exact exists_collapse_between (whole ▸ small) counts counts'
  · rw [slug, written, lower_collapse,
      collapse_eq_self (fun _ => isIdChar_of_mem_collapse)
        (fun gap => absurd gap Bool.false_ne_true) single, ← written, String.ofList_toList]

/-- In lower case, the first letter is an `i` with a dot that is a character of its own. -/
example : slug "İ-Pay" = "i_pay" := by decide +kernel

end EventAtlas.Flow
