import EventAtlas.Api.Endpoint
import EventAtlas.Proofs.NameSet
import EventAtlas.Proofs.Text.Plain
import EventAtlas.Proofs.Text.Run

/-!
# Endpoints are told by runs

A source falls into runs of the characters that paths are made of. Where a versioned path starts, it
reaches to the end of its run, whatever other versions it holds, so that each run shows one endpoint
at most, and no versioned path stands outside of the endpoints.
-/

namespace EventAtlas

open Text

/-- A letter counts as the one of the version only if it is that letter, in either case. -/
theorem Text.foldCase_eq_v_iff {c : Char} : foldCase c = 'v' ↔ c = 'v' ∨ c = 'V' := by
  constructor
  · intro folded
    unfold foldCase at folded
    split at folded
    · cases folded
    · split at folded
      · cases folded
      · split at folded
        · cases folded
        · unfold Char.toLower at folded
          split at folded
          · next capital =>
            refine .inr (Char.ext ?_)
            have value : c.val + 32 = 118 := congrArg Char.val folded
            have back : c.val = 118 - 32 := by rw [← value, UInt32.add_sub_cancel]
            exact back
          · exact .inl folded
  · rintro (rfl | rfl) <;> decide

/-- Every decimal digit is a word character. -/
theorem Text.isWord_of_isDecimalDigit {c : Char} (digit : isDecimalDigit c = true) :
    isWord c = true := by
  have covered : (decimalDigitRanges.all fun digits => letterNumberRanges.any fun words =>
      Nat.ble words.1 digits.1 && Nat.ble digits.2 words.2) = true := by
    decide +kernel
  unfold isDecimalDigit at digit
  unfold isWord
  split at digit
  · next ascii => simp [ascii, isAsciiWord, Char.isAlphanum, digit]
  · next wide =>
    rw [if_neg wide]
    obtain ⟨digits, listed, holds⟩ := List.any_eq_true.1 digit
    obtain ⟨words, listed', around⟩ := List.any_eq_true.1 (List.all_eq_true.1 covered digits listed)
    rw [Bool.and_eq_true, Nat.ble_eq, Nat.ble_eq] at around
    rw [CodeRange.holds_iff] at holds
    exact List.any_eq_true.2 ⟨words, listed', CodeRange.holds_iff.2 (by omega)⟩

/-- A keyword of one letter is passed exactly if the text starts with it in some case. -/
theorem Text.afterKeyword?_singleton_eq_some_iff {letter : Char} {text rest : List Char} :
    afterKeyword? [letter] text = some rest ↔ ∃ c, foldCase c = letter ∧ text = c :: rest := by
  cases text with
  | nil => simp [afterKeyword?]
  | cons c others => by_cases same : foldCase c = letter <;> simp_all [afterKeyword?]

namespace Endpoint

variable {source : String} {text found rest path run : List Char}

/-- A version such as `v2/` is passed exactly if the text starts with the letter in either case,
digits and a slash. -/
theorem afterVersion?_eq_some_iff : afterVersion? text = some rest ↔
    ∃ letter digits, text = letter :: (digits ++ '/' :: rest) ∧ (letter = 'v' ∨ letter = 'V') ∧
      digits ≠ [] ∧ ∀ c ∈ digits, isDecimalDigit c = true := by
  simp only [afterVersion?, Option.bind_eq_bind, Option.bind_eq_some_iff,
    afterKeyword?_singleton_eq_some_iff, after?_eq_some_iff, foldCase_eq_v_iff]
  constructor
  · rintro ⟨_, ⟨letter, inCase, rfl⟩, ⟨digits, _⟩, number, slash, same, rfl⟩
    obtain ⟨some, rfl, digit, -⟩ := run?_eq_some_iff_append.1 number
    obtain rfl := beq_iff_eq.1 same
    exact ⟨letter, digits, rfl, inCase, some, digit⟩
  · rintro ⟨letter, digits, rfl, inCase, some, digit⟩
    have number : run? isDecimalDigit (digits ++ '/' :: rest) = .some (digits, '/' :: rest) :=
      run?_eq_some_iff_append.2 ⟨some, rfl, digit, by simp [isDecimalDigit]⟩
    exact ⟨_, ⟨letter, inCase, rfl⟩, _, number, '/', rfl, rfl⟩

/-- A version as it stands in a path, such as `/v2/`: the letter in either case and digits of any
script, between slashes. -/
def IsVersion (text : List Char) : Prop :=
  ∃ letter digits, text = '/' :: letter :: (digits ++ ['/']) ∧ (letter = 'v' ∨ letter = 'V') ∧
    digits ≠ [] ∧ ∀ c ∈ digits, isDecimalDigit c = true

/-- A text starts with a version, and something comes after it. -/
def StartsVersion (text : List Char) : Prop :=
  ∃ version path, text = version ++ path ∧ IsVersion version ∧ path ≠ []

/-- What comes after a path makes no difference to the version in front. -/
theorem StartsVersion.append (version : StartsVersion text) (rest : List Char) :
    StartsVersion (text ++ rest) := by
  obtain ⟨front, path, rfl, isVersion, more⟩ := version
  exact ⟨front, path ++ rest, List.append_assoc .., isVersion, by simp [more]⟩

/-- A version is made of path characters. -/
theorem IsVersion.isPathChar (version : IsVersion text) : ∀ c ∈ text, isPathChar c = true := by
  obtain ⟨letter, digits, rfl, inCase, -, digit⟩ := version
  intro c member
  simp only [List.mem_cons, List.mem_append, List.not_mem_nil, or_false] at member
  rcases member with rfl | rfl | inside | rfl
  · decide
  · rcases inCase with rfl | rfl <;> decide
  · simp [Endpoint.isPathChar, isWord_of_isDecimalDigit (digit c inside)]
  · decide

/-- An endpoint is read exactly if the text starts with a version and a path of path characters, as
far as these reach. -/
theorem read_eq_some_iff : read text = some (found, rest) ↔
    text = found ++ rest ∧ StartsVersion found ∧ (∀ c ∈ found, isPathChar c = true) ∧
      ∀ c ∈ rest.head?, isPathChar c = false := by
  have taken (version path left : List Char) :
      (version ++ (path ++ left)).take ((version ++ (path ++ left)).length - left.length) =
        version ++ path := by
    simp [← List.append_assoc]
  simp only [read, Option.bind_eq_bind, Option.bind_eq_some_iff, after?_eq_some_iff,
    afterVersion?_eq_some_iff]
  constructor
  · rintro ⟨_, ⟨slash, same, rfl⟩, _, ⟨letter, digits, rfl, inCase, some, digit⟩, ⟨path, left⟩,
      ran, whole⟩
    obtain ⟨more, rfl, accepted, right⟩ := run?_eq_some_iff_append.1 ran
    obtain rfl := beq_iff_eq.1 same
    have version : IsVersion ('/' :: letter :: (digits ++ ['/'])) :=
      ⟨letter, digits, rfl, inCase, some, digit⟩
    have parted : '/' :: letter :: (digits ++ '/' :: (path ++ left)) =
        '/' :: letter :: (digits ++ ['/']) ++ (path ++ left) := by simp
    rw [parted, taken, Option.some.injEq, Prod.mk.injEq] at whole
    obtain ⟨rfl, rfl⟩ := whole
    refine ⟨by rw [parted, List.append_assoc], ⟨_, path, rfl, version, more⟩, ?_, right⟩
    intro c member
    exact (List.mem_append.1 member).elim (version.isPathChar c) (accepted c)
  · rintro ⟨rfl, ⟨_, path, rfl, ⟨letter, digits, rfl, inCase, some, digit⟩, more⟩, accepted, right⟩
    have ran : run? isPathChar (path ++ rest) = .some (path, rest) :=
      run?_eq_some_iff_append.2
        ⟨more, rfl, fun c member => accepted c (List.mem_append_right _ member), right⟩
    have parted : '/' :: letter :: (digits ++ '/' :: (path ++ rest)) =
        '/' :: letter :: (digits ++ ['/']) ++ (path ++ rest) := by simp
    refine ⟨_, ⟨'/', rfl, by rw [List.append_assoc, ← parted]⟩, path ++ rest,
      ⟨letter, digits, rfl, inCase, some, digit⟩, (path, rest), ran, ?_⟩
    rw [List.append_assoc, taken]

/-- So endpoints stay within runs of path characters and reach to their ends. -/
theorem readsToEnd_read : ReadsToEnd isPathChar read := by
  intro text found rest done
  obtain ⟨rfl, ⟨version, path, rfl, -, more⟩, accepted, right⟩ := read_eq_some_iff.1 done
  exact ⟨_, by simp [more], rfl, accepted, right⟩

/-- At the end of a run, an endpoint is read where a version starts. -/
theorem read_append_eq_some_iff (accepted : ∀ c ∈ run, isPathChar c = true)
    (right : ∀ c ∈ rest.head?, isPathChar c = false) :
    read (run ++ rest) = some (found, rest) ↔ found = run ∧ StartsVersion run := by
  rw [read_eq_some_iff]
  constructor
  · rintro ⟨same, version, -⟩
    obtain rfl := List.append_cancel_right same
    exact ⟨rfl, version⟩
  · rintro ⟨rfl, version⟩
    exact ⟨rfl, version, accepted, right⟩

/-- Where no version starts, no endpoint is read. -/
theorem read_append_eq_none_iff (accepted : ∀ c ∈ run, isPathChar c = true)
    (right : ∀ c ∈ rest.head?, isPathChar c = false) :
    read (run ++ rest) = none ↔ ¬ StartsVersion run := by
  constructor
  · intro none version
    rw [(read_append_eq_some_iff accepted right).2 ⟨rfl, version⟩] at none
    cases none
  · intro noVersion
    cases done : read (run ++ rest) with
    | none => rfl
    | some reading =>
      obtain ⟨found, left⟩ := reading
      obtain ⟨same, version, accepted', right'⟩ := read_eq_some_iff.1 done
      -- Both are as much of the text as is made of path characters.
      have whole : found = run := by
        rw [← takeWhile_append_of_right accepted right, same,
          takeWhile_append_of_right accepted' right']
      exact absurd (whole ▸ version) noVersion

/-- What is left of a run from the first place on where a version starts. -/
def FromFirstVersion (run path : List Char) : Prop :=
  StartsVersion path ∧ ∃ front, run = front ++ path ∧
    ∀ earlier later, run = earlier ++ later → StartsVersion later → front.length ≤ earlier.length

/-- There is only one such place. -/
theorem FromFirstVersion.unique {first second : List Char} (one : FromFirstVersion run first)
    (other : FromFirstVersion run second) : first = second := by
  obtain ⟨version, front, rfl, earliest⟩ := one
  obtain ⟨version', front', same, earliest'⟩ := other
  have length : front.length = front'.length :=
    Nat.le_antisymm (earliest front' second same version') (earliest' front first rfl version)
  exact (List.append_inj same length).2

/-- Where a version starts in a run, a first one starts there or before. -/
theorem exists_fromFirstVersion {front back : List Char} (version : StartsVersion back) :
    ∃ path lead between, FromFirstVersion (front ++ back) path ∧
      front = lead ++ between ∧ path = between ++ back := by
  induction front with
  | nil => exact ⟨back, [], [], ⟨version, [], rfl, fun _ _ _ _ => Nat.zero_le _⟩, rfl, rfl⟩
  | cons c front ih =>
    by_cases here : StartsVersion (c :: front ++ back)
    · exact ⟨_, [], c :: front, ⟨here, [], rfl, fun _ _ _ _ => Nat.zero_le _⟩, rfl, rfl⟩
    · obtain ⟨path, lead, between, ⟨starts, before, split, earliest⟩, rfl, rfl⟩ := ih
      refine ⟨_, c :: lead, between, ⟨starts, c :: before, by rw [List.cons_append, split]; rfl,
        fun earlier later parted version' => ?_⟩, rfl, rfl⟩
      cases earlier with
      | nil =>
        obtain rfl : c :: (lead ++ between) ++ back = later := parted
        exact absurd version' here
      | cons d earlier =>
        have later_le := earliest earlier later (List.cons.inj parted).2 version'
        exact Nat.succ_le_succ later_le

/-- The endpoints of a source are what is left of its runs from their first versions on. -/
theorem mem_detect_iff_isRun {endpoint : String} : endpoint ∈ detect source ↔
    ∃ before run after, source.toList = before ++ run ++ after ∧ IsRun isPathChar before run after ∧
      FromFirstVersion run endpoint.toList := by
  have listed : endpoint ∈ detect source ↔ endpoint.toList ∈ findAll read source.toList := by
    rw [detect, NameSet.mem_ofList, List.mem_map]
    constructor
    · rintro ⟨chars, member, rfl⟩
      rwa [String.toList_ofList]
    · exact fun member => ⟨_, member, String.ofList_toList⟩
  rw [listed, mem_findAll_iff_isRun readsToEnd_read]
  refine exists_congr fun before => exists_congr fun run => exists_congr fun after =>
    and_congr_right fun _ => and_congr_right fun whole => ?_
  have inside {front back : List Char} (split : run = front ++ back) :
      ∀ c ∈ back, isPathChar c = true :=
    fun c member => whole.accepted c (split ▸ List.mem_append_right _ member)
  constructor
  · rintro ⟨front, back, split, done, earliest⟩
    obtain ⟨same, version⟩ := (read_append_eq_some_iff (inside split) whole.right).1 done
    refine same ▸ ⟨version, front, split, fun earlier later split' version' => ?_⟩
    by_contra shorter
    have none := earliest earlier later split' (Nat.lt_of_not_le shorter)
    exact (read_append_eq_none_iff (inside split') whole.right).1 none version'
  · rintro ⟨version, front, split, earliest⟩
    refine ⟨front, _, split, (read_append_eq_some_iff (inside split) whole.right).2 ⟨rfl, version⟩,
      fun earlier later split' shorter => ?_⟩
    refine (read_append_eq_none_iff (inside split') whole.right).2 fun version' => ?_
    exact absurd (earliest earlier later split' version') (Nat.not_le_of_lt shorter)

/-- The endpoints of a source are told by its runs of path characters: each run in which a version
starts shows what is left of it from the first such place on, and no other endpoint. So wherever a
versioned path stands, it is within an endpoint. -/
theorem detect_by_runs (source : String) :
    (∀ endpoint, endpoint ∈ detect source ↔
      ∃ before run after, source.toList = before ++ run ++ after ∧
        IsRun isPathChar before run after ∧ FromFirstVersion run endpoint.toList) ∧
    (∀ run first second, FromFirstVersion run first → FromFirstVersion run second →
      first = second) ∧
    ∀ before path after, source.toList = before ++ path ++ after → StartsVersion path →
      (∀ c ∈ path, isPathChar c = true) →
      ∃ endpoint ∈ detect source, ∃ lead front back tail,
        before = lead ++ front ∧ after = back ++ tail ∧
        endpoint.toList = front ++ path ++ back := by
  refine ⟨fun endpoint => mem_detect_iff_isRun, fun run first second one => one.unique,
    fun before path after parted version accepted => ?_⟩
  have some : path ≠ [] := by
    obtain ⟨_, rest, rfl, -, more⟩ := version
    simp [more]
  obtain ⟨outside, front, back, tail, rfl, rfl, whole⟩ := exists_isRun some accepted before after
  obtain ⟨endpoint, lead, between, first, rfl, rfl⟩ :=
    @exists_fromFirstVersion front _ (version.append back)
  rw [← List.append_assoc] at first
  refine ⟨String.ofList (between ++ (path ++ back)), mem_detect_iff_isRun.2
    ⟨outside, _, tail, by simp [parted], whole, by rwa [String.toList_ofList]⟩,
    outside ++ lead, between, back, tail, by simp, rfl, by simp⟩

/-- A version inside of a versioned path is part of the one endpoint of their run. -/
theorem detect_by_runs_nested : ∃ endpoint ∈ detect "get /v1/v2/a",
    ∃ lead front back tail, "get /v1".toList = lead ++ front ∧ [] = back ++ tail ∧
      endpoint.toList = front ++ "/v2/a".toList ++ back :=
  (detect_by_runs "get /v1/v2/a").2.2 "get /v1".toList "/v2/a".toList [] (by simp)
    ⟨"/v2/".toList, ['a'], by simp, ⟨'v', ['2'], by simp, .inl rfl, by simp, by simp +decide⟩,
      by simp⟩
    (by simp +decide)

example : (detect "get /v1/v2/a:b, /V3/ and /v4/x").names = ["/v1/v2/a:b", "/v4/x"] := by
  decide +kernel

end Endpoint

end EventAtlas
