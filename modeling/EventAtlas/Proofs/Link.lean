import EventAtlas.Link
import EventAtlas.Proofs.ClassId
import EventAtlas.Proofs.Path
import EventAtlas.Proofs.Text.Plain

/-!
# Where sources are expected

The path at which the source of an observer is expected canonicalises the observer's identifier
once more. For an identifier that is its own canonical form this makes no difference. For every
other one a character of its first segment is lost, so that the path is another one.

Whatever else the identifier holds is taken as it is. A slash in front makes the path leave the
module, and so do two dots between slashes or separators; without slashes and dots it stays within.
-/

namespace EventAtlas

open Text

/-- An identifier without slashes and dots whose segments are short, as those of classes are. -/
structure ClassId.Tame (id : ClassId) : Prop where
  noSlash : '/' ∉ id.toList
  noDot : '.' ∉ id.toList
  short : ∀ segment ∈ fields separator id.toList, (String.ofList segment).utf8ByteSize ≤ 200

namespace Link

/-- A character of an identifier as it stands in a path. -/
def slashedChar (c : Char) : Char :=
  if c = ClassId.separator then '/' else c

/-- The characters of an identifier with slashes for its separators. -/
theorem slashed_eq (id : ClassId) : slashed id = String.ofList (id.toList.map slashedChar) := rfl

/-- A slash stands for a separator or a slash. -/
theorem slashedChar_eq_slash_iff {c : Char} :
    slashedChar c = '/' ↔ c = ClassId.separator ∨ c = '/' := by
  unfold slashedChar
  split <;> simp_all

/-- The written path of an identifier and an extension. -/
def spelled (extension : String) (id : List Char) : String :=
  String.ofList (id.map slashedChar ++ extension.toList)

/-- What is written after the module is the spelling of the canonical form. -/
theorem slashed_canonical_append (extension text : String) :
    slashed (ClassId.canonical text) ++ extension =
      spelled extension (ClassId.canonicalChars text.toList) := by
  rw [slashed_eq, ClassId.canonical, String.toList_ofList, spelled, String.ofList_append,
    String.ofList_toList]

/-! ### Identifiers that are not in canonical form -/

/-- A path that is joined to another is not made of more than both. -/
theorem weight_join_le (path tail : Path) :
    (path.join tail).weight ≤ path.weight + tail.weight := by
  cases absolute : tail.isAbsolute with
  | true =>
    rw [Path.join_of_absolute absolute]
    exact Nat.le_add_left ..
  | false => simp [Path.join_of_relative absolute, Path.below, Path.weight]

/-- What lies behind the first character of an identifier that does not start at the root makes a
path with less in it. -/
theorem join_spelled_ne {moduleDir : Path} {extension : String} {first : Char}
    {rest suffix : List Char} (ends : suffix <:+ rest) (visible : slashedChar first ≠ '/')
    (noDot : first ≠ '.') :
    moduleDir.join (.ofString (spelled extension suffix)) ≠
      moduleDir.join (.ofString (spelled extension (first :: rest))) := by
  have kept : slashedChar first = first := by
    rw [slashedChar, if_neg fun same => visible (slashedChar_eq_slash_iff.2 (.inl same))]
  have noSlash : first ≠ '/' := kept ▸ visible
  have relative : (Path.ofString (spelled extension (first :: rest))).isAbsolute = false := by
    rw [Bool.eq_false_iff, Ne, Path.isAbsolute_ofString_iff, spelled, String.toList_ofList]
    simpa using visible
  have shorter : suffix.map slashedChar ++ extension.toList <:+
      rest.map slashedChar ++ extension.toList := by
    obtain ⟨front, rfl⟩ := ends
    exact ⟨front.map slashedChar, by simp⟩
  have step := Path.weight_ofString_cons first (rest.map slashedChar ++ extension.toList)
  simp only [noSlash, noDot, or_self, if_false] at step
  have bound := Path.weight_ofString_le shorter
  refine fun same => absurd (congrArg Path.weight same) (Nat.ne_of_lt ?_)
  calc (moduleDir.join (.ofString (spelled extension suffix))).weight
      ≤ moduleDir.weight + (Path.ofString (spelled extension suffix)).weight := weight_join_le ..
    _ < moduleDir.weight + (Path.ofString (spelled extension (first :: rest))).weight := by
      rw [spelled, spelled, List.map_cons, List.cons_append, kept]
      omega
    _ = (moduleDir.join (.ofString (spelled extension (first :: rest)))).weight := by
      simp [Path.join_of_relative relative, Path.below, Path.weight]

/-- For a canonical form the expected path is the one that it spells, exactly if it is a fixed
point of `canonical`. -/
theorem candidatePath_canonical_iff {moduleDir : Path} {extension written : String} :
    candidatePath moduleDir extension (ClassId.canonical written) =
        moduleDir.join (.ofString (slashed (ClassId.canonical written) ++ extension)) ↔
      ClassId.canonical (ClassId.canonical written) = ClassId.canonical written := by
  refine ⟨fun same => ?_, fun fixed => by rw [candidatePath, fixed]⟩
  rw [ClassId.canonical_canonical_iff]
  intro c first
  by_contra uncovered
  obtain ⟨rest, shape⟩ : ∃ rest, (ClassId.canonical written).toList = c :: rest := by
    cases shape : (ClassId.canonical written).toList <;> simp_all
  -- A blank or question mark in front goes, with what it uncovers; the end stays.
  have proper : ClassId.canonicalChars (c :: rest) <:+ rest := by
    have ends := ClassId.canonicalChars_canonical_suffix written
    rw [shape] at ends
    refine (List.suffix_cons_iff.1 ends).resolve_left fun kept => uncovered ?_
    obtain ⟨blank, mark, -⟩ := (ClassId.canonicalChars_eq_self_iff.1 kept).1 c rfl
    exact ⟨blank, mark⟩
  have char : isBlank c = true ∨ c = '?' := by
    by_contra neither
    simp only [not_or, Bool.not_eq_true] at neither
    exact uncovered neither
  have visible : slashedChar c ≠ '/' := by
    rw [Ne, slashedChar_eq_slash_iff]
    rintro (rfl | rfl) <;> revert char <;> decide
  have noDot : c ≠ '.' := by
    rintro rfl
    revert char
    decide
  rw [candidatePath, slashed_canonical_append, shape, slashed_eq, shape] at same
  refine join_spelled_ne proper visible noDot (same.trans ?_)
  rw [spelled, String.ofList_append, String.ofList_toList]

/-! ### Paths within the module -/

/-- The path stays within the module exactly if two dots are no field of what is written after it.
What starts with a slash is a path of its own. -/
theorem candidatePath_within_iff {moduleDir : Path} {extension text : String} :
    (candidatePath moduleDir extension text).Within moduleDir ↔
      if (slashed (ClassId.canonical text) ++ extension).toList.head? = some '/' then
        (Path.ofString (slashed (ClassId.canonical text) ++ extension)).Within moduleDir
      else "..".toList ∉ fields '/' (slashed (ClassId.canonical text) ++ extension).toList := by
  rw [candidatePath]
  split
  · next slash => rw [Path.join_of_absolute (Path.isAbsolute_ofString_iff.2 slash)]
  · next noSlash =>
    have relative := Bool.eq_false_iff.2 (mt Path.isAbsolute_ofString_iff.1 noSlash)
    rw [Path.join_of_relative relative, Path.below_within_iff, Path.ofString, Path.mem_partsOf_iff,
      and_iff_left (by decide : Path.IsPart "..".toList)]

/-- Without slashes in either of them, an identifier and an extension do not start at the root. -/
theorem head?_spelled_ne {extension text : String} (flat : '/' ∉ extension.toList)
    (noSlash : '/' ∉ text.toList) :
    (spelled extension (ClassId.canonicalChars text.toList)).toList.head? ≠ some '/' := by
  rw [spelled, String.toList_ofList]
  cases kept : ClassId.canonicalChars text.toList with
  | nil => exact fun first => flat (List.mem_of_mem_head? first)
  | cons c rest =>
    have noSeparator : c ≠ ClassId.separator :=
      ClassId.ne_separator_of_mem_head?_canonicalChars (by rw [kept]; rfl)
    have member : c ∈ text.toList :=
      ClassId.mem_of_mem_canonicalChars (kept ▸ List.mem_cons_self ..)
    rw [List.map_cons, List.cons_append, List.head?_cons, Ne, Option.some.injEq,
      slashedChar_eq_slash_iff]
    rintro (same | rfl)
    · exact noSeparator same
    · exact noSlash member

/-- Without dots in the identifier, no field of what is written is two dots, unless the extension
is. -/
theorem dots_not_mem_fields_spelled {extension : String} {id : List Char}
    (flat : '/' ∉ extension.toList) (single : extension ≠ "..") (noDot : '.' ∉ id) :
    "..".toList ∉ fields '/' (spelled extension id).toList := by
  rw [spelled, String.toList_ofList]
  obtain ⟨others, last, split, grown⟩ := exists_fields_append '/' (id.map slashedChar)
  have free : ∀ field ∈ fields '/' (id.map slashedChar), '.' ∉ field := by
    intro field member inside
    obtain ⟨c, original, dot⟩ := List.mem_map.1 (mem_of_mem_fields member inside)
    unfold slashedChar at dot
    split at dot
    · cases dot
    · exact noDot (dot ▸ original)
  rw [grown _ flat, List.mem_append, List.mem_singleton]
  rintro (early | late)
  · exact free _ (by rw [split]; exact List.mem_append_left _ early) (by decide)
  · have noDotLast := free last (by rw [split]; exact List.mem_append_right _ (by simp))
    cases last with
    | nil => exact single (String.toList_inj.1 late.symm)
    | cons c rest =>
      rw [List.cons_append] at late
      have first : '.' = c := (List.cons.inj late).1
      exact noDotLast (first ▸ List.mem_cons_self ..)

/-- The source of an observer without slashes and dots is expected within the module. -/
theorem candidatePath_within {moduleDir : Path} {extension text : String}
    (flat : '/' ∉ extension.toList) (single : extension ≠ "..") (noSlash : '/' ∉ text.toList)
    (noDot : '.' ∉ text.toList) : (candidatePath moduleDir extension text).Within moduleDir := by
  rw [candidatePath_within_iff, slashed_canonical_append,
    if_neg (head?_spelled_ne flat noSlash)]
  exact dots_not_mem_fields_spelled flat single
    fun dot => noDot (ClassId.mem_of_mem_canonicalChars dot)

/-- Where an identifier without slashes is cut at slashes, it is cut at its separators. -/
theorem fields_map_slashedChar {id : List Char} (noSlash : '/' ∉ id) :
    fields '/' (id.map slashedChar) = fields ClassId.separator id := by
  induction id with
  | nil => rfl
  | cons c rest ih =>
    simp only [List.mem_cons, not_or] at noSlash
    obtain ⟨here, later⟩ := noSlash
    by_cases cut : c = ClassId.separator
    · subst cut
      simp [fields, ih later, slashedChar]
    · have kept : slashedChar c = c := if_neg cut
      simp [fields, ih later, kept, Ne.symm here, cut]

/-- The source of an observer without slashes is expected below the module, wherever this is. -/
theorem candidatePath_eq_below (moduleDir : Path) {extension text : String}
    (flat : '/' ∉ extension.toList) (noSlash : '/' ∉ text.toList) :
    candidatePath moduleDir extension text = moduleDir.below
      (Path.partsOf (spelled extension (ClassId.canonicalChars text.toList)).toList) := by
  have relative : (Path.ofString (spelled extension
      (ClassId.canonicalChars text.toList))).isAbsolute = false :=
    Bool.eq_false_iff.2 (mt Path.isAbsolute_ofString_iff.1 (head?_spelled_ne flat noSlash))
  rw [candidatePath, slashed_canonical_append, Path.join_of_relative relative, Path.ofString]

/-- The source of an observer without slashes is expected below the module: its segments are names
of directories, as far as they make a difference, and the last one is that of a file with the
extension. -/
theorem exists_candidatePath_eq {moduleDir : Path} {extension text : String}
    (flat : '/' ∉ extension.toList) (counts : ∀ last, Path.IsPart (last ++ extension.toList))
    (noSlash : '/' ∉ text.toList) :
    ∃ others last, candidatePath moduleDir extension text =
        moduleDir.below (others ++ [last ++ extension]) ∧
      ∀ segment ∈ others ++ [last],
        ∃ whole ∈ fields ClassId.separator (ClassId.canonical text).toList,
          segment = String.ofList whole := by
  have noSlash' : '/' ∉ ClassId.canonicalChars text.toList :=
    fun slash => noSlash (ClassId.mem_of_mem_canonicalChars slash)
  obtain ⟨others, last, split, grown⟩ :=
    exists_fields_append '/' ((ClassId.canonicalChars text.toList).map slashedChar)
  refine ⟨(others.filter fun field => Path.IsPart field).map String.ofList, String.ofList last,
    ?_, ?_⟩
  · rw [candidatePath_eq_below moduleDir flat noSlash, Path.partsOf_eq, spelled,
      String.toList_ofList, grown _ flat, List.filter_append]
    rw [List.filter_cons_of_pos (by rw [decide_eq_true_eq]; exact counts last), List.filter_nil,
      List.map_append, List.map_singleton, String.ofList_append, String.ofList_toList]
  · rw [fields_map_slashedChar noSlash'] at split
    rw [ClassId.canonical, String.toList_ofList, split]
    intro segment member
    rcases List.mem_append.1 member with before | final
    · obtain ⟨field, kept, rfl⟩ := List.mem_map.1 before
      exact ⟨field, List.mem_append_left _ (List.mem_filter.1 kept).1, rfl⟩
    · exact ⟨last, by simp, List.mem_singleton.1 final⟩

/-- The end of a text is no longer than the text. -/
theorem utf8ByteSize_le_of_suffix {suffix whole : List Char} (ends : suffix <:+ whole) :
    (String.ofList suffix).utf8ByteSize ≤ (String.ofList whole).utf8ByteSize := by
  obtain ⟨front, rfl⟩ := ends
  rw [String.ofList_append, String.utf8ByteSize_append]
  exact Nat.le_add_left ..

/-- The file of a tame identifier is expected below the module, under short names. -/
theorem exists_candidatePath_php (moduleDir : Path) {id : ClassId} (tame : id.Tame)
    (ends : ClassId.canonicalChars id.toList <:+ id.toList) :
    ∃ others last, candidatePath moduleDir ".php" id =
        moduleDir.below (others ++ [last ++ ".php"]) ∧ ".." ∉ others ++ [last ++ ".php"] ∧
      ∀ name ∈ others ++ [last ++ ".php"], name.utf8ByteSize ≤ 204 := by
  have counts (last : List Char) : Path.IsPart (last ++ ".php".toList) := by
    constructor
    · simp
    · intro same
      have length := congrArg List.length same
      simp at length
  have flat : '/' ∉ ".php".toList := by decide
  obtain ⟨others, last, path, segments⟩ :=
    @exists_candidatePath_eq moduleDir ".php" id flat counts tame.noSlash
  have small : ∀ segment ∈ others ++ [last], '.' ∉ segment.toList ∧ segment.utf8ByteSize ≤ 200 := by
    intro segment member
    obtain ⟨field, inside, rfl⟩ := segments segment member
    rw [ClassId.canonical, String.toList_ofList] at inside
    obtain ⟨whole, inside', ends'⟩ := exists_of_mem_fields_suffix ends inside
    have small := (utf8ByteSize_le_of_suffix ends').trans (tame.short _ inside')
    refine ⟨fun dot => tame.noDot ?_, small⟩
    rw [String.toList_ofList] at dot
    exact mem_of_mem_fields inside' (ends'.subset dot)
  have final := small last (by simp)
  refine ⟨others, last, path, fun back => ?_, fun name member => ?_⟩
  · rcases List.mem_append.1 back with before | same
    · exact (small _ (List.mem_append_left _ before)).1 (by decide)
    · have php : 'p' ∈ (last ++ ".php").toList := by simp
      rw [← List.mem_singleton.1 same] at php
      exact absurd php (by decide)
  · rcases List.mem_append.1 member with before | same
    · exact (small _ (List.mem_append_left _ before)).2.trans (by decide)
    · rw [List.mem_singleton.1 same, String.utf8ByteSize_append]
      have dotted : ".php".utf8ByteSize = 4 := by decide
      omega

end Link

end EventAtlas
