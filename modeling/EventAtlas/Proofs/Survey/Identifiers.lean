import EventAtlas.Proofs.Link
import EventAtlas.Proofs.Survey.Resolvable
import EventAtlas.Proofs.Text.Reader

/-!
# Identifiers that a survey produces

The keys of an index and the observers of registrations are canonical forms, and a key has a class
name behind it. Which of them are fixed points of `canonical` can be seen from their first
character. The path at which the source of an observer is expected canonicalises once more, and
follows the identifier exactly if the identifier is a fixed point.
-/

namespace EventAtlas

open Text

namespace Source

/-- A namespace that is read has no blank in it. -/
theorem isBlank_of_mem_namespaces {text space : String} (declared : space ∈ namespaces text) :
    ∀ c ∈ space.toList, isBlank c = false := by
  obtain ⟨name, found, rfl⟩ := List.mem_map.1 declared
  obtain ⟨place, rest, read⟩ := read_of_mem_findAllAtLineStarts found
  simp only [readNamespace, Option.bind_eq_bind, Option.bind_eq_some_iff] at read
  obtain ⟨_, -, _, -, ⟨run, left⟩, ran, _, -, same⟩ := read
  simp only [Option.some.injEq, Prod.mk.injEq] at same
  obtain ⟨rfl, -⟩ := same
  intro c member
  rw [String.toList_ofList] at member
  have accepted := accepts_of_run? ran c member
  simp only [isNamespaceChar, Bool.and_eq_true, Bool.not_eq_true'] at accepted
  exact accepted.2

/-- The name of a class that is read ends with a word character. -/
theorem isBlank_of_mem_classes {text name : String} (declared : name ∈ classes text) :
    name.toList ≠ [] ∧ ∀ c ∈ name.toList, isBlank c = false := by
  obtain ⟨run, found, rfl⟩ := List.mem_map.1 declared
  obtain ⟨place, rest, read⟩ := read_of_mem_findAllAtLineStarts found
  simp only [readClass, Option.bind_eq_bind, Option.bind_eq_some_iff] at read
  obtain ⟨_, -, _, -, ran⟩ := read
  rw [String.toList_ofList]
  exact ⟨(run?_eq_some_iff.1 ran).1, fun c member => isBlank_of_isWord (accepts_of_run? ran c member)⟩

/-- The identifier of a class is its own canonical form unless it starts with a question mark or
with the separator: the namespace can keep the one, and leaves the other if nothing is left of
it. -/
theorem canonical_classId?_iff {text : String} {id : ClassId} (stands : classId? text = some id) :
    ClassId.canonical id = id ↔
      ∀ c ∈ id.toList.head?, c ≠ '?' ∧ c ≠ ClassId.separator := by
  unfold classId? at stands
  split at stands
  · next space name spaces names =>
    have declared : space ∈ namespaces text ∧ name ∈ classes text := by simp [spaces, names]
    have noBlank := isBlank_of_mem_namespaces declared.1
    obtain ⟨some, wordy⟩ := isBlank_of_mem_classes declared.2
    cases stands
    have chars : (ClassId.qualify (ClassId.canonical space) name).toList =
        ClassId.canonicalChars space.toList ++ ClassId.separator :: name.toList := by
      simp [ClassId.qualify, ClassId.canonical]
    rw [ClassId.canonical_eq_self_iff, ClassId.canonicalChars_eq_self_iff, chars]
    have front : ∀ c ∈ (ClassId.canonicalChars space.toList ++
        ClassId.separator :: name.toList).head?, isBlank c = false := by
      intro c first
      cases kept : ClassId.canonicalChars space.toList with
      | nil =>
        rw [kept] at first
        cases first
        decide
      | cons d rest =>
        rw [kept] at first
        cases first
        exact noBlank _ (ClassId.mem_of_mem_canonicalChars (kept ▸ List.mem_cons_self ..))
    have back : ∀ c ∈ (ClassId.canonicalChars space.toList ++
        ClassId.separator :: name.toList).getLast?, isBlank c = false := by
      intro c last
      rw [List.getLast?_append_cons, List.getLast?_cons_of_ne_nil some] at last
      exact wordy c (List.mem_of_mem_getLast? last)
    constructor
    · exact fun ends c first => (ends.1 c first).2
    · exact fun kept => ⟨fun c first => ⟨front c first, kept c first⟩, back⟩
  · cases stands

end Source

namespace Survey

variable {workspace : Workspace} {survey : Survey}

/-- Every key of an index is the identifier of a class that a text declares. -/
theorem exists_text_of_mem_keys {indexing : Indexing}
    (built : (survey.buildIndex workspace).result = .ok indexing) {id : ClassId}
    (member : id ∈ indexing.index.keys) : ∃ text, Source.classId? text = some id := by
  obtain ⟨found, held⟩ := Roster.mem_keys_iff.1 member
  obtain ⟨files, wins⟩ := firstWins_of_buildIndex built
  obtain ⟨path, text, read⟩ := exists_readFrom_of_firstWins wins held
  refine ⟨text, ?_⟩
  rw [read.id, (Sound.of_firstWins wins).id_eq held]

/-- Every observer of a registration is the canonical form of a text. -/
theorem exists_canonical_of_findLinks {links : List Link}
    (found : (survey.findLinks workspace).result = .ok links) {link : Link} (member : link ∈ links) :
    ∃ written, link.observer = ClassId.canonical written := by
  obtain ⟨configs, -, rfl⟩ := findLinks_eq_ok found
  obtain ⟨config, -, inside⟩ := List.mem_flatMap.1 member
  unfold linksAt declaredLinks at inside
  split at inside
  · split at inside
    · simp only [rootLinks, eventLinks, List.mem_flatMap, List.mem_map, List.mem_filterMap]
        at inside
      obtain ⟨_, -, id, ⟨element, -, names⟩, rfl⟩ := inside
      unfold observerOf at names
      dsimp only at names
      split at names
      · cases names
      · cases names
        exact ⟨_, rfl⟩
    · cases inside
  · cases inside

/-- What `canonical` gives is a fixed point of it unless it starts with a blank or a question mark.
So it is with the observers of registrations, and the path of an observer's source follows its
identifier exactly if the identifier is a fixed point. A key of an index is a fixed point unless it
starts with a question mark or with the separator. -/
theorem fixed_points (workspace : Workspace) (survey : Survey) :
    (∀ written, ClassId.canonical (ClassId.canonical written) = ClassId.canonical written ↔
      ∀ c ∈ (ClassId.canonical written).toList.head?, isBlank c = false ∧ c ≠ '?') ∧
    (∀ indexing, (survey.buildIndex workspace).result = .ok indexing →
      ∀ id ∈ indexing.index.keys, ClassId.canonical id = id ↔
        ∀ c ∈ id.toList.head?, c ≠ '?' ∧ c ≠ ClassId.separator) ∧
    ∀ links, (survey.findLinks workspace).result = .ok links → ∀ link ∈ links,
      (ClassId.canonical link.observer = link.observer ↔
        ∀ c ∈ link.observer.toList.head?, isBlank c = false ∧ c ≠ '?') ∧
      (link.source = some (survey.moduleDir.join
          (.ofString (Link.slashed link.observer ++ survey.extension))) ↔
        ClassId.canonical link.observer = link.observer) := by
  refine ⟨fun written => ClassId.canonical_canonical_iff, fun indexing built id member => ?_,
    fun links found link member => ?_⟩
  · obtain ⟨text, stands⟩ := exists_text_of_mem_keys built member
    exact Source.canonical_classId?_iff stands
  · obtain ⟨written, named⟩ := exists_canonical_of_findLinks found member
    rw [source_of_findLinks found member, named, Option.some.injEq]
    exact ⟨ClassId.canonical_canonical_iff, Link.candidatePath_canonical_iff⟩

end Survey

namespace Shop

/-- A configuration that writes a backslash and a question mark in front of an observer. -/
def markedContent : Text.Bytes :=
  Text.Utf8.encode
    "<config><event name='paid'><observer instance='\\?Placed'/></event></config>"

/-- The registration in it. -/
def markedLink : Link :=
  survey.link (.ofString "lib/events.xml") "paid" "?Placed"

theorem findLinks_marked :
    (survey.findLinks (configuredWith markedContent)).result = .ok [markedLink] := by
  have shown : (Xml.Document.parse markedContent).toOption.map Survey.registered =
      some [("paid", [some "\\?Placed"])] := by decide +kernel
  have named : Survey.named (some "\\?Placed") = some "?Placed" := by decide +kernel
  rw [findLinks_of_registered shown]
  simp [Survey.entryLinks, named, markedLink]

end Shop

/-- The observer of such a registration is a canonical form and no fixed point, and its source is
expected where the identifier does not lead. -/
theorem Survey.findLinks_uncovered :
    (Shop.survey.findLinks (Shop.configuredWith Shop.markedContent)).result =
        .ok [Shop.markedLink] ∧
      Shop.markedLink.observer = ClassId.canonical "\\?Placed" ∧
      ClassId.canonical Shop.markedLink.observer ≠ Shop.markedLink.observer ∧
      Shop.markedLink.source ≠ some (Shop.survey.moduleDir.join
        (.ofString (Link.slashed Shop.markedLink.observer ++ Shop.survey.extension))) :=
  ⟨Shop.findLinks_marked, by decide +kernel, by decide +kernel, by decide +kernel⟩

end EventAtlas
