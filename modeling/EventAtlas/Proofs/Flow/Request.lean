import EventAtlas.Proofs.Flow.Graph
import EventAtlas.Proofs.Flow.Slug

/-!
# Requests for identifiers

Identifiers are asked for one after the other, and what was given out decides the answers that
follow. `Answered` says what a run of requests has made of the identifiers: looking up any of the
requests gives the answer it got, and nothing else is there. One more request keeps this, since it
either finds its answer or gets the first candidate that is free.
-/

namespace EventAtlas.Flow

/-- The key under which the identifier of an entity is kept. -/
def Entity.key (entity : Entity) : String × String :=
  (entity.1.name, entity.2)

/-- Different entities have different keys. -/
theorem Entity.key_injective : Function.Injective Entity.key := by
  rintro ⟨kind, label⟩ ⟨kind', label'⟩ same
  obtain ⟨kinds, labels⟩ := Prod.mk.inj same
  exact Prod.ext (NodeKind.name_injective kinds) labels

namespace NodeIds

/-! ### How identifiers are written -/

/-- The identifier is not empty and has small letters, digits and underscores only. -/
def Written (id : String) : Prop :=
  id ≠ "" ∧ ∀ c ∈ id.toList, isIdChar c = true

/-- The base for a label of a kind can be an identifier. -/
theorem written_base (kind : NodeKind) (label : String) : Written (base kind.name label) := by
  unfold base
  split
  · cases kind <;> exact ⟨by decide, List.all_eq_true.1 (by decide)⟩
  · next filled => exact ⟨filled, fun _ member => isIdChar_of_mem_slug member⟩

/-- A number is written with characters of identifiers. -/
theorem isIdChar_of_mem_toString {n : Nat} {c : Char} (member : c ∈ (toString n).toList) :
    isIdChar c = true := by
  rw [Nat.toString_eq_repr, Nat.toList_repr] at member
  have digit := Nat.isDigit_of_mem_toDigits (by decide) (by decide) member
  simp only [Char.isDigit, Bool.and_eq_true, decide_eq_true_eq] at digit
  have kept : isSlugChar c = true := by
    simp only [isSlugChar, Bool.or_eq_true, Bool.and_eq_true, decide_eq_true_eq]
    exact .inr digit
  simp [isIdChar, kept]

/-- Every candidate for a base that can be an identifier can be one. -/
theorem Written.candidate {base : String} (written : Written base) (n : Nat) :
    Written (candidate base n) := by
  cases n with
  | zero => exact written
  | succ n =>
    refine ⟨?_, fun c member => ?_⟩
    · intro empty
      have marked : '_' ∈ (NodeIds.candidate base (n + 1)).toList := by simp [NodeIds.candidate]
      rw [empty] at marked
      cases marked
    · simp only [NodeIds.candidate, String.toList_append, List.mem_append] at member
      rcases member with (ofBase | mark) | ofNumber
      · exact written.2 c ofBase
      · obtain rfl : c = '_' := by simpa using mark
        decide
      · exact isIdChar_of_mem_toString ofNumber

/-! ### Runs of requests -/

/-- The identifiers given out after a list of requests. -/
def after (ids : NodeIds) (requests : List (String × String)) : NodeIds :=
  requests.foldl (fun ids request => (ids.request request.1 request.2).2) ids

/-- Requests are answered one list after the other. -/
theorem requestAll_append (ids : NodeIds) (requests more : List (String × String)) :
    ids.requestAll (requests ++ more) =
      ids.requestAll requests ++ (ids.after requests).requestAll more := by
  induction requests generalizing ids with
  | nil => rfl
  | cons request rest ih => simp [requestAll, after, ih]

/-- After the identifiers that were given, an identifier is the first free one for an entity:
candidates are tried in order, from the base on, until one is neither reserved nor given. No more
are tried than there are identifiers given and two. -/
structure FirstFree (given : List String) (entity : Entity) (id : String) : Prop where
  not_given : id ∉ given
  not_reserved : id ∉ reservedIds
  first : ∃ n, n + 1 ≤ given.eraseDups.length + 2 ∧
    id = candidate (base entity.1.name entity.2) n ∧
    ∀ earlier < n, candidate (base entity.1.name entity.2) earlier ∈ given ∨
      candidate (base entity.1.name entity.2) earlier ∈ reservedIds

/-- What a list of requests, with the answers they were given, has made of the identifiers. -/
structure Answered (ids : NodeIds) (requests : List Entity) (given : List String) : Prop where
  distinct : ids.Distinct
  /-- Every request finds its answer. -/
  found : requests.map (fun entity => ids.assigned.lookup entity.key) = given.map some
  /-- Nothing is found for what was not requested. -/
  absent : ∀ entity ∉ requests, ids.assigned.lookup entity.key = none
  used : ids.used = given.eraseDups
  not_reserved : ∀ id ∈ given, id ∉ reservedIds
  written : ∀ id ∈ given, Written id

variable {ids : NodeIds} {requests : List Entity} {given : List String}

/-- At the start nothing was requested. -/
theorem Answered.empty : Answered .empty [] [] where
  distinct := .empty
  found := rfl
  absent _ _ := rfl
  used := rfl
  not_reserved _ member := by cases member
  written _ member := by cases member

/-- The used identifiers are those that were given. -/
theorem Answered.mem_used (answered : ids.Answered requests given) {id : String} :
    id ∈ ids.used ↔ id ∈ given := by
  rw [answered.used, List.mem_eraseDups]

/-- What is first free for the state is first free after the answers given. -/
theorem Answered.firstFree (answered : ids.Answered requests given) {entity : Entity}
    {id : String} (free : ids.IsFirstFree entity.1.name entity.2 id) :
    FirstFree given entity id where
  not_given := fun member => free.not_used (answered.mem_used.2 member)
  not_reserved := free.not_reserved
  first := by
    obtain ⟨n, bound, candidate, before⟩ := free.first
    refine ⟨n, ?_, candidate, fun earlier below => ?_⟩
    · rw [← answered.used]
      omega
    · have taken := before earlier below
      rwa [isTaken_iff, answered.mem_used] at taken

/-- What is first free is written as identifiers are. -/
theorem FirstFree.written {entity : Entity} {id : String} (free : FirstFree given entity id) :
    Written id := by
  obtain ⟨n, -, rfl, -⟩ := free.first
  exact (written_base entity.1 entity.2).candidate n

/-- A request that has its answer gets it again. -/
theorem Answered.again (answered : ids.Answered requests given) {entity : Entity} {id : String}
    (held : ids.assigned.lookup entity.key = some id) :
    ids.Answered (requests ++ [entity]) (given ++ [id]) := by
  have requested : entity ∈ requests := by
    by_contra missing
    rw [answered.absent entity missing] at held
    cases held
  have known : id ∈ given := by
    have member : some id ∈ given.map some :=
      answered.found ▸ List.mem_map.2 ⟨entity, requested, held⟩
    simpa using member
  have only : ∀ other ∈ given ++ [id], other ∈ given := by
    intro other member
    rcases List.mem_append.1 member with before | last
    · exact before
    · exact List.mem_singleton.1 last ▸ known
  exact
    { distinct := answered.distinct
      found := by simp [answered.found, held]
      absent := fun other missing =>
        answered.absent other fun member => missing (List.mem_append_left _ member)
      used := by rw [eraseDups_concat, if_pos known, answered.used]
      not_reserved := fun other member => answered.not_reserved other (only other member)
      written := fun other member => answered.written other (only other member) }

/-- A request without an answer gets one that is free. -/
theorem Answered.give (answered : ids.Answered requests given) {entity : Entity} {id : String}
    (unknown : ids.assigned.lookup entity.key = none) (free : FirstFree given entity id) :
    Answered ⟨ids.assigned ++ [(entity.key, id)]⟩ (requests ++ [entity]) (given ++ [id]) := by
  have new : entity ∉ requests := by
    intro requested
    have member : none ∈ given.map some :=
      answered.found ▸ List.mem_map.2 ⟨entity, requested, unknown⟩
    simp at member
  have fresh : id ∉ ids.used := fun member => free.not_given (answered.mem_used.1 member)
  -- What was found before is found before the new entry is reached.
  have kept : requests.map (fun other => (ids.assigned ++ [(entity.key, id)]).lookup other.key) =
      requests.map (fun other => ids.assigned.lookup other.key) := by
    apply List.map_congr_left
    intro other requested
    have differs : (other.key == entity.key) = false := by
      rw [beq_eq_false_iff_ne]
      exact fun same => new (Entity.key_injective same ▸ requested)
    simp [List.lookup_append, List.lookup_cons, differs]
  refine
    { distinct := answered.distinct.give unknown fresh
      found := ?_
      absent := fun other missing => ?_
      used := ?_
      not_reserved := ?_
      written := ?_ }
  · rw [List.map_append, kept, answered.found]
    simp [List.lookup_append, unknown]
  · simp only [List.mem_append, List.mem_singleton, not_or] at missing
    have differs : (other.key == entity.key) = false := by
      rw [beq_eq_false_iff_ne]
      exact fun same => missing.2 (Entity.key_injective same)
    simp [List.lookup_append, List.lookup_cons, differs, answered.absent other missing.1]
  · rw [eraseDups_concat, if_neg free.not_given, ← answered.used]
    simp [NodeIds.used]
  · simpa [or_imp, forall_and] using ⟨answered.not_reserved, free.not_reserved⟩
  · simpa [or_imp, forall_and] using ⟨answered.written, free.written⟩

/-- One more request is answered; if it is new, by the first free identifier. -/
theorem Answered.request (answered : ids.Answered requests given) (entity : Entity) :
    (ids.request entity.1.name entity.2).2.Answered (requests ++ [entity])
        (given ++ [(ids.request entity.1.name entity.2).1]) ∧
      (entity ∉ requests → FirstFree given entity (ids.request entity.1.name entity.2).1) := by
  rcases ids.request_cases entity.1.name entity.2 with
    ⟨id, held, request⟩ | ⟨id, unknown, free, request⟩
  · rw [request]
    refine ⟨answered.again held, fun missing => ?_⟩
    have none := answered.absent entity missing
    rw [Entity.key, held] at none
    cases none
  · rw [request]
    exact ⟨answered.give unknown (answered.firstFree free), fun _ => answered.firstFree free⟩

/-- Requests that are answered one after the other, from the start, are answered. -/
theorem answered_requestAll (requests : List Entity) :
    (NodeIds.empty.after (requests.map Entity.key)).Answered requests
      (NodeIds.empty.requestAll (requests.map Entity.key)) := by
  induction requests using List.reverseRecOn with
  | nil => exact .empty
  | append_singleton requests entity ih =>
    rw [List.map_append, requestAll_append]
    simpa [after, requestAll, Entity.key] using (ih.request entity).1

/-- Answers are the same exactly for the same request. -/
theorem Answered.eq_iff (answered : ids.Answered requests given) {i j : Nat}
    {left right : Entity} (first : requests[i]? = some left) (second : requests[j]? = some right) :
    given[i]? = given[j]? ↔ left = right := by
  have answer (i : Nat) (entity : Entity) (asked : requests[i]? = some entity) :
      (given[i]?).map some = some (ids.assigned.lookup entity.key) := by
    rw [← List.getElem?_map, ← answered.found, List.getElem?_map, asked]
    rfl
  have ofLeft := answer i left first
  have ofRight := answer j right second
  constructor
  · intro same
    obtain ⟨id, at_i, held⟩ := Option.map_eq_some_iff.1 ofLeft
    rw [← same, at_i, Option.map_some, Option.some_inj] at ofRight
    -- Two keys with one identifier are one key.
    have entryLeft := List.lookup_eq_some_iff.1 held.symm
    have entryRight := List.lookup_eq_some_iff.1 ofRight.symm
    have memberLeft : (left.key, id) ∈ ids.assigned := by
      obtain ⟨before, rest, split, -⟩ := entryLeft
      simp [split]
    have memberRight : (right.key, id) ∈ ids.assigned := by
      obtain ⟨before, rest, split, -⟩ := entryRight
      simp [split]
    have entry := List.inj_on_of_nodup_map answered.distinct.used_nodup memberLeft memberRight rfl
    exact Entity.key_injective (Prod.mk.inj entry).1
  · rintro rfl
    exact Option.map_injective (fun _ _ => Option.some.inj) (ofLeft.trans ofRight.symm)

/-- How a list of requests is answered. -/
structure Answers (requests : List Entity) (answers : List String) : Prop where
  length_eq : answers.length = requests.length
  /-- The same label of the same kind always gets the same identifier, any other a different
  one. -/
  eq_iff : ∀ {i j : Nat} {left right : Entity}, requests[i]? = some left →
    requests[j]? = some right → (answers[i]? = answers[j]? ↔ left = right)
  not_reserved : ∀ id ∈ answers, id ∉ reservedIds
  written : ∀ id ∈ answers, Written id
  /-- Where something is requested for the first time, it gets the first free identifier. -/
  first_free : ∀ {before : List Entity} {entity : Entity} {later : List Entity},
    requests = before ++ entity :: later → entity ∉ before →
      ∃ given id rest, answers = given ++ id :: rest ∧ given.length = before.length ∧
        FirstFree given entity id

/-- Any list of requests is answered so. -/
theorem requestAll_answers (requests : List Entity) :
    Answers requests (NodeIds.empty.requestAll (requests.map Entity.key)) where
  length_eq := by
    have lengths := congrArg List.length (answered_requestAll requests).found
    simpa using lengths.symm
  eq_iff := (answered_requestAll requests).eq_iff
  not_reserved := (answered_requestAll requests).not_reserved
  written := (answered_requestAll requests).written
  first_free := by
    rintro before entity later rfl new
    have earlier := answered_requestAll before
    rw [List.map_append, requestAll_append, List.map_cons]
    refine ⟨_, _, _, rfl, ?_, (earlier.request entity).2 new⟩
    have lengths := congrArg List.length earlier.found
    simpa using lengths.symm

end NodeIds

end EventAtlas.Flow
