import EventAtlas.Proofs.Api.Plain
import EventAtlas.Proofs.Api.WrapperCall
import EventAtlas.Proofs.Survey.Index

/-!
# What several searches find of one call

A call through the wrapper with the full address of the service shows a path, and the address shows
an endpoint. Both come from the same characters, but an endpoint ends at a dash. Such a call also
makes its source indirect, but the name of the wrapper is then looked for letter for letter, while a
call has it in any case.
-/

namespace EventAtlas

open Text

variable {source : String} {argument host path front rest before after : List Char}

/-! ### Endpoints in addresses -/

/-- An address ends with a word and a slash, and what comes before the word is no path character. -/
theorem WrapperCall.exists_of_address (addressed : SpellsOne addresses host) :
    ∃ server name, host = server ++ '.' :: (name ++ ['/']) ∧ '/' ∉ name ∧
      ∀ c ∈ name, Endpoint.isPathChar c = true := by
  obtain ⟨word, listed, spells⟩ := addressed
  obtain ⟨scheme, same⟩ : ∃ scheme, word.toList = scheme ++ ('.' :: ("com".toList ++ ['/'])) := by
    simp only [addresses, List.mem_cons, List.not_mem_nil, or_false] at listed
    rcases listed with rfl | rfl
    · exact ⟨"http://api.mollie".toList, by decide⟩
    · exact ⟨"https://api.mollie".toList, by decide⟩
  rw [same] at spells
  obtain ⟨server, _, rfl, -, dotted⟩ := spells_append_iff.1 spells
  obtain ⟨dot, _, rfl, isDot, named⟩ := spells_cons_iff.1 dotted
  obtain ⟨name, _, rfl, letters, slashed⟩ := spells_append_iff.1 named
  obtain ⟨slash, _, rfl, isSlash, none⟩ := spells_cons_iff.1 slashed
  obtain rfl := eq_of_foldCase_eq isDot (by decide)
  obtain rfl := eq_of_foldCase_eq isSlash (by decide)
  obtain rfl := List.map_eq_nil_iff.1 none
  have alpha : ∀ c ∈ "com".toList, c.isAlpha = true := by decide
  refine ⟨server, name, rfl, fun member => ?_, fun c member => ?_⟩
  · exact absurd (letters.foldCase_mem member) (by decide)
  · have word := isWord_of_foldCase (alpha _ (letters.foldCase_mem member))
    simp [Endpoint.isPathChar, word]

/-- An endpoint starts with a version and is made of path characters. -/
theorem Endpoint.of_mem_detect {endpoint : String} (found : endpoint ∈ detect source) :
    StartsVersion endpoint.toList ∧ ∀ c ∈ endpoint.toList, isPathChar c = true := by
  obtain ⟨before, run, after, -, whole, version, lead, rfl, -⟩ := mem_detect_iff_isRun.1 found
  exact ⟨version, fun c member => whole.accepted c (List.mem_append_right _ member)⟩

/-- Path characters that come after an address are shown as an endpoint if they are a path. -/
theorem Endpoint.mem_detect_of_address (addressed : SpellsOne WrapperCall.addresses host)
    (split : source.toList = before ++ (host ++ (front ++ after)))
    (accepted : ∀ c ∈ front, isPathChar c = true) (stops : ∀ c ∈ after.head?, isPathChar c = false)
    (starts : StartsVersion ('/' :: front)) : String.ofList ('/' :: front) ∈ detect source := by
  obtain ⟨server, name, rfl, noSlash, word⟩ := WrapperCall.exists_of_address addressed
  refine mem_detect_iff_isRun.2 ⟨before ++ server ++ ['.'], name ++ '/' :: front, after,
    by simp [split], ⟨by simp, fun c member => ?_, ?_, stops⟩, ?_⟩
  · rw [List.mem_append, List.mem_cons] at member
    rcases member with inside | rfl | behind
    · exact word c inside
    · decide
    · exact accepted c behind
  · simp +decide
  · rw [String.toList_ofList]
    refine ⟨starts, name, rfl, fun earlier later split version => ?_⟩
    -- A version starts with a slash, and there is none in the name.
    obtain ⟨_, more, parted, ⟨_, _, rfl, -⟩, -⟩ := version
    obtain ⟨between, rfl, -⟩ := exists_of_head_not_mem split (by rw [parted]; rfl) noSlash
    simp

namespace WrapperCall

/-- But for the dash, both kinds of paths are made of the same characters. -/
theorem isPathChar_iff {c : Char} :
    Endpoint.isPathChar c = true ↔ isPathChar c = true ∧ c ≠ '-' := by
  by_cases dash : c = '-'
  · subst dash
    decide
  · simp [isPathChar, dash]

/-- A path is one in which a version starts, and which is made of path characters. -/
theorem isPath_iff_startsVersion : IsPath path ↔
    Endpoint.StartsVersion ('/' :: path) ∧ ∀ c ∈ path, isPathChar c = true := by
  constructor
  · intro isPath
    obtain ⟨version, more, same, isVersion, some, -⟩ := id isPath
    exact ⟨⟨version, more, same, isVersion, some⟩, isPath.isPathChar⟩
  · rintro ⟨⟨_, more, same, ⟨letter, digits, rfl, inCase, some, digit⟩, goes⟩, accepted⟩
    refine ⟨_, more, same, ⟨letter, digits, rfl, inCase, some, digit⟩, goes, fun c member => ?_⟩
    obtain ⟨-, same⟩ := List.cons.inj same
    exact accepted c (same ▸ by simp [member])

/-- The address and the path of a call stand in the source up to the quotation mark that closes
them. -/
theorem StandsIn.quoted (stands : StandsIn source argument host path) :
    IsPath path ∧ ∃ before closing after, isQuote closing = true ∧
      source.toList = before ++ (host ++ (path ++ closing :: after)) := by
  obtain ⟨before, _, after, split, @⟨name, gap, _, _, _, _, -, -, -, -,
    @⟨gap', _, _, opening, closing, -, -, -, isPath, closes⟩⟩⟩ := stands
  exact ⟨isPath, before ++ name ++ gap ++ '(' :: (argument ++ ',' :: (gap' ++ [opening])), closing,
    after, closes, by simp [split]⟩

/-- The path of a call with the address of the service is an endpoint of the source exactly if it
has no dash. If it has one, it is cut there: what stands in front of the first dash is an endpoint
if it is a path by itself. -/
theorem path_is_endpoint_iff (source : String) (stands : StandsIn source argument host path)
    (addressed : SpellsOne addresses host) :
    (String.ofList ('/' :: path) ∈ Endpoint.detect source ↔ '-' ∉ path) ∧
    ∀ front rest, path = front ++ '-' :: rest → '-' ∉ front →
      (String.ofList ('/' :: front) ∈ Endpoint.detect source ↔ IsPath front) := by
  obtain ⟨isPath, before, closing, after, closes, split⟩ := stands.quoted
  obtain ⟨version, accepted⟩ := isPath_iff_startsVersion.1 isPath
  refine ⟨⟨fun found dash => ?_, fun noDash => ?_⟩, ?_⟩
  · have plain := (Endpoint.of_mem_detect found).2 '-' (by simp [dash])
    exact absurd plain (by decide)
  · have plain : ∀ c ∈ path, Endpoint.isPathChar c = true := fun c member =>
      isPathChar_iff.2 ⟨accepted c member, ne_of_mem_of_not_mem member noDash⟩
    have stops : ∀ c ∈ (closing :: after).head?, Endpoint.isPathChar c = false := by
      rcases isQuote_iff.1 closes with rfl | rfl <;> simp +decide
    exact Endpoint.mem_detect_of_address addressed split plain stops version
  · rintro front rest rfl noDash
    have plain : ∀ c ∈ front, Endpoint.isPathChar c = true := fun c member =>
      isPathChar_iff.2 ⟨accepted c (by simp [member]), ne_of_mem_of_not_mem member noDash⟩
    constructor
    · intro found
      have version := (Endpoint.of_mem_detect found).1
      rw [String.toList_ofList] at version
      exact isPath_iff_startsVersion.2 ⟨version, fun c member => accepted c (by simp [member])⟩
    · intro isPath
      have split : source.toList =
          before ++ (host ++ (front ++ '-' :: (rest ++ closing :: after))) := by simpa using split
      exact Endpoint.mem_detect_of_address addressed split plain (by simp +decide)
        (isPath_iff_startsVersion.1 isPath).1

/-- A call of a path that holds a dash, up to the end of its literal. -/
def linksCall : String :=
  "performHttpCallToFullUrl('GET', 'https://api.mollie.com/v2/payment-links'"

/-- A source in which it stands. -/
def linksText : String :=
  "$c->" ++ linksCall ++ ");"

theorem toList_linksText :
    linksText.toList = "$c->".toList ++ (linksCall.toList ++ ");".toList) := by
  rw [linksText, String.toList_append, String.toList_append, List.append_assoc]

theorem writes_linksCall : Writes linksCall.toList "'GET'".toList "https://api.mollie.com/".toList
    "v2/payment-links".toList := by
  have quotes : Quotes ([' '] ++ '\'' :: ("https://api.mollie.com/".toList ++
      ("v2/payment-links".toList ++ ['\'']))) "https://api.mollie.com/".toList
      "v2/payment-links".toList :=
    .quoted (by decide) rfl (.inr (by decide))
      ⟨"/v2/".toList, "payment-links".toList, by decide,
        ⟨'v', ['2'], by decide, .inl rfl, by simp, by decide⟩, by decide,
        by decide⟩ rfl
  have parted : linksCall.toList = "performHttpCallToFullUrl".toList ++ ([] ++ '(' ::
      ("'GET'".toList ++ ',' :: ([' '] ++ '\'' :: ("https://api.mollie.com/".toList ++
        ("v2/payment-links".toList ++ ['\'']))))) := by
    decide
  rw [parted]
  exact .call (by decide) (by decide) (by decide) (by decide) quotes

theorem standsIn_linksText : StandsIn linksText "'GET'".toList "https://api.mollie.com/".toList
    "v2/payment-links".toList :=
  ⟨_, _, _, toList_linksText, writes_linksCall⟩

/-- The path is no endpoint, and what is in front of its dash is one. -/
theorem path_is_endpoint_iff_links :
    "/v2/payment-links" ∉ Endpoint.detect linksText ∧
      "/v2/payment" ∈ Endpoint.detect linksText := by
  have both := path_is_endpoint_iff linksText standsIn_linksText (by decide)
  refine ⟨fun found => ?_, ?_⟩
  · exact both.1.1 (by simpa using found) (by decide)
  · have cut := both.2 "v2/payment".toList "links".toList (by decide) (by decide)
    simpa using cut.2 ⟨"/v2/".toList, "payment".toList, by decide,
        ⟨'v', ['2'], by decide, .inl rfl, by simp, by decide⟩, by decide,
        by decide⟩

/-- So not every path that is called with the address of the service is an endpoint. -/
theorem path_without_endpoint :
    ¬ ∀ source argument host path, StandsIn source argument host path → SpellsOne addresses host →
      String.ofList ('/' :: path) ∈ Endpoint.detect source := by
  intro all
  have found := all _ _ _ _ standsIn_linksText (by decide)
  exact absurd found (by decide)

/-! ### The mark of indirect calls -/

/-- A word occurs in a text if it is a piece of it. -/
theorem occurs_iff_isInfix {word text : List Char} : occurs word text = true ↔ word <:+: text := by
  induction text with
  | nil => rw [occurs, List.isEmpty_iff, List.infix_nil]
  | cons c rest ih =>
    rw [occurs, Bool.or_eq_true, List.isPrefixOf_iff_prefix, ih, List.infix_cons_iff]

/-- A source is indirect if one of the names is a piece of it. -/
theorem hasIndirect_iff : hasIndirect source = true ↔
    ∃ token ∈ indirectTokens, token.toList <:+: source.toList := by
  simp only [hasIndirect, List.any_eq_true, occurs_iff_isInfix]

/-- A call starts with the name of the wrapper in some case. -/
theorem Writes.named {written : List Char} (writes : Writes written argument host path) :
    ∃ name, name <+: written ∧ Spells "performhttpcall".toList name := by
  obtain @⟨name, gap, _, literal, _, _, ⟨word, listed, spells⟩, -, -, -, -⟩ := writes
  simp only [names, List.mem_cons, List.not_mem_nil, or_false] at listed
  rcases listed with rfl | rfl
  · exact ⟨name, List.prefix_append .., spells⟩
  · obtain ⟨first, second, rfl, spells, -⟩ := spells_append_iff.1
      (show Spells ("performhttpcall".toList ++ "tofullurl".toList) name from spells)
    exact ⟨first, by rw [List.append_assoc]; exact List.prefix_append .., spells⟩

/-- The characters of the lower case of a resource are no colons. -/
theorem colon_not_mem_lower {resource : List Char} (named : SpellsOne SdkCall.resources resource) :
    ':' ∉ lower resource := by
  have letters : ∀ word ∈ SdkCall.resources, ∀ c ∈ word.toList, c.toNat < 128 ∧ c ≠ ':' := by
    decide
  obtain ⟨word, listed, spells⟩ := named
  intro member
  obtain ⟨c, inside, lowered⟩ := List.mem_flatMap.1 member
  obtain ⟨ascii, other⟩ := letters word listed _ (spells.foldCase_mem inside)
  rcases eq_foldCase_or_of_mem_lowerChar ascii lowered with same | wide
  · exact other same.symm
  · exact absurd wide (by decide)

/-- A noted call through the wrapper has a colon and a blank behind the name of the wrapper. -/
theorem toList_signature :
    (signature path).toList = "performHttpCall".toList ++ ':' :: ' ' :: path := by
  have front : "performHttpCall: ".toList = "performHttpCall".toList ++ [':', ' '] := by
    decide
  calc (signature path).toList = "performHttpCall: ".toList ++ (String.ofList path).toList :=
        String.toList_append
    _ = "performHttpCall".toList ++ [':', ' '] ++ path :=
        congrArg₂ (· ++ ·) front String.toList_ofList
    _ = "performHttpCall".toList ++ ':' :: ' ' :: path := List.append_assoc ..

/-- The mark holds no colon, and all noted calls do. -/
theorem ne_indirectMark {call : String} (colon : ':' ∈ call.toList) : call ≠ indirectMark := by
  rintro rfl
  exact absurd colon (by decide)

/-- Calls of the client library are noted otherwise than calls through the wrapper: a second colon
comes after their first one. -/
theorem signature_ne {resource action : List Char} (named : SpellsOne SdkCall.resources resource) :
    SdkCall.signature resource action ≠ signature path := by
  intro same
  rw [← String.toList_inj, SdkCall.signature, String.toList_ofList, List.append_assoc,
    toList_signature] at same
  have behind := (eq_of_first_mark same (colon_not_mem_lower named) (by decide)).2
  exact absurd (List.cons.inj behind).1 (by decide)

/-- No call of the client library is noted like a call through the wrapper or like the mark. -/
theorem ne_of_mem_detect {call : String} (library : call ∈ SdkCall.detect source) :
    (∀ path, call ≠ signature path) ∧ call ≠ indirectMark := by
  obtain ⟨resource, action, ⟨_, _, _, _, ⟨-, named, -⟩⟩, rfl⟩ := SdkCall.mem_detect_iff.1 library
  exact ⟨fun _ => signature_ne named, ne_indirectMark (by simp [SdkCall.signature])⟩

/-- The paths of calls that a class shows are those that its source shows. -/
theorem signature_mem_callsOf_iff :
    signature path ∈ ApiClass.callsOf source ↔ signature path ∈ detect source := by
  rw [ApiClass.mem_callsOf_iff]
  constructor
  · rintro (found | found | ⟨-, same⟩)
    · exact absurd rfl ((ne_of_mem_detect found).1 path)
    · exact found
    · exact absurd same (ne_indirectMark (by simp [toList_signature]))
  · exact fun found => .inr (.inl found)

/-- A class shows the mark exactly if its source is indirect. -/
theorem indirectMark_mem_callsOf_iff :
    indirectMark ∈ ApiClass.callsOf source ↔ hasIndirect source = true := by
  rw [ApiClass.mem_callsOf_iff]
  constructor
  · rintro (found | found | ⟨indirect, -⟩)
    · exact absurd rfl (ne_of_mem_detect found).2
    · obtain ⟨_, _, path, -, same⟩ := mem_detect_iff.1 found
      exact absurd same.symm (ne_indirectMark (by simp [toList_signature]))
    · exact indirect
  · exact fun indirect => .inr (.inr ⟨indirect, rfl⟩)

/-- A call through the wrapper starts with the name of the wrapper, and if that is spelled letter
for letter, its source is indirect. A class of an index shows the path of a call exactly if its
source does, and the mark exactly if its source is indirect. -/
theorem indirect_if_spelled (source : String) :
    (hasIndirect source = true ↔ ∃ token ∈ indirectTokens, token.toList <:+: source.toList) ∧
    (∀ {before written after argument host path},
      source.toList = before ++ (written ++ after) → Writes written argument host path →
      (∃ name, name <+: written ∧ Spells "performhttpcall".toList name) ∧
        ("performHttpCall".toList <+: written → hasIndirect source = true)) ∧
    ∀ {workspace survey indexing id found},
      (Survey.buildIndex workspace survey).result = .ok indexing →
      indexing.index.get? id = some found →
      ∃ path text, ApiClass.ReadFrom path text found ∧
        (∀ path, signature path ∈ found.sdkCalls ↔ signature path ∈ detect text) ∧
        (indirectMark ∈ found.sdkCalls ↔ hasIndirect text = true) := by
  refine ⟨hasIndirect_iff, fun {before _ after _ _ _} split writes => ?_, fun built held => ?_⟩
  · refine ⟨writes.named, fun ⟨more, spelled⟩ => hasIndirect_iff.2 ⟨"performHttpCall", ?_, ?_⟩⟩
    · exact List.mem_cons_of_mem _ (List.mem_cons_self ..)
    · exact ⟨before, more ++ after, by rw [split, ← spelled, List.append_assoc, List.append_assoc]⟩
  · obtain ⟨_, wins⟩ := firstWins_of_buildIndex built
    obtain ⟨path, text, read⟩ := exists_readFrom_of_firstWins wins held
    refine ⟨path, text, read, ?_⟩
    rw [read.sdkCalls]
    exact ⟨fun _ => signature_mem_callsOf_iff, indirectMark_mem_callsOf_iff⟩

/-- A call that is spelled letter for letter makes its source indirect, and the class of the small
module is marked exactly if its source is. -/
theorem indirect_if_spelled_links : hasIndirect linksText = true ∧
    ∃ path text, ApiClass.ReadFrom path text Shop.client ∧
      (indirectMark ∈ Shop.client.sdkCalls ↔ hasIndirect text = true) := by
  constructor
  · exact ((indirect_if_spelled linksText).2.1 toList_linksText writes_linksCall).2 (by decide)
  · have held : Shop.indexing.index.get? "Shop\\Client" = some Shop.client := by decide
    obtain ⟨path, text, read, -, mark⟩ := (indirect_if_spelled linksText).2.2 Shop.buildIndex held
    exact ⟨path, text, read, mark⟩

/-- A source that calls the wrapper in capitals. -/
def capitalsText : String :=
  "$c->PERFORMHTTPCALL($m, 'v2/payments');"

/-- Not every source in which a call is found is indirect. -/
theorem call_without_mark :
    ¬ ∀ source, (∃ call, call ∈ detect source) → hasIndirect source = true := by
  intro all
  exact absurd (all capitalsText ⟨"performHttpCall: v2/payments", by decide⟩)
    (by decide)

end WrapperCall

end EventAtlas
