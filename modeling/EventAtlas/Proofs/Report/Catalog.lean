import EventAtlas.Proofs.Api.Endpoint
import EventAtlas.Proofs.Observer
import EventAtlas.Proofs.Report
import EventAtlas.Proofs.Text.Place
import EventAtlas.Report.Catalog
import Mathlib.Data.List.Count

/-!
# The catalog is read as it was written

An endpoint is a versioned path on its own, so that it is found again wherever characters stand next
to it that no path has. The rows of the catalog have such characters around their endpoints and no
slash outside of them, and neither has any other line. A search of the catalog for endpoints thus
gives back what was listed, in the order of the rows.
-/

namespace EventAtlas

open Text

namespace Endpoint

variable {lead rest : List Char} {endpoint : String}

/-- An endpoint on its own: a version, and nothing but path characters. -/
def Wellformed (endpoint : String) : Prop :=
  StartsVersion endpoint.toList ∧ ∀ c ∈ endpoint.toList, isPathChar c = true

/-- What is found in a source is an endpoint on its own. -/
theorem wellformed_of_mem_detect {source : String} (found : endpoint ∈ detect source) :
    Wellformed endpoint := by
  obtain ⟨before, run, after, -, whole, version, front, rfl, -⟩ := mem_detect_iff_isRun.1 found
  exact ⟨version, fun c member => whole.accepted c (List.mem_append_right _ member)⟩

/-- Nothing is read where there is no slash. -/
theorem unread_of_not_mem (apart : '/' ∉ lead) : Unread read lead rest := by
  intro front inside split some
  obtain ⟨c, others, rfl⟩ := List.exists_cons_of_ne_nil some
  have other : c ≠ '/' := by
    rintro rfl
    exact apart (split ▸ List.mem_append_right _ (List.mem_cons_self ..))
  simp [read, after?, other]

/-- Behind a text without slashes and in front of something else, an endpoint is found. -/
theorem findAll_append_wellformed (apart : '/' ∉ lead) (formed : Wellformed endpoint)
    (right : ∀ c ∈ rest.head?, isPathChar c = false) :
    findAll read (lead ++ (endpoint.toList ++ rest)) = endpoint.toList :: findAll read rest := by
  obtain ⟨version, accepted⟩ := formed
  have some : endpoint.toList ≠ [] := by
    obtain ⟨_, path, parted, -, more⟩ := version
    rw [parted]
    simp [more]
  rw [findAll_of_unread (unread_of_not_mem apart)]
  exact findAll_append some ((read_append_eq_some_iff accepted right).2 ⟨rfl, version⟩)

end Endpoint

namespace Report

variable {index : ApiIndex} {endpoints : List String} {endpoint : String}

/-! ### Rows -/

/-- The characters of a row. -/
theorem toList_catalogRow (endpoint : String) :
    (catalogRow endpoint).toList = "| `".toList ++ (endpoint.toList ++ "` |".toList) := by
  simp [catalogRow]

/-- Different endpoints have different rows. -/
theorem catalogRow_injective : Function.Injective catalogRow := by
  intro first second same
  have chars := congrArg String.toList same
  rw [toList_catalogRow, toList_catalogRow] at chars
  exact String.toList_inj.1 (List.append_cancel_right (List.append_cancel_left chars))

/-- No endpoint has the row of a catalog without endpoints, nor another line in front of the
rows. -/
theorem catalogRow_not_mem_other (endpoint : String) :
    catalogRow endpoint ∉ emptyCatalogRow :: catalogHeader := by
  intro member
  have chars : (catalogRow endpoint).toList ∈
      (emptyCatalogRow :: catalogHeader).map String.toList := List.mem_map_of_mem member
  have third : (catalogRow endpoint).toList[2]? = some '`' := by
    rw [toList_catalogRow]
    rfl
  have others : ∀ other ∈ (emptyCatalogRow :: catalogHeader).map String.toList,
      other[2]? ≠ some '`' := by
    decide +kernel
  exact others _ chars third

/-- In the rows of endpoints, the endpoints are found in their order. -/
theorem findAll_rows (formed : ∀ endpoint ∈ endpoints, Endpoint.Wellformed endpoint) :
    findAll Endpoint.read (lineChars (endpoints.map catalogRow)) = endpoints.map String.toList := by
  induction endpoints with
  | nil => rfl
  | cons endpoint others ih =>
    obtain ⟨first, later⟩ := List.forall_mem_cons.1 formed
    have parted : lineChars ((endpoint :: others).map catalogRow) = "| `".toList ++
        (endpoint.toList ++ ("` |\n".toList ++ lineChars (others.map catalogRow))) := by
      simp [lineChars, toList_catalogRow]
    rw [parted, Endpoint.findAll_append_wellformed (by decide) first
      (head?_append_of_ne_nil (by decide) (by decide +kernel) _),
      findAll_of_unread (Endpoint.unread_of_not_mem (by decide)), ih later, List.map_cons]

/-- In the other lines, none are found. -/
theorem findAll_other (rest : List Char) :
    findAll Endpoint.read (lineChars catalogHeader ++ rest) = findAll Endpoint.read rest :=
  findAll_of_unread (Endpoint.unread_of_not_mem (by decide +kernel))

/-- A line feed is in none of the lines. -/
theorem single_catalogLines (formed : ∀ endpoint ∈ endpoints, Endpoint.Wellformed endpoint) :
    ∀ line ∈ catalogHeader ++
      (if endpoints = [] then [emptyCatalogRow] else endpoints.map catalogRow),
        '\n' ∉ line.toList := by
  have fixed : ∀ line ∈ emptyCatalogRow :: catalogHeader, '\n' ∉ line.toList := by
    decide +kernel
  intro line member
  rcases List.mem_append.1 member with header | row
  · exact fixed line (List.mem_cons_of_mem _ header)
  · split at row
    · obtain rfl := List.mem_singleton.1 row
      exact fixed _ (List.mem_cons_self ..)
    · obtain ⟨endpoint, listed, rfl⟩ := List.mem_map.1 row
      have apart : '\n' ∉ endpoint.toList := fun inside =>
        absurd ((formed endpoint listed).2 _ inside) (by decide +kernel)
      simpa [toList_catalogRow] using apart

/-! ### The catalog of an index -/

/-- Every endpoint of an index was found in some source. -/
def Detected (index : ApiIndex) : Prop :=
  ∀ id found, index.get? id = some found → ∀ endpoint ∈ found.endpoints,
    ∃ source, endpoint ∈ Endpoint.detect source

/-- What is listed in the catalog of an index. -/
structure Lists (index : ApiIndex) (endpoints : List String) : Prop where
  /-- The endpoints increase, so that none is listed twice. -/
  increase : endpoints.Pairwise (· < ·)
  /-- They are those of the classes. -/
  mem_iff : ∀ endpoint, endpoint ∈ endpoints ↔
    ∃ id found, index.get? id = some found ∧ endpoint ∈ found.endpoints
  /-- Each of them has its row, and there is a row that says so if there are none. -/
  lines : linesOf (catalog index).toList = (catalogHeader ++
    (if endpoints = [] then [emptyCatalogRow] else endpoints.map catalogRow)).map String.toList
  /-- This is the only line like it. -/
  once : ∀ endpoint ∈ endpoints,
    (linesOf (catalog index).toList).count (catalogRow endpoint).toList = 1
  /-- The row that there are no endpoints stands there only then. -/
  none_iff : emptyCatalogRow.toList ∈ linesOf (catalog index).toList ↔ endpoints = []
  /-- The endpoints that are found in the catalog are those of the classes. -/
  again : ∀ endpoint, endpoint ∈ Endpoint.detect (catalog index) ↔
    ∃ id found, index.get? id = some found ∧ endpoint ∈ found.endpoints

/-- The rows of a catalog are those of its endpoints. -/
theorem catalogRows_eq (index : ApiIndex) : catalogRows index =
    if (catalogEndpoints index).sorted = [] then [emptyCatalogRow]
    else (catalogEndpoints index).sorted.map catalogRow := by
  unfold catalogRows
  split
  · next none => rw [if_pos none]
  · next some => rw [if_neg some]

/-- The characters of a catalog. -/
theorem toList_catalog (index : ApiIndex) :
    (catalog index).toList = lineChars (catalogHeader ++ catalogRows index) :=
  toList_join_lines (by simp [catalogHeader])

/-- The endpoints that are found in a catalog are those that it was made of. -/
theorem mem_detect_catalog
    (formed : ∀ endpoint ∈ (catalogEndpoints index).sorted, Endpoint.Wellformed endpoint) :
    endpoint ∈ Endpoint.detect (catalog index) ↔ endpoint ∈ (catalogEndpoints index).sorted := by
  have found : findAll Endpoint.read (catalog index).toList =
      (catalogEndpoints index).sorted.map String.toList := by
    rw [toList_catalog, lineChars_append, findAll_other, catalogRows_eq]
    split
    · next none =>
      rw [none, ← List.append_nil (lineChars _), findAll_of_unread
        (Endpoint.unread_of_not_mem (by decide +kernel))]
      rfl
    · exact findAll_rows formed
  rw [Endpoint.detect, found, NameSet.mem_ofList, List.map_map]
  simp

/-- The catalog of an index lists each of its endpoints once and in increasing order, and its
endpoints are found in it again. -/
theorem exists_lists (detected : Detected index) : ∃ endpoints, Lists index endpoints := by
  have members : ∀ endpoint, endpoint ∈ (catalogEndpoints index).sorted ↔
      ∃ id found, index.get? id = some found ∧ endpoint ∈ found.endpoints := fun endpoint =>
    NameSet.mem_sorted.trans mem_catalogEndpoints
  have formed : ∀ endpoint ∈ (catalogEndpoints index).sorted, Endpoint.Wellformed endpoint := by
    intro endpoint listed
    obtain ⟨id, found, held, shown⟩ := (members endpoint).1 listed
    obtain ⟨source, inSource⟩ := detected id found held endpoint shown
    exact Endpoint.wellformed_of_mem_detect inSource
  have increase := (catalogEndpoints index).sorted_lt
  have lines : linesOf (catalog index).toList = (catalogHeader ++
      (if (catalogEndpoints index).sorted = [] then [emptyCatalogRow]
        else (catalogEndpoints index).sorted.map catalogRow)).map String.toList := by
    rw [toList_catalog, catalogRows_eq, linesOf_lineChars (single_catalogLines formed)]
  have injective : Function.Injective String.toList := fun _ _ => String.toList_inj.1
  refine ⟨_, increase, members, lines, fun endpoint listed => ?_, ?_, fun endpoint =>
    (mem_detect_catalog formed).trans (members endpoint)⟩
  · have other : catalogRow endpoint ∉ catalogHeader := fun member =>
      catalogRow_not_mem_other endpoint (List.mem_cons_of_mem _ member)
    rw [lines, if_neg (List.ne_nil_of_mem listed), List.count_map_of_injective _ _ injective,
      List.count_append, List.count_eq_zero_of_not_mem other,
      List.count_map_of_injective _ _ catalogRow_injective,
      List.count_eq_one_of_mem (nodup_of_lt increase) listed]
  · have fixed : emptyCatalogRow ∉ catalogHeader := by decide +kernel
    rw [lines, List.mem_map_of_injective injective, List.mem_append, or_iff_right fixed]
    split
    · next none => simp [none]
    · next some =>
      refine iff_of_false (fun member => ?_) some
      obtain ⟨endpoint, -, same⟩ := List.mem_map.1 member
      exact catalogRow_not_mem_other endpoint (same ▸ List.mem_cons_self ..)

/-- A class with two endpoints. -/
def cardClass : ApiClass where
  id := "Pay\\Card"
  source := .ofString "Card.php"
  endpoints := Endpoint.detect "get /v2/payments/:id, then /v2/orders"
  sdkCalls := .empty

/-- A class with one of them. -/
def orderClass : ApiClass where
  id := "Pay\\Order"
  source := .ofString "Order.php"
  endpoints := Endpoint.detect "put /v2/orders"
  sdkCalls := .empty

/-- The index of both. -/
def sharingIndex : ApiIndex :=
  .ofList [("Pay\\Card", cardClass), ("Pay\\Order", orderClass)]

/-- All of its endpoints are found in sources. -/
theorem detected_sharing : Detected sharingIndex := by
  intro id found held endpoint shown
  have entered : (id, found) ∈ [("Pay\\Card", cardClass), ("Pay\\Order", orderClass)] :=
    Roster.get?_eq_some_iff.1 held
  simp only [List.mem_cons, List.not_mem_nil, or_false, Prod.mk.injEq] at entered
  rcases entered with ⟨-, rfl⟩ | ⟨-, rfl⟩
  · exact ⟨_, shown⟩
  · exact ⟨_, shown⟩

/-- The endpoint of both classes has one row, and it is found there. -/
theorem exists_lists_sharing :
    (linesOf (catalog sharingIndex).toList).count "| `/v2/orders` |".toList = 1 ∧
      "/v2/orders" ∈ Endpoint.detect (catalog sharingIndex) := by
  obtain ⟨endpoints, lists⟩ := exists_lists detected_sharing
  have shown : ∃ id found, sharingIndex.get? id = some found ∧ "/v2/orders" ∈ found.endpoints :=
    ⟨"Pay\\Order", orderClass, by decide +kernel, by decide +kernel⟩
  have row : catalogRow "/v2/orders" = "| `/v2/orders` |" := by decide +kernel
  exact ⟨row ▸ lists.once _ ((lists.mem_iff _).2 shown), (lists.again _).2 shown⟩

end Report

end EventAtlas
