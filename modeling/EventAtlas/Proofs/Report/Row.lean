import EventAtlas.Proofs.Result
import EventAtlas.Proofs.Roster
import EventAtlas.Proofs.Text.Line
import EventAtlas.Proofs.Text.Plain
import EventAtlas.Report
import Mathlib.Algebra.Order.BigOperators.Group.List

/-!
# Rows of tables

A row is made of fixed pieces, with a number of bars, and of texts. What the texts hold of bars and
line feeds is in the row as it is, since escaping for markup leaves both alone. So a table has the
rows and columns it should have exactly if all texts in it are plain.
-/

namespace EventAtlas.Report

open Text

/-! ### What a row is made of -/

/-- A row is made of fixed pieces with so many bars and of texts whose bars and line feeds stay. -/
structure MadeOf (row : String) (bars : Nat) (texts : List String) : Prop where
  bars : row.toList.count '|' = bars + (texts.map fun text => text.toList.count '|').sum
  feeds : row.toList.count '\n' = (texts.map fun text => text.toList.count '\n').sum

section MadeOf

variable {row other : String} {bars more : Nat} {texts others : List String}

/-- A fixed piece with so many bars and no line feed. -/
theorem MadeOf.fixed (counted : row.toList.count '|' = bars ∧ row.toList.count '\n' = 0) :
    MadeOf row bars [] where
  bars := by simp [counted.1]
  feeds := by simp [counted.2]

/-- A text as it is. -/
theorem MadeOf.text (text : String) : MadeOf text 0 [text] where
  bars := by simp
  feeds := by simp

/-- Pieces one after the other. -/
theorem MadeOf.append (first : MadeOf row bars texts) (second : MadeOf other more others) :
    MadeOf (row ++ other) (bars + more) (texts ++ others) where
  bars := by
    rw [String.toList_append, List.count_append, first.bars, second.bars, List.map_append,
      List.sum_append]
    omega
  feeds := by
    rw [String.toList_append, List.count_append, first.feeds, second.feeds, List.map_append,
      List.sum_append]

/-- A row is a single line with the bars of its fixed pieces exactly if all texts are plain. -/
theorem MadeOf.iff (made : MadeOf row bars texts) :
    (row.toList.count '\n' = 0 ∧ row.toList.count '|' = bars) ↔ ∀ text ∈ texts, Plain text := by
  rw [made.bars, made.feeds]
  simp only [Nat.add_eq_left, List.sum_eq_zero_iff_forall_eq_nat, List.forall_mem_map,
    plain_iff_count]
  exact ⟨fun ⟨feeds, bars⟩ text member => ⟨bars text member, feeds text member⟩,
    fun plain => ⟨fun text member => (plain text member).2, fun text member => (plain text member).1⟩⟩

end MadeOf

/-! ### Cells -/

/-- Escaping for markup leaves bars and line feeds alone. -/
theorem count_escape {c : Char} (apart : c = '|' ∨ c = '\n') (text : List Char) :
    (escape text).count c = text.count c := by
  refine count_flatMap_of_keeps (fun d => ?_) text
  rw [escapeChar]
  split
  · next same =>
    subst same
    rcases apart with rfl | rfl <;> rfl
  · split
    · next same =>
      subst same
      rcases apart with rfl | rfl <;> rfl
    · split
      · next same =>
        subst same
        rcases apart with rfl | rfl <;> rfl
      · rfl

/-- A text that is escaped is made of the same. -/
theorem MadeOf.escaped {row : String} {bars : Nat} {texts : List String}
    (made : MadeOf row bars texts) : MadeOf (cellText row) bars texts where
  bars := by rw [cellText, String.toList_ofList, count_escape (.inl rfl), made.bars]
  feeds := by rw [cellText, String.toList_ofList, count_escape (.inr rfl), made.feeds]

/-- A cell of several texts. -/
theorem MadeOf.cell (values : List String) : MadeOf (cell values) 0 values := by
  have between : MadeOf cellBreak 0 [] := .fixed (by decide)
  unfold Report.cell
  split
  · next none =>
    subst none
    exact .fixed (by decide)
  · next some =>
    induction values with
    | nil => exact absurd rfl some
    | cons value rest ih =>
      cases rest with
      | nil => exact (MadeOf.text value).escaped
      | cons next rest =>
        rw [List.map_cons, List.map_cons, join, String.intercalate_cons_cons]
        exact ((MadeOf.text value).escaped.append between).append (ih (List.cons_ne_nil next rest))

/-! ### Rows -/

section Columns

variable {row other : String} {bars : Nat} {texts others : List String}

/-- A row begins with a bar before its first cell. -/
theorem MadeOf.first (cell : MadeOf row 0 texts) : MadeOf ("| " ++ row) 1 texts :=
  (MadeOf.fixed (by decide) : MadeOf "| " 1 []).append cell

/-- A bar stands between two cells. -/
theorem MadeOf.next (front : MadeOf row bars texts) (cell : MadeOf other 0 others) :
    MadeOf (row ++ " | " ++ other) (bars + 1) (texts ++ others) := by
  have bar : MadeOf " | " 1 [] := .fixed (by decide)
  simpa using (front.append bar).append cell

/-- A row ends with a bar after its last cell. -/
theorem MadeOf.last (front : MadeOf row bars texts) : MadeOf (row ++ " |") (bars + 1) texts := by
  have bar : MadeOf " |" 1 [] := .fixed (by decide)
  simpa using front.append bar

end Columns

/-- The row of an event is made of the event and its observers. -/
theorem madeOf_eventRow (event : String) (observers : List ClassId) :
    MadeOf (eventRow event observers) 3 (event :: observers) := by
  have front : MadeOf "| `" 1 [] := .fixed (by decide)
  have middle : MadeOf "` | " 1 [] := .fixed (by decide)
  exact (((front.append (.text event)).append middle).append (.cell observers)).last

/-- The row of an observer is made of the texts of its cells. -/
theorem madeOf_observerRow {link : String} {texts : List String} (linked : MadeOf link 0 texts)
    (observer : Observer) :
    MadeOf (observerRow link observer) 6 (texts ++ (observer.events ++ (observer.services ++
      (observer.endpoints.sorted ++ observer.sdkCalls.sorted)))) := by
  have row := ((((linked.first.next (.cell observer.events)).next (.cell observer.services)).next
    (.cell observer.endpoints.sorted)).next (.cell observer.sdkCalls.sorted)).last
  rw [List.append_assoc, List.append_assoc, List.append_assoc] at row
  exact row

/-- The words for a gap are made of its subject. -/
theorem madeOf_message (gap : Gap) : MadeOf gap.message 0 [gap.subject] := by
  have around {front back : String} (before : MadeOf front 0 []) (after : MadeOf back 0 []) :
      MadeOf (front ++ gap.subject ++ back) 0 [gap.subject] :=
    (before.append (.text gap.subject)).append after
  unfold Gap.message
  cases gap.kind with
  | missingSource => exact around (.fixed (by decide)) (.fixed (by decide))
  | unattributed => exact around (.fixed (by decide)) (.fixed (by decide))
  | unreached => exact around (.fixed (by decide)) (.fixed (by decide))

/-- The row of a gap is made of its subject. -/
theorem madeOf_gapRow (gap : Gap) : MadeOf (gapRow gap) 4 [gap.subject] := by
  have heading : MadeOf gap.kind.heading 0 [] := by
    cases gap.kind <;> exact .fixed (by decide)
  have severity : MadeOf gap.severity 0 [] := by
    unfold Gap.severity
    cases gap.kind <;> exact .fixed (by decide)
  exact ((heading.first.next severity).next (madeOf_message gap).escaped).last

/-! ### Tables -/

/-- The lines of a table below its title, an empty line, the names of its columns and a rule. -/
def rowLines (text : String) : List (List Char) :=
  (linesOf text.toList).drop 4

/-- A text is a table of so many rows, with so many bars in each. -/
structure Tabular (text : String) (rows bars : Nat) : Prop where
  rows : (rowLines text).length = rows
  bars : ∀ row ∈ rowLines text, row.count '|' = bars

/-- A written table has the rows that were written exactly if each is a single line with the right
number of bars. -/
theorem tabular_table_iff {header rows : List String} {bars : Nat} (four : header.length = 4)
    (single : ∀ line ∈ header, '\n' ∉ line.toList) :
    Tabular (table (header ++ rows)) rows.length bars ↔
      ∀ row ∈ rows, row.toList.count '\n' = 0 ∧ row.toList.count '|' = bars := by
  have written : (table (header ++ rows)).toList = lineChars (header ++ rows) :=
    toList_join_lines (by simp [← List.length_eq_zero_iff, four])
  have lines (rowsSingle : ∀ row ∈ rows, '\n' ∉ row.toList) :
      rowLines (table (header ++ rows)) = rows.map String.toList := by
    have all : ∀ line ∈ header ++ rows, '\n' ∉ line.toList := fun line member =>
      (List.mem_append.1 member).elim (single line) (rowsSingle line)
    rw [rowLines, written, linesOf_lineChars all, List.map_append, ← four,
      ← List.length_map String.toList, List.drop_left]
  constructor
  · intro tabular
    -- A line feed inside a row makes one line more.
    have count := tabular.rows
    rw [rowLines, List.length_drop, length_linesOf, written, count_lineChars, List.map_append,
      List.sum_append, List.length_append, four] at count
    have feeds : (rows.map fun row => row.toList.count '\n').sum = 0 := by omega
    simp only [List.sum_eq_zero_iff_forall_eq_nat, List.forall_mem_map] at feeds
    have bars := tabular.bars
    rw [lines fun row member => List.count_eq_zero.1 (feeds row member), List.forall_mem_map] at bars
    exact fun row member => ⟨feeds row member, bars row member⟩
  · intro formed
    have same := lines fun row member => List.count_eq_zero.1 (formed row member).1
    constructor
    · rw [same, List.length_map]
    · rw [same, List.forall_mem_map]
      exact fun row member => (formed row member).2

/-- A table has a row for each item exactly if all texts in the rows are plain. -/
theorem tabular_iff_of_madeOf {α : Type} {texts : α → List String} {items : List α}
    {header rows : List String} {bars : Nat} (four : header.length = 4)
    (single : ∀ line ∈ header, '\n' ∉ line.toList)
    (made : List.Forall₂ (fun item row => MadeOf row bars (texts item)) items rows) :
    Tabular (table (header ++ rows)) items.length bars ↔
      ∀ item ∈ items, ∀ text ∈ texts item, Plain text := by
  rw [made.length_eq, tabular_table_iff four single]
  clear four single
  induction made with
  | nil => simp
  | cons first _ ih => rw [List.forall_mem_cons, List.forall_mem_cons, first.iff, ih]

/-- The table of events has a row for each event exactly if all events and their observers are
plain. -/
theorem tabular_eventSection_iff (report : Report) :
    Tabular report.eventSection (byEvent report.observers).length 3 ↔
      ∀ group ∈ byEvent report.observers, ∀ text ∈ group.1 :: group.2, Plain text := by
  refine tabular_iff_of_madeOf rfl (by decide) ?_
  rw [List.forall₂_map_right_iff, List.forall₂_same]
  exact fun group _ => madeOf_eventRow group.1 group.2

/-- The table of gaps has a row for each gap exactly if the subjects of all gaps are plain. -/
theorem tabular_gapSection_iff (report : Report) :
    Tabular report.gapSection (Gap.detect report.index report.observers).length 4 ↔
      ∀ gap ∈ Gap.detect report.index report.observers, Plain gap.subject := by
  unfold gapSection
  split
  · next none =>
    rw [none]
    have empty : rowLines (table ["## Coverage gaps", "", "No gaps detected."]) = [] := by
      decide
    exact ⟨by simp, fun _ => ⟨by rw [empty]; rfl, by rw [empty]; simp⟩⟩
  · have made : List.Forall₂ (fun gap row => MadeOf row 4 [gap.subject])
        (Gap.detect report.index report.observers)
        ((Gap.detect report.index report.observers).map gapRow) := by
      rw [List.forall₂_map_right_iff, List.forall₂_same]
      exact fun gap _ => madeOf_gapRow gap
    have single : ∀ line ∈ ["## Coverage gaps", "", "| Kind | Severity | Detail |",
        "|---|---|---|"], '\n' ∉ line.toList := by decide
    simpa using tabular_iff_of_madeOf rfl single made

/-! ### Links -/

/-- The file below the module's root directory that the source of an observer is. -/
def linkedFile? (report : Report) (observer : Observer) : Option Path :=
  observer.source.bind fun source => report.moduleDir.bind source.relativeTo?

/-- The texts that the name of an observer and its link are made of. -/
def linkTexts (report : Report) (observer : Observer) : List String :=
  match report.linkedFile? observer, report.address with
  | some file, .url text => [observer.id, SourceAddress.trimmed text, file.toString]
  | _, _ => [observer.id]

/-- The identifier of the observer is one of them. -/
theorem id_mem_linkTexts (report : Report) (observer : Observer) :
    observer.id ∈ report.linkTexts observer := by
  unfold linkTexts
  split <;> simp

/-- The texts in the row of an observer. -/
def observerTexts (report : Report) (observer : Observer) : List String :=
  report.linkTexts observer ++ (observer.events ++ (observer.services ++
    (observer.endpoints.sorted ++ observer.sdkCalls.sorted)))

/-- With an address that is a text, or without one, an observer is linked. -/
theorem exists_madeOf_observerLink {report : Report} (written : report.address ≠ .notText)
    (observer : Observer) :
    ∃ link, report.observerLink observer = .ok link ∧
      MadeOf link 0 (report.linkTexts observer) := by
  have label : MadeOf ("`" ++ observer.id ++ "`") 0 [observer.id] := by
    have quote : MadeOf "`" 0 [] := .fixed (by decide)
    exact (quote.append (.text observer.id)).append quote
  unfold observerLink linkTexts linkedFile?
  cases observer.source with
  | none => exact ⟨_, rfl, label⟩
  | some source =>
    cases report.moduleDir with
    | none => exact ⟨_, rfl, label⟩
    | some moduleDir =>
      simp only [Option.bind_some]
      cases source.relativeTo? moduleDir with
      | none => exact ⟨_, rfl, label⟩
      | some file =>
        cases address : report.address with
        | none => exact ⟨_, rfl, label⟩
        | notText => exact absurd address written
        | url text =>
          refine ⟨_, rfl, ?_⟩
          have front : MadeOf "[" 0 [] := .fixed (by decide)
          have middle : MadeOf "](" 0 [] := .fixed (by decide)
          have slash : MadeOf "/" 0 [] := .fixed (by decide)
          have back : MadeOf ")" 0 [] := .fixed (by decide)
          have url := ((MadeOf.text (SourceAddress.trimmed text)).append slash).append
            (.text file.toString)
          exact (((front.append label).append middle).append url).append back

/-- The table of observers has a row for each observer exactly if all texts in the rows are
plain. -/
theorem exists_tabular_observerSection_iff {report : Report}
    (written : report.address ≠ .notText) :
    ∃ text, report.observerSection = .ok text ∧
      (Tabular text report.observers.size 6 ↔
        ∀ entry ∈ report.observers.entries, ∀ text ∈ report.observerTexts entry.2, Plain text) := by
  have each : ∀ entry ∈ report.observers.sorted, ∃ row,
      (do return observerRow (← report.observerLink entry.2) entry.2 : Except Failure String) =
        .ok row ∧ MadeOf row 6 (report.observerTexts entry.2) := by
    intro entry _
    obtain ⟨link, linked, made⟩ := exists_madeOf_observerLink written entry.2
    exact ⟨observerRow link entry.2, by rw [linked]; rfl, madeOf_observerRow made entry.2⟩
  obtain ⟨rows, made, pairs⟩ := exists_mapM_eq_ok each
  refine ⟨_, by rw [observerSection, made]; rfl, ?_⟩
  have size : report.observers.size = report.observers.sorted.length :=
    (List.length_mergeSort _).symm
  rw [size, tabular_iff_of_madeOf rfl (by decide) pairs]
  simp only [Roster.mem_sorted]

end EventAtlas.Report
