import EventAtlas.Diagram
import EventAtlas.Proofs.Flow.Written
import EventAtlas.Proofs.Text.Line

/-!
# What a Mermaid diagram tells of its graph

Inside a label only the quotation mark is written in another way. A label therefore ends at the
first mark, whatever it holds, and nodes and edges are read back one after the other. Two things
are lost. A line feed in a label ends a line of the diagram; and a label that holds the code of the
mark is written like the one that holds the mark, so labels are read back as they are shown only.
-/

namespace EventAtlas.Diagram.Mermaid

/-! ### Labels -/

/-- The code that stands for a quotation mark. -/
def markCode : List Char := "#quot;".toList

/-- What written characters show: each code of the mark shows the mark. -/
def unescape : List Char → List Char
  | '#' :: 'q' :: 'u' :: 'o' :: 't' :: ';' :: rest => '"' :: unescape rest
  | c :: rest => c :: unescape rest
  | [] => []

/-- A label as a diagram shows it. -/
def shown (label : String) : String :=
  String.ofList (unescape label.toList)

/-- A word that holds no number sign stands at the front of written characters only if it stands
at the front of the label. -/
theorem exists_of_flatMap_escapeChar_eq {word label rest : List Char} (plain : '#' ∉ word)
    (written : label.flatMap escapeChar = word ++ rest) : ∃ others, label = word ++ others := by
  induction word generalizing label with
  | nil => exact ⟨label, rfl⟩
  | cons w word ih =>
    obtain ⟨differs, plainRest⟩ := not_or.1 (mt List.mem_cons.2 plain)
    cases label with
    | nil => cases written
    | cons c label =>
      rw [List.flatMap_cons] at written
      by_cases mark : c = '"'
      · rw [escapeChar, if_pos mark] at written
        exact absurd (List.cons.inj written).1 differs
      · rw [escapeChar, if_neg mark] at written
        obtain ⟨rfl, later⟩ := List.cons.inj written
        obtain ⟨others, rfl⟩ := ih plainRest later
        exact ⟨others, rfl⟩

/-- What is written of a label shows what the label shows. -/
theorem unescape_flatMap_escapeChar (label : List Char) :
    unescape (label.flatMap escapeChar) = unescape label := by
  fun_induction unescape label with
  | case1 rest ih => simp [escapeChar, unescape, ih]
  | case2 c rest noCode ih =>
    rw [List.flatMap_cons]
    by_cases mark : c = '"'
    · subst mark
      simp [escapeChar, unescape, ih]
    · rw [escapeChar, if_neg mark, List.singleton_append, unescape, ih]
      intro later sign written
      have plain : '#' ∉ "quot;".toList := by decide
      obtain ⟨others, rfl⟩ := exists_of_flatMap_escapeChar_eq plain written
      exact noCode others sign rfl
  | case3 => rfl

/-- What a label shows is written like the label. -/
theorem flatMap_escapeChar_unescape (label : List Char) :
    (unescape label).flatMap escapeChar = label.flatMap escapeChar := by
  fun_induction unescape label with
  | case1 rest ih => simp [escapeChar, ih]
  | case2 c rest noCode ih => rw [List.flatMap_cons, List.flatMap_cons, ih]
  | case3 => rfl

/-- A label without the code of the mark is shown as it is. -/
theorem unescape_eq_self {label : List Char} (uncoded : ¬ markCode <:+: label) :
    unescape label = label := by
  fun_induction unescape label with
  | case1 rest ih => exact absurd (List.prefix_append markCode rest).isInfix uncoded
  | case2 c rest noCode ih =>
    rw [ih fun inside => uncoded (inside.trans (List.suffix_cons c rest).isInfix)]
  | case3 => rfl

/-- No quotation mark is left in what is written of a label. -/
theorem mark_not_mem_flatMap_escapeChar (label : List Char) :
    '"' ∉ label.flatMap escapeChar := by
  intro member
  obtain ⟨c, -, inside⟩ := List.mem_flatMap.1 member
  by_cases mark : c = '"'
  · rw [escapeChar, if_pos mark] at inside
    exact absurd inside (by decide)
  · rw [escapeChar, if_neg mark, List.mem_singleton] at inside
    exact mark inside.symm

/-- Writing a label adds no line feed and takes none away. -/
theorem count_flatMap_escapeChar (label : List Char) :
    (label.flatMap escapeChar).count '\n' = label.count '\n' := by
  refine Text.count_flatMap_of_keeps (fun c => ?_) label
  by_cases mark : c = '"'
  · subst mark
    rfl
  · rw [escapeChar, if_neg mark]

/-! ### Lines -/

/-- What stands before the label of a node. -/
def beforeLabel : Flow.NodeKind → String
  | .event => "Magento event:<br/><code>"
  | .observer => ""
  | .api => "Mollie API:<br/><code>"

/-- What stands after the label of a node. -/
def afterLabel : Flow.NodeKind → String
  | .event => "</code>"
  | .observer => ""
  | .api => "</code>"

/-- What stands inside a node is its label between two words that depend on the kind only. -/
theorem toList_content (node : Flow.Node) :
    (content node).toList = (beforeLabel node.kind).toList ++
      (node.label.toList.flatMap escapeChar ++ (afterLabel node.kind).toList) := by
  obtain ⟨id, kind, label⟩ := node
  cases kind <;> simp [content, escape, beforeLabel, afterLabel]

/-- No quotation mark stands inside a node. -/
theorem mark_not_mem_content (node : Flow.Node) : '"' ∉ (content node).toList := by
  rw [toList_content, List.mem_append, List.mem_append, not_or, not_or]
  refine ⟨?_, mark_not_mem_flatMap_escapeChar _, ?_⟩
  · cases node.kind <;> decide +kernel
  · cases node.kind <;> decide +kernel

/-- Reads an identifier. -/
def readId : Text.Reader String := fun text =>
  some (String.ofList (text.takeWhile Flow.isIdChar), text.dropWhile Flow.isIdChar)

/-- Reads the name of a kind at the end of a line. -/
def readKind : Text.Reader Flow.NodeKind := fun text =>
  Flow.NodeKind.all.findSome? fun kind =>
    (Text.afterWord? (kind.name.toList ++ ['\n']) text).map (kind, ·)

/-- The label of a node, from what stands inside it. -/
def labelOf? (kind : Flow.NodeKind) (content : List Char) : Option String := do
  let text ← Text.afterWord? (beforeLabel kind).toList content
  some (String.ofList (unescape (text.take (text.length - (afterLabel kind).toList.length))))

/-- Reads a node with its line. -/
def readNode : Text.Reader Flow.Node := fun text => do
  let text ← Text.afterWord? "  ".toList text
  let (id, text) ← readId text
  let text ← Text.afterWord? "([\"".toList text
  let inside := text.takeWhile (· != '"')
  let text ← Text.afterWord? "\"]):::".toList (text.dropWhile (· != '"'))
  let (kind, rest) ← readKind text
  let label ← labelOf? kind inside
  some (⟨id, kind, label⟩, rest)

/-- Reads an edge with its line. -/
def readEdge : Text.Reader Flow.Edge := fun text => do
  let text ← Text.afterWord? "  ".toList text
  let (source, text) ← readId text
  let text ← Text.afterWord? " --> ".toList text
  let (target, text) ← readId text
  let rest ← Text.after? (· == '\n') text
  some (⟨source, target⟩, rest)

/-- The lines of the style classes, with the colours that are used when none are chosen. -/
def classLines : List String :=
  Flow.NodeKind.all.map fun kind => classLine kind (defaultFill kind)

/-- Reads the graph from the text of a diagram without a style of its own. -/
def read? (text : String) : Option Flow.Graph := do
  let text ← Text.afterWord? "flowchart TD\n".toList text.toList
  let (nodes, text) := Text.readMany readNode text
  let (edges, text) := Text.readMany readEdge text
  if text = Text.lineChars classLines then some ⟨nodes, edges⟩ else none

/-- An identifier ends where something stands that identifiers are not made of. -/
theorem readId_append {id : String} (written : Flow.NodeIds.Written id) {c : Char}
    (ends : Flow.isIdChar c = false) (rest : List Char) :
    readId (id.toList ++ c :: rest) = some (id, c :: rest) := by
  rw [readId, List.takeWhile_append_of_pos written.2, List.dropWhile_append_of_pos written.2]
  simp [ends]

/-- The kind is read from the end of a line. -/
theorem readKind_line (kind : Flow.NodeKind) (rest : List Char) :
    readKind (kind.name.toList ++ '\n' :: rest) = some (kind, rest) := by
  cases kind <;> rfl

/-- The label is read, as it is shown, from what stands inside the node. -/
theorem labelOf?_content (node : Flow.Node) :
    labelOf? node.kind (content node).toList = some (shown node.label) := by
  rw [toList_content, labelOf?, Text.afterWord?_append, Option.bind_eq_bind, Option.bind_some,
    List.length_append, Nat.add_sub_cancel, List.take_left, unescape_flatMap_escapeChar, shown]

/-- A node is read back from its line, with its label as it is shown. -/
theorem readNode_nodeLine {node : Flow.Node} (written : Flow.NodeIds.Written node.id)
    (rest : List Char) : readNode ((nodeLine node).toList ++ '\n' :: rest) =
      some ({ node with label := shown node.label }, rest) := by
  have line : (nodeLine node).toList ++ '\n' :: rest =
      "  ".toList ++ (node.id.toList ++ ("([\"".toList ++ ((content node).toList ++
        ("\"]):::".toList ++ (node.kind.name.toList ++ '\n' :: rest))))) := by
    unfold nodeLine
    simp only [String.toList_append, List.append_assoc]
  have inside : ∀ c ∈ (content node).toList, (c != '"') = true := by
    intro c member
    simpa using ne_of_mem_of_not_mem member (mark_not_mem_content node)
  have opened (rest : List Char) : readId (node.id.toList ++ ("([\"".toList ++ rest)) =
      some (node.id, "([\"".toList ++ rest) := readId_append written (by decide) _
  have closed (rest : List Char) :
      ("\"]):::".toList ++ rest).takeWhile (· != '"') = [] ∧
        ("\"]):::".toList ++ rest).dropWhile (· != '"') = "\"]):::".toList ++ rest := by
    constructor <;> rfl
  rw [line, readNode]
  simp only [Text.afterWord?_append, Option.bind_eq_bind, Option.bind_some, opened,
    List.takeWhile_append_of_pos inside, List.dropWhile_append_of_pos inside, closed,
    List.append_nil, readKind_line, labelOf?_content]

/-- An edge is read back from its line. -/
theorem readEdge_edgeLine {edge : Flow.Edge} (source : Flow.NodeIds.Written edge.source)
    (target : Flow.NodeIds.Written edge.target) (rest : List Char) :
    readEdge ((edgeLine edge).toList ++ '\n' :: rest) = some (edge, rest) := by
  have line : (edgeLine edge).toList ++ '\n' :: rest =
      "  ".toList ++ (edge.source.toList ++ (" --> ".toList ++
        (edge.target.toList ++ '\n' :: rest))) := by
    unfold edgeLine
    simp only [String.toList_append, List.append_assoc]
  have between (rest : List Char) : readId (edge.source.toList ++ (" --> ".toList ++ rest)) =
      some (edge.source, " --> ".toList ++ rest) := readId_append source (by decide) _
  rw [line, readEdge]
  simp only [Text.afterWord?_append, Option.bind_eq_bind, Option.bind_some, between,
    readId_append target (show Flow.isIdChar '\n' = false by decide), Text.after?,
    beq_self_eq_true, if_true]

/-- The line of an edge is no line of a node. -/
theorem readNode_edgeLine {edge : Flow.Edge} (source : Flow.NodeIds.Written edge.source)
    (rest : List Char) : readNode ((edgeLine edge).toList ++ rest) = none := by
  have line : (edgeLine edge).toList ++ rest =
      "  ".toList ++ (edge.source.toList ++ (" --> ".toList ++ (edge.target.toList ++ rest))) := by
    unfold edgeLine
    simp only [String.toList_append, List.append_assoc]
  have between (rest : List Char) : readId (edge.source.toList ++ (" --> ".toList ++ rest)) =
      some (edge.source, " --> ".toList ++ rest) := readId_append source (by decide) _
  have closed (rest : List Char) : Text.afterWord? "([\"".toList (" --> ".toList ++ rest) = none :=
    rfl
  rw [line, readNode]
  simp only [Text.afterWord?_append, Option.bind_eq_bind, Option.bind_some, between, closed,
    Option.bind_none]

/-! ### Diagrams -/

/-- The lines of a diagram without a style of its own. -/
def plainLines (graph : Flow.Graph) : List String :=
  "flowchart TD" :: (graph.nodes.map nodeLine ++ (graph.edges.map edgeLine ++ classLines))

/-- A graph with the labels as a diagram shows them. -/
def asShown (graph : Flow.Graph) : Flow.Graph :=
  { graph with nodes := graph.nodes.map fun node => { node with label := shown node.label } }

/-- All labels of a graph are single lines. -/
def OneLine (graph : Flow.Graph) : Prop :=
  ∀ node ∈ graph.nodes, '\n' ∉ node.label.toList

/-- No label of a graph holds the code of the mark. -/
def Uncoded (graph : Flow.Graph) : Prop :=
  ∀ node ∈ graph.nodes, ¬ markCode <:+: node.label.toList

/-- The line feeds in the labels of a graph. -/
def lineFeeds (graph : Flow.Graph) : Nat :=
  (graph.nodes.map fun node => node.label.toList.count '\n').sum

/-- A diagram without a style of its own always has a text, which is made of its lines. -/
theorem exists_generate (observers : Observers) :
    ∃ text, standard.generate observers = .ok text ∧
      text.toList = Text.lineChars (plainLines (.ofObservers observers)) := by
  have classes : Flow.NodeKind.all.mapM (styledClassLine .plain) = .ok classLines := rfl
  refine ⟨Text.join "\n" (plainLines (.ofObservers observers)) ++ "\n", ?_,
    Text.toList_join_lines (by simp [plainLines])⟩
  change render .plain (.ofObservers observers) = _
  rw [render, lines, classes, plainLines, ← List.append_assoc]
  rfl

section Graph

variable {graph other : Flow.Graph}

/-- Graphs without the code of the mark are shown as they are. -/
theorem asShown_eq_self (uncoded : Uncoded graph) : asShown graph = graph := by
  have kept : (graph.nodes.map fun node => { node with label := shown node.label }) =
      graph.nodes := by
    refine (List.map_congr_left fun node member => ?_).trans (List.map_id _)
    rw [shown, unescape_eq_self (uncoded node member), String.ofList_toList, id]
  rw [asShown, kept]

/-- A graph is drawn by the same lines as the graph that its labels show. -/
theorem plainLines_asShown (graph : Flow.Graph) : plainLines (asShown graph) = plainLines graph := by
  have same (node : Flow.Node) : nodeLine { node with label := shown node.label } =
      nodeLine node := by
    simp only [nodeLine, content, escape, shown, String.toList_ofList, flatMap_escapeChar_unescape]
  simp only [plainLines, asShown, List.map_map, Function.comp_def, same]

/-- The graph is read back from its lines, with the labels as they are shown. -/
theorem read?_lineChars (written : graph.Written) {text : String}
    (lines : text.toList = Text.lineChars (plainLines graph)) :
    read? text = some (asShown graph) := by
  have nodes : List.Forall₂ (fun node line => ∀ rest,
      readNode (line.toList ++ '\n' :: rest) = some (node, rest))
      (asShown graph).nodes (graph.nodes.map nodeLine) := by
    rw [asShown, List.forall₂_map_left_iff, List.forall₂_map_right_iff, List.forall₂_same]
    intro node member
    exact readNode_nodeLine (written.nodes node member)
  have edges : List.Forall₂ (fun edge line => ∀ rest,
      readEdge (line.toList ++ '\n' :: rest) = some (edge, rest))
      graph.edges (graph.edges.map edgeLine) := by
    rw [List.forall₂_map_right_iff, List.forall₂_same]
    intro edge member
    exact readEdge_edgeLine (written.edges edge member).1 (written.edges edge member).2
  have noEdge : readEdge (Text.lineChars classLines) = none := rfl
  -- After the nodes comes an edge, if there is one, or the first style class.
  have noNode : readNode (Text.lineChars (graph.edges.map edgeLine) ++
      Text.lineChars classLines) = none := by
    cases joined : graph.edges with
    | nil => rfl
    | cons edge later =>
      have source := (written.edges edge (joined ▸ List.mem_cons_self ..)).1
      rw [List.map_cons, Text.lineChars_cons_append]
      exact readNode_edgeLine source _
  have front : text.toList = "flowchart TD\n".toList ++ (Text.lineChars (graph.nodes.map nodeLine) ++
      (Text.lineChars (graph.edges.map edgeLine) ++ Text.lineChars classLines)) := by
    rw [lines, plainLines]
    simp only [← Text.lineChars_append]
    rfl
  unfold read?
  rw [front, Text.afterWord?_append]
  simp only [Option.bind_eq_bind, Option.bind_some]
  rw [Text.readMany_lineChars (fun _ _ rest reads => reads rest) nodes noNode]
  simp only
  rw [Text.readMany_lineChars (fun _ _ rest reads => reads rest) edges noEdge]
  exact if_pos rfl

/-- The line of a node has the line feeds of its label and no others. -/
theorem count_nodeLine {node : Flow.Node} (written : Flow.NodeIds.Written node.id) :
    (nodeLine node).toList.count '\n' = node.label.toList.count '\n' := by
  have id : node.id.toList.count '\n' = 0 :=
    List.count_eq_zero.2 fun member => absurd (written.2 _ member) (by decide)
  have around : (beforeLabel node.kind).toList.count '\n' = 0 ∧
      (afterLabel node.kind).toList.count '\n' = 0 ∧ node.kind.name.toList.count '\n' = 0 := by
    cases node.kind <;> decide +kernel
  have marks : "  ".toList.count '\n' = 0 ∧ "([\"".toList.count '\n' = 0 ∧
      "\"]):::".toList.count '\n' = 0 := by decide +kernel
  unfold nodeLine
  simp only [String.toList_append, List.count_append, toList_content, count_flatMap_escapeChar, id,
    around, marks, Nat.zero_add, Nat.add_zero]

/-- The line of an edge has no line feed. -/
theorem count_edgeLine {edge : Flow.Edge} (source : Flow.NodeIds.Written edge.source)
    (target : Flow.NodeIds.Written edge.target) : (edgeLine edge).toList.count '\n' = 0 := by
  have ends : edge.source.toList.count '\n' = 0 ∧ edge.target.toList.count '\n' = 0 :=
    ⟨List.count_eq_zero.2 fun member => absurd (source.2 _ member) (by decide),
      List.count_eq_zero.2 fun member => absurd (target.2 _ member) (by decide)⟩
  have marks : "  ".toList.count '\n' = 0 ∧ " --> ".toList.count '\n' = 0 := by decide +kernel
  unfold edgeLine
  simp only [String.toList_append, List.count_append, ends, marks]

/-- The lines have the line feeds of the labels and no others. -/
theorem sum_count_plainLines (written : graph.Written) :
    ((plainLines graph).map fun line => line.toList.count '\n').sum = lineFeeds graph := by
  have nodes : graph.nodes.map ((fun line => line.toList.count '\n') ∘ nodeLine) =
      graph.nodes.map fun node => node.label.toList.count '\n' :=
    List.map_congr_left fun node member => count_nodeLine (written.nodes node member)
  have edges : (graph.edges.map ((fun line => line.toList.count '\n') ∘ edgeLine)).sum = 0 := by
    rw [List.sum_eq_zero_iff_forall_eq_nat]
    intro count member
    obtain ⟨edge, joined, rfl⟩ := List.mem_map.1 member
    exact count_edgeLine (written.edges edge joined).1 (written.edges edge joined).2
  have header : "flowchart TD".toList.count '\n' = 0 := by decide +kernel
  have classes : (classLines.map fun line => line.toList.count '\n').sum = 0 := by decide +kernel
  simp only [plainLines, List.map_cons, List.map_append, List.map_map, List.sum_cons,
    List.sum_append, nodes, edges, header, classes, Nat.zero_add, Nat.add_zero, lineFeeds]

/-- Labels that are single lines are those without a line feed. -/
theorem lineFeeds_eq_zero_iff : lineFeeds graph = 0 ↔ OneLine graph := by
  simp [lineFeeds, OneLine, List.sum_eq_zero_iff_forall_eq_nat, List.count_eq_zero]

/-- What the text of a diagram tells of its graph. -/
structure Told (graph : Flow.Graph) (text : String) : Prop where
  /-- Beside the lines of the diagram there is one for each line feed in a label. -/
  length_lines : (Text.linesOf text.toList).length =
    1 + graph.nodes.length + graph.edges.length + 3 + lineFeeds graph
  /-- The lines are the header, those of the nodes, those of the edges and those of the style
  classes exactly if the labels are single lines. -/
  lines_iff : Text.linesOf text.toList = (plainLines graph).map String.toList ↔ OneLine graph
  /-- The graph is read back, with its labels as they are shown. -/
  read : read? text = some (asShown graph)

/-- A text that is made of the lines of a graph tells the graph so far. -/
theorem told_of_lines (written : graph.Written) {text : String}
    (lines : text.toList = Text.lineChars (plainLines graph)) : Told graph text := by
  have length : (plainLines graph).length = 1 + graph.nodes.length + graph.edges.length + 3 := by
    have classes : classLines.length = 3 := rfl
    simp only [plainLines, List.length_cons, List.length_append, List.length_map, classes]
    omega
  have all : (Text.linesOf text.toList).length =
      1 + graph.nodes.length + graph.edges.length + 3 + lineFeeds graph := by
    rw [Text.length_linesOf, lines, Text.count_lineChars, sum_count_plainLines written, length]
  refine ⟨all, ⟨fun same => ?_, fun single => ?_⟩, read?_lineChars written lines⟩
  · rw [same, List.length_map, length] at all
    exact lineFeeds_eq_zero_iff.1 (by omega)
  · have none := (sum_count_plainLines written).trans (lineFeeds_eq_zero_iff.2 single)
    rw [List.sum_eq_zero_iff_forall_eq_nat] at none
    rw [lines]
    refine Text.linesOf_lineChars fun line member => List.count_eq_zero.1 ?_
    exact none _ (List.mem_map_of_mem member)

end Graph

/-- The diagram of any observers has a text. It has the header, a line for each node, one for each
edge and three for the style classes, and one more for each line feed in a label; the graph is read
back from it with its labels as they are shown. Observers have the same text exactly if their
graphs show the same, so graphs that do not hold the code of the mark are told apart. -/
theorem generate_told (observers : Observers) :
    ∃ text, standard.generate observers = .ok text ∧ Told (.ofObservers observers) text ∧
      ∀ others, (standard.generate others = .ok text ↔
          asShown (.ofObservers others) = asShown (.ofObservers observers)) ∧
        (Uncoded (.ofObservers observers) → Uncoded (.ofObservers others) →
          standard.generate others = .ok text →
            Flow.Graph.ofObservers others = .ofObservers observers) := by
  obtain ⟨text, generated, lines⟩ := exists_generate observers
  have told := told_of_lines (Flow.Graph.written_ofObservers observers) lines
  refine ⟨text, generated, told, fun others => ?_⟩
  obtain ⟨text', generated', lines'⟩ := exists_generate others
  have told' := told_of_lines (Flow.Graph.written_ofObservers others) lines'
  have sameShown (same : standard.generate others = .ok text) :
      asShown (.ofObservers others) = asShown (.ofObservers observers) := by
    obtain rfl : text' = text := Except.ok.inj (generated'.symm.trans same)
    exact Option.some.inj (told'.read.symm.trans told.read)
  refine ⟨⟨sameShown, fun same => ?_⟩, fun uncoded uncoded' same => ?_⟩
  · rw [generated']
    refine congrArg Except.ok (String.toList_injective ?_)
    rw [lines', lines, ← plainLines_asShown, same, plainLines_asShown]
  · rw [← asShown_eq_self uncoded, ← asShown_eq_self uncoded', sameShown same]

/-- One observer that reacts to one event. -/
def reacting (event : String) : Observers :=
  .ofList [("A", { Observer.new "A" with events := [event] })]

/-- The graph of one observer that reacts to one event. -/
def reactingGraph (id event : String) : Flow.Graph where
  nodes := [⟨"a", .observer, "A"⟩, ⟨id, .event, event⟩]
  edges := [⟨id, "a"⟩]

/-- A line feed in a label adds a line to the diagram, and graphs whose labels differ in how they
hold the mark have the same text. -/
theorem generate_adds_line :
    (∃ text, standard.generate (reacting "a\nb") = .ok text ∧
      (Text.linesOf text.toList).length ≠
        1 + (Flow.Graph.ofObservers (reacting "a\nb")).nodes.length +
          (Flow.Graph.ofObservers (reacting "a\nb")).edges.length + 3) ∧
    ∃ text, standard.generate (reacting "\"#quot;") = .ok text ∧
      standard.generate (reacting "#quot;\"") = .ok text ∧
      Flow.Graph.ofObservers (reacting "\"#quot;") ≠ .ofObservers (reacting "#quot;\"") := by
  have broken : Flow.Graph.ofObservers (reacting "a\nb") = reactingGraph "a_b" "a\nb" := by
    decide +kernel
  have marked : Flow.Graph.ofObservers (reacting "\"#quot;") =
      reactingGraph "_quot_" "\"#quot;" := by decide +kernel
  have coded : Flow.Graph.ofObservers (reacting "#quot;\"") =
      reactingGraph "_quot_" "#quot;\"" := by decide +kernel
  obtain ⟨text, generated, lines⟩ := exists_generate (reacting "a\nb")
  have written := Flow.Graph.written_ofObservers (reacting "a\nb")
  have length := (told_of_lines written lines).length_lines
  refine ⟨⟨text, generated, ?_⟩, ?_⟩
  · have feeds : lineFeeds (reactingGraph "a_b" "a\nb") = 1 := by decide +kernel
    rw [length, broken, feeds]
    omega
  · obtain ⟨text, generated, lines⟩ := exists_generate (reacting "\"#quot;")
    obtain ⟨text', generated', lines'⟩ := exists_generate (reacting "#quot;\"")
    have same : plainLines (reactingGraph "_quot_" "\"#quot;") =
        plainLines (reactingGraph "_quot_" "#quot;\"") := by decide +kernel
    have sameText : text' = text :=
      String.toList_injective (by rw [lines', lines, marked, coded, same])
    refine ⟨text, generated, sameText ▸ generated', ?_⟩
    rw [marked, coded]
    decide +kernel

end EventAtlas.Diagram.Mermaid
