import EventAtlas.Diagram.Dot
import EventAtlas.Proofs.Flow.Written
import EventAtlas.Proofs.Result
import EventAtlas.Proofs.Text.Line

/-!
# Graphviz diagrams can be read back

A quoted string is scanned up to the first mark that no backslash takes with it, so the marks and
backslashes of a label never end it early, whatever follows. Around the quoted strings the lines of
nodes and edges have fixed words, and the style stands where no line feed can occur; so nodes and
edges are read back one after the other, and the text determines the graph.
-/

namespace EventAtlas

namespace Diagram

/-- All values of a table are single lines. -/
def StyleTable.OneLine : StyleTable → Prop
  | .entries values => ∀ entry ∈ values, '\n' ∉ entry.2.toList
  | .notTable => False

/-- The font, the colours and the shapes are single lines. -/
structure Style.OneLine (style : Style) : Prop where
  font : '\n' ∉ style.font.toList
  colors : style.colors.OneLine
  shapes : style.shapes.OneLine

/-- Whatever is picked from a table of single lines is a single line, if the default is one. -/
theorem StyleTable.OneLine.pick {table : StyleTable} (oneLine : table.OneLine) (setting : String)
    (kind : Flow.NodeKind) {default : String} (single : '\n' ∉ default.toList) :
    ∃ value, table.pick setting kind default = .ok value ∧ '\n' ∉ value.toList := by
  match table with
  | .entries values =>
    refine ⟨_, rfl, ?_⟩
    cases found : values.lookup kind.name with
    | none => exact single
    | some value =>
      obtain ⟨before, later, split, -⟩ := List.lookup_eq_some_iff.1 found
      exact oneLine (kind.name, value) (by simp [split])

namespace Dot

/-! ### Quoted strings -/

/-- Scans a quoted string after its opening mark: what stands before the closing mark, and the
rest. A backslash takes the next character with it. -/
def scanQuoted : Text.Reader (List Char)
  | [] => none
  | '"' :: rest => some ([], rest)
  | '\\' :: c :: rest => (scanQuoted rest).map fun (scanned, rest) => ('\\' :: c :: scanned, rest)
  | c :: rest => (scanQuoted rest).map fun (scanned, rest) => (c :: scanned, rest)

/-- What stands in a quoted string, without the backslashes that take a character with them. -/
def unquote : List Char → List Char
  | [] => []
  | '\\' :: c :: rest => c :: unquote rest
  | c :: rest => c :: unquote rest

/-- A quoted text ends at its closing mark, whatever follows. -/
theorem scanQuoted_flatMap_quoteChar (label rest : List Char) :
    scanQuoted (label.flatMap quoteChar ++ '"' :: rest) =
      some (label.flatMap quoteChar, rest) := by
  induction label with
  | nil => rfl
  | cons c label ih =>
    rw [List.flatMap_cons, List.append_assoc]
    by_cases special : c = '\\' ∨ c = '"'
    · simp [quoteChar, special, scanQuoted, ih]
    · obtain ⟨plain, open_⟩ := not_or.1 special
      simp [quoteChar, plain, open_, scanQuoted, ih]

/-- A quoted text says what it was before. -/
theorem unquote_flatMap_quoteChar (label : List Char) :
    unquote (label.flatMap quoteChar) = label := by
  induction label with
  | nil => rfl
  | cons c label ih =>
    rw [List.flatMap_cons]
    by_cases special : c = '\\' ∨ c = '"'
    · simp [quoteChar, special, unquote, ih]
    · obtain ⟨plain, open_⟩ := not_or.1 special
      simp [quoteChar, plain, open_, unquote, ih]

/-- Reads a quoted string with its marks. -/
def readQuoted : Text.Reader String := fun text => do
  let text ← Text.after? (· == '"') text
  let (written, rest) ← scanQuoted text
  some (String.ofList (unquote written), rest)

/-- A quoted text is read back. -/
theorem readQuoted_quote (text : String) (rest : List Char) :
    readQuoted ('"' :: ((quote text).toList ++ '"' :: rest)) = some (text, rest) := by
  simp [readQuoted, Text.after?, quote, scanQuoted_flatMap_quoteChar, unquote_flatMap_quoteChar]

/-- An identifier needs no backslashes. -/
theorem quote_of_written {id : String} (written : Flow.NodeIds.Written id) : quote id = id := by
  have plain : id.toList.flatMap quoteChar = id.toList := by
    refine Eq.trans (List.flatMap_congr fun c member => ?_) (List.flatMap_singleton' _)
    have here : ¬ (c = '\\' ∨ c = '"') := by
      rintro (rfl | rfl) <;> exact absurd (written.2 _ member) (by decide)
    exact if_neg here
  rw [quote, plain, String.ofList_toList]

/-! ### Lines -/

/-- What stands after the label of a node: its colour, its shape and its kind. -/
def attributes (color shape : String) (kind : Flow.NodeKind) : String :=
  ", fillcolor=\"" ++ color ++ "\", shape=" ++ shape ++ ", class=\"kind-" ++ kind.name ++ "\"];"

/-- How the attributes of the nodes of a kind end. -/
def kindMark (kind : Flow.NodeKind) : List Char :=
  ("kind-" ++ kind.name ++ "\"];").toList

/-- The kind that attributes end with. -/
def kindOf? (attributes : List Char) : Option Flow.NodeKind :=
  Flow.NodeKind.all.find? fun kind => (kindMark kind).isSuffixOf attributes

/-- Attributes of different kinds end differently. -/
theorem kind_eq_of_kindMark_suffix {left right : Flow.NodeKind} :
    kindMark left <:+ kindMark right → left = right := by
  rw [← List.isSuffixOf_iff_suffix]
  cases left <;> cases right <;> decide

/-- The kind is read off the attributes. -/
theorem kindOf?_attributes (color shape : String) (kind : Flow.NodeKind) :
    kindOf? (attributes color shape kind).toList = some kind := by
  have ends : kindMark kind <:+ (attributes color shape kind).toList := by
    have split : ", class=\"kind-".toList = ", class=\"".toList ++ "kind-".toList := by
      decide
    refine ⟨(", fillcolor=\"" ++ color ++ "\", shape=" ++ shape ++ ", class=\"").toList, ?_⟩
    unfold kindMark attributes
    simp only [String.toList_append, List.append_assoc]
    rw [split, List.append_assoc]
  have only (other : Flow.NodeKind) :
      (kindMark other).isSuffixOf (attributes color shape kind).toList = decide (other = kind) := by
    rw [Bool.eq_iff_iff, List.isSuffixOf_iff_suffix, decide_eq_true_iff]
    constructor
    · intro here
      rcases List.suffix_or_suffix_of_suffix here ends with within | within
      · exact kind_eq_of_kindMark_suffix within
      · exact (kind_eq_of_kindMark_suffix within).symm
    · rintro rfl
      exact ends
  simp only [kindOf?, only]
  cases kind <;> rfl

/-- Reads a node with its line. -/
def readNode : Text.Reader Flow.Node := fun text => do
  let text ← Text.afterWord? "    ".toList text
  let (id, text) ← readQuoted text
  let text ← Text.afterWord? " [label=".toList text
  let (label, text) ← readQuoted text
  let kind ← kindOf? (text.takeWhile (· != '\n'))
  some (⟨id, kind, label⟩, Text.afterLine text)

/-- Reads an edge with its line. -/
def readEdge : Text.Reader Flow.Edge := fun text => do
  let text ← Text.afterWord? "    ".toList text
  let (source, text) ← readQuoted text
  let text ← Text.afterWord? " -> ".toList text
  let (target, text) ← readQuoted text
  let rest ← Text.afterWord? ";\n".toList text
  some (⟨source, target⟩, rest)

/-- Reads the graph from the text of a diagram in any style. -/
def read? (text : String) : Option Flow.Graph := do
  let (nodes, text) := Text.readMany readNode (Text.afterLines 6 text.toList)
  let text ← Text.after? (· == '\n') text
  let (edges, text) := Text.readMany readEdge text
  if text = "\x7d\n".toList then some ⟨nodes, edges⟩ else none

/-- A node is read back from its line, whatever its label is. -/
theorem readNode_nodeLine {node : Flow.Node} {color shape : String}
    (written : Flow.NodeIds.Written node.id) (oneColor : '\n' ∉ color.toList)
    (oneShape : '\n' ∉ shape.toList) (rest : List Char) :
    readNode ((nodeLine node color shape).toList ++ '\n' :: rest) = some (node, rest) := by
  have line : (nodeLine node color shape).toList ++ '\n' :: rest =
      "    ".toList ++ ('"' :: ((quote node.id).toList ++ '"' :: (" [label=".toList ++
        ('"' :: ((quote node.label).toList ++ '"' ::
          ((attributes color shape node.kind).toList ++ '\n' :: rest)))))) := by
    have beforeId : "    \"".toList = "    ".toList ++ ['"'] := by decide
    have beforeLabel : "\" [label=\"".toList = '"' :: (" [label=".toList ++ ['"']) := by
      decide
    have afterLabel : "\", fillcolor=\"".toList = '"' :: ", fillcolor=\"".toList := by
      decide
    unfold nodeLine attributes
    rw [quote_of_written written]
    simp only [String.toList_append]
    rw [beforeId, beforeLabel, afterLabel]
    simp only [List.append_assoc, List.cons_append, List.nil_append]
  have single : '\n' ∉ (attributes color shape node.kind).toList := by
    unfold attributes
    simp only [String.toList_append, List.mem_append, oneColor, oneShape, or_false]
    cases node.kind <;> decide
  rw [line, readNode]
  simp only [Text.afterWord?_append, Option.bind_eq_bind, Option.bind_some, readQuoted_quote,
    Text.takeWhile_line single, kindOf?_attributes, Text.afterLine_line single]

/-- An edge is read back from its line. -/
theorem readEdge_edgeLine {edge : Flow.Edge} (source : Flow.NodeIds.Written edge.source)
    (target : Flow.NodeIds.Written edge.target) (rest : List Char) :
    readEdge ((edgeLine edge).toList ++ '\n' :: rest) = some (edge, rest) := by
  have line : (edgeLine edge).toList ++ '\n' :: rest =
      "    ".toList ++ ('"' :: ((quote edge.source).toList ++ '"' :: (" -> ".toList ++
        ('"' :: ((quote edge.target).toList ++ '"' :: (";\n".toList ++ rest)))))) := by
    have beforeSource : "    \"".toList = "    ".toList ++ ['"'] := by decide
    have between : "\" -> \"".toList = '"' :: (" -> ".toList ++ ['"']) := by decide
    have afterTarget (rest : List Char) :
        "\";".toList ++ '\n' :: rest = '"' :: (";\n".toList ++ rest) := rfl
    unfold edgeLine
    rw [quote_of_written source, quote_of_written target]
    simp only [String.toList_append]
    rw [beforeSource, between, List.append_assoc, afterTarget rest]
    simp only [List.append_assoc, List.cons_append, List.nil_append]
  rw [line, readEdge]
  simp only [Text.afterWord?_append, Option.bind_eq_bind, Option.bind_some, readQuoted_quote]

/-! ### Diagrams -/

section Graph

variable {style : Style}

/-- The line of a node in a style of single lines: some colour and some shape, each a single
line. -/
theorem exists_styledNodeLine (oneLine : style.OneLine) (node : Flow.Node) :
    ∃ line, styledNodeLine style node = .ok line ∧
      ∃ color shape, '\n' ∉ color.toList ∧ '\n' ∉ shape.toList ∧
        line = nodeLine node color shape := by
  obtain ⟨color, picked, oneColor⟩ := oneLine.colors.pick "colors" node.kind
    (show '\n' ∉ (defaultColor node.kind).toList by cases node.kind <;> decide)
  obtain ⟨shape, picked', oneShape⟩ := oneLine.shapes.pick "shapes" node.kind
    (show '\n' ∉ (defaultShape node.kind).toList by cases node.kind <;> decide)
  refine ⟨nodeLine node color shape, ?_, color, shape, oneColor, oneShape, rfl⟩
  rw [styledNodeLine, picked, picked']
  rfl

/-- The lines before the nodes are single lines when the font is one. -/
theorem oneLine_header {font : String} (single : '\n' ∉ font.toList) :
    ∀ line ∈ header font, '\n' ∉ line.toList := by
  simp only [header, List.forall_mem_cons]
  refine ⟨by decide, ?graph, by decide, ?node, ?edge, by decide, by simp⟩
  all_goals
    simp only [String.toList_append, List.mem_append, single, or_false]
    decide

/-- The text of a diagram is read back if its lines of nodes and edges are. -/
theorem read?_join_lines {font : String} (single : '\n' ∉ font.toList) {graph : Flow.Graph}
    {nodeLines edgeLines : List String}
    (nodes : List.Forall₂ (fun node line => ∀ rest,
      readNode (line.toList ++ '\n' :: rest) = some (node, rest)) graph.nodes nodeLines)
    (edges : List.Forall₂ (fun edge line => ∀ rest,
      readEdge (line.toList ++ '\n' :: rest) = some (edge, rest)) graph.edges edgeLines) :
    read? (Text.join "\n" (header font ++ nodeLines ++ [""] ++ edgeLines ++ ["\x7d"]) ++ "\n") =
      some graph := by
  have text : Text.lineChars (header font ++ nodeLines ++ [""] ++ edgeLines ++ ["\x7d"]) =
      Text.lineChars (header font) ++ (Text.lineChars nodeLines ++
        '\n' :: (Text.lineChars edgeLines ++ Text.lineChars ["\x7d"])) := by
    simp only [Text.lineChars_append, List.append_assoc]
    rfl
  have noNode (rest : List Char) : readNode ('\n' :: rest) = none := rfl
  have noEdge : readEdge (Text.lineChars ["\x7d"]) = none := rfl
  unfold read?
  rw [Text.toList_join_lines (by simp), text,
    show 6 = (header font).length from rfl, Text.afterLines_lineChars (oneLine_header single),
    Text.readMany_lineChars (fun _ _ rest reads => reads rest) nodes (noNode _)]
  simp only [Text.after?, beq_self_eq_true, if_true, Option.bind_eq_bind, Option.bind_some]
  rw [Text.readMany_lineChars (fun _ _ rest reads => reads rest) edges noEdge]
  exact if_pos rfl

/-- Every diagram in a style of single lines has a text, and its graph is read back from the text
if its identifiers are written as identifiers are. -/
theorem exists_render (oneLine : style.OneLine) (graph : Flow.Graph) :
    ∃ text, render style graph = .ok text ∧ (graph.Written → read? text = some graph) := by
  obtain ⟨nodeLines, made, pairs⟩ := exists_mapM_eq_ok fun node member =>
    (exists_styledNodeLine oneLine node).imp fun line ⟨made, form⟩ =>
      show _ ∧ node ∈ graph.nodes ∧ _ from ⟨made, member, form⟩
  refine ⟨_, by rw [render, lines, made]; rfl, fun written => ?_⟩
  refine read?_join_lines oneLine.font (pairs.imp ?_) ?_
  · rintro node _ ⟨member, color, shape, oneColor, oneShape, rfl⟩ rest
    exact readNode_nodeLine (written.nodes node member) oneColor oneShape rest
  · rw [List.forall₂_map_right_iff, List.forall₂_same]
    intro edge member rest
    exact readEdge_edgeLine (written.edges edge member).1 (written.edges edge member).2 rest

/-- In a style of single lines the text of a diagram determines its graph: the graph is read back
from the text, and graphs with the same text are the same. A quoted label ends at its closing mark,
whatever label and following text are, and says what the label was. -/
theorem graph_eq_of_render_eq (oneLine : style.OneLine) {left right : Flow.Graph}
    (leftWritten : left.Written) (rightWritten : right.Written) :
    (∃ text, render style left = .ok text ∧ read? text = some left) ∧
      (render style left = render style right → left = right) ∧
      ∀ (label : String) (rest : List Char),
        scanQuoted ((quote label).toList ++ '"' :: rest) = some ((quote label).toList, rest) ∧
          String.ofList (unquote (quote label).toList) = label := by
  obtain ⟨text, rendered, read⟩ := exists_render oneLine left
  obtain ⟨text', rendered', read'⟩ := exists_render oneLine right
  refine ⟨⟨text, rendered, read leftWritten⟩, fun same => ?_, fun label rest => ?_⟩
  · rw [rendered, rendered'] at same
    obtain rfl : text = text' := Except.ok.inj same
    have both := (read leftWritten).symm.trans (read' rightWritten)
    exact Option.some.inj both
  · simp only [quote, String.toList_ofList, scanQuoted_flatMap_quoteChar,
      unquote_flatMap_quoteChar, String.ofList_toList, and_self]

/-- A style that changes everything that can be changed. -/
def changedStyle : Style where
  colors := .entries [("event", "#dbeafe")]
  shapes := .entries [("api", "box")]
  font := "Verdana"

/-- A node whose label looks like the end of its line and the line of another node. -/
def imitatingGraph : Flow.Graph where
  nodes := [⟨"a", .event, "x\", fillcolor=\"#dbeafe\", shape=ellipse, class=\"kind-event\"];\n" ++
    "    \"b\" [label=\"y\\"⟩]
  edges := [⟨"a", "a"⟩]

/-- The two nodes that the label looks like. -/
def imitatedGraph : Flow.Graph where
  nodes := [⟨"a", .event, "x"⟩, ⟨"b", .event, "y\\"⟩]
  edges := [⟨"a", "a"⟩]

theorem graph_eq_of_render_eq_imitating :
    changedStyle.OneLine ∧ imitatingGraph.Written ∧ imitatedGraph.Written ∧
      (∃ text, render changedStyle imitatingGraph = .ok text ∧
        read? text = some imitatingGraph) ∧
      render changedStyle imitatingGraph ≠ render changedStyle imitatedGraph := by
  have oneLine : changedStyle.OneLine :=
    ⟨by decide +kernel, by simp [changedStyle, StyleTable.OneLine],
      by simp [changedStyle, StyleTable.OneLine]⟩
  have a : Flow.NodeIds.Written "a" := ⟨by decide, List.all_eq_true.1 (by decide)⟩
  have b : Flow.NodeIds.Written "b" := ⟨by decide, List.all_eq_true.1 (by decide)⟩
  have imitating : imitatingGraph.Written :=
    ⟨by simp [imitatingGraph, a], by simp [imitatingGraph, a]⟩
  have imitated : imitatedGraph.Written :=
    ⟨by simp [imitatedGraph, a, b], by simp [imitatedGraph, a]⟩
  obtain ⟨back, apart, -⟩ := graph_eq_of_render_eq oneLine imitating imitated
  exact ⟨oneLine, imitating, imitated, back, fun same => absurd (apart same) (by decide)⟩

end Graph

end Dot

end Diagram

end EventAtlas
