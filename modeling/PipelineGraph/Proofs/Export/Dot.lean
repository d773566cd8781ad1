/-
**The DOT notation of a graph is read back.**

`Dot.read` reads the notation statement by statement. A quoted text ends at the first quote that no
backslash takes along, so it may hold whatever separates statements (`readInside_quoted`), and a statement
is told apart from what follows it (`readStatement_chars`). `toDot_isRead` says that reading gives the
nodes of the graph, each with its caption, and then its edges, in order; so two graphs have one notation
exactly when they agree in these.
-/

import Mathlib.Data.List.Basic
import PipelineGraph.Export.Dot

namespace PipelineGraph

/-- The caption is the label, or the id if the label is empty. -/
theorem Node.caption_eq (node : Node) :
    node.caption = if node.label = "" then node.id else node.label := by
  rw [Node.caption]
  simp only [String.isEmpty_iff]

namespace Dot

/-! ### Quoted texts -/

/-- What a quoted text stands for whose first quote has been read, and what follows its last quote. A
backslash takes the next character along; it goes away before a quote and before a backslash. -/
def readInside : List Char → Option (List Char × List Char)
  | [] => none
  | '"' :: rest => some ([], rest)
  | '\\' :: '"' :: rest => (readInside rest).map (Prod.map ('"' :: ·) id)
  | '\\' :: '\\' :: rest => (readInside rest).map (Prod.map ('\\' :: ·) id)
  | c :: rest => (readInside rest).map (Prod.map (c :: ·) id)

/-- A quoted text at the start of a text, and what follows it. -/
def readQuoted : List Char → Option (String × List Char)
  | '"' :: rest => (readInside rest).map (Prod.map String.ofList id)
  | _ => none

theorem readInside_other {c : Char} (notQuote : c ≠ '"') (notBackslash : c ≠ '\\')
    (rest : List Char) :
    readInside (c :: rest) = (readInside rest).map (Prod.map (c :: ·) id) :=
  readInside.eq_5 c rest notQuote (fun _ same _ => notBackslash same) fun _ same _ =>
    notBackslash same

/-- What is written between quotes is read up to the last quote. -/
theorem readInside_quoted (text rest : List Char) :
    readInside (text.flatMap quoteChar ++ '"' :: rest) = some (text, rest) := by
  induction text with
  | nil => rfl
  | cons c text ih =>
    rw [List.flatMap_cons, List.append_assoc]
    by_cases isQuote : c = '"'
    · subst isQuote
      show (readInside (text.flatMap quoteChar ++ '"' :: rest)).map _ = _
      rw [ih]
      rfl
    · by_cases isBackslash : c = '\\'
      · subst isBackslash
        show (readInside (text.flatMap quoteChar ++ '"' :: rest)).map _ = _
        rw [ih]
        rfl
      · have plain : quoteChar c = [c] := quoteChar.eq_3 c isBackslash isQuote
        rw [plain, List.singleton_append, readInside_other isQuote isBackslash, ih]
        rfl

theorem readQuoted_quoteChars (text : String) (rest : List Char) :
    readQuoted (quoteChars text ++ rest) = some (text, rest) := by
  have opened : quoteChars text ++ rest =
      '"' :: (text.toList.flatMap quoteChar ++ '"' :: rest) := by
    simp [quoteChars]
  rw [opened, readQuoted, readInside_quoted, Option.map_some, Prod.map_apply, String.ofList_toList]
  rfl

theorem readInside_length {text : List Char} {found : List Char × List Char}
    (isRead : readInside text = some found) : found.2.length < text.length := by
  induction text using readInside.induct generalizing found with
  | case1 => cases isRead
  | case2 rest =>
    cases isRead
    exact Nat.lt_succ_self _
  | case3 rest ih | case4 rest ih =>
    obtain ⟨later, isReadLater, rfl⟩ := Option.map_eq_some_iff.mp isRead
    have shorter := ih isReadLater
    exact Nat.lt_succ_of_lt (Nat.lt_succ_of_lt shorter)
  | case5 c rest notQuote noQuote noBackslash ih =>
    rw [readInside.eq_5 c rest notQuote noQuote noBackslash] at isRead
    obtain ⟨later, isReadLater, rfl⟩ := Option.map_eq_some_iff.mp isRead
    have shorter := ih isReadLater
    exact Nat.lt_succ_of_lt shorter

theorem readQuoted_length {text : List Char} {found : String × List Char}
    (isRead : readQuoted text = some found) : found.2.length < text.length := by
  unfold readQuoted at isRead
  split at isRead
  · obtain ⟨later, isReadLater, rfl⟩ := Option.map_eq_some_iff.mp isRead
    exact Nat.lt_succ_of_lt (readInside_length isReadLater)
  · cases isRead

/-! ### Statements -/

/-- A statement: a node with its label, or an edge. -/
inductive Statement
  | node (id label : String)
  | edge (source target : String)
  deriving DecidableEq

namespace Statement

/-- The notation of a statement. -/
def chars : Statement → List Char
  | node id label =>
    "  ".toList ++ quoteChars id ++ " [label=".toList ++ quoteChars label ++ "]\n".toList
  | edge source target =>
    "  ".toList ++ quoteChars source ++ " -> ".toList ++ quoteChars target ++ ['\n']

/-- The node of a statement, by id and label. -/
def node? : Statement → Option (String × String)
  | node id label => some (id, label)
  | edge _ _ => none

/-- The edge of a statement, by its ends. -/
def edge? : Statement → Option (String × String)
  | node _ _ => none
  | edge source target => some (source, target)

end Statement

/-- A quoted text between two marks at the start of a text, and what follows the second mark. -/
def readBetween (before after : List Char) (text : List Char) : Option (String × List Char) := do
  let (name, rest) ← readQuoted (← text.dropPrefix? before)
  return (name, ← rest.dropPrefix? after)

/-- A statement at the start of a text, and what follows it. -/
def readStatement (text : List Char) : Option (Statement × List Char) :=
  (readBetween "  ".toList [] text).bind fun (first, rest) =>
    ((readBetween " [label=".toList "]\n".toList rest).map (Prod.map (.node first) id)).or
      ((readBetween " -> ".toList "\n".toList rest).map (Prod.map (.edge first) id))

theorem readBetween_quoteChars (before after : List Char) (name : String) (rest : List Char) :
    readBetween before after (before ++ (quoteChars name ++ (after ++ rest))) =
      some (name, rest) := by
  rw [readBetween, List.dropPrefix?_append_of_beq _ (beq_self_eq_true before)]
  show (readQuoted (quoteChars name ++ (after ++ rest))).bind _ = _
  rw [readQuoted_quoteChars]
  show ((after ++ rest).dropPrefix? after).bind _ = _
  rw [List.dropPrefix?_append_of_beq _ (beq_self_eq_true after)]
  rfl

theorem readBetween_length {before after text : List Char} {found : String × List Char}
    (isRead : readBetween before after text = some found) : found.2.length < text.length := by
  obtain ⟨opened, starts, isRead⟩ := Option.bind_eq_some_iff.mp isRead
  obtain ⟨⟨name, rest⟩, quoted, isRead⟩ := Option.bind_eq_some_iff.mp isRead
  obtain ⟨closed, ends, isRead⟩ := Option.bind_eq_some_iff.mp isRead
  cases isRead
  obtain ⟨_, rfl, _⟩ := List.dropPrefix?_eq_some_iff.mp starts
  obtain ⟨_, rfl, _⟩ := List.dropPrefix?_eq_some_iff.mp ends
  have shorter := readQuoted_length quoted
  rw [List.length_append] at shorter ⊢
  dsimp only
  omega

theorem readStatement_length {text : List Char} {found : Statement × List Char}
    (isRead : readStatement text = some found) : found.2.length < text.length := by
  obtain ⟨⟨first, rest⟩, begins, isRead⟩ := Option.bind_eq_some_iff.mp isRead
  have shorter : rest.length < text.length := readBetween_length begins
  rcases Option.or_eq_some_iff.mp isRead with isNode | ⟨_, isEdge⟩
  · obtain ⟨later, isReadLater, rfl⟩ := Option.map_eq_some_iff.mp isNode
    exact Nat.lt_trans (readBetween_length isReadLater) shorter
  · obtain ⟨later, isReadLater, rfl⟩ := Option.map_eq_some_iff.mp isEdge
    exact Nat.lt_trans (readBetween_length isReadLater) shorter

/-- The statements up to the line that closes the graph, with nothing after it. -/
def readStatements (text : List Char) : Option (List Statement) :=
  if text = "\x7d\n".toList then some []
  else
    match _ : readStatement text with
    | none => none
    | some (statement, rest) => (readStatements rest).map (statement :: ·)
termination_by text.length
decreasing_by exact readStatement_length ‹_›

/-- Reads the notation of a graph. -/
def read (text : String) : Option (List Statement) := do
  readStatements (← text.toList.dropPrefix? "digraph pipeline \x7b\n".toList)

/-- **A statement is read back**, whatever follows it. -/
theorem readStatement_chars (statement : Statement) (rest : List Char) :
    readStatement (statement.chars ++ rest) = some (statement, rest) := by
  cases statement with
  | node id label =>
    have split : (Statement.node id label).chars ++ rest = "  ".toList ++ (quoteChars id ++ ([] ++
        (" [label=".toList ++ (quoteChars label ++ ("]\n".toList ++ rest))))) := by
      unfold Statement.chars
      simp only [List.append_assoc, List.nil_append]
    rw [split, readStatement, readBetween_quoteChars, Option.bind_some]
    dsimp only
    rw [readBetween_quoteChars]
    rfl
  | edge source target =>
    have split : (Statement.edge source target).chars ++ rest = "  ".toList ++ (quoteChars source ++
        ([] ++ (" -> ".toList ++ (quoteChars target ++ ("\n".toList ++ rest))))) := by
      unfold Statement.chars
      simp only [List.append_assoc, List.nil_append]
      rfl
    -- what follows the first quoted text tells an edge from a node
    have noNode : readBetween " [label=".toList "]\n".toList
        (" -> ".toList ++ (quoteChars target ++ ("\n".toList ++ rest))) = none := rfl
    rw [split, readStatement, readBetween_quoteChars, Option.bind_some]
    dsimp only
    rw [noNode, readBetween_quoteChars]
    rfl

theorem readStatements_closing : readStatements "\x7d\n".toList = some [] := by
  rw [readStatements]
  exact if_pos rfl

/-- A statement in front of others is read first. -/
theorem readStatements_chars (statement : Statement) (rest : List Char) :
    readStatements (statement.chars ++ rest) = (readStatements rest).map (statement :: ·) := by
  have isOpen : statement.chars ++ rest ≠ "\x7d\n".toList := by
    intro same
    cases statement <;> exact absurd (List.cons.inj same).1 (by decide)
  have first := readStatement_chars statement rest
  rw [readStatements, if_neg isOpen]
  split
  · rename_i failed
    rw [failed] at first
    cases first
  · rename_i found later isRead
    rw [isRead] at first
    cases first
    rfl

/-- **Statements are read back** up to the line that closes the graph. -/
theorem readStatements_flatMap (statements : List Statement) :
    readStatements (statements.flatMap Statement.chars ++ "\x7d\n".toList) = some statements := by
  induction statements with
  | nil => exact readStatements_closing
  | cons statement statements ih =>
    rw [List.flatMap_cons, List.append_assoc, readStatements_chars, ih]
    rfl

end Dot

/-! ### Graphs -/

namespace Graph

/-- The statements on a graph: its nodes by id and caption, then its edges by their ends. -/
def statements (graph : Graph) : List Dot.Statement :=
  graph.nodes.map (fun node => .node node.id node.caption) ++
    graph.edges.map fun edge => .edge edge.source edge.target

/-- **The notation of a graph is that of its statements**, between the lines that open and close it. -/
theorem toList_toDot (graph : Graph) :
    graph.toDot.toList = "digraph pipeline \x7b\n".toList ++
      (graph.statements.flatMap Dot.Statement.chars ++ "\x7d\n".toList) := by
  have chars : graph.toDot.toList = Dot.graphChars graph := String.toList_ofList
  rw [chars, statements, List.flatMap_append, List.flatMap_map, List.flatMap_map, ← List.append_assoc,
    ← List.append_assoc]
  rfl

theorem read_toDot (graph : Graph) : Dot.read graph.toDot = some graph.statements := by
  rw [Dot.read, toList_toDot, List.dropPrefix?_append_of_beq _ (beq_self_eq_true _)]
  exact Dot.readStatements_flatMap graph.statements

/-- Graphs have one notation exactly when they have the same statements. -/
theorem toDot_inj_iff {graph other : Graph} :
    graph.toDot = other.toDot ↔ graph.statements = other.statements := by
  constructor
  · intro same
    have isRead := graph.read_toDot
    rw [same, other.read_toDot] at isRead
    exact (Option.some.inj isRead).symm
  · intro same
    rw [← String.toList_inj, toList_toDot, toList_toDot, same]

theorem filterMap_node?_statements (graph : Graph) :
    graph.statements.filterMap Dot.Statement.node? =
      graph.nodes.map fun node => (node.id, node.caption) := by
  simp [statements, List.filterMap_append, List.filterMap_map, Function.comp_def, Dot.Statement.node?]

theorem filterMap_edge?_statements (graph : Graph) :
    graph.statements.filterMap Dot.Statement.edge? =
      graph.edges.map fun edge => (edge.source, edge.target) := by
  simp [statements, List.filterMap_append, List.filterMap_map, Function.comp_def, Dot.Statement.edge?]

/-- The statements on a graph are its nodes, by id and caption, and its edges, by their ends. -/
theorem statements_inj_iff {graph other : Graph} :
    graph.statements = other.statements ↔
      graph.nodes.map (fun node => (node.id, node.caption)) =
          other.nodes.map (fun node => (node.id, node.caption)) ∧
        graph.edges.map (fun edge => (edge.source, edge.target)) =
          other.edges.map fun edge => (edge.source, edge.target) := by
  constructor
  · intro same
    rw [← filterMap_node?_statements, ← filterMap_node?_statements, ← filterMap_edge?_statements,
      ← filterMap_edge?_statements, same]
    exact ⟨rfl, rfl⟩
  · rintro ⟨nodes, edges⟩
    have shown : ∀ graph : Graph, graph.statements =
        (graph.nodes.map fun node => (node.id, node.caption)).map (fun node => .node node.1 node.2) ++
          (graph.edges.map fun edge => (edge.source, edge.target)).map
            fun edge => .edge edge.1 edge.2 := by
      intro graph
      rw [List.map_map, List.map_map]
      rfl
    rw [shown graph, shown other, nodes, edges]

/-- **The notation of a graph is read back**: reading gives its nodes, each by its id and its label, or
its id again if the label is empty, and then its edges by their ends. Another graph has this notation
exactly when it has the same nodes and edges in this sense. -/
theorem toDot_isRead (graph : Graph) :
    Dot.read graph.toDot = some
        (graph.nodes.map (fun node => .node node.id (if node.label = "" then node.id else node.label)) ++
          graph.edges.map fun edge => .edge edge.source edge.target) ∧
      ∀ other : Graph, graph.toDot = other.toDot ↔
        graph.nodes.map (fun node => (node.id, if node.label = "" then node.id else node.label)) =
            other.nodes.map (fun node => (node.id, if node.label = "" then node.id else node.label)) ∧
          graph.edges.map (fun edge => (edge.source, edge.target)) =
            other.edges.map fun edge => (edge.source, edge.target) := by
  simp only [← Node.caption_eq]
  exact ⟨graph.read_toDot, fun other => toDot_inj_iff.trans statements_inj_iff⟩

end Graph

end PipelineGraph
