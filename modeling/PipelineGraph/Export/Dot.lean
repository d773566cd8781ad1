/-
**The graph in DOT notation.**

One statement for every node, with its label, and one for every edge, as they are declared. Ids and
labels stand between double quotes, with a backslash before a quote and before a backslash.
-/

import PipelineGraph.Graph.Basic

namespace PipelineGraph

/-- What a node is called: its label, or its id if the label is empty. -/
def Node.caption (node : Node) : String := if node.label.isEmpty then node.id else node.label

namespace Dot

/-- A character between quotes. -/
def quoteChar : Char → List Char
  | '\\' => ['\\', '\\']
  | '"' => ['\\', '"']
  | c => [c]

/-- A text between quotes. -/
def quoteChars (text : String) : List Char := '"' :: text.toList.flatMap quoteChar ++ ['"']

/-- The statement of a node. -/
def nodeChars (node : Node) : List Char :=
  "  ".toList ++ quoteChars node.id ++ " [label=".toList ++ quoteChars node.caption ++ "]\n".toList

/-- The statement of an edge. -/
def edgeChars (edge : Edge) : List Char :=
  "  ".toList ++ quoteChars edge.source ++ " -> ".toList ++ quoteChars edge.target ++ ['\n']

/-- The notation of a graph. -/
def graphChars (graph : Graph) : List Char :=
  "digraph pipeline \x7b\n".toList ++ graph.nodes.flatMap nodeChars ++
    graph.edges.flatMap edgeChars ++ "\x7d\n".toList

end Dot

/-- The graph in DOT notation. -/
def Graph.toDot (graph : Graph) : String := String.ofList (Dot.graphChars graph)

end PipelineGraph
