/-
**The document for Kedro-Viz.**

Of several nodes with one id the first is shown, and every edge between nodes that are shown.
Datasets are data and functions are tasks; all of them belong to one pipeline, and all are children of
the root.
-/

import PipelineGraph.Export.Dot
import PipelineGraph.Json.Value
import PipelineGraph.Repeats

namespace PipelineGraph

namespace Viz

/-- A node of the document. -/
structure Node where
  id : String
  name : String
  kind : Kind
  deriving DecidableEq, Inhabited, Repr

/-- An edge of the document. -/
structure Edge where
  source : String
  target : String
  deriving DecidableEq, Inhabited, Repr

/-- A child of the root. -/
structure Child where
  id : String
  kind : Kind
  deriving DecidableEq, Inhabited, Repr

/-- The document. -/
structure Document where
  nodes : List Node
  edges : List Edge
  children : List Child
  deriving DecidableEq, Inhabited, Repr

/-- The name of the pipeline that every node belongs to. -/
def defaultPipeline : String := "__default__"

/-- The name of the root. -/
def root : String := "__root__"

/-- The word for a kind of node. -/
def kindName : Kind → String
  | .dataset => "data"
  | .function => "task"

/-- A node. A dataset has no layer and a function no parameters. -/
def Node.toJson (node : Node) : Json.Value :=
  .object ([("id", .string node.id), ("name", .string node.name),
      ("type", .string (kindName node.kind)), ("pipelines", .array [.string defaultPipeline]),
      ("tags", .array []), ("modular_pipelines", .array [])] ++
    match node.kind with
    | .dataset => [("layer", .null)]
    | .function => [("parameters", .object [])])

/-- An edge. -/
def Edge.toJson (edge : Edge) : Json.Value :=
  .object [("source", .string edge.source), ("target", .string edge.target)]

/-- A child of the root. -/
def Child.toJson (child : Child) : Json.Value :=
  .object [("id", .string child.id), ("type", .string (kindName child.kind))]

/-- The document. -/
def Document.toJson (document : Document) : Json.Value :=
  .object
    [("nodes", .array (document.nodes.map Node.toJson)),
     ("edges", .array (document.edges.map Edge.toJson)),
     ("tags", .array []),
     ("pipelines",
       .array [.object [("id", .string defaultPipeline), ("name", .string "Default")]]),
     ("modular_pipelines",
       .object [(root, .object
         [("id", .string root), ("name", .string root), ("inputs", .array []),
          ("outputs", .array []), ("children", .array (document.children.map Child.toJson))])])]

end Viz

/-- A node of the graph as a node of the document. -/
def Node.toViz (node : Node) : Viz.Node := ⟨node.id, node.caption, node.kind⟩

/-- A node of the graph as a child of the root. -/
def Node.toVizChild (node : Node) : Viz.Child := ⟨node.id, node.kind⟩

/-- The document that shows a graph. -/
def Graph.toViz (graph : Graph) : Viz.Document :=
  let shown := firsts Node.id graph.nodes
  let isShown (id : String) : Bool := shown.any fun node => node.id = id
  { nodes := shown.map Node.toViz
    edges := (graph.edges.filter fun edge => isShown edge.source && isShown edge.target).map
      fun edge => ⟨edge.source, edge.target⟩
    children := shown.map Node.toVizChild }

end PipelineGraph
