/-
**Graphs as JSON.**

`Graph.toJson` writes a graph and `Graph.ofJson` reads one. Members that are not known are passed over.
-/

import PipelineGraph.Graph.Record
import PipelineGraph.Json.Record

namespace PipelineGraph

open Shape

/-! ### Writing -/

/-- A member that is left out when there is no text. -/
def optionalMember (name : String) : Option String → List (String × Json.Value)
  | some text => [(name, .string text)]
  | none => []

/-- The data of a node. -/
def Payload.toJson (label : String) : Payload → Json.Value
  | .dataset payload =>
    .object ([("label", .string label), ("type", .string payload.storageType),
        ("filepath", .string payload.location)] ++
      optionalMember "description" payload.description)
  | .function payload =>
    .object ([("label", .string label)] ++ optionalMember "function_name" payload.functionName ++
      optionalMember "code" payload.body ++ optionalMember "description" payload.description)

/-- A position. -/
def Position.toJson (position : Position) : Json.Value :=
  .object [("x", .number (.float position.x)), ("y", .number (.float position.y))]

/-- A node. -/
def Node.toJson (node : Node) : Json.Value :=
  .object [("type", .string node.kind.name), ("id", .string node.id),
    ("position", node.position.toJson), ("data", node.payload.toJson node.label)]

/-- An edge. -/
def Edge.toJson (edge : Edge) : Json.Value :=
  .object [("id", .string edge.id), ("source", .string edge.source), ("target", .string edge.target)]

/-- A graph. -/
def Graph.toJson (graph : Graph) : Json.Value :=
  .object [("nodes", .array (graph.nodes.map Node.toJson)),
    ("edges", .array (graph.edges.map Edge.toJson))]

/-! ### Reading -/

namespace Json

/-- The kind that a value names. -/
def Reading.asKind : Reading → Except Error Kind
  | .string value => do orShape (Kind.ofName (← orFault value.text))
  | reading => reading.unexpected "variant identifier"

/-- Reads the members of a node: its type, which may stand anywhere, and the content of the others. -/
def readTagged (depth : Nat) (stop : Option Fault) (kind : Option Kind) :
    List (Quoted × Reading) → Except Error (Kind × List (Content × Content))
  | [] => orStop stop (match kind with
    | some kind => .ok (kind, [])
    | none => .error (.shape (.missingField "type")))
  | (key, value) :: rest => do
    let key ← orFault key.text
    if key = "type" then
      if kind.isSome then throw (.shape (.duplicateField "type"))
      else readTagged depth stop (some (← value.asKind)) rest
    else
      let value ← value.content depth
      let (kind, entries) ← readTagged depth stop kind rest
      return (kind, (.text key, value) :: entries)

/-- Reads a node. In an array the type comes first. -/
def Site.readNode (site : Site) : Except Error Node :=
  match site.reading with
  | .object members stop => do
    let (kind, entries) ← readTagged (← openDepth site.depth) stop none members
    orShape (Node.ofContent kind (.map entries))
  | .array [] stop => do
    let _ ← openDepth site.depth
    orStop stop (.error (.shape (.missingField "type")))
  | .array (type :: items) stop => do
    let depth ← openDepth site.depth
    let kind ← type.asKind
    let items ← itemsContent depth stop items
    orShape (Node.ofContent kind (.sequence items))
  | reading => reading.unexpected "internally tagged enum NodeRecord"

/-- Reads an edge. -/
def Site.readEdge (site : Site) : Except Error Edge :=
  (site.readRecord (Edge.record fun site : Site => site.reading.asText)).map Edge.Draft.edge

/-- Reads a graph. -/
def Site.readGraph (site : Site) : Except Error Graph :=
  (site.readRecord (Graph.record (Site.readSequence Site.readNode)
    (Site.readSequence Site.readEdge))).map Graph.Draft.graph

end Json

/-- The graph that a JSON text stands for. -/
def Graph.ofJson (text : String) : Except Json.Error Graph :=
  (Json.read text).readWith Json.Site.readGraph

end PipelineGraph
