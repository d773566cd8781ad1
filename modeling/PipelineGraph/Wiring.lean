/-
**The wiring of a graph: which datasets every function reads and writes.**

Of several nodes with one id the first stands. An edge from a dataset to a function makes the dataset
an input of the function, an edge the other way an output; a function's inputs and outputs are in the
order of the edges. Every other edge is reported and left out, and so is an edge that repeats a binding
and a node that repeats an id. A dataset that no edge touches is reported and kept.
-/

import PipelineGraph.Diagnostic
import PipelineGraph.Identifier
import PipelineGraph.Repeats

namespace PipelineGraph

/-- A dataset of the wiring. Its name is the canonical name of its label. -/
structure DatasetRef where
  id : String
  name : String
  label : String
  storageType : String
  location : String
  description : Option String := none
  deriving DecidableEq, Inhabited, Repr

/-- A function of the wiring, with its inputs and outputs. -/
structure FunctionRef where
  id : String
  label : String
  identifier : String
  body : Option String := none
  description : Option String := none
  inputs : List DatasetRef := []
  outputs : List DatasetRef := []
  deriving DecidableEq, Inhabited, Repr

namespace FunctionRef

/-- The names of the inputs. -/
def inputNames (function : FunctionRef) : List String := function.inputs.map DatasetRef.name

/-- The names of the outputs. -/
def outputNames (function : FunctionRef) : List String := function.outputs.map DatasetRef.name

/-- The body, unless it is blank. -/
def writtenBody (function : FunctionRef) : Option String := nonBlank? function.body

/-- The description, unless it is blank. -/
def writtenDescription (function : FunctionRef) : Option String := nonBlank? function.description

end FunctionRef

/-- The datasets and functions of a graph, in the order of its nodes. -/
structure Wiring where
  datasets : List DatasetRef := []
  functions : List FunctionRef := []
  deriving DecidableEq, Inhabited, Repr

namespace Wiring

/-- The first function with a node id. -/
def function? (wiring : Wiring) (id : String) : Option FunctionRef :=
  wiring.functions.find? fun function => function.id = id

/-- The first dataset with a node id. -/
def dataset? (wiring : Wiring) (id : String) : Option DatasetRef :=
  wiring.datasets.find? fun dataset => dataset.id = id

end Wiring

/-- A function reads an input and writes an output. -/
inductive Direction
  | input
  | output
  deriving DecidableEq, Inhabited, Repr

/-- An edge that has been understood: a function reads or writes a dataset. -/
structure Binding where
  direction : Direction
  dataset : String
  function : String
  deriving DecidableEq, Inhabited, Repr

/-- The problems of nodes and edges. -/
inductive WiringProblem
  | repeatedNode (node : Node)
  | unknownEnds (edge : Edge)
  | unknownSource (edge : Edge) (target : Node)
  | unknownTarget (edge : Edge) (source : Node)
  | sameKind (edge : Edge) (source target : Node)
  | repeatedBinding (edge : Edge)
  | orphan (node : Node)

/-- The diagnostic that reports a problem. -/
def WiringProblem.diagnostic : WiringProblem → Diagnostic
  | .repeatedNode node =>
    { code := .duplicateNodeId, severity := .error, nodeId := some node.id
      message := s!"Node id '{node.id}' is used more than once; {node.kind.name} '{node.label}' is " ++
        "ignored" }
  | .unknownEnds edge =>
    { code := .danglingEdge, severity := .error, edgeId := some edge.id
      message := s!"Edge '{edge.id}' references unknown nodes '{edge.source}' and '{edge.target}'" }
  | .unknownSource edge target =>
    { code := .danglingEdge, severity := .error, nodeId := some target.id, edgeId := some edge.id
      message := s!"Edge '{edge.id}' references unknown source node '{edge.source}'" }
  | .unknownTarget edge source =>
    { code := .danglingEdge, severity := .error, nodeId := some source.id, edgeId := some edge.id
      message := s!"Edge '{edge.id}' references unknown target node '{edge.target}'" }
  | .sameKind edge source target =>
    { code := .typeMismatchEdge, severity := .error, nodeId := some source.id
      edgeId := some edge.id
      message := s!"Edge '{edge.id}' connects {source.kind.name} '{source.label}' to " ++
        s!"{target.kind.name} '{target.label}'; edges must join a dataset and a function" }
  | .repeatedBinding edge =>
    { code := .duplicateBinding, severity := .warning, edgeId := some edge.id
      message := s!"Edge '{edge.id}' repeats an existing binding from '{edge.source}' to " ++
        s!"'{edge.target}'" }
  | .orphan node =>
    { code := .orphanDataset, severity := .warning, nodeId := some node.id
      message := s!"Dataset '{node.label}' is not connected to any function" }

namespace Graph

/-- The nodes that are the first with their id, in order. -/
def keptNodes (graph : Graph) : List Node := firsts Node.id graph.nodes

/-- What an edge binds, or why it binds nothing. -/
def classify (graph : Graph) (edge : Edge) : Except WiringProblem Binding :=
  match graph.node? edge.source, graph.node? edge.target with
  | none, none => .error (.unknownEnds edge)
  | none, some target => .error (.unknownSource edge target)
  | some source, none => .error (.unknownTarget edge source)
  | some source, some target =>
    match source.kind, target.kind with
    | .dataset, .function => .ok ⟨.input, source.id, target.id⟩
    | .function, .dataset => .ok ⟨.output, target.id, source.id⟩
    | .dataset, .dataset | .function, .function => .error (.sameKind edge source target)

/-- An edge together with what it binds, if it binds something. -/
structure ReadEdge where
  edge : Edge
  outcome : Except WiringProblem Binding

/-- What the edge binds. -/
def ReadEdge.binding? (read : ReadEdge) : Option Binding := read.outcome.toOption

/-- The edges, each with what it binds, and with the first earlier edge that binds the same. -/
def readEdges (graph : Graph) : List (ReadEdge × Option ReadEdge) :=
  withEarlier ReadEdge.binding? (graph.edges.map fun edge => ⟨edge, graph.classify edge⟩)

/-- The bindings, each at the first edge that makes it. -/
def bindings (graph : Graph) : List Binding :=
  graph.readEdges.filterMap fun (read, earlier) =>
    if earlier.isNone then read.binding? else none

/-- The problem of an edge, if it has one. -/
def edgeProblem? : ReadEdge × Option ReadEdge → Option WiringProblem
  | (⟨_, .error problem⟩, _) => some problem
  | (⟨edge, .ok _⟩, some _) => some (.repeatedBinding edge)
  | (⟨_, .ok _⟩, none) => none

/-- The dataset nodes that no edge touches. -/
def orphans (graph : Graph) : List Node :=
  graph.keptNodes.filter fun node =>
    node.kind = .dataset && !graph.edges.any (·.touches node.id)

/-- Every problem of the nodes and edges: repeated ids, then the edges in order, then the datasets
that stand alone. -/
def wiringProblems (graph : Graph) : List WiringProblem :=
  (repeats Node.id graph.nodes).map (fun repeated => .repeatedNode repeated.1) ++
    graph.readEdges.filterMap edgeProblem? ++
    graph.orphans.map .orphan

end Graph

/-- The dataset that a node stands for. -/
def Node.datasetRef? (node : Node) : Option DatasetRef :=
  match node.payload with
  | .dataset payload =>
    some { id := node.id, name := canonical node.label, label := node.label
           storageType := payload.storageType, location := payload.location
           description := payload.description }
  | .function _ => none

/-- The identifier of a function: the name given to it, else the canonical name of its label. -/
def FunctionPayload.identifier (payload : FunctionPayload) (label : String) : String :=
  match payload.functionName with
  | some name => if isBlank name then canonical label else trim name
  | none => canonical label

namespace Graph

/-- The datasets of a graph. -/
def datasetRefs (graph : Graph) : List DatasetRef := graph.keptNodes.filterMap Node.datasetRef?

/-- The datasets bound to a function in one direction, in the order of the edges. -/
def boundTo (graph : Graph) (direction : Direction) (function : String) : List DatasetRef :=
  (graph.bindings.filter fun binding =>
      binding.direction = direction && binding.function = function).filterMap fun binding =>
    graph.datasetRefs.find? fun dataset => dataset.id = binding.dataset

/-- The function that a node stands for. -/
def functionRef? (graph : Graph) (node : Node) : Option FunctionRef :=
  match node.payload with
  | .dataset _ => none
  | .function payload =>
    some { id := node.id, label := node.label, identifier := payload.identifier node.label
           body := payload.body, description := payload.description
           inputs := graph.boundTo .input node.id, outputs := graph.boundTo .output node.id }

/-- The wiring of a graph. -/
def wiring (graph : Graph) : Wiring :=
  { datasets := graph.datasetRefs, functions := graph.keptNodes.filterMap graph.functionRef? }

end Graph

end PipelineGraph
