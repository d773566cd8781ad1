/-
**The graph drawn on the canvas.**

Dataset and function nodes with a place on the canvas, and directed edges between node ids. The order
of nodes and edges is kept. Ids may repeat and edges may lead nowhere: that is for the compiler to
report.
-/

import PipelineGraph.Text.Blank

namespace PipelineGraph

/-- A place on the canvas. -/
structure Position where
  x : Float := 0
  y : Float := 0
  deriving Inhabited, Repr

/-- What a dataset node holds: the kind of storage and the place of the stored data. -/
structure DatasetPayload where
  storageType : String := ""
  location : String := ""
  description : Option String := none
  deriving DecidableEq, Inhabited, Repr

/-- What a function node holds: a name of its own, a body and a description, each optional. -/
structure FunctionPayload where
  functionName : Option String := none
  body : Option String := none
  description : Option String := none
  deriving DecidableEq, Inhabited, Repr

/-- What a node holds, by its kind. -/
inductive Payload
  | dataset (payload : DatasetPayload)
  | function (payload : FunctionPayload)
  deriving DecidableEq, Inhabited, Repr

/-- The two kinds of nodes. -/
inductive Kind
  | dataset
  | function
  deriving DecidableEq, Inhabited, Repr

/-- The word for a kind. -/
def Kind.name : Kind → String
  | .dataset => "dataset"
  | .function => "function"

/-- The kind of node that holds this. -/
def Payload.kind : Payload → Kind
  | .dataset _ => .dataset
  | .function _ => .function

/-- A node of the graph. -/
structure Node where
  id : String
  label : String
  position : Position := {}
  payload : Payload
  deriving Inhabited, Repr

/-- A directed edge between two node ids. -/
structure Edge where
  id : String
  source : String
  target : String
  deriving DecidableEq, Inhabited, Repr

/-- The graph, nodes and edges in the order they are declared. -/
structure Graph where
  nodes : List Node := []
  edges : List Edge := []
  deriving Inhabited, Repr

namespace Node

/-- The kind of a node. -/
def kind (node : Node) : Kind := node.payload.kind

/-- The description as it is written. -/
def writtenDescription (node : Node) : Option String :=
  match node.payload with
  | .dataset payload => payload.description
  | .function payload => payload.description

/-- The description, unless it is blank. -/
def description (node : Node) : Option String := nonBlank? node.writtenDescription

/-- The node with a description. -/
def withDescription (node : Node) (text : String) : Node :=
  match node.payload with
  | .dataset payload => { node with payload := .dataset { payload with description := some text } }
  | .function payload => { node with payload := .function { payload with description := some text } }

/-- A function node with a name of its own; a dataset node is left as it is. -/
def withFunctionName (node : Node) (name : String) : Node :=
  match node.payload with
  | .dataset _ => node
  | .function payload => { node with payload := .function { payload with functionName := some name } }

/-- A function node with a body; a dataset node is left as it is. -/
def withBody (node : Node) (body : String) : Node :=
  match node.payload with
  | .dataset _ => node
  | .function payload => { node with payload := .function { payload with body := some body } }

/-- The node at another place. -/
def withPosition (node : Node) (x y : Float) : Node := { node with position := ⟨x, y⟩ }

end Node

/-- The edge starts or ends at the node id. -/
def Edge.touches (edge : Edge) (id : String) : Bool := edge.source = id || edge.target = id

namespace Graph

/-- The first node with an id. -/
def node? (graph : Graph) (id : String) : Option Node := graph.nodes.find? fun node => node.id = id

/-- The nodes of one kind, in order. -/
def nodesOf (graph : Graph) (kind : Kind) : List Node :=
  graph.nodes.filter fun node => node.kind = kind

end Graph

end PipelineGraph
