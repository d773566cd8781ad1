/-
**The shape of a graph in a file.**

A graph has nodes and edges, both optional; an edge has an id, a source and a target. A node is tagged
with its kind and has an id, a position and data; the data hold the label and the payload. The position
has a default, and so has everything in the data but the label.

Graphs and edges are read straight from the input, by whatever reads lists and texts there. The fields
of a node are read from its content.
-/

import PipelineGraph.Graph.Basic
import PipelineGraph.Shape.Content

namespace PipelineGraph

open Shape

/-- The kind with a name. -/
def Kind.ofName (name : String) : Except Problem Kind :=
  if name = Kind.dataset.name then .ok .dataset
  else if name = Kind.function.name then .ok .function
  else .error (.unknownKind name)

theorem Kind.ofName_name (kind : Kind) : Kind.ofName kind.name = .ok kind := by
  cases kind <;> rfl

/-! ### Nodes -/

/-- A position while it is read. -/
structure Position.Draft where
  x : Option Float := none
  y : Option Float := none

/-- The fields of a position. -/
def Position.record : Record Content (Except Problem) Position.Draft where
  title := "struct Position"
  draft := {}
  fields :=
    [⟨"x", true, (·.x.isSome), fun value draft => value.asFloat.map ({ draft with x := some · })⟩,
     ⟨"y", true, (·.y.isSome), fun value draft => value.asFloat.map ({ draft with y := some · })⟩]

/-- The position that a content stands for. -/
def Position.ofContent (content : Content) : Except Problem Position :=
  (content.readRecord record).map fun draft => ⟨draft.x.getD 0, draft.y.getD 0⟩

/-- The data of a node while they are read. A field of the other kind stays unset. -/
structure DataDraft where
  label : Option String := none
  storageType : Option String := none
  location : Option String := none
  functionName : Option (Option String) := none
  code : Option (Option String) := none
  description : Option (Option String) := none

namespace DataDraft

/-- The field of the label. -/
def labelField : Field Content (Except Problem) DataDraft :=
  ⟨"label", true, (·.label.isSome),
    fun value draft => value.asText.map ({ draft with label := some · })⟩

/-- The field of the description. -/
def descriptionField : Field Content (Except Problem) DataDraft :=
  ⟨"description", false, (·.description.isSome),
    fun value draft => value.asOptionalText.map ({ draft with description := some · })⟩

/-- The data of a dataset. -/
def dataset : Record Content (Except Problem) DataDraft where
  title := "struct DatasetRecord"
  draft := {}
  fields :=
    [labelField,
     ⟨"type", false, (·.storageType.isSome),
      fun value draft => value.asText.map ({ draft with storageType := some · })⟩,
     ⟨"filepath", false, (·.location.isSome),
      fun value draft => value.asText.map ({ draft with location := some · })⟩,
     descriptionField]

/-- The data of a function. -/
def function : Record Content (Except Problem) DataDraft where
  title := "struct FunctionRecord"
  draft := {}
  fields :=
    [labelField,
     ⟨"function_name", false, (·.functionName.isSome),
      fun value draft => value.asOptionalText.map ({ draft with functionName := some · })⟩,
     ⟨"code", false, (·.code.isSome),
      fun value draft => value.asOptionalText.map ({ draft with code := some · })⟩,
     descriptionField]

/-- The payload of data that have been read. -/
def payload (draft : DataDraft) : Kind → Payload
  | .dataset => .dataset
    { storageType := draft.storageType.getD "", location := draft.location.getD ""
      description := draft.description.getD none }
  | .function => .function
    { functionName := draft.functionName.getD none, body := draft.code.getD none
      description := draft.description.getD none }

end DataDraft

/-- The data of a kind of node. -/
def Kind.dataRecord : Kind → Record Content (Except Problem) DataDraft
  | .dataset => DataDraft.dataset
  | .function => DataDraft.function

/-- A node while it is read. -/
structure Node.Draft where
  id : Option String := none
  position : Option Position := none
  data : Option DataDraft := none

/-- The fields of a node of a kind, besides its type. -/
def Node.record (kind : Kind) : Record Content (Except Problem) Node.Draft where
  title :=
    match kind with
    | .dataset => "struct variant NodeRecord::Dataset"
    | .function => "struct variant NodeRecord::Function"
  draft := {}
  fields :=
    [⟨"id", true, (·.id.isSome), fun value draft => value.asText.map ({ draft with id := some · })⟩,
     ⟨"position", false, (·.position.isSome),
      fun value draft => (Position.ofContent value).map ({ draft with position := some · })⟩,
     ⟨"data", true, (·.data.isSome),
      fun value draft => (value.readRecord kind.dataRecord).map ({ draft with data := some · })⟩]

/-- The node of a kind that a content stands for. -/
def Node.ofContent (kind : Kind) (content : Content) : Except Problem Node :=
  (content.readRecord (record kind)).map fun draft =>
    let data := draft.data.getD {}
    { id := draft.id.getD "", label := data.label.getD "", position := draft.position.getD {}
      payload := data.payload kind }

/-! ### Edges and graphs -/

/-- An edge while it is read. -/
structure Edge.Draft where
  id : Option String := none
  source : Option String := none
  target : Option String := none

/-- The edge of a draft. -/
def Edge.Draft.edge (draft : Edge.Draft) : Edge :=
  ⟨draft.id.getD "", draft.source.getD "", draft.target.getD ""⟩

variable {ν : Type} {m : Type → Type} [Monad m]

/-- The fields of an edge, read by a reader of texts. -/
def Edge.record (asText : ν → m String) : Record ν m Edge.Draft where
  title := "struct Edge"
  draft := {}
  fields :=
    [⟨"id", true, (·.id.isSome),
      fun value draft => do return { draft with id := some (← asText value) }⟩,
     ⟨"source", true, (·.source.isSome),
      fun value draft => do return { draft with source := some (← asText value) }⟩,
     ⟨"target", true, (·.target.isSome),
      fun value draft => do return { draft with target := some (← asText value) }⟩]

/-- A graph while it is read. -/
structure Graph.Draft where
  nodes : Option (List Node) := none
  edges : Option (List Edge) := none

/-- The graph of a draft. -/
def Graph.Draft.graph (draft : Graph.Draft) : Graph :=
  ⟨draft.nodes.getD [], draft.edges.getD []⟩

/-- The fields of a graph, read by readers of lists of nodes and of edges. -/
def Graph.record (asNodes : ν → m (List Node)) (asEdges : ν → m (List Edge)) :
    Record ν m Graph.Draft where
  title := "struct Graph"
  draft := {}
  fields :=
    [⟨"nodes", false, (·.nodes.isSome),
      fun value draft => do return { draft with nodes := some (← asNodes value) }⟩,
     ⟨"edges", false, (·.edges.isSome),
      fun value draft => do return { draft with edges := some (← asEdges value) }⟩]

end PipelineGraph
