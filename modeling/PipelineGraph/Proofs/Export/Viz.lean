/-
**What the document for Kedro-Viz shows.**

The document filters nodes and edges by what is known, and looks at nothing else. Two statements say
that it still shows what the compiler makes of the graph.

* `parts_agree_on_ids` — the look-up by id, the wiring and the document take each id for the same node.
  Of several nodes with one id the first counts, in all three of them; in the document the ids are in
  the order of their first occurrence, and the edges are those between known ids.
* `edges_toViz_iff_links` — where the graph compiles, the edges of the document are the inputs and
  outputs of the wiring. Whatever the graph, the wiring links the two ends of each edge that binds and
  no others (`links_wiring_iff`); where the graph compiles, all edges bind.
-/

import PipelineGraph.Export.Viz
import PipelineGraph.Proofs.Compilation.Verdict
import PipelineGraph.Proofs.Export.Dot
import PipelineGraph.Proofs.Wiring.Conservation

namespace PipelineGraph

/-! ### What has an id -/

namespace Wiring

/-- The datasets with a node id. -/
def datasetsWith (wiring : Wiring) (id : String) : List DatasetRef :=
  wiring.datasets.filter fun dataset => dataset.id = id

/-- The functions with a node id. -/
def functionsWith (wiring : Wiring) (id : String) : List FunctionRef :=
  wiring.functions.filter fun function => function.id = id

end Wiring

namespace Viz.Document

/-- The nodes with an id, by name and type. -/
def nodesWith (document : Document) (id : String) : List (String × String) :=
  (document.nodes.filter fun node => node.id = id).map fun node => (node.name, kindName node.kind)

/-- The children with an id, by type. -/
def childrenWith (document : Document) (id : String) : List String :=
  (document.children.filter fun child => child.id = id).map fun child => kindName child.kind

end Viz.Document

namespace Graph

variable {graph : Graph}

theorem datasetsWith_wiring (graph : Graph) (id : String) :
    graph.wiring.datasetsWith id = ((graph.node? id).bind Node.datasetRef?).toList := by
  have distinct := List.pairwise_map.mp (List.nodup_append.mp graph.ids_nodup).1
  rw [← dataset?_wiring]
  exact filter_eq_toList_find? distinct id

theorem functionsWith_wiring (graph : Graph) (id : String) :
    graph.wiring.functionsWith id = ((graph.node? id).bind graph.functionRef?).toList := by
  rw [← function?_wiring]
  exact filter_eq_toList_find? (List.pairwise_map.mp graph.ids_functions_nodup) id

/-- What is made of the nodes with an id that are kept is made of the first node with it. -/
theorem filter_map_keptNodes {α : Type} {image : Node → α} (key : α → String)
    (same : ∀ node, key (image node) = node.id) (id : String) :
    ((graph.keptNodes.map image).filter fun x => key x = id) =
      ((graph.node? id).map image).toList := by
  rw [List.filter_map, ← find?_keptNodes, Option.toList_map,
    ← filter_eq_toList_find? graph.keptNodes_pairwise]
  simp only [Function.comp_def, same]

theorem nodesWith_toViz (graph : Graph) (id : String) :
    graph.toViz.nodesWith id =
      ((graph.node? id).map fun node => (node.caption, Viz.kindName node.kind)).toList := by
  have shown : (graph.toViz.nodes.filter fun node => node.id = id) =
      ((graph.node? id).map Node.toViz).toList :=
    filter_map_keptNodes Viz.Node.id (fun _ => rfl) id
  rw [Viz.Document.nodesWith, shown]
  cases graph.node? id <;> rfl

theorem childrenWith_toViz (graph : Graph) (id : String) :
    graph.toViz.childrenWith id = ((graph.node? id).map fun node => Viz.kindName node.kind).toList := by
  have shown : (graph.toViz.children.filter fun child => child.id = id) =
      ((graph.node? id).map Node.toVizChild).toList :=
    filter_map_keptNodes Viz.Child.id (fun _ => rfl) id
  rw [Viz.Document.childrenWith, shown]
  cases graph.node? id <;> rfl

/-! ### One node for each id -/

/-- **An id without a node**: no part knows it. -/
structure IsUnknown (graph : Graph) (id : String) : Prop where
  datasets : graph.wiring.datasetsWith id = []
  functions : graph.wiring.functionsWith id = []
  nodes : graph.toViz.nodesWith id = []
  children : graph.toViz.childrenWith id = []

/-- **An id of a dataset node**: the wiring has one dataset with it, which stands for the node, and no
function; the document has one node with it and one child, both data. -/
structure IsDatasetId (graph : Graph) (id : String) (node : Node) : Prop where
  dataset : ∃ dataset, graph.wiring.datasetsWith id = [dataset] ∧ DatasetRef.StandsFor node dataset
  functions : graph.wiring.functionsWith id = []
  node : graph.toViz.nodesWith id = [(if node.label = "" then id else node.label, "data")]
  child : graph.toViz.childrenWith id = ["data"]

/-- **An id of a function node**: the wiring has one function with it, which stands for the node, and
no dataset; the document has one node with it and one child, both tasks. -/
structure IsFunctionId (graph : Graph) (id : String) (node : Node) : Prop where
  function : ∃ function, graph.wiring.functionsWith id = [function] ∧
    FunctionRef.StandsFor graph node function
  datasets : graph.wiring.datasetsWith id = []
  node : graph.toViz.nodesWith id = [(if node.label = "" then id else node.label, "task")]
  child : graph.toViz.childrenWith id = ["task"]

theorem isUnknown_of_node? {id : String} (absent : graph.node? id = none) : graph.IsUnknown id where
  datasets := by rw [datasetsWith_wiring, absent]; rfl
  functions := by rw [functionsWith_wiring, absent]; rfl
  nodes := by rw [nodesWith_toViz, absent]; rfl
  children := by rw [childrenWith_toViz, absent]; rfl

theorem caption_of_node? {id : String} {node : Node} (first : graph.node? id = some node) :
    node.caption = if node.label = "" then id else node.label := by
  rw [Node.caption_eq, id_of_node? first]

theorem isDatasetId_of_node? {id : String} {node : Node} (first : graph.node? id = some node)
    (isDataset : node.kind = .dataset) : graph.IsDatasetId id node where
  dataset := by
    obtain ⟨dataset, shown⟩ := Option.isSome_iff_exists.mp
      (node.isSome_datasetRef?.trans (decide_eq_true isDataset))
    refine ⟨dataset, ?_, Node.standsFor_datasetRef? shown⟩
    rw [datasetsWith_wiring, first, Option.bind_some, shown]
    rfl
  functions := by
    have other : graph.functionRef? node = none := by
      simpa [isDataset] using graph.isSome_functionRef? node
    rw [functionsWith_wiring, first, Option.bind_some, other]
    rfl
  node := by
    rw [nodesWith_toViz, first, ← caption_of_node? first, Option.map_some, isDataset]
    rfl
  child := by
    rw [childrenWith_toViz, first, Option.map_some, isDataset]
    rfl

theorem isFunctionId_of_node? {id : String} {node : Node} (first : graph.node? id = some node)
    (isFunction : node.kind = .function) : graph.IsFunctionId id node where
  function := by
    obtain ⟨function, shown⟩ := Option.isSome_iff_exists.mp
      ((graph.isSome_functionRef? node).trans (decide_eq_true isFunction))
    refine ⟨function, ?_, standsFor_functionRef? (mem_keptNodes_of_node? first) shown⟩
    rw [functionsWith_wiring, first, Option.bind_some, shown]
    rfl
  datasets := by
    have other : node.datasetRef? = none := by
      simpa [isFunction] using node.isSome_datasetRef?
    rw [datasetsWith_wiring, first, Option.bind_some, other]
    rfl
  node := by
    rw [nodesWith_toViz, first, ← caption_of_node? first, Option.map_some, isFunction]
    rfl
  child := by
    rw [childrenWith_toViz, first, Option.map_some, isFunction]
    rfl

/-! ### The ids and edges that are shown -/

theorem map_id_keptNodes (graph : Graph) :
    graph.keptNodes.map Node.id = firstOccurrences id (graph.nodes.map Node.id) := by
  rw [← firsts_eq_firstOccurrences, firsts_map]
  rfl

/-- **The edges of the document are those between known ids**, in order and with repetitions. -/
theorem edges_toViz (graph : Graph) :
    graph.toViz.edges = (graph.edges.filter fun edge =>
        edge.source ∈ graph.nodes.map Node.id ∧ edge.target ∈ graph.nodes.map Node.id).map
      fun edge => ⟨edge.source, edge.target⟩ := by
  have known : ∀ id, (graph.keptNodes.any fun node => node.id = id) =
      decide (id ∈ graph.nodes.map Node.id) := by
    intro id
    rw [Bool.eq_iff_iff, List.any_eq_true, decide_eq_true_eq, List.mem_map]
    simp only [decide_eq_true_eq]
    constructor
    · rintro ⟨node, kept, same⟩
      exact ⟨node, mem_of_mem_firsts Node.id kept, same⟩
    · rintro ⟨node, inside, rfl⟩
      exact exists_firsts Node.id graph.nodes node inside
  show (graph.edges.filter fun edge => (graph.keptNodes.any fun node => node.id = edge.source) &&
    graph.keptNodes.any fun node => node.id = edge.target).map _ = _
  simp only [known, Bool.decide_and]

/-- **All parts take an id for the same node**, the first with it. The ids of the document are in the
order of their first occurrence, among its nodes and among the children of the root; its edges are the
edges of the graph between these ids, in order and with repetitions. -/
theorem parts_agree_on_ids (graph : Graph) :
    (∀ id, match graph.node? id with
      | none => graph.IsUnknown id
      | some node =>
        match node.kind with
        | .dataset => graph.IsDatasetId id node
        | .function => graph.IsFunctionId id node) ∧
      graph.toViz.nodes.map Viz.Node.id = firstOccurrences id (graph.nodes.map Node.id) ∧
      graph.toViz.children.map Viz.Child.id = firstOccurrences id (graph.nodes.map Node.id) ∧
      graph.toViz.edges = (graph.edges.filter fun edge =>
          edge.source ∈ graph.nodes.map Node.id ∧ edge.target ∈ graph.nodes.map Node.id).map
        fun edge => ⟨edge.source, edge.target⟩ := by
  refine ⟨fun id => ?_, ?_, ?_, graph.edges_toViz⟩
  · cases first : graph.node? id with
    | none => exact isUnknown_of_node? first
    | some node =>
      show match node.kind with
        | .dataset => graph.IsDatasetId id node
        | .function => graph.IsFunctionId id node
      cases isKind : node.kind with
      | dataset => exact isDatasetId_of_node? first isKind
      | function => exact isFunctionId_of_node? first isKind
  · rw [← map_id_keptNodes]
    exact List.map_map ..
  · rw [← map_id_keptNodes]
    exact List.map_map ..

end Graph

/-! ### The edges of a graph that compiles -/

/-- **An id is linked to another**: a function reads the dataset with the first, or writes the dataset
with the second. -/
def Wiring.Links (wiring : Wiring) (source target : String) : Prop :=
  (∃ function ∈ wiring.functions,
      function.id = target ∧ source ∈ function.inputs.map DatasetRef.id) ∨
    ∃ function ∈ wiring.functions,
      function.id = source ∧ target ∈ function.outputs.map DatasetRef.id

namespace Graph

variable {graph : Graph}

/-- **The wiring links the two ends of each edge that binds**, and no others. -/
theorem links_wiring_iff {source target : String} :
    graph.wiring.Links source target ↔
      ∃ edge ∈ graph.edges, (∃ binding, graph.Binds edge binding) ∧
        edge.source = source ∧ edge.target = target := by
  rw [Wiring.Links, reads_iff, writes_iff, mem_bindings_iff, mem_bindings_iff]
  constructor
  · rintro (⟨edge, inside, binds⟩ | ⟨edge, inside, binds⟩)
    · obtain ⟨⟨isSource, _⟩, isTarget, _⟩ := binds_iff.mp binds
      exact ⟨edge, inside, ⟨_, binds⟩, isSource, isTarget⟩
    · obtain ⟨⟨isTarget, _⟩, isSource, _⟩ := binds_iff.mp binds
      exact ⟨edge, inside, ⟨_, binds⟩, isSource, isTarget⟩
  · rintro ⟨edge, inside, ⟨_, binds⟩, rfl, rfl⟩
    obtain ⟨direction, isDataset, isFunction⟩ := binds
    cases direction with
    | input => exact .inl ⟨edge, inside, .along .input isDataset isFunction⟩
    | output => exact .inr ⟨edge, inside, .along .output isDataset isFunction⟩

/-- **The picture of a graph that compiles is its wiring**: an edge of the document leads from one id
to another exactly when a function reads the dataset with the first or writes the dataset with the
second. -/
theorem edges_toViz_iff_links (graph : Graph) (options : Options)
    (success : (graph.compile options).success = true) (source target : String) :
    ⟨source, target⟩ ∈ graph.toViz.edges ↔ graph.wiring.Links source target := by
  obtain ⟨⟨ids, binds⟩, _, _⟩ := (success_iff_stages graph options).mp success
  have known : ∀ edge ∈ graph.edges,
      edge.source ∈ graph.nodes.map Node.id ∧ edge.target ∈ graph.nodes.map Node.id := by
    intro edge inside
    obtain ⟨node, isNode, other, isNode', isSource, isTarget, _⟩ :=
      (exists_binds_iff ids edge).mp (binds edge inside)
    exact ⟨isSource ▸ List.mem_map_of_mem isNode, isTarget ▸ List.mem_map_of_mem isNode'⟩
  have all : graph.toViz.edges = graph.edges.map fun edge => ⟨edge.source, edge.target⟩ := by
    rw [edges_toViz, List.filter_eq_self.mpr fun edge inside => decide_eq_true (known edge inside)]
  rw [all, links_wiring_iff, List.mem_map]
  refine exists_congr fun edge => and_congr_right fun inside => ?_
  rw [Viz.Edge.mk.injEq]
  exact (and_iff_right (binds edge inside)).symm

/-- A function that reads a dataset twice and writes it. -/
def cached : Graph :=
  { nodes :=
      [{ id := "d1", label := "Cache", payload := .dataset {} },
       { id := "f1", label := "Refresh", payload := .function {} }]
    edges := [⟨"e1", "d1", "f1"⟩, ⟨"e2", "f1", "d1"⟩, ⟨"e3", "d1", "f1"⟩] }

theorem edges_toViz_cached : (cached.compile {}).success = true ∧
    cached.wiring.Links "d1" "f1" ∧ cached.wiring.Links "f1" "d1" ∧
    ¬ cached.wiring.Links "d1" "d1" := by
  have success : (cached.compile {}).success = true := by decide
  have links := edges_toViz_iff_links cached {} success
  exact ⟨success, (links _ _).mp (by decide), (links _ _).mp (by decide),
    fun linked => absurd ((links _ _).mpr linked) (by decide)⟩

end Graph

end PipelineGraph
