/-
**What is reported of a graph, in order and by place.**

A notice is a diagnostic without its words: its kind, its severity and its place. The definitions here
read the notices off the graph as it is drawn, stage by stage, without indices and without the wiring:

* repeated ids, node by node; bad and repeated edges, edge by edge; datasets that stand alone;
* names of the catalog, dataset by dataset, and what is missing there;
* what is missing in functions, function by function; and identifiers that are taken.

`diagnostics_in_order` says that the diagnostics are these, whether the graph compiles or not, and that
each of them is at a node or an edge of the graph. Each stage has a lemma of its own (`notices_nodes`,
`notices_edges`, `notices_alone`, `notices_catalog`, `notices_functions`, `notices_steps`).
-/

import Mathlib.Data.Option.Basic
import PipelineGraph.Proofs.Compilation.Reports
import PipelineGraph.Proofs.Compilation.Verdict
import PipelineGraph.Proofs.TwoWalks

namespace PipelineGraph

/-! ### Notices -/

/-- **A diagnostic without its words.** -/
structure Notice where
  code : Code
  severity : Severity
  nodeId : Option String := none
  edgeId : Option String := none
  deriving DecidableEq, Repr

/-- What a diagnostic is about. -/
def Diagnostic.notice (diagnostic : Diagnostic) : Notice :=
  ⟨diagnostic.code, diagnostic.severity, diagnostic.nodeId, diagnostic.edgeId⟩

namespace Node

/-- An error at a node. -/
def error (code : Code) (node : Node) : Notice := { code, severity := .error, nodeId := some node.id }

/-- A warning at a node. -/
def warning (code : Code) (node : Node) : Notice :=
  { code, severity := .warning, nodeId := some node.id }

/-- What is reported of a dataset that has its name to itself. -/
def catalogNotices (node : Node) : List Notice :=
  (if isIdentifier (canonical node.label) then [] else [node.warning .invalidIdentifier]) ++
    (if node.writtenDescription.all isBlank then [node.warning .noDescription] else [])

/-- What is reported of a function. -/
def functionNotices (node : Node) : List Notice :=
  match node.payload with
  | .dataset _ => []
  | .function payload =>
    (if payload.body.all isBlank then [node.warning .emptyFunctionBody] else []) ++
      (if node.writtenDescription.all isBlank then [node.warning .noDescription] else []) ++
      (if isIdentifier (payload.givenName.getD (canonical node.label)) then []
        else [node.warning .invalidIdentifier])

end Node

namespace Graph

/-- The nodes of a kind that are the first with their id. -/
def firstNodesOf (graph : Graph) (kind : Kind) : List Node :=
  (firstOccurrences Node.id graph.nodes).filter fun node => node.kind = kind

/-- Repeated ids, node by node. -/
def nodeNotices (graph : Graph) : List Notice :=
  reportEach Node.id (fun repeated node => if repeated then [node.error .duplicateNodeId] else [])
    graph.nodes

/-- What is reported of an edge, told whether an earlier one has the same two ends. An edge with one
known end is reported there as well. -/
def edgeNotice (graph : Graph) (repeated : Bool) (edge : Edge) : List Notice :=
  match graph.node? edge.source, graph.node? edge.target with
  | none, none => [{ code := .danglingEdge, severity := .error, edgeId := some edge.id }]
  | none, some _ => [⟨.danglingEdge, .error, some edge.target, some edge.id⟩]
  | some _, none => [⟨.danglingEdge, .error, some edge.source, some edge.id⟩]
  | some source, some target =>
    if source.kind = target.kind then
      [⟨.typeMismatchEdge, .error, some edge.source, some edge.id⟩]
    else if repeated then [{ code := .duplicateBinding, severity := .warning, edgeId := some edge.id }]
    else []

/-- Bad and repeated edges, edge by edge. -/
def edgeNotices (graph : Graph) : List Notice :=
  reportEach (fun edge => (edge.source, edge.target)) graph.edgeNotice graph.edges

/-- Datasets that no edge starts or ends at. -/
def aloneNotices (graph : Graph) : List Notice :=
  ((graph.firstNodesOf .dataset).filter fun node =>
    ∀ edge ∈ graph.edges, edge.source ≠ node.id ∧ edge.target ≠ node.id).map (Node.warning .orphanDataset)

/-- Names of the catalog, dataset by dataset: a name that is taken, or what else is wrong. -/
def catalogNotices (graph : Graph) : List Notice :=
  reportEach (fun node => canonical node.label)
    (fun repeated node => if repeated then [node.error .nameCollision] else node.catalogNotices)
    (graph.firstNodesOf .dataset)

/-- What is reported of functions, function by function. -/
def functionNotices (graph : Graph) : List Notice :=
  (graph.firstNodesOf .function).flatMap Node.functionNotices

/-- Identifiers that are taken, function by function. -/
def stepNotices (graph : Graph) : List Notice :=
  reportEach Node.identifier? (fun repeated node => if repeated then [node.error .nameCollision] else [])
    (graph.firstNodesOf .function)

variable {graph : Graph}

/-! ### The stages -/

theorem firstNodesOf_eq (graph : Graph) (kind : Kind) :
    graph.firstNodesOf kind = graph.keptNodes.filter fun node => node.kind = kind := by
  rw [firstNodesOf, ← firsts_eq_firstOccurrences, keptNodes]

theorem notices_nodes (graph : Graph) :
    graph.nodeReports.map Diagnostic.notice = graph.nodeNotices := by
  rw [nodeNotices, ← map_repeats, nodeReports, List.map_map]
  rfl

/-- The first of two ends of different kinds is a dataset or a function. -/
theorem Binds.ends {edge : Edge} {binding : Binding} (binds : graph.Binds edge binding) :
    ∃ source target, graph.node? edge.source = some source ∧ graph.node? edge.target = some target ∧
      source.kind ≠ target.kind := by
  obtain ⟨direction, ⟨node, found, isDataset⟩, ⟨other, found', isFunction⟩⟩ := binds
  cases direction with
  | input => exact ⟨node, other, found, found', by rw [isDataset, isFunction]; decide⟩
  | output => exact ⟨other, node, found', found, by rw [isDataset, isFunction]; decide⟩

theorem Misjoins.notice {edge : Edge} {problem : WiringProblem}
    (misjoins : graph.Misjoins edge problem) (repeated : Bool) :
    graph.edgeNotice repeated edge = [problem.diagnostic.notice] := by
  unfold edgeNotice
  cases misjoins with
  | unknownEnds source target =>
    rw [source, target]
    rfl
  | unknownSource source target =>
    rw [source, target, ← id_of_node? target]
    rfl
  | unknownTarget source target =>
    rw [source, target, ← id_of_node? source]
    rfl
  | sameKind source target same =>
    rw [source, target, ← id_of_node? source]
    exact if_pos same

/-- The notice of an edge is that of its problem. -/
theorem notices_problem? (graph : Graph) (repeated : Bool) (edge : Edge) :
    ((graph.problem? repeated edge).toList.map WiringProblem.diagnostic).map Diagnostic.notice =
      graph.edgeNotice repeated edge := by
  unfold problem?
  cases classified : graph.classify edge with
  | error problem =>
    rw [(classify_eq_error_iff.mp classified).notice]
    rfl
  | ok binding =>
    obtain ⟨source, target, isSource, isTarget, different⟩ := (classify_eq_ok_iff.mp classified).ends
    rw [edgeNotice, isSource, isTarget]
    simp only [if_neg different]
    cases repeated <;> rfl

theorem notices_edges (graph : Graph) :
    graph.edgeReports.map Diagnostic.notice = graph.edgeNotices := by
  rw [edgeReports_eq, map_reportEach, edgeNotices]
  exact reportEach_congr _ fun edge _ repeated => graph.notices_problem? repeated edge

theorem notices_alone (graph : Graph) :
    graph.aloneReports.map Diagnostic.notice = graph.aloneNotices := by
  have untouched : ∀ node : Node, (!graph.edges.any (·.touches node.id)) =
      decide (∀ edge ∈ graph.edges, edge.source ≠ node.id ∧ edge.target ≠ node.id) := by
    intro node
    rw [Bool.eq_iff_iff]
    simp [Edge.touches]
  rw [aloneNotices, firstNodesOf_eq, List.filter_filter, aloneReports, orphans, List.map_map]
  simp only [untouched, Bool.and_comm]
  rfl

/-- A text is left out when it is missing or blank. -/
theorem isNone_nonBlank? (text : Option String) : (nonBlank? text).isNone = text.all isBlank := by
  cases text with
  | none => rfl
  | some text =>
    rw [nonBlank?, Option.filter, Option.all_some]
    cases isBlank text <;> rfl

/-- A dataset is reported by its own notices, or because its name is taken. -/
theorem notices_problemsOf {node : Node} {dataset : DatasetRef} (stands : dataset.StandsFor node)
    (earlier : Option DatasetRef) :
    ((Catalog.problemsOf (dataset, earlier)).map fun problem => problem.diagnostic.notice) =
      if earlier.isSome then [node.error .nameCollision] else node.catalogNotices := by
  obtain ⟨payload, holds, rfl⟩ := stands
  cases earlier with
  | some first => rfl
  | none =>
    have described : node.writtenDescription = payload.description := by
      rw [Node.writtenDescription, holds]
    rw [Catalog.problemsOf, isNone_nonBlank?, Node.catalogNotices, described]
    cases isIdentifier (canonical node.label) <;> cases payload.description.all isBlank <;> rfl

theorem notices_catalog (graph : Graph) :
    ((Catalog.problems graph.wiring.datasets).map Catalog.Problem.diagnostic).map Diagnostic.notice =
      graph.catalogNotices := by
  rw [Catalog.problems, List.map_map, List.map_flatMap, catalogNotices]
  refine (reportEach_eq_flatMap _ _ (graph.resolves_wiring.datasets.imp ?_)).symm
  intro node dataset stands
  have named : canonical node.label = dataset.name := by
    obtain ⟨payload, _, rfl⟩ := stands
    rfl
  exact ⟨named, fun earlier => (notices_problemsOf stands earlier).symm⟩

/-- A function is reported by the notices of its node. -/
theorem notices_problems {node : Node} {function : FunctionRef}
    (stands : function.StandsFor graph node) :
    node.functionNotices = function.problems.map fun problem => problem.diagnostic.notice := by
  obtain ⟨payload, holds, id, _, identifier, body, description⟩ := stands.fields
  have described : node.writtenDescription = function.description := by
    rw [Node.writtenDescription, holds, description]
  rw [Node.functionNotices, holds]
  simp only [described, ← body, ← identifier]
  rw [FunctionRef.problems, FunctionRef.writtenBody, FunctionRef.writtenDescription, isNone_nonBlank?,
    isNone_nonBlank?, List.map_append, List.map_append, Node.warning, Node.warning, Node.warning, ← id]
  cases function.body.all isBlank <;> cases function.description.all isBlank <;>
    cases isIdentifier function.identifier <;> rfl

theorem notices_functions (graph : Graph) :
    ((FunctionModule.problems graph.wiring.functions).map FunctionProblem.diagnostic).map
      Diagnostic.notice = graph.functionNotices := by
  have same : (graph.firstNodesOf .function).map Node.functionNotices =
      graph.wiring.functions.map fun function =>
        function.problems.map fun problem => problem.diagnostic.notice :=
    map_eq_map_of_forall₂ (graph.resolves_wiring.functions.imp fun _ _ => notices_problems)
  rw [FunctionModule.problems, List.map_map, List.map_flatMap, functionNotices, List.flatMap_def,
    List.flatMap_def, same]
  rfl

theorem notices_steps (graph : Graph) :
    ((Assembly.problems graph.wiring.functions).map Assembly.Problem.diagnostic).map
      Diagnostic.notice = graph.stepNotices := by
  let taken : FunctionRef → Notice := fun function =>
    { code := .nameCollision, severity := .error, nodeId := some function.id }
  have reports : ((Assembly.problems graph.wiring.functions).map Assembly.Problem.diagnostic).map
      Diagnostic.notice = (repeats FunctionRef.identifier graph.wiring.functions).map
        fun pair => taken pair.1 := by
    rw [Assembly.problems, List.map_map, List.map_map]
    rfl
  rw [reports, map_repeats, stepNotices]
  refine (reportEach_of_forall₂ (Option.some_injective String)
    (graph.resolves_wiring.functions.imp fun node function stands => ?_).flip)
  obtain ⟨payload, holds, id, _, identifier, _⟩ := stands.fields
  refine ⟨by rw [Node.identifier?, holds, identifier], fun repeated => ?_⟩
  rw [Node.error, ← id]

/-! ### All of them -/

/-- **A notice is located in a graph**: it is at a node or at an edge, and these are the graph's. -/
structure Locates (graph : Graph) (notice : Notice) : Prop where
  placed : notice.nodeId.isSome ∨ notice.edgeId.isSome
  node : ∀ id ∈ notice.nodeId, id ∈ graph.nodes.map Node.id
  edge : ∀ id ∈ notice.edgeId, id ∈ graph.edges.map Edge.id

/-- The notice is at a node, and at no edge. -/
def IsAt (node : Node) (notice : Notice) : Prop := notice.nodeId = some node.id ∧ notice.edgeId = none

theorem locates_of_isAt {node : Node} {notice : Notice} (inside : node ∈ graph.nodes)
    (isAt : IsAt node notice) : graph.Locates notice where
  placed := .inl (by rw [isAt.1]; rfl)
  node := by
    intro id same
    rw [isAt.1, Option.mem_some_iff] at same
    exact same ▸ List.mem_map_of_mem inside
  edge := by
    intro id same
    rw [isAt.2] at same
    cases same

theorem isAt_of_mem_catalogNotices {node : Node} :
    ∀ notice ∈ node.catalogNotices, IsAt node notice := by
  unfold Node.catalogNotices
  rw [List.forall_mem_append]
  constructor
  · split
    · exact List.forall_mem_nil _
    · exact List.forall_mem_singleton.mpr ⟨rfl, rfl⟩
  · split
    · exact List.forall_mem_singleton.mpr ⟨rfl, rfl⟩
    · exact List.forall_mem_nil _

theorem isAt_of_mem_functionNotices {node : Node} :
    ∀ notice ∈ node.functionNotices, IsAt node notice := by
  unfold Node.functionNotices
  split
  · exact List.forall_mem_nil _
  · rw [List.forall_mem_append, List.forall_mem_append]
    refine ⟨⟨?_, ?_⟩, ?_⟩
    · split
      · exact List.forall_mem_singleton.mpr ⟨rfl, rfl⟩
      · exact List.forall_mem_nil _
    · split
      · exact List.forall_mem_singleton.mpr ⟨rfl, rfl⟩
      · exact List.forall_mem_nil _
    · split
      · exact List.forall_mem_nil _
      · exact List.forall_mem_singleton.mpr ⟨rfl, rfl⟩

/-- An error that is reported of a node only where its key is taken is at the node. -/
theorem isAt_of_mem_error {node : Node} {code : Code} {repeated : Bool} {notice : Notice}
    (reported : notice ∈ if repeated then [node.error code] else []) : IsAt node notice := by
  split at reported
  · rw [List.mem_singleton.mp reported]
    exact ⟨rfl, rfl⟩
  · cases reported

/-- **What is reported of an edge is at the edge**, and at an end of it that is known. -/
theorem locates_of_mem_edgeNotice {edge : Edge} {repeated : Bool} (inside : edge ∈ graph.edges) :
    ∀ notice ∈ graph.edgeNotice repeated edge, graph.Locates notice := by
  have isEdge : ∀ id ∈ some edge.id, id ∈ graph.edges.map Edge.id := by
    intro id same
    exact Option.mem_some_iff.mp same ▸ List.mem_map_of_mem inside
  have atEnd : ∀ {code : Code} {severity : Severity} {id : String} {node : Node},
      graph.node? id = some node →
        ∀ notice ∈ [⟨code, severity, some id, some edge.id⟩], graph.Locates notice := by
    intro code severity id node found
    refine List.forall_mem_singleton.mpr ⟨.inl rfl, fun other same => ?_, isEdge⟩
    rw [← Option.mem_some_iff.mp same, ← id_of_node? found]
    exact List.mem_map_of_mem (mem_of_node? found)
  have nowhere : ∀ {code : Code} {severity : Severity},
      ∀ notice ∈ [⟨code, severity, none, some edge.id⟩], graph.Locates notice := by
    intro code severity
    exact List.forall_mem_singleton.mpr ⟨.inr rfl, fun _ absent => (Option.not_mem_none _ absent).elim, isEdge⟩
  unfold edgeNotice
  split
  · exact nowhere
  · rename_i target
    exact atEnd target
  · rename_i source _
    exact atEnd source
  · rename_i source _
    split
    · exact atEnd source
    · split
      · exact nowhere
      · exact List.forall_mem_nil _

theorem mem_nodes_of_mem_firstNodesOf {kind : Kind} {node : Node}
    (inside : node ∈ graph.firstNodesOf kind) : node ∈ graph.nodes := by
  rw [firstNodesOf_eq] at inside
  exact mem_of_mem_firsts Node.id (List.mem_of_mem_filter inside)

/-- What is reported of a graph, stage after stage. -/
def notices (graph : Graph) : List Notice :=
  graph.nodeNotices ++ graph.edgeNotices ++ graph.aloneNotices ++ graph.catalogNotices ++
    graph.functionNotices ++ graph.stepNotices

theorem notices_diagnostics (graph : Graph) (options : Options) :
    (graph.diagnostics options).map Diagnostic.notice = graph.notices := by
  rw [diagnostics_eq, laterReports, notices]
  simp only [List.map_append, notices_nodes, notices_edges, notices_alone, notices_catalog,
    notices_functions, notices_steps, List.append_assoc]

theorem locates_of_mem_notices {notice : Notice} (inside : notice ∈ graph.notices) :
    graph.Locates notice := by
  simp only [notices, List.mem_append] at inside
  rcases inside with ((((nodes | edges) | alone) | catalog) | functions) | steps
  · obtain ⟨node, isNode, _, reported⟩ := mem_reportEach _ _ nodes
    exact locates_of_isAt isNode (isAt_of_mem_error reported)
  · obtain ⟨edge, isEdge, _, reported⟩ := mem_reportEach _ _ edges
    exact locates_of_mem_edgeNotice isEdge notice reported
  · obtain ⟨node, isNode, rfl⟩ := List.mem_map.mp alone
    exact locates_of_isAt (mem_nodes_of_mem_firstNodesOf (List.mem_of_mem_filter isNode)) ⟨rfl, rfl⟩
  · obtain ⟨node, isNode, repeated, reported⟩ := mem_reportEach _ _ catalog
    refine locates_of_isAt (mem_nodes_of_mem_firstNodesOf isNode) ?_
    cases repeated with
    | true =>
      cases List.mem_singleton.mp reported
      exact ⟨rfl, rfl⟩
    | false => exact isAt_of_mem_catalogNotices notice reported
  · obtain ⟨node, isNode, reported⟩ := List.mem_flatMap.mp functions
    exact locates_of_isAt (mem_nodes_of_mem_firstNodesOf isNode)
      (isAt_of_mem_functionNotices notice reported)
  · obtain ⟨node, isNode, _, reported⟩ := mem_reportEach _ _ steps
    exact locates_of_isAt (mem_nodes_of_mem_firstNodesOf isNode) (isAt_of_mem_error reported)

/-- **The diagnostics of any graph are in order and located**: they come stage after stage, and in each
stage in the order of the nodes or of the edges; each is at a node or at an edge of the graph. -/
theorem diagnostics_in_order (graph : Graph) (options : Options) :
    (graph.compile options).diagnostics.map Diagnostic.notice =
        graph.nodeNotices ++ graph.edgeNotices ++ graph.aloneNotices ++ graph.catalogNotices ++
          graph.functionNotices ++ graph.stepNotices ∧
      ∀ diagnostic ∈ (graph.compile options).diagnostics, graph.Locates diagnostic.notice := by
  refine ⟨graph.notices_diagnostics options, fun diagnostic inside => ?_⟩
  refine locates_of_mem_notices ?_
  rw [← graph.notices_diagnostics options]
  exact List.mem_map_of_mem inside

end Graph

end PipelineGraph
