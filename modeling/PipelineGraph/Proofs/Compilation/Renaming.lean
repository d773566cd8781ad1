/-
**Ids and places never reach the artifacts.**

A graph is renamed (`Graph.Renamed`): ids of nodes are replaced at nodes and at both ends of edges by an
injective map, ids of edges and places on the canvas by anything. `compile_renamed` says that the renamed
graph compiles when the graph does, to the same texts, and that the same is reported in the same order.

Diagnostics do name ids. `Finding` says where something is reported without the ids of edges: at which
position among the edges. The findings of a graph depend on the graph alone, and the diagnostics of each
renamed graph are the findings, read with the renamed ids of nodes and the ids of its own edges.

Two runs are compared stage by stage: nodes are found, kept and met along the edges as counterparts
(`Renamed.rel_node?`, `Renamed.keptNodes`, `Renamed.datasetsAlong`), so the wiring is the same but for
ids (`Renamed.wiring`), and no text is written from an id (`Renamed.artifacts`).
-/

import Mathlib.Data.Prod.Basic
import PipelineGraph.Proofs.Compilation.Notices
import PipelineGraph.Proofs.TwoWalks

namespace PipelineGraph

/-! ### Renamed graphs -/

/-- **A node is renamed**: its id is renamed, and it may be at another place. -/
structure Node.Renamed (rename : String → String) (node renamed : Node) : Prop where
  id : renamed.id = rename node.id
  label : renamed.label = node.label
  payload : renamed.payload = node.payload

/-- **An edge is renamed**: its ends are renamed, and it may have another id. -/
structure Edge.Renamed (rename : String → String) (edge renamed : Edge) : Prop where
  source : renamed.source = rename edge.source
  target : renamed.target = rename edge.target

/-- **A graph is renamed**, node by node and edge by edge, by an injective map of ids. -/
structure Graph.Renamed (rename : String → String) (graph renamed : Graph) : Prop where
  injective : Function.Injective rename
  nodes : List.Forall₂ (Node.Renamed rename) graph.nodes renamed.nodes
  edges : List.Forall₂ (Edge.Renamed rename) graph.edges renamed.edges

/-- A dataset with its id renamed. -/
def DatasetRef.renamed (rename : String → String) (dataset : DatasetRef) : DatasetRef :=
  { dataset with id := rename dataset.id }

/-- A function with its id renamed, and those of its inputs and outputs. -/
def FunctionRef.renamed (rename : String → String) (function : FunctionRef) : FunctionRef :=
  { function with
    id := rename function.id
    inputs := function.inputs.map (DatasetRef.renamed rename)
    outputs := function.outputs.map (DatasetRef.renamed rename) }

/-- A wiring with all ids renamed. -/
def Wiring.renamed (rename : String → String) (wiring : Wiring) : Wiring :=
  { datasets := wiring.datasets.map (DatasetRef.renamed rename)
    functions := wiring.functions.map (FunctionRef.renamed rename) }

variable {rename : String → String}

/-! ### The wiring -/

namespace Node.Renamed

variable {node renamed : Node}

theorem kind (same : Node.Renamed rename node renamed) : renamed.kind = node.kind := by
  rw [Node.kind, Node.kind, same.payload]

theorem datasetRef? (same : Node.Renamed rename node renamed) :
    renamed.datasetRef? = node.datasetRef?.map (DatasetRef.renamed rename) := by
  rw [Node.datasetRef?, Node.datasetRef?, same.id, same.label, same.payload]
  cases node.payload <;> rfl

end Node.Renamed

theorem Edge.Renamed.datasetEnd {edge renamed : Edge} (same : Edge.Renamed rename edge renamed)
    (direction : Direction) : renamed.datasetEnd direction = rename (edge.datasetEnd direction) := by
  cases direction with
  | input => exact same.source
  | output => exact same.target

theorem Edge.Renamed.functionEnd {edge renamed : Edge} (same : Edge.Renamed rename edge renamed)
    (direction : Direction) : renamed.functionEnd direction = rename (edge.functionEnd direction) := by
  cases direction with
  | input => exact same.target
  | output => exact same.source

namespace Graph

/-- A graph is renamed by the identity to itself. -/
theorem Renamed.refl (graph : Graph) : Renamed id graph graph where
  injective := Function.injective_id
  nodes := List.forall₂_same.mpr fun _ _ => ⟨rfl, rfl, rfl⟩
  edges := List.forall₂_same.mpr fun _ _ => ⟨rfl, rfl⟩

namespace Renamed

variable {graph renamed : Graph}

/-- **An id, renamed, stands for the counterpart of the node that the id stands for.** -/
theorem rel_node? (same : Renamed rename graph renamed) (id : String) :
    Option.Rel (Node.Renamed rename) (graph.node? id) (renamed.node? (rename id)) := by
  refine rel_find? (fun {node other} alike => ?_) same.nodes
  rw [decide_eq_decide, alike.id, same.injective.eq_iff]

/-- Nodes are first with their id when their counterparts are. -/
theorem firsts_id (same : Renamed rename graph renamed) {nodes others : List Node}
    (pairs : List.Forall₂ (Node.Renamed rename) nodes others) :
    List.Forall₂ (Node.Renamed rename) (firsts Node.id nodes) (firsts Node.id others) := by
  refine forall₂_firsts (fun {node node' other other'} alike alike' => ?_) pairs
  rw [alike.id, alike'.id, same.injective.eq_iff]

/-- **The counterparts of the nodes kept are kept.** -/
theorem keptNodes (same : Renamed rename graph renamed) :
    List.Forall₂ (Node.Renamed rename) graph.keptNodes renamed.keptNodes :=
  same.firsts_id same.nodes

theorem hasKind (same : Renamed rename graph renamed) {id : String} {kind : Kind}
    (isKind : graph.HasKind id kind) : renamed.HasKind (rename id) kind := by
  obtain ⟨node, found, isKind⟩ := isKind
  have rel := same.rel_node? id
  rw [found] at rel
  generalize found' : renamed.node? (rename id) = result at rel
  cases rel with
  | some alike => exact ⟨_, found', alike.kind.trans isKind⟩

/-- **A function meets the counterparts of the datasets.** -/
theorem datasetsAlong (same : Renamed rename graph renamed) (direction : Direction)
    (function : String) :
    List.Forall₂ (Node.Renamed rename) (graph.datasetsAlong direction function)
      (renamed.datasetsAlong direction (rename function)) := by
  refine List.rel_filterMap (fun edge edge' alike => ?_) same.edges
  simp only [alike.functionEnd, alike.datasetEnd, same.injective.eq_iff]
  split
  · have rel := same.rel_node? (edge.datasetEnd direction)
    generalize graph.node? (edge.datasetEnd direction) = found at rel ⊢
    generalize renamed.node? (rename (edge.datasetEnd direction)) = found' at rel ⊢
    cases rel with
    | none => exact .none
    | @some node node' alike =>
      rw [Option.filter_some, Option.filter_some, alike.kind]
      split
      · exact .some alike
      · exact .none
  · exact .none

theorem boundTo (same : Renamed rename graph renamed) {direction : Direction} {function : String}
    (isFunction : graph.HasKind function .function) :
    renamed.boundTo direction (rename function) =
      (graph.boundTo direction function).map (DatasetRef.renamed rename) := by
  have met := same.firsts_id (same.datasetsAlong direction function)
  rw [boundTo_eq isFunction, boundTo_eq (same.hasKind isFunction)]
  exact filterMap_eq_map_of_forall₂ (met.imp fun _ _ alike => alike.datasetRef?)

theorem functionRef? (same : Renamed rename graph renamed) {node other : Node}
    (kept : node ∈ graph.keptNodes) (alike : Node.Renamed rename node other) :
    renamed.functionRef? other = (graph.functionRef? node).map (FunctionRef.renamed rename) := by
  rw [Graph.functionRef?, Graph.functionRef?, alike.payload]
  cases holds : node.payload with
  | dataset _ => rfl
  | function payload =>
    have isFunction := isFunction_of_mem_keptNodes kept holds
    simp only [alike.id, alike.label, same.boundTo isFunction]
    rfl

/-- **The wiring of the renamed graph is the wiring of the graph, renamed.** -/
theorem wiring (same : Renamed rename graph renamed) :
    renamed.wiring = graph.wiring.renamed rename := by
  have datasets : renamed.datasetRefs = graph.datasetRefs.map (DatasetRef.renamed rename) :=
    filterMap_eq_map_of_forall₂ (same.keptNodes.imp fun _ _ alike => alike.datasetRef?)
  have functions : renamed.keptNodes.filterMap renamed.functionRef? =
      (graph.keptNodes.filterMap graph.functionRef?).map (FunctionRef.renamed rename) := by
    -- Only of a function node that is kept is it known that its id stands for a function.
    have pairs := (List.forall₂_and_left _ _).mpr ⟨fun _ => id, same.keptNodes⟩
    exact filterMap_eq_map_of_forall₂ (pairs.imp fun _ _ pair => same.functionRef? pair.1 pair.2)
  rw [Graph.wiring, datasets, functions]
  rfl

end Renamed

end Graph

/-! ### The texts -/

theorem FunctionRef.inputNames_renamed (function : FunctionRef) :
    (function.renamed rename).inputNames = function.inputNames :=
  List.map_map ..

theorem FunctionRef.outputNames_renamed (function : FunctionRef) :
    (function.renamed rename).outputNames = function.outputNames :=
  List.map_map ..

theorem FunctionRef.returnLines_renamed (function : FunctionRef) :
    (function.renamed rename).returnLines = function.returnLines := by
  rw [returnLines, returnLines, FunctionRef.renamed]
  match function.outputs with
  | [] => rfl
  | [_] => rfl
  | first :: second :: rest => simp [DatasetRef.renamed]

/-- **No id is written into the text of a function.** -/
theorem FunctionRef.text_renamed (function : FunctionRef) (options : Options) :
    (function.renamed rename).text options = function.text options := by
  have identifier : (function.renamed rename).identifier = function.identifier := rfl
  have described : (function.renamed rename).writtenDescription = function.writtenDescription := rfl
  have summary : (function.renamed rename).summaryLines options = function.summaryLines options := by
    rw [summaryLines, summaryLines, described]
  have arguments : (function.renamed rename).argumentLines = function.argumentLines := by
    simp [argumentLines, FunctionRef.renamed, DatasetRef.renamed, Function.comp_def]
  have written : (function.renamed rename).writtenBody = function.writtenBody := rfl
  have placeholder : (function.renamed rename).placeholderNames = function.placeholderNames := by
    rw [placeholderNames, placeholderNames, inputNames_renamed, outputNames_renamed]
    simp [FunctionRef.renamed]
  have body : (function.renamed rename).bodyLines = function.bodyLines := by
    rw [bodyLines, bodyLines, written, placeholder]
  rw [text, text, docstringLines, docstringLines, signature, signature, identifier, inputNames_renamed,
    summary, arguments, returnLines_renamed, body]

theorem Assembly.text_renamed (functions : List FunctionRef) (options : Options) :
    (ofFunctions (functions.map (FunctionRef.renamed rename)) options).text options =
      (ofFunctions functions options).text options := by
  have steps : (ofFunctions (functions.map (FunctionRef.renamed rename)) options).steps =
      (ofFunctions functions options).steps.map fun step =>
        { step with nodeId := rename step.nodeId } := by
    rw [steps_ofFunctions, steps_ofFunctions, firsts_map, List.map_map, List.map_map]
    refine List.map_congr_left fun function _ => ?_
    simp only [Function.comp_apply, stepOf, FunctionRef.inputNames_renamed,
      FunctionRef.outputNames_renamed]
    rfl
  have texts : (ofFunctions (functions.map (FunctionRef.renamed rename)) options).steps.map Step.text =
      (ofFunctions functions options).steps.map Step.text := by
    rw [steps, List.map_map]
    rfl
  have imports : (ofFunctions (functions.map (FunctionRef.renamed rename)) options).importLine =
      (ofFunctions functions options).importLine := by
    rw [importLine, importLine, Assembly.functions, Assembly.functions, steps, List.map_map,
      List.isEmpty_map]
    rfl
  rw [text, text, texts, imports]

theorem Catalog.entries_renamed (datasets : List DatasetRef) :
    entries (datasets.map (DatasetRef.renamed rename)) = entries datasets := by
  rw [entries, entries, firsts_map, List.map_map]
  rfl

theorem Graph.Renamed.artifacts {graph renamed : Graph} (same : Renamed rename graph renamed)
    (options : Options) : renamed.artifacts options = graph.artifacts options := by
  have functions : FunctionModule.text (graph.wiring.renamed rename).functions options =
      FunctionModule.text graph.wiring.functions options := by
    rw [FunctionModule.text, FunctionModule.text, Wiring.renamed, List.map_map]
    simp only [Function.comp_def, FunctionRef.text_renamed]
  rw [Graph.artifacts, Graph.artifacts, Graph.assembly, Graph.assembly, entries, entries, same.wiring,
    functions]
  simp only [Wiring.renamed, Assembly.text_renamed, Catalog.entries_renamed]

/-! ### What is reported -/

/-- **What is reported, without the ids of edges**: an edge is given by its position. -/
structure Finding where
  code : Code
  severity : Severity
  nodeId : Option String
  position : Option Nat

/-- A notice with the position of its edge in place of the id. -/
def Notice.finding (position : Option Nat) (notice : Notice) : Finding :=
  ⟨notice.code, notice.severity, notice.nodeId, position⟩

/-- A finding read with ids of nodes renamed, and with the ids that some edges have. -/
def Finding.notice (rename : String → String) (edges : List Edge) (finding : Finding) : Notice :=
  { code := finding.code
    severity := finding.severity
    nodeId := finding.nodeId.map rename
    edgeId := finding.position.bind fun position => edges[position]?.map Edge.id }

namespace Graph

/-- What is found in the edges, edge by edge. -/
def edgeFindings (graph : Graph) : List Finding :=
  reportEach (fun (edge, _) => (edge.source, edge.target))
    (fun repeated (edge, position) => (graph.edgeNotice repeated edge).map (Notice.finding position))
    graph.edges.zipIdx

/-- **What is found in a graph**, stage after stage. -/
def findings (graph : Graph) : List Finding :=
  graph.nodeNotices.map (Notice.finding none) ++ graph.edgeFindings ++
    (graph.aloneNotices ++ graph.catalogNotices ++ graph.functionNotices ++ graph.stepNotices).map
      (Notice.finding none)

end Graph

/-! ### The notices of a renamed graph -/

/-- A notice at a node and at no edge, with the id renamed. -/
def Notice.renamed (rename : String → String) (notice : Notice) : Notice :=
  { notice with nodeId := notice.nodeId.map rename, edgeId := none }

namespace Node.Renamed

variable {node renamed : Node}

theorem error (same : Node.Renamed rename node renamed) (code : Code) :
    renamed.error code = (node.error code).renamed rename := by
  rw [Node.error, same.id]
  rfl

theorem warning (same : Node.Renamed rename node renamed) (code : Code) :
    renamed.warning code = (node.warning code).renamed rename := by
  rw [Node.warning, same.id]
  rfl

/-- An error where a key is taken is the renamed error. -/
theorem errorIf (same : Node.Renamed rename node renamed) (code : Code) (repeated : Bool) :
    (if repeated then [node.error code] else []).map (Notice.renamed rename) =
      if repeated then [renamed.error code] else [] := by
  rw [same.error]
  cases repeated <;> rfl

theorem writtenDescription (same : Node.Renamed rename node renamed) :
    renamed.writtenDescription = node.writtenDescription := by
  rw [Node.writtenDescription, Node.writtenDescription, same.payload]

theorem identifier? (same : Node.Renamed rename node renamed) :
    renamed.identifier? = node.identifier? := by
  rw [Node.identifier?, Node.identifier?, same.payload, same.label]

theorem catalogNotices (same : Node.Renamed rename node renamed) :
    node.catalogNotices.map (Notice.renamed rename) = renamed.catalogNotices := by
  rw [Node.catalogNotices, Node.catalogNotices, same.label, same.writtenDescription, same.warning,
    same.warning]
  split <;> split <;> rfl

theorem functionNotices (same : Node.Renamed rename node renamed) :
    node.functionNotices.map (Notice.renamed rename) = renamed.functionNotices := by
  rw [Node.functionNotices, Node.functionNotices, same.payload]
  cases node.payload with
  | dataset _ => rfl
  | function payload =>
    simp only [same.label, same.writtenDescription, same.warning]
    split <;> split <;> split <;> rfl

end Node.Renamed

namespace Graph.Renamed

variable {graph renamed : Graph}

theorem firstNodesOf (same : Renamed rename graph renamed) (kind : Kind) :
    List.Forall₂ (Node.Renamed rename) (graph.firstNodesOf kind) (renamed.firstNodesOf kind) := by
  rw [firstNodesOf_eq, firstNodesOf_eq]
  refine List.rel_filter (fun node other alike => ?_) same.keptNodes
  show decide (node.kind = kind) = true ↔ decide (other.kind = kind) = true
  rw [alike.kind]

theorem nodeNotices (same : Renamed rename graph renamed) :
    graph.nodeNotices.map (Notice.renamed rename) = renamed.nodeNotices := by
  rw [Graph.nodeNotices, map_reportEach]
  exact reportEach_of_forall₂ same.injective
    (same.nodes.imp fun _ _ alike => ⟨alike.id, alike.errorIf .duplicateNodeId⟩)

theorem catalogNotices (same : Renamed rename graph renamed) :
    graph.catalogNotices.map (Notice.renamed rename) = renamed.catalogNotices := by
  rw [Graph.catalogNotices, map_reportEach]
  refine reportEach_of_forall₂ Function.injective_id
    ((same.firstNodesOf .dataset).imp fun node other alike => ⟨by rw [alike.label]; rfl, ?_⟩)
  intro repeated
  cases repeated with
  | true => exact congrArg (fun notice => [notice]) (alike.error .nameCollision).symm
  | false => exact alike.catalogNotices

theorem functionNotices (same : Renamed rename graph renamed) :
    graph.functionNotices.map (Notice.renamed rename) = renamed.functionNotices := by
  rw [Graph.functionNotices, List.map_flatMap, Graph.functionNotices, List.flatMap_def,
    List.flatMap_def]
  exact congrArg List.flatten (map_eq_map_of_forall₂
    ((same.firstNodesOf .function).imp fun _ _ alike => alike.functionNotices))

theorem stepNotices (same : Renamed rename graph renamed) :
    graph.stepNotices.map (Notice.renamed rename) = renamed.stepNotices := by
  rw [Graph.stepNotices, map_reportEach]
  exact reportEach_of_forall₂ Function.injective_id ((same.firstNodesOf .function).imp
    fun _ _ alike => ⟨alike.identifier?, alike.errorIf .nameCollision⟩)

/-- No edge touches a renamed id when none touches the id. -/
theorem untouched_iff (same : Renamed rename graph renamed) (id : String) :
    (∀ edge ∈ graph.edges, edge.source ≠ id ∧ edge.target ≠ id) ↔
      ∀ edge ∈ renamed.edges, edge.source ≠ rename id ∧ edge.target ≠ rename id := by
  refine forall_mem_iff_of_forall₂ (same.edges.imp fun edge other alike => ?_)
  rw [alike.source, alike.target, same.injective.ne_iff, same.injective.ne_iff]

theorem aloneNotices (same : Renamed rename graph renamed) :
    graph.aloneNotices.map (Notice.renamed rename) = renamed.aloneNotices := by
  rw [Graph.aloneNotices, List.map_map]
  refine map_eq_map_of_forall₂ ((List.rel_filter (fun node other alike => ?_)
    (same.firstNodesOf .dataset)).imp fun _ _ alike => (alike.warning .orphanDataset).symm)
  simp only [decide_eq_true_eq, alike.id]
  exact same.untouched_iff node.id

/-- **What is reported of an edge is reported of its counterpart**, at the renamed end. -/
theorem edgeNotice (same : Renamed rename graph renamed) {edge other : Edge} {position : Nat}
    (alike : Edge.Renamed rename edge other) (found : renamed.edges[position]? = some other)
    (repeated : Bool) :
    ((graph.edgeNotice repeated edge).map (Notice.finding position)).map
      (Finding.notice rename renamed.edges) = renamed.edgeNotice repeated other := by
  have source := same.rel_node? edge.source
  have target := same.rel_node? edge.target
  have shown : ∀ (code : Code) (severity : Severity) (nodeId edgeId : Option String),
      ((⟨code, severity, nodeId, edgeId⟩ : Notice).finding position).notice rename renamed.edges =
        ⟨code, severity, nodeId.map rename, some other.id⟩ := by
    intro code severity nodeId edgeId
    simp [Notice.finding, Finding.notice, found]
  rw [Graph.edgeNotice, Graph.edgeNotice, alike.source, alike.target]
  generalize graph.node? edge.source = first at source ⊢
  generalize renamed.node? (rename edge.source) = first' at source ⊢
  generalize graph.node? edge.target = second at target ⊢
  generalize renamed.node? (rename edge.target) = second' at target ⊢
  -- The two look-ups find counterparts or nothing; where both find nodes, only their kinds count.
  cases source with
  | none =>
    cases target with
    | none => exact congrArg (fun notice => [notice]) (shown _ _ _ _)
    | some _ => exact congrArg (fun notice => [notice]) (shown _ _ _ _)
  | some first =>
    cases target with
    | none => exact congrArg (fun notice => [notice]) (shown _ _ _ _)
    | some second =>
      simp only [first.kind, second.kind]
      split
      · exact congrArg (fun notice => [notice]) (shown _ _ _ _)
      · split
        · exact congrArg (fun notice => [notice]) (shown _ _ _ _)
        · rfl

theorem edgeFindings (same : Renamed rename graph renamed) :
    graph.edgeFindings.map (Finding.notice rename renamed.edges) = renamed.edgeNotices := by
  rw [Graph.edgeFindings, map_reportEach]
  exact reportEach_of_forall₂ (same.injective.prodMap same.injective)
    ((forall₂_zipIdx same.edges).imp fun pair other beside =>
      ⟨Prod.ext beside.1.source beside.1.target, same.edgeNotice beside.1 beside.2⟩)

/-- **The notices of a renamed graph are the findings of the graph**, read with the renamed ids. -/
theorem notices (same : Renamed rename graph renamed) :
    graph.findings.map (Finding.notice rename renamed.edges) = renamed.notices := by
  have shown : ∀ notices : List Notice, (notices.map (Notice.finding none)).map
      (Finding.notice rename renamed.edges) = notices.map (Notice.renamed rename) :=
    fun _ => List.map_map ..
  rw [Graph.findings, List.map_append, List.map_append, shown, shown, same.edgeFindings, same.nodeNotices]
  simp only [List.map_append, same.aloneNotices, same.catalogNotices, same.functionNotices,
    same.stepNotices, Graph.notices, List.append_assoc]

end Graph.Renamed

namespace Graph

/-! ### The compilation -/

/-- Whether something is an error is seen without its words. -/
theorem hasErrors_eq_any_notice (diagnostics : List Diagnostic) :
    hasErrors diagnostics =
      (diagnostics.map Diagnostic.notice).any fun notice => notice.severity = .error := by
  rw [List.any_map]
  rfl

theorem Renamed.hasErrors {graph renamed : Graph} (same : Renamed rename graph renamed)
    (options : Options) : PipelineGraph.hasErrors (renamed.diagnostics options) =
      graph.findings.any fun finding => finding.severity = .error := by
  rw [hasErrors_eq_any_notice, notices_diagnostics, ← same.notices, List.any_map]
  rfl

/-- **Ids and places never reach the artifacts.** A renamed graph compiles when the graph does, and to
the same texts. What is reported of the graph are its findings; what is reported of the renamed graph
are the same findings in the same order, with renamed ids of nodes and with the ids of its own edges. -/
theorem compile_renamed (graph : Graph) (options : Options) :
    (graph.compile options).diagnostics.map Diagnostic.notice =
        graph.findings.map (Finding.notice id graph.edges) ∧
      ∀ (rename : String → String) (renamed : Graph), Renamed rename graph renamed →
        (renamed.compile options).success = (graph.compile options).success ∧
        (renamed.compile options).artifacts = (graph.compile options).artifacts ∧
        (renamed.compile options).diagnostics.map Diagnostic.notice =
          graph.findings.map (Finding.notice rename renamed.edges) := by
  refine ⟨(graph.notices_diagnostics options).trans (Renamed.refl graph).notices.symm, ?_⟩
  intro rename renamed same
  have errors : hasErrors (renamed.diagnostics options) = hasErrors (graph.diagnostics options) :=
    (same.hasErrors options).trans ((Renamed.refl graph).hasErrors options).symm
  refine ⟨congrArg not errors, artifacts_congr options errors (same.artifacts options), ?_⟩
  exact (renamed.notices_diagnostics options).trans same.notices.symm

/-- Two edges with one id and the same two ends, and a dataset that stands alone. -/
def tied : Graph :=
  { nodes :=
      [{ id := "d1", label := "Raw Data", payload := .dataset { description := some "Rows" } },
       { id := "f1", label := "Split", payload := .function { body := some "return raw_data" } },
       { id := "d2", label := "Model", payload := .dataset { description := some "Weights" } }]
    edges := [⟨"e", "d1", "f1"⟩, ⟨"e", "d1", "f1"⟩] }

/-- The graph with other ids, and moved. -/
def retied : Graph :=
  { nodes :=
      [{ id := "#d1", label := "Raw Data", position := ⟨3, 4⟩
         payload := .dataset { description := some "Rows" } },
       { id := "#f1", label := "Split", payload := .function { body := some "return raw_data" } },
       { id := "#d2", label := "Model", payload := .dataset { description := some "Weights" } }]
    edges := [⟨"a", "#d1", "#f1"⟩, ⟨"b", "#d1", "#f1"⟩] }

theorem compile_renamed_retied :
    Renamed ("#" ++ ·) tied retied ∧ (tied.compile {}).success = true ∧
      (retied.compile {}).success = true ∧
      (retied.compile {}).artifacts = (tied.compile {}).artifacts ∧
      (tied.compile {}).diagnostics.map Diagnostic.notice =
        [⟨.duplicateBinding, .warning, none, some "e"⟩, ⟨.orphanDataset, .warning, some "d2", none⟩,
         ⟨.noDescription, .warning, some "f1", none⟩] ∧
      (retied.compile {}).diagnostics.map Diagnostic.notice =
        [⟨.duplicateBinding, .warning, none, some "b"⟩, ⟨.orphanDataset, .warning, some "#d2", none⟩,
         ⟨.noDescription, .warning, some "#f1", none⟩] := by
  have same : Renamed ("#" ++ ·) tied retied :=
    { injective := fun _ _ => (String.append_right_inj "#").mp
      nodes := .cons ⟨rfl, rfl, rfl⟩ (.cons ⟨rfl, rfl, rfl⟩ (.cons ⟨rfl, rfl, rfl⟩ .nil))
      edges := .cons ⟨rfl, rfl⟩ (.cons ⟨rfl, rfl⟩ .nil) }
  have success : (tied.compile {}).success = true := by decide
  obtain ⟨found, others⟩ := compile_renamed tied {}
  obtain ⟨verdict, texts, reported⟩ := others _ retied same
  exact ⟨same, success, verdict.trans success, texts, found.trans (by decide),
    reported.trans (by decide)⟩

end Graph

end PipelineGraph
