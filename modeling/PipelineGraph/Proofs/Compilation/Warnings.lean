/-
**The warnings of a graph that compiles.**

Where nothing is wrong with a graph, what is reported of it can be read off its nodes and edges without
asking what an id stands for: `Graph.warnings` lists the edges that repeat an earlier one, the datasets
that no function reads or writes, and what is odd or missing in datasets and functions, in this order.
`warnings_of_success` says that the diagnostics of a graph that compiles are these warnings, and no
others.

The stages report the datasets that no edge touches. `exists_bound_iff` is the reason why these are the
datasets that no function reads or writes: an edge that binds has a function at its other end, and the
function has the dataset.
-/

import PipelineGraph.Proofs.Compilation.Notices
import PipelineGraph.Proofs.Wiring.Conservation

namespace PipelineGraph

namespace Graph

variable {graph : Graph}

/-- Edges with the two ends of an earlier edge. -/
def repetitions (graph : Graph) : List Notice :=
  reportEach (fun edge => (edge.source, edge.target))
    (fun repeated edge =>
      if repeated then [{ code := .duplicateBinding, severity := .warning, edgeId := some edge.id }]
      else [])
    graph.edges

/-- Datasets that no function reads or writes. -/
def unused (graph : Graph) : List Node :=
  (graph.nodesOf .dataset).filter fun node =>
    ∀ function ∈ graph.wiring.functions,
      node.id ∉ (function.inputs ++ function.outputs).map DatasetRef.id

/-- **The warnings of a graph in which nothing is wrong.** -/
def warnings (graph : Graph) : List Notice :=
  graph.repetitions ++ graph.unused.map (Node.warning .orphanDataset) ++
    (graph.nodesOf .dataset).flatMap Node.catalogNotices ++
    (graph.nodesOf .function).flatMap Node.functionNotices

/-! ### Datasets without a function -/

/-- **A function reads or writes a dataset exactly when there is a binding of the dataset.** -/
theorem exists_bound_iff {id : String} :
    (∃ function ∈ graph.wiring.functions, id ∈ (function.inputs ++ function.outputs).map DatasetRef.id) ↔
      ∃ binding ∈ graph.bindings, binding.dataset = id := by
  simp only [List.map_append, List.mem_append]
  constructor
  · rintro ⟨function, inside, read | written⟩
    · exact ⟨_, reads_iff.mp ⟨function, inside, rfl, read⟩, rfl⟩
    · exact ⟨_, writes_iff.mp ⟨function, inside, rfl, written⟩, rfl⟩
  · rintro ⟨⟨direction, dataset, id⟩, bound, rfl⟩
    cases direction with
    | input =>
      obtain ⟨function, inside, _, read⟩ := reads_iff.mpr bound
      exact ⟨function, inside, .inl read⟩
    | output =>
      obtain ⟨function, inside, _, written⟩ := writes_iff.mpr bound
      exact ⟨function, inside, .inr written⟩

/-- Where all edges bind, a dataset has a binding exactly when an edge starts or ends at it. -/
theorem exists_binding_iff_touched (binds : ∀ edge ∈ graph.edges, ∃ binding, graph.Binds edge binding)
    {id : String} (isDataset : graph.HasKind id .dataset) :
    (∃ binding ∈ graph.bindings, binding.dataset = id) ↔
      ∃ edge ∈ graph.edges, edge.source = id ∨ edge.target = id := by
  constructor
  · rintro ⟨binding, bound, rfl⟩
    obtain ⟨edge, inside, ⟨direction, _, _⟩⟩ := mem_bindings_iff.mp bound
    refine ⟨edge, inside, ?_⟩
    cases direction with
    | input => exact .inl rfl
    | output => exact .inr rfl
  · rintro ⟨edge, inside, touched⟩
    obtain ⟨binding, isBound⟩ := binds edge inside
    refine ⟨binding, mem_bindings_iff.mpr ⟨edge, inside, isBound⟩, ?_⟩
    obtain ⟨direction, _, isFunction⟩ := isBound
    -- the end that is a function is not the dataset
    have other : edge.functionEnd direction ≠ id := by
      rintro rfl
      cases isFunction.unique isDataset
    cases direction with
    | input => exact touched.resolve_right other
    | output => exact touched.resolve_left other

/-! ### The stages of a graph in which nothing is wrong -/

theorem firstNodesOf_eq_nodesOf (ids : (graph.nodes.map Node.id).Nodup) (kind : Kind) :
    graph.firstNodesOf kind = graph.nodesOf kind := by
  rw [firstNodesOf_eq, keptNodes_eq_nodes ids, nodesOf]

theorem Binds.edgeNotice {edge : Edge} {binding : Binding} (binds : graph.Binds edge binding)
    (repeated : Bool) : graph.edgeNotice repeated edge =
      if repeated then [{ code := .duplicateBinding, severity := .warning, edgeId := some edge.id }]
      else [] := by
  obtain ⟨source, target, isSource, isTarget, different⟩ := binds.ends
  rw [Graph.edgeNotice, isSource, isTarget]
  exact if_neg different

theorem aloneNotices_eq (ids : (graph.nodes.map Node.id).Nodup)
    (binds : ∀ edge ∈ graph.edges, ∃ binding, graph.Binds edge binding) :
    graph.aloneNotices = graph.unused.map (Node.warning .orphanDataset) := by
  rw [aloneNotices, firstNodesOf_eq_nodesOf ids, unused]
  refine congrArg _ (List.filter_congr fun node inside => ?_)
  obtain ⟨isNode, isDataset⟩ := List.mem_filter.mp inside
  have hasKind : graph.HasKind node.id .dataset :=
    (hasKind_iff ids).mpr ⟨node, isNode, rfl, of_decide_eq_true isDataset⟩
  have same := exists_bound_iff.trans (exists_binding_iff_touched binds hasKind)
  rw [decide_eq_decide]
  simpa [not_or] using (not_congr same).symm

/-- **The diagnostics of a graph that compiles are its warnings**, in order, and no others. -/
theorem warnings_of_success (graph : Graph) (options : Options)
    (success : (graph.compile options).success = true) :
    (graph.compile options).diagnostics.map Diagnostic.notice = graph.warnings ∧
      ∀ diagnostic ∈ (graph.compile options).diagnostics, diagnostic.severity = .warning := by
  obtain ⟨⟨ids, binds⟩, names, identifiers⟩ := (success_iff_stages graph options).mp success
  have nodes : graph.nodeNotices = [] := by
    rw [← notices_nodes, nodeReports, (repeats_eq_nil_iff _ _).mpr ids]
    rfl
  have edges : graph.edgeNotices = graph.repetitions :=
    reportEach_congr _ fun edge inside repeated => by
      obtain ⟨binding, isBound⟩ := binds edge inside
      exact isBound.edgeNotice repeated
  have catalog : graph.catalogNotices = (graph.nodesOf .dataset).flatMap Node.catalogNotices := by
    rw [map_name_datasets, ← firstNodesOf_eq] at names
    rw [catalogNotices, reportEach_of_nodup _ _ names, firstNodesOf_eq_nodesOf ids]
    rfl
  have functions : graph.functionNotices = (graph.nodesOf .function).flatMap Node.functionNotices := by
    rw [functionNotices, firstNodesOf_eq_nodesOf ids]
  have steps : graph.stepNotices = [] := by
    rw [← notices_steps, Assembly.problems, (repeats_eq_nil_iff _ _).mpr identifiers]
    rfl
  constructor
  · show (graph.diagnostics options).map Diagnostic.notice = _
    rw [notices_diagnostics, notices, nodes, edges, aloneNotices_eq ids binds, catalog, functions, steps,
      List.nil_append, List.append_nil, warnings]
  · intro diagnostic inside
    have clean : hasErrors (graph.compile options).diagnostics = false := by
      simpa [Compilation.success] using success
    have notError := List.any_eq_false.mp clean diagnostic inside
    cases severe : diagnostic.severity with
    | warning => rfl
    | error => exact absurd (decide_eq_true severe) notError

/-- A function with nothing but a name that is no identifier, bound to a dataset twice, and a dataset
that is bound to nothing. -/
def bare : Graph :=
  { nodes :=
      [{ id := "d1", label := "Raw Data", payload := .dataset { description := some "Rows" } },
       { id := "f1", label := "Split", payload := .function { functionName := some " split rows " } },
       { id := "d2", label := "1st  Model", payload := .dataset { description := some " " } }]
    edges := [⟨"e1", "d1", "f1"⟩, ⟨"e2", "d1", "f1"⟩] }

theorem warnings_bare : (bare.compile {}).success = true ∧
    (bare.compile {}).diagnostics.map Diagnostic.notice =
      [⟨.duplicateBinding, .warning, none, some "e2"⟩, ⟨.orphanDataset, .warning, some "d2", none⟩,
       ⟨.invalidIdentifier, .warning, some "d2", none⟩, ⟨.noDescription, .warning, some "d2", none⟩,
       ⟨.emptyFunctionBody, .warning, some "f1", none⟩, ⟨.noDescription, .warning, some "f1", none⟩,
       ⟨.invalidIdentifier, .warning, some "f1", none⟩] := by
  have success : (bare.compile {}).success = true := by decide
  exact ⟨success, (warnings_of_success bare {} success).1.trans (by decide)⟩

end Graph

end PipelineGraph
