/-
**A bad element is left out, and leaves no trace but its report.**

Two compilations are compared, of a graph and of the graph less one element.

* An edge with a problem (`Graph.Faulty`) changes neither the wiring nor what is made of it. Without it
  its own report is missing, and all others stay as they are and in order, but for the datasets that
  stand alone: without it there may be more of them, all touched by it (`aloneReports_without_edge`).
* A node whose id is taken changes neither, and without it only its own report is missing.

Both rest on the same: the wiring depends on the nodes kept and on the bindings alone (`wiring_congr`),
and a repeated element is not among the first of its key.
-/

import PipelineGraph.Proofs.Compilation.Reports
import PipelineGraph.Proofs.Wiring.Resolution

namespace PipelineGraph

/-! ### Statements -/

/-- **Some diagnostics less one of them**: the one that comes right after some earlier ones. -/
def LessReport (earlier : List Diagnostic) (report : Diagnostic) (all fewer : List Diagnostic) :
    Prop :=
  ∃ later, all = earlier ++ report :: later ∧ fewer = earlier ++ later

theorem LessReport.append_left {earlier all fewer : List Diagnostic} {report : Diagnostic}
    (less : LessReport earlier report all fewer) (more : List Diagnostic) :
    LessReport (more ++ earlier) report (more ++ all) (more ++ fewer) := by
  obtain ⟨later, rfl, rfl⟩ := less
  exact ⟨later, (List.append_assoc ..).symm, (List.append_assoc ..).symm⟩

theorem LessReport.append_right {earlier all fewer : List Diagnostic} {report : Diagnostic}
    (less : LessReport earlier report all fewer) (more : List Diagnostic) :
    LessReport earlier report (all ++ more) (fewer ++ more) := by
  obtain ⟨later, rfl, rfl⟩ := less
  exact ⟨later ++ more, List.append_assoc .., List.append_assoc ..⟩

/-- **Two graphs are compiled alike**: to the same wiring, the same entries and the same steps. -/
structure Graph.CompiledAlike (options : Options) (graph other : Graph) : Prop where
  wiring : graph.wiring = other.wiring
  entries : graph.entries = other.entries
  assembly : graph.assembly options = other.assembly options

/-! ### What the wiring depends on -/

namespace Graph

variable {graph other : Graph}

/-- **The wiring depends on the nodes kept and on the bindings alone.** -/
theorem wiring_congr (nodes : graph.keptNodes = other.keptNodes)
    (bindings : graph.bindings = other.bindings) : graph.wiring = other.wiring := by
  have datasets : graph.datasetRefs = other.datasetRefs := by
    rw [datasetRefs, datasetRefs, nodes]
  have bound : graph.boundTo = other.boundTo := by
    funext direction function
    rw [boundTo, boundTo, bindings, datasets]
  have functions : graph.functionRef? = other.functionRef? := by
    funext node
    rw [functionRef?, functionRef?, bound]
  rw [wiring, wiring, datasets, nodes, functions]

theorem compiledAlike_of_wiring {options : Options} (wiring : graph.wiring = other.wiring) :
    CompiledAlike options graph other :=
  ⟨wiring, by rw [entries, entries, wiring], by rw [assembly, assembly, wiring]⟩

/-! ### A graph less an edge -/

section Edges

variable {nodes : List Node} {before after : List Edge} {edge : Edge} {problem : WiringProblem}

/-- What an edge with a problem binds, if anything, is bound by an edge before it. -/
theorem Faulty.binding?_mem (faulty : graph.Faulty before edge problem) {binding : Binding}
    (binds : graph.binding? edge = some binding) : some binding ∈ before.map graph.binding? := by
  have bound := binding?_eq_some_iff.mp binds
  cases faulty with
  | misjoins misjoins => exact absurd misjoins bound.not_misjoins
  | repeated _ old source target =>
    refine List.mem_map.mpr ⟨_, old, ?_⟩
    exact binding?_eq_some_iff.mpr (bound.iff_same_ends.mpr ⟨source, target⟩)

/-- **Without an edge with a problem the bindings are the same.** -/
theorem bindings_without_edge
    (faulty : Faulty ⟨nodes, before ++ edge :: after⟩ before edge problem) :
    bindings ⟨nodes, before ++ edge :: after⟩ = bindings ⟨nodes, before ++ after⟩ := by
  have same : binding? ⟨nodes, before ++ edge :: after⟩ = binding? ⟨nodes, before ++ after⟩ := rfl
  rw [bindings_eq_firsts, bindings_eq_firsts, ← same, List.filterMap_append, List.filterMap_append,
    List.filterMap_cons]
  cases binds : binding? ⟨nodes, before ++ edge :: after⟩ edge with
  | none => rfl
  | some binding =>
    refine firsts_append_cons_of_mem id ?_
    obtain ⟨earlier, old, agrees⟩ := List.mem_map.mp (faulty.binding?_mem binds)
    rw [List.map_id]
    exact List.mem_filterMap.mpr ⟨earlier, old, agrees⟩

theorem wiring_without_edge
    (faulty : Faulty ⟨nodes, before ++ edge :: after⟩ before edge problem) :
    wiring ⟨nodes, before ++ edge :: after⟩ = wiring ⟨nodes, before ++ after⟩ := by
  have kept : keptNodes ⟨nodes, before ++ edge :: after⟩ = keptNodes ⟨nodes, before ++ after⟩ := rfl
  exact wiring_congr kept (bindings_without_edge faulty)

/-- **Without an edge with a problem its report is missing, and no other.** -/
theorem edgeReports_without_edge
    (faulty : Faulty ⟨nodes, before ++ edge :: after⟩ before edge problem) :
    LessReport (edgeReports ⟨nodes, before⟩) problem.diagnostic
      (edgeReports ⟨nodes, before ++ edge :: after⟩) (edgeReports ⟨nodes, before ++ after⟩) := by
  let graph : Graph := ⟨nodes, before ++ edge :: after⟩
  have start : problemsAfter ⟨nodes, before⟩ [] before = graph.problemsAfter [] before := by
    have same : classify ⟨nodes, before⟩ = graph.classify := rfl
    exact problemsAfter_of_classify same before []
  have less : problemsAfter ⟨nodes, before ++ after⟩ [] (before ++ after) =
      graph.problemsAfter [] before ++ graph.problemsAfter before after := by
    have same : classify ⟨nodes, before ++ after⟩ = graph.classify := rfl
    rw [problemsAfter_of_classify same, problemsAfter_append]
    rfl
  have unseen : graph.problemsAfter (before ++ [edge]) after = graph.problemsAfter before after := by
    refine problemsAfter_congr after _ _ fun binding => ?_
    rw [List.map_append, List.mem_append, List.map_singleton, List.mem_singleton]
    exact or_iff_left_of_imp fun binds => faulty.binding?_mem binds.symm
  have all : graph.problemsAfter [] (before ++ edge :: after) =
      graph.problemsAfter [] before ++ problem :: graph.problemsAfter before after := by
    rw [problemsAfter_append, problemsAfter, List.nil_append, unseen,
      problemAfter?_eq_some_iff.mpr faulty]
    rfl
  refine ⟨(graph.problemsAfter before after).map WiringProblem.diagnostic, ?_, ?_⟩
  · rw [edgeReports, edgeReports, start, all, List.map_append, List.map_cons]
  · rw [edgeReports, edgeReports, start, less, List.map_append]

/-- **Without an edge the datasets that stand alone are those before, and some that it touches.** -/
theorem aloneReports_without_edge (nodes : List Node) (before after : List Edge) (edge : Edge) :
    aloneReports ⟨nodes, before ++ edge :: after⟩ =
      (aloneReports ⟨nodes, before ++ after⟩).filter fun diagnostic =>
        diagnostic.nodeId ≠ some edge.source ∧ diagnostic.nodeId ≠ some edge.target := by
  have kept : keptNodes ⟨nodes, before ++ edge :: after⟩ = keptNodes ⟨nodes, before ++ after⟩ := rfl
  rw [aloneReports, aloneReports, List.filter_map, orphans, orphans, List.filter_filter, kept]
  refine congrArg _ (List.filter_congr fun node _ => ?_)
  have untouched : (decide (some node.id ≠ some edge.source ∧ some node.id ≠ some edge.target)) =
      !edge.touches node.id := by
    rw [Edge.touches, ← Bool.decide_or, ← decide_not]
    refine decide_eq_decide.mpr ?_
    rw [not_or, ne_eq, ne_eq, Option.some_inj, Option.some_inj, eq_comm, @eq_comm _ node.id]
  rw [List.any_append, List.any_append, List.any_cons, Function.comp_apply]
  refine Eq.trans ?_ (congrArg (· && _) untouched).symm
  cases edge.touches node.id <;> simp

end Edges

/-! ### A graph less a node -/

section Nodes

variable {before : List Node} {node : Node}

theorem node?_without_node (taken : node.id ∈ before.map Node.id)
    (after : List Node) (edges : List Edge) :
    node? ⟨before ++ node :: after, edges⟩ = node? ⟨before ++ after, edges⟩ := by
  funext id
  show ((before ++ node :: after).find? fun other => other.id = id) =
    (before ++ after).find? fun other => other.id = id
  rw [List.append_cons, List.find?_append, find?_append_singleton_of_mem Node.id taken,
    ← List.find?_append]

theorem keptNodes_without_node (taken : node.id ∈ before.map Node.id)
    (after : List Node) (edges : List Edge) :
    keptNodes ⟨before ++ node :: after, edges⟩ = keptNodes ⟨before ++ after, edges⟩ :=
  firsts_append_cons_of_mem Node.id taken

/-- **Without a node whose id is taken its report is missing, and no other.** -/
theorem nodeReports_without_node (taken : node.id ∈ before.map Node.id)
    (after : List Node) (edges : List Edge) :
    LessReport (nodeReports ⟨before, edges⟩) (WiringProblem.repeatedNode node).diagnostic
      (nodeReports ⟨before ++ node :: after, edges⟩) (nodeReports ⟨before ++ after, edges⟩) := by
  obtain ⟨first, later, all, less⟩ := repeats_append_cons_of_mem Node.id taken after
  refine ⟨later.map fun repeated => (WiringProblem.repeatedNode repeated.1).diagnostic, ?_, ?_⟩
  · rw [nodeReports, nodeReports, all, List.map_append, List.map_cons]
  · rw [nodeReports, nodeReports, less, List.map_append]

/-- **Without a node whose id is taken the bindings are the same**: no end of an edge is looked up
differently. -/
theorem bindings_without_node (taken : node.id ∈ before.map Node.id)
    (after : List Node) (edges : List Edge) :
    bindings ⟨before ++ node :: after, edges⟩ = bindings ⟨before ++ after, edges⟩ := by
  have classify := classify_congr (node?_without_node taken after edges)
  rw [bindings_eq_firsts, bindings_eq_firsts, binding?_congr classify]

theorem wiring_without_node (taken : node.id ∈ before.map Node.id)
    (after : List Node) (edges : List Edge) :
    wiring ⟨before ++ node :: after, edges⟩ = wiring ⟨before ++ after, edges⟩ :=
  wiring_congr (keptNodes_without_node taken after edges) (bindings_without_node taken after edges)

theorem edgeReports_without_node (taken : node.id ∈ before.map Node.id)
    (after : List Node) (edges : List Edge) :
    edgeReports ⟨before ++ node :: after, edges⟩ = edgeReports ⟨before ++ after, edges⟩ := by
  have classify := classify_congr (node?_without_node taken after edges)
  rw [edgeReports, edgeReports, problemsAfter_of_classify classify]

theorem aloneReports_without_node (taken : node.id ∈ before.map Node.id)
    (after : List Node) (edges : List Edge) :
    aloneReports ⟨before ++ node :: after, edges⟩ = aloneReports ⟨before ++ after, edges⟩ := by
  rw [aloneReports, aloneReports, orphans, orphans, keptNodes_without_node taken]

/-- **Without a node whose id is taken its report is missing from the diagnostics, and nothing else
differs.** -/
theorem diagnostics_without_node (taken : node.id ∈ before.map Node.id)
    (after : List Node) (edges : List Edge) (options : Options) :
    LessReport (nodeReports ⟨before, edges⟩) (WiringProblem.repeatedNode node).diagnostic
      (diagnostics ⟨before ++ node :: after, edges⟩ options)
      (diagnostics ⟨before ++ after, edges⟩ options) := by
  rw [diagnostics_eq, diagnostics_eq, edgeReports_without_node taken, aloneReports_without_node taken,
    laterReports_congr (wiring_without_node taken after edges)]
  have less := nodeReports_without_node taken after edges
  exact ((less.append_right _).append_right _).append_right _

end Nodes

/-! ### Isolation -/

/-- **A bad element is isolated.** Compiled without an edge that has a problem, or without a node whose
id is taken, a graph is compiled alike. Without the edge, the report of its problem is missing, after
the reports on nodes and on the edges before it; of the other reports only those on datasets that
stand alone can differ, and those with the edge are those without it but for the datasets at its ends.
Without the node its report is missing, after the reports on the nodes before it, and nothing else
differs. -/
theorem bad_elements_isolated (options : Options) :
    (∀ (nodes : List Node) (before after : List Edge) (edge : Edge) (problem : WiringProblem),
      Faulty ⟨nodes, before ++ edge :: after⟩ before edge problem →
        CompiledAlike options ⟨nodes, before ++ edge :: after⟩ ⟨nodes, before ++ after⟩ ∧
        LessReport (nodeReports ⟨nodes, before⟩ ++ edgeReports ⟨nodes, before⟩) problem.diagnostic
          (settled (compile ⟨nodes, before ++ edge :: after⟩ options).diagnostics)
          (settled (compile ⟨nodes, before ++ after⟩ options).diagnostics) ∧
        orphanReports (compile ⟨nodes, before ++ edge :: after⟩ options).diagnostics =
          (orphanReports (compile ⟨nodes, before ++ after⟩ options).diagnostics).filter
            fun diagnostic => diagnostic.nodeId ≠ some edge.source ∧
              diagnostic.nodeId ≠ some edge.target) ∧
    (∀ (before after : List Node) (node : Node) (edges : List Edge),
      node.id ∈ before.map Node.id →
        CompiledAlike options ⟨before ++ node :: after, edges⟩ ⟨before ++ after, edges⟩ ∧
        LessReport (nodeReports ⟨before, edges⟩) (WiringProblem.repeatedNode node).diagnostic
          (compile ⟨before ++ node :: after, edges⟩ options).diagnostics
          (compile ⟨before ++ after, edges⟩ options).diagnostics) := by
  constructor
  · intro nodes before after edge problem faulty
    have wiring := wiring_without_edge faulty
    refine ⟨compiledAlike_of_wiring wiring, ?_, ?_⟩
    · show LessReport _ _ (settled (diagnostics _ options)) (settled (diagnostics _ options))
      rw [settled_diagnostics, settled_diagnostics, ← laterReports_congr wiring]
      exact ((edgeReports_without_edge faulty).append_left _).append_right _
    · show orphanReports (diagnostics _ options) = (orphanReports (diagnostics _ options)).filter _
      rw [orphanReports_diagnostics, orphanReports_diagnostics]
      exact aloneReports_without_edge nodes before after edge
  · intro before after node edges taken
    exact ⟨compiledAlike_of_wiring (wiring_without_node taken after edges),
      diagnostics_without_node taken after edges options⟩

/-- A dataset, a function, and another function under the id of the dataset; between two edges that
bind, one that leads nowhere. -/
def broken : Graph :=
  { nodes :=
      [{ id := "n1", label := "Raw Data", payload := .dataset {} },
       { id := "n2", label := "Split", payload := .function {} },
       { id := "n1", label := "Train", payload := .function {} }]
    edges := [⟨"e1", "n1", "n2"⟩, ⟨"e2", "n1", "n3"⟩, ⟨"e3", "n2", "n1"⟩] }

theorem broken_isolated :
    (∃ problem, broken.Faulty [⟨"e1", "n1", "n2"⟩] ⟨"e2", "n1", "n3"⟩ problem) ∧
      CompiledAlike {} broken { broken with edges := [⟨"e1", "n1", "n2"⟩, ⟨"e3", "n2", "n1"⟩] } ∧
      CompiledAlike {} broken { broken with nodes := broken.nodes.take 2 } := by
  have source : broken.node? "n1" = some { id := "n1", label := "Raw Data", payload := .dataset {} } :=
    rfl
  have target : broken.node? "n3" = none := rfl
  have faulty : broken.Faulty [⟨"e1", "n1", "n2"⟩] ⟨"e2", "n1", "n3"⟩ _ :=
    .misjoins (.unknownTarget source target)
  have edges := (bad_elements_isolated {}).1 broken.nodes [⟨"e1", "n1", "n2"⟩]
    [⟨"e3", "n2", "n1"⟩] ⟨"e2", "n1", "n3"⟩ _ faulty
  have nodes := (bad_elements_isolated {}).2 (broken.nodes.take 2) []
    { id := "n1", label := "Train", payload := .function {} } broken.edges (by decide)
  exact ⟨⟨_, faulty⟩, edges.1, nodes.1⟩

end Graph

end PipelineGraph
