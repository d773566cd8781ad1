/-
**Inputs and outputs are dual.**

Where each edge of a graph is reversed, the functions read what they wrote and write what they read,
and the same is reported of the same edges. `reversed_dual` says so for any graph: edges may go both
ways between a dataset and a function, turn back to their source, repeat each other or lead nowhere.

Reversed, an edge has its dataset where it had its function in the opposite direction; so a function
meets the datasets along the edges that it met in the opposite direction (`datasetsAlong_reversed`).
What is reported of an edge depends on its two ends alike, but for the end at which it is reported
(`edgeNotice_reversed`).
-/

import Mathlib.Data.Prod.Basic
import PipelineGraph.Proofs.Compilation.Notices
import PipelineGraph.Proofs.TwoWalks

namespace PipelineGraph

/-! ### The other way round -/

/-- Reading is opposite to writing. -/
def Direction.opposite : Direction → Direction
  | .input => .output
  | .output => .input

/-- The edge with its two ends exchanged. -/
def Edge.reversed (edge : Edge) : Edge := { edge with source := edge.target, target := edge.source }

/-- The graph with each edge reversed. -/
def Graph.reversed (graph : Graph) : Graph :=
  { graph with edges := graph.edges.map Edge.reversed }

/-- The function with its inputs and outputs exchanged. -/
def FunctionRef.exchanged (function : FunctionRef) : FunctionRef :=
  { function with inputs := function.outputs, outputs := function.inputs }

/-- What is reported, and of which edge if of any. -/
def Notice.ofEdge (notice : Notice) : Code × Severity × Option String :=
  (notice.code, notice.severity, notice.edgeId)

namespace Edge

theorem datasetEnd_reversed (edge : Edge) (direction : Direction) :
    edge.reversed.datasetEnd direction = edge.datasetEnd direction.opposite := by
  cases direction <;> rfl

theorem functionEnd_reversed (edge : Edge) (direction : Direction) :
    edge.reversed.functionEnd direction = edge.functionEnd direction.opposite := by
  cases direction <;> rfl

end Edge

namespace Graph

variable {graph : Graph}

/-! ### The wiring -/

theorem datasetsAlong_reversed (graph : Graph) (direction : Direction) (function : String) :
    graph.reversed.datasetsAlong direction function =
      graph.datasetsAlong direction.opposite function := by
  rw [datasetsAlong, reversed, List.filterMap_map, datasetsAlong]
  refine List.filterMap_congr fun edge _ => ?_
  rw [Function.comp_apply, Edge.functionEnd_reversed, Edge.datasetEnd_reversed]
  rfl

/-- **A function is bound in the opposite direction.** -/
theorem boundTo_reversed {function : String} (isFunction : graph.HasKind function .function)
    (direction : Direction) :
    graph.reversed.boundTo direction function = graph.boundTo direction.opposite function :=
  boundTo_congr isFunction isFunction (graph.datasetsAlong_reversed direction function)

/-- **Reversed, a graph has the same datasets, and its functions with inputs and outputs exchanged.** -/
theorem wiring_reversed (graph : Graph) :
    graph.reversed.wiring =
      { datasets := graph.wiring.datasets
        functions := graph.wiring.functions.map FunctionRef.exchanged } := by
  have functions : graph.keptNodes.filterMap graph.reversed.functionRef? =
      (graph.keptNodes.filterMap graph.functionRef?).map FunctionRef.exchanged := by
    rw [List.map_filterMap]
    refine List.filterMap_congr fun node kept => ?_
    unfold functionRef?
    cases holds : node.payload with
    | dataset _ => rfl
    | function payload =>
      have isFunction := isFunction_of_mem_keptNodes kept holds
      simp only [boundTo_reversed isFunction]
      rfl
  exact congrArg (Wiring.mk graph.datasetRefs) functions

/-! ### The reports -/

/-- **The same is reported of an edge and of the edge reversed.** -/
theorem edgeNotice_reversed (graph : Graph) (repeated : Bool) (edge : Edge) :
    (graph.reversed.edgeNotice repeated edge.reversed).map Notice.ofEdge =
      (graph.edgeNotice repeated edge).map Notice.ofEdge := by
  have nodes : graph.reversed.node? = graph.node? := rfl
  rw [edgeNotice, edgeNotice, nodes, Edge.reversed]
  cases graph.node? edge.source with
  | none => cases graph.node? edge.target <;> rfl
  | some source =>
    cases graph.node? edge.target with
    | none => rfl
    | some target =>
      simp only
      by_cases same : source.kind = target.kind
      · rw [if_pos same, if_pos same.symm]
        rfl
      · rw [if_neg same, if_neg (Ne.symm same)]

theorem edgeNotices_reversed (graph : Graph) :
    graph.reversed.edgeNotices.map Notice.ofEdge = graph.edgeNotices.map Notice.ofEdge := by
  rw [edgeNotices, edgeNotices, map_reportEach, map_reportEach]
  refine (reportEach_of_forall₂ Prod.swap_injective ?_).symm
  rw [reversed, List.forall₂_map_right_iff, List.forall₂_same]
  exact fun edge _ => ⟨rfl, fun repeated => (graph.edgeNotice_reversed repeated edge).symm⟩

theorem aloneNotices_reversed (graph : Graph) :
    graph.reversed.aloneNotices = graph.aloneNotices := by
  rw [aloneNotices, aloneNotices]
  refine congrArg _ (List.filter_congr fun node _ => ?_)
  rw [decide_eq_decide, reversed, List.forall_mem_map]
  exact forall₂_congr fun edge _ => and_comm

/-- **Inputs and outputs are dual.** Where each edge is reversed, the datasets are the same, the
functions are the same but for inputs and outputs, which are exchanged, and the wiring reports the same
problems of the same edges in the same order. -/
theorem reversed_dual (graph : Graph) :
    graph.reversed.wiring =
        { datasets := graph.wiring.datasets
          functions := graph.wiring.functions.map FunctionRef.exchanged } ∧
      graph.reversed.wiringReports.map (fun report => (report.code, report.severity, report.edgeId)) =
        graph.wiringReports.map fun report => (report.code, report.severity, report.edgeId) := by
  refine ⟨graph.wiring_reversed, ?_⟩
  have shown : ∀ other : Graph,
      other.wiringReports.map (fun report => (report.code, report.severity, report.edgeId)) =
        other.nodeNotices.map Notice.ofEdge ++ other.edgeNotices.map Notice.ofEdge ++
          other.aloneNotices.map Notice.ofEdge := by
    intro other
    rw [← notices_nodes, ← notices_edges, ← notices_alone, ← List.map_append, ← List.map_append,
      ← List.map_append, ← List.map_append, ← wiringReports_eq, List.map_map]
    rfl
  rw [shown, shown, edgeNotices_reversed, aloneNotices_reversed]
  rfl

end Graph

end PipelineGraph
