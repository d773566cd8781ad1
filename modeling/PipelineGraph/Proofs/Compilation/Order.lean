/-
**The order of declarations matters only where it should.**

Nodes and edges are given in an order, and the stages let the first of several stand. So the order says
which of two colliding elements is reported. `declaration_order` says what it does not change:

* whether a graph compiles, whatever the order of the nodes and the edges: each of the conditions in
  `success_iff_stages` is symmetric;
* the wiring and the artifacts, if only edges are moved and the edges at each end keep their order
  (`KeepsOrder`): a function meets its datasets on the edges at one end (`datasetsAlong_of_keepsOrder`).
  The diagnostics are a permutation, since repeated edges share both ends;
* what a node stands for, if only nodes are moved and their ids are pairwise distinct: then an id stands
  for the same node in any order (`node?_of_perm`).
-/

import PipelineGraph.Proofs.Compilation.Reports
import PipelineGraph.Proofs.Compilation.Verdict
import PipelineGraph.Proofs.TwoWalks

namespace PipelineGraph

/-! ### Edges in another order -/

/-- **Edges are moved so that those at each end keep their order**: those that start at an id, and those
that end at it. -/
structure KeepsOrder (edges moved : List Edge) : Prop where
  perm : moved.Perm edges
  starting : ∀ id, (moved.filter fun edge => edge.source = id) =
    edges.filter fun edge => edge.source = id
  ending : ∀ id, (moved.filter fun edge => edge.target = id) =
    edges.filter fun edge => edge.target = id

namespace KeepsOrder

variable {edges moved : List Edge}

/-- Two neighbours without a common end may change places. -/
theorem swap {edge other : Edge} (source : edge.source ≠ other.source)
    (target : edge.target ≠ other.target) (before after : List Edge) :
    KeepsOrder (before ++ edge :: other :: after) (before ++ other :: edge :: after) where
  perm := (List.Perm.swap edge other after).append_left before
  starting := filter_swap source before after
  ending := filter_swap target before after

theorem functionEnd (order : KeepsOrder edges moved) (direction : Direction) (function : String) :
    (moved.filter fun edge => edge.functionEnd direction = function) =
      edges.filter fun edge => edge.functionEnd direction = function := by
  cases direction with
  | input => exact order.ending function
  | output => exact order.starting function

/-- Edges with two ends in common keep their order. -/
theorem ends (order : KeepsOrder edges moved) (ends : String × String) :
    (moved.filter fun edge => (edge.source, edge.target) = ends) =
      edges.filter fun edge => (edge.source, edge.target) = ends := by
  obtain ⟨source, target⟩ := ends
  have both : ∀ all : List Edge, (all.filter fun edge => (edge.source, edge.target) = (source, target)) =
      (all.filter fun edge => edge.source = source).filter fun edge => edge.target = target := by
    intro all
    rw [List.filter_filter]
    refine List.filter_congr fun edge _ => ?_
    rw [← Bool.decide_and, decide_eq_decide, Prod.mk.injEq, and_comm]
  rw [both, both, order.starting]

end KeepsOrder

namespace Graph

variable {graph : Graph} {nodes : List Node} {edges : List Edge}

/-- **The datasets that a function meets are on the edges at one end of it.** -/
theorem datasetsAlong_of_keepsOrder (order : KeepsOrder graph.edges edges) (direction : Direction)
    (function : String) :
    datasetsAlong ⟨graph.nodes, edges⟩ direction function = graph.datasetsAlong direction function := by
  have atEnd : ∀ all : List Edge, datasetsAlong ⟨graph.nodes, all⟩ direction function =
      (all.filter fun edge => edge.functionEnd direction = function).filterMap fun edge =>
        (graph.node? (edge.datasetEnd direction)).filter fun node => node.kind = .dataset := by
    intro all
    rw [List.filterMap_filter]
    refine List.filterMap_congr fun edge _ => ?_
    simp only [decide_eq_true_eq]
    rfl
  exact (atEnd edges).trans ((congrArg _ (order.functionEnd direction function)).trans
    (atEnd graph.edges).symm)

theorem wiring_of_keepsOrder (order : KeepsOrder graph.edges edges) :
    wiring ⟨graph.nodes, edges⟩ = graph.wiring := by
  have functions : graph.keptNodes.filterMap (functionRef? ⟨graph.nodes, edges⟩) =
      graph.keptNodes.filterMap graph.functionRef? := by
    refine List.filterMap_congr fun node kept => ?_
    unfold functionRef?
    cases holds : node.payload with
    | dataset _ => rfl
    | function payload =>
      have isFunction := isFunction_of_mem_keptNodes kept holds
      have bound : ∀ direction, boundTo ⟨graph.nodes, edges⟩ direction node.id =
          graph.boundTo direction node.id := fun direction =>
        boundTo_congr isFunction isFunction (datasetsAlong_of_keepsOrder order direction node.id)
      rw [bound, bound]
  exact congrArg (Wiring.mk graph.datasetRefs) functions

/-- **The reports on moved edges are a permutation.** -/
theorem edgeReports_of_keepsOrder (order : KeepsOrder graph.edges edges) :
    (edgeReports ⟨graph.nodes, edges⟩).Perm graph.edgeReports := by
  rw [edgeReports_eq, edgeReports_eq]
  exact reportEach_perm _ order.ends

theorem aloneReports_of_perm (perm : edges.Perm graph.edges) :
    aloneReports ⟨graph.nodes, edges⟩ = graph.aloneReports := by
  have touched : ∀ id, edges.any (·.touches id) = graph.edges.any (·.touches id) :=
    fun id => perm.any_eq
  rw [aloneReports, aloneReports, orphans, orphans]
  simp only [touched]
  rfl

theorem diagnostics_of_keepsOrder (order : KeepsOrder graph.edges edges) (options : Options) :
    (diagnostics ⟨graph.nodes, edges⟩ options).Perm (graph.diagnostics options) := by
  rw [diagnostics_eq, diagnostics_eq, aloneReports_of_perm order.perm,
    laterReports_congr (wiring_of_keepsOrder order)]
  exact (((edgeReports_of_keepsOrder order).append_left _).append_right _).append_right _

/-! ### Nodes in another order -/

/-- **Where no id is repeated, an id stands for the same node in any order.** -/
theorem node?_of_perm (perm : nodes.Perm graph.nodes) (ids : (graph.nodes.map Node.id).Nodup) :
    node? ⟨nodes, edges⟩ = graph.node? :=
  funext fun id => find?_of_perm perm ids id

theorem ids_nodup_of_perm (perm : nodes.Perm graph.nodes) (ids : (graph.nodes.map Node.id).Nodup) :
    (nodes.map Node.id).Nodup :=
  (perm.map Node.id).nodup_iff.mpr ids

theorem keptNodes_of_perm (perm : nodes.Perm graph.nodes) (ids : (graph.nodes.map Node.id).Nodup) :
    keptNodes ⟨nodes, edges⟩ = nodes :=
  keptNodes_eq_nodes (ids_nodup_of_perm perm ids)

/-- **A graph that compiles also does in any other order of its nodes and edges.** -/
theorem success_of_perm {options : Options} (nodesPerm : nodes.Perm graph.nodes)
    (edgesPerm : edges.Perm graph.edges) (success : (graph.compile options).success = true) :
    (compile ⟨nodes, edges⟩ options).success = true := by
  obtain ⟨⟨ids, binds⟩, names, identifiers⟩ := (success_iff_stages graph options).mp success
  rw [map_name_datasets, keptNodes_eq_nodes ids] at names
  rw [map_identifier_functions, keptNodes_eq_nodes ids] at identifiers
  rw [success_iff_stages, map_name_datasets, map_identifier_functions,
    keptNodes_of_perm nodesPerm ids]
  refine ⟨⟨ids_nodup_of_perm nodesPerm ids, fun edge inside => ?_⟩, ?_, ?_⟩
  · obtain ⟨binding, isBound⟩ := binds edge (edgesPerm.mem_iff.mp inside)
    exact ⟨binding, (binds_congr (node?_of_perm nodesPerm ids)).mpr isBound⟩
  · exact ((nodesPerm.filter _).map _).nodup_iff.mpr names
  · exact (nodesPerm.filterMap _).nodup_iff.mpr identifiers

theorem success_eq_of_perm (options : Options) (nodesPerm : nodes.Perm graph.nodes)
    (edgesPerm : edges.Perm graph.edges) :
    (compile ⟨nodes, edges⟩ options).success = (graph.compile options).success :=
  Bool.eq_iff_iff.mpr
    ⟨success_of_perm nodesPerm.symm edgesPerm.symm, success_of_perm nodesPerm edgesPerm⟩

/-- Where no id is repeated, a node stands for the same function in any order of the nodes. -/
theorem functionRef?_of_perm (perm : nodes.Perm graph.nodes) (ids : (graph.nodes.map Node.id).Nodup) :
    functionRef? ⟨nodes, graph.edges⟩ = graph.functionRef? := by
  have same : node? ⟨nodes, graph.edges⟩ = graph.node? := node?_of_perm perm ids
  have bindings : bindings ⟨nodes, graph.edges⟩ = graph.bindings := by
    rw [bindings_eq_firsts, bindings_eq_firsts, binding?_congr (classify_congr same)]
  have bound : boundTo ⟨nodes, graph.edges⟩ = graph.boundTo := by
    funext direction function
    rw [boundTo, boundTo, bindings]
    simp only [find?_datasetRefs, same]
  funext node
  rw [functionRef?, functionRef?, bound]

/-- **Where no id is repeated, the wiring follows the nodes into another order.** -/
theorem wiring_of_perm (perm : nodes.Perm graph.nodes) (ids : (graph.nodes.map Node.id).Nodup) :
    wiring ⟨nodes, graph.edges⟩ =
      { datasets := nodes.filterMap Node.datasetRef?
        functions := nodes.filterMap graph.functionRef? } := by
  rw [wiring, datasetRefs, keptNodes_of_perm perm ids, functionRef?_of_perm perm ids]

end Graph

/-! ### Order -/

/-- **A wiring follows nodes into another order**: its datasets and functions are those that another
wiring has for the ids of the nodes, in the order of the nodes, and they are all of them. -/
structure Wiring.Follows (nodes : List Node) (wiring moved : Wiring) : Prop where
  datasets : List.Forall₂ (fun node dataset => wiring.dataset? node.id = some dataset)
    (nodes.filter fun node => node.kind = .dataset) moved.datasets
  functions : List.Forall₂ (fun node function => wiring.function? node.id = some function)
    (nodes.filter fun node => node.kind = .function) moved.functions
  allDatasets : moved.datasets.Perm wiring.datasets
  allFunctions : moved.functions.Perm wiring.functions

namespace Graph

variable {graph : Graph} {nodes : List Node}

theorem follows_of_perm (perm : nodes.Perm graph.nodes) (ids : (graph.nodes.map Node.id).Nodup) :
    Wiring.Follows nodes graph.wiring (wiring ⟨nodes, graph.edges⟩) := by
  have found : ∀ node ∈ nodes, graph.node? node.id = some node := by
    intro node inside
    refine node?_of_mem_keptNodes ?_
    rw [keptNodes_eq_nodes ids]
    exact perm.mem_iff.mp inside
  have original : graph.wiring = { datasets := graph.nodes.filterMap Node.datasetRef?
                                   functions := graph.nodes.filterMap graph.functionRef? } :=
    wiring_of_perm (List.Perm.refl _) ids
  rw [wiring_of_perm perm ids]
  constructor
  · refine forall₂_filterMap (fun node _ => node.isSome_datasetRef?) fun node inside dataset shown => ?_
    rw [dataset?_wiring, found node inside]
    exact shown
  · refine forall₂_filterMap (fun node _ => graph.isSome_functionRef? node)
      fun node inside function shown => ?_
    rw [function?_wiring, found node inside]
    exact shown
  · rw [original]
    exact perm.filterMap _
  · rw [original]
    exact perm.filterMap _

/-- **The order of declarations matters only where it should.** Whether a graph compiles does not
depend on the order of its nodes and edges. Where edges are moved and those at each end keep their
order, the wiring and the artifacts are the same and the diagnostics are a permutation. Where no id is
repeated and nodes are moved, the datasets and the functions are the same and in the order of the
nodes. -/
theorem declaration_order (graph : Graph) (options : Options) :
    (∀ nodes edges, nodes.Perm graph.nodes → edges.Perm graph.edges →
      (compile ⟨nodes, edges⟩ options).success = (graph.compile options).success) ∧
    (∀ edges, KeepsOrder graph.edges edges →
      wiring ⟨graph.nodes, edges⟩ = graph.wiring ∧
      (compile ⟨graph.nodes, edges⟩ options).artifacts = (graph.compile options).artifacts ∧
      (compile ⟨graph.nodes, edges⟩ options).diagnostics.Perm (graph.compile options).diagnostics) ∧
    ((graph.nodes.map Node.id).Nodup → ∀ nodes, nodes.Perm graph.nodes →
      Wiring.Follows nodes graph.wiring (wiring ⟨nodes, graph.edges⟩)) := by
  refine ⟨fun _ _ => success_eq_of_perm options, fun edges order => ?_,
    fun ids _ perm => follows_of_perm perm ids⟩
  have wiring := wiring_of_keepsOrder order
  have diagnostics := diagnostics_of_keepsOrder order options
  have errors : hasErrors (Graph.diagnostics ⟨graph.nodes, edges⟩ options) =
      hasErrors (graph.diagnostics options) :=
    diagnostics.any_eq
  exact ⟨wiring, artifacts_congr options errors (texts_congr options wiring), diagnostics⟩

/-- Two functions with a dataset each; the first and the second edge have no end in common, the last
repeats the first. -/
def paired : Graph :=
  { nodes :=
      [{ id := "d1", label := "Raw Data", payload := .dataset {} },
       { id := "f1", label := "Split", payload := .function {} },
       { id := "d2", label := "Model  Input", payload := .dataset {} },
       { id := "f2", label := "Train", payload := .function { functionName := some " fit " } }]
    edges :=
      [⟨"e1", "d1", "f1"⟩, ⟨"e2", "d2", "f2"⟩, ⟨"e3", "f1", "d2"⟩, ⟨"e4", "d1", "f1"⟩] }

theorem declaration_order_paired :
    let moved : List Edge :=
      [⟨"e2", "d2", "f2"⟩, ⟨"e1", "d1", "f1"⟩, ⟨"e3", "f1", "d2"⟩, ⟨"e4", "d1", "f1"⟩]
    (paired.compile {}).success = true ∧
      (compile ⟨paired.nodes.reverse, paired.edges.reverse⟩ {}).success = true ∧
      KeepsOrder paired.edges moved ∧ wiring ⟨paired.nodes, moved⟩ = paired.wiring ∧
      (paired.nodes.map Node.id).Nodup ∧
      Wiring.Follows paired.nodes.reverse paired.wiring
        (wiring ⟨paired.nodes.reverse, paired.edges⟩) := by
  intro moved
  obtain ⟨verdict, edges, nodes⟩ := declaration_order paired {}
  have success : (paired.compile {}).success = true := by decide
  have order : KeepsOrder paired.edges moved := .swap (by decide) (by decide) [] _
  have ids : (paired.nodes.map Node.id).Nodup := by decide
  have reversed := verdict _ _ paired.nodes.reverse_perm paired.edges.reverse_perm
  exact ⟨success, reversed.trans success, order, (edges moved order).1, ids,
    nodes ids _ paired.nodes.reverse_perm⟩

end Graph

end PipelineGraph
