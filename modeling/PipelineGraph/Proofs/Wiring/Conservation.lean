/-
**No node and no edge is lost or counted twice.**

`Graph.Accounts` is the bookkeeping of a wiring with its reports: the edges are the datasets bound to
the functions and the edges reported, and the nodes are the datasets, the functions and the nodes
reported; no id stands for two of them, and no function is bound to a dataset twice in one direction.
`accounts_wiring` says that the wiring of a graph and the reports on it keep these books.

* `length_bindings_add_length_problems` — each edge gives one binding or one problem.
* `sum_bound` — each binding is picked up by one function, because no id is kept twice, and finds its
  dataset there.
-/

import Mathlib.Algebra.GroupWithZero.Nat
import PipelineGraph.Proofs.Compilation.Reports
import PipelineGraph.Proofs.Wiring.Resolution

namespace PipelineGraph

/-! ### Counting -/

/-- The diagnostics with a code, counted. -/
def codeCount (code : Code) (diagnostics : List Diagnostic) : Nat :=
  diagnostics.countP fun diagnostic => diagnostic.code = code

theorem codeCount_append (code : Code) (first second : List Diagnostic) :
    codeCount code (first ++ second) = codeCount code first + codeCount code second :=
  List.countP_append

theorem codeCount_eq_zero {code : Code} {diagnostics : List Diagnostic}
    (other : ∀ diagnostic ∈ diagnostics, diagnostic.code ≠ code) : codeCount code diagnostics = 0 :=
  List.countP_eq_zero.mpr fun diagnostic inside same =>
    other diagnostic inside (of_decide_eq_true same)

theorem codeCount_eq_length {code : Code} {diagnostics : List Diagnostic}
    (same : ∀ diagnostic ∈ diagnostics, diagnostic.code = code) :
    codeCount code diagnostics = diagnostics.length :=
  List.countP_eq_length.mpr fun diagnostic inside => decide_eq_true (same diagnostic inside)

/-- **Elements sorted by a key are all there**, if the keys are pairwise distinct and none is missing. -/
theorem sum_countP_eq_length {α κ : Type} [DecidableEq κ] (key : α → κ) {keys : List κ}
    (distinct : keys.Nodup) : ∀ {xs : List α}, (∀ x ∈ xs, key x ∈ keys) →
      (keys.map fun k => xs.countP fun x => key x = k).sum = xs.length := by
  induction keys with
  | nil =>
    intro xs known
    rw [List.eq_nil_iff_forall_not_mem.mpr fun x inside => List.not_mem_nil (known x inside)]
    rfl
  | cons k keys ih =>
    intro xs known
    obtain ⟨fresh, distinct⟩ := List.nodup_cons.mp distinct
    have others : ∀ x ∈ xs.filter fun x => key x ≠ k, key x ∈ keys := by
      intro x inside
      obtain ⟨isIn, different⟩ := List.mem_filter.mp inside
      exact (List.mem_cons.mp (known x isIn)).resolve_left (of_decide_eq_true different)
    have unmoved : ∀ other ∈ keys, (xs.countP fun x => key x = other) =
        (xs.filter fun x => key x ≠ k).countP fun x => key x = other := by
      intro other inside
      rw [List.countP_filter]
      refine List.countP_congr fun x _ => ?_
      simp only [decide_eq_true_eq, Bool.and_eq_true]
      exact ⟨fun same => ⟨same, fun old => fresh (old ▸ same ▸ inside)⟩, And.left⟩
    rw [List.map_cons, List.sum_cons, List.map_congr_left unmoved, ih distinct others,
      ← List.countP_eq_length_filter, List.length_eq_countP_add_countP fun x => key x = k]
    simp only [ne_eq, decide_not, Bool.not_eq_true, decide_eq_false_iff_not]

namespace Graph

variable {graph : Graph}

/-! ### Nodes -/

theorem length_keptNodes (graph : Graph) :
    graph.wiring.datasets.length + graph.wiring.functions.length = graph.keptNodes.length := by
  refine length_filterMap_add_length_filterMap fun node _ => ?_
  rw [isSome_functionRef?, Node.isSome_datasetRef?]
  cases node.kind <;> rfl

theorem map_id_datasets (graph : Graph) :
    graph.wiring.datasets.map DatasetRef.id =
      (graph.keptNodes.filter fun node => node.kind = .dataset).map Node.id :=
  map_filterMap_eq (fun node _ => node.isSome_datasetRef?) fun _ _ _ => Node.id_of_datasetRef?

theorem map_id_functions (graph : Graph) :
    graph.wiring.functions.map FunctionRef.id =
      (graph.keptNodes.filter fun node => node.kind = .function).map Node.id :=
  map_filterMap_eq (fun node _ => graph.isSome_functionRef? node) fun _ _ _ => id_of_functionRef?

/-- **No id stands for two datasets or functions.** -/
theorem ids_nodup (graph : Graph) :
    (graph.wiring.datasets.map DatasetRef.id ++ graph.wiring.functions.map FunctionRef.id).Nodup := by
  have otherKind : (fun node : Node => decide (node.kind = .function)) =
      fun node => !decide (node.kind = .dataset) := by
    funext node
    cases node.kind <;> rfl
  have distinct : (graph.keptNodes.map Node.id).Nodup := graph.keptNodes_pairwise.map _ fun _ _ => id
  rw [map_id_datasets, map_id_functions, ← List.map_append, otherKind]
  exact ((List.filter_append_perm _ graph.keptNodes).map Node.id).nodup_iff.mpr distinct

theorem ids_functions_nodup (graph : Graph) :
    (graph.wiring.functions.map FunctionRef.id).Nodup :=
  (List.nodup_append.mp graph.ids_nodup).2.1

/-! ### Edges -/

/-- **Each edge gives one binding or one problem.** -/
theorem length_bindings_add_length_problems (graph : Graph) :
    graph.bindings.length + (graph.problemsAfter [] graph.edges).length = graph.edges.length := by
  have walk : graph.readEdges.length = graph.edges.length := by
    rw [readEdges, withEarlier, length_withEarlierFrom, List.length_map]
  rw [← edgeProblems_eq, bindings, ← walk]
  refine length_filterMap_add_length_filterMap fun pair _ => ?_
  obtain ⟨⟨edge, outcome⟩, earlier⟩ := pair
  cases outcome <;> cases earlier <;> rfl

/-- A binding finds its dataset. -/
theorem isSome_dataset_of_mem_bindings {binding : Binding} (bound : binding ∈ graph.bindings) :
    (graph.datasetRefs.find? fun dataset => dataset.id = binding.dataset).isSome = true := by
  obtain ⟨edge, _, binds⟩ := mem_bindings_iff.mp bound
  obtain ⟨direction, ⟨node, found, isDataset⟩, _⟩ := binds
  show (graph.datasetRefs.find? fun dataset => dataset.id = edge.datasetEnd direction).isSome = true
  rw [find?_datasetRefs, found]
  exact node.isSome_datasetRef?.trans (decide_eq_true isDataset)

/-- **The datasets bound to a function are those of its bindings.** -/
theorem mem_ids_boundTo_iff {direction : Direction} {function id : String} :
    id ∈ (graph.boundTo direction function).map DatasetRef.id ↔
      ⟨direction, id, function⟩ ∈ graph.bindings := by
  rw [List.mem_map]
  constructor
  · rintro ⟨dataset, inside, rfl⟩
    obtain ⟨binding, isBound, found⟩ := List.mem_filterMap.mp inside
    obtain ⟨bound, here⟩ := List.mem_filter.mp isBound
    have same : dataset.id = binding.dataset := by simpa using List.find?_some found
    rw [Bool.and_eq_true, decide_eq_true_eq, decide_eq_true_eq] at here
    rwa [same, ← here.1, ← here.2]
  · intro bound
    obtain ⟨dataset, found⟩ := Option.isSome_iff_exists.mp (isSome_dataset_of_mem_bindings bound)
    have same : dataset.id = id := by simpa using List.find?_some found
    refine ⟨dataset, List.mem_filterMap.mpr ⟨_, List.mem_filter.mpr ⟨bound, ?_⟩, found⟩, same⟩
    simp

/-- As many datasets are bound to a function in a direction as there are such bindings. -/
theorem length_boundTo (graph : Graph) (direction : Direction) (function : String) :
    (graph.boundTo direction function).length = graph.bindings.countP fun binding =>
      binding.direction = direction && binding.function = function := by
  rw [boundTo, List.length_filterMap_eq_countP, List.countP_filter]
  refine List.countP_congr fun binding bound => ?_
  rw [isSome_dataset_of_mem_bindings bound, Bool.true_and]

/-- The inputs and outputs of a function are its bindings. -/
theorem length_bound {function : FunctionRef} (inside : function ∈ graph.wiring.functions) :
    function.inputs.length + function.outputs.length =
      graph.bindings.countP fun binding => binding.function = function.id := by
  obtain ⟨_, inputs, outputs⟩ := bound_of_mem_functions inside
  rw [inputs, outputs, length_boundTo, length_boundTo]
  induction graph.bindings with
  | nil => rfl
  | cons binding rest ih =>
    rw [List.countP_cons, List.countP_cons, List.countP_cons, ← ih]
    cases binding.direction <;> simp <;> omega

theorem mem_ids_functions_of_hasKind {id : String} (isFunction : graph.HasKind id .function) :
    id ∈ graph.wiring.functions.map FunctionRef.id := by
  obtain ⟨node, found, isKind⟩ := isFunction
  obtain ⟨function, shown⟩ := Option.isSome_iff_exists.mp
    ((graph.isSome_functionRef? node).trans (decide_eq_true isKind))
  refine List.mem_map.mpr ⟨function, List.mem_filterMap.mpr ⟨node, mem_keptNodes_of_node? found, shown⟩, ?_⟩
  rw [id_of_functionRef? shown, id_of_node? found]

/-- A binding is what a function of the wiring is bound to. -/
theorem mem_bindings_iff_bound {direction : Direction} {dataset function : String} :
    ⟨direction, dataset, function⟩ ∈ graph.bindings ↔
      ∃ ref ∈ graph.wiring.functions, ref.id = function ∧
        dataset ∈ (graph.boundTo direction ref.id).map DatasetRef.id := by
  simp only [mem_ids_boundTo_iff]
  constructor
  · intro bound
    obtain ⟨edge, _, binds⟩ := mem_bindings_iff.mp bound
    have isFunction := (binds_iff.mp binds).2.2
    obtain ⟨ref, inside, rfl⟩ := List.mem_map.mp (mem_ids_functions_of_hasKind isFunction)
    exact ⟨ref, inside, rfl, bound⟩
  · rintro ⟨ref, _, rfl, bound⟩
    exact bound

theorem reads_iff {dataset function : String} :
    (∃ ref ∈ graph.wiring.functions, ref.id = function ∧ dataset ∈ ref.inputs.map DatasetRef.id) ↔
      ⟨.input, dataset, function⟩ ∈ graph.bindings := by
  rw [mem_bindings_iff_bound]
  refine exists_congr fun ref => and_congr_right fun inside => ?_
  rw [(bound_of_mem_functions inside).2.1]

theorem writes_iff {dataset function : String} :
    (∃ ref ∈ graph.wiring.functions, ref.id = function ∧ dataset ∈ ref.outputs.map DatasetRef.id) ↔
      ⟨.output, dataset, function⟩ ∈ graph.bindings := by
  rw [mem_bindings_iff_bound]
  refine exists_congr fun ref => and_congr_right fun inside => ?_
  rw [(bound_of_mem_functions inside).2.2]

/-- **Each binding is picked up by one function**, as an input or as an output. -/
theorem sum_bound (graph : Graph) :
    (graph.wiring.functions.map fun function =>
      function.inputs.length + function.outputs.length).sum = graph.bindings.length := by
  have known : ∀ binding ∈ graph.bindings,
      binding.function ∈ graph.wiring.functions.map FunctionRef.id := by
    intro binding bound
    obtain ⟨edge, _, binds⟩ := mem_bindings_iff.mp bound
    obtain ⟨direction, _, isFunction⟩ := binds
    exact mem_ids_functions_of_hasKind isFunction
  rw [← sum_countP_eq_length Binding.function graph.ids_functions_nodup known, List.map_map,
    List.map_congr_left fun function inside => length_bound inside]
  rfl

/-- A problem of an edge is an unknown end, two ends of one kind, or a repetition. -/
theorem Faulty.code_mem {before : List Edge} {edge : Edge} {problem : WiringProblem}
    (faulty : graph.Faulty before edge problem) :
    problem.diagnostic.code ∈ [Code.danglingEdge, .typeMismatchEdge, .duplicateBinding] := by
  cases faulty with
  | misjoins misjoins => cases misjoins <;> simp [WiringProblem.diagnostic]
  | repeated => simp [WiringProblem.diagnostic]

/-! ### The books -/

/-- **A wiring with its reports accounts for a graph.** -/
structure Accounts (graph : Graph) (wiring : Wiring) (reports : List Diagnostic) : Prop where
  /-- An edge makes an input or an output, or it is reported. -/
  edges : graph.edges.length =
    (wiring.functions.map fun function => function.inputs.length + function.outputs.length).sum +
      (codeCount .danglingEdge reports + codeCount .typeMismatchEdge reports +
        codeCount .duplicateBinding reports)
  /-- A node makes a dataset or a function, or it is reported. -/
  nodes : graph.nodes.length =
    wiring.datasets.length + wiring.functions.length + codeCount .duplicateNodeId reports
  ids : (wiring.datasets.map DatasetRef.id ++ wiring.functions.map FunctionRef.id).Nodup
  inputs : ∀ function ∈ wiring.functions, (function.inputs.map DatasetRef.id).Nodup
  outputs : ∀ function ∈ wiring.functions, (function.outputs.map DatasetRef.id).Nodup

theorem nodeReports_code (graph : Graph) :
    ∀ report ∈ graph.nodeReports, report.code = .duplicateNodeId := by
  intro report inside
  obtain ⟨_, _, rfl⟩ := List.mem_map.mp inside
  rfl

theorem edgeReports_code (graph : Graph) : ∀ report ∈ graph.edgeReports,
    report.code ∈ [Code.danglingEdge, .typeMismatchEdge, .duplicateBinding] := by
  intro report inside
  obtain ⟨problem, isProblem, rfl⟩ := List.mem_map.mp inside
  obtain ⟨first, edge, rest, _, faulty⟩ := (mem_problemsAfter_iff _ _).mp isProblem
  exact faulty.code_mem

/-- The reports with a code of the edges are the reports on edges. -/
theorem codeCount_edges {code : Code}
    (isEdge : code ∈ [Code.danglingEdge, .typeMismatchEdge, .duplicateBinding]) :
    codeCount code graph.wiringReports = codeCount code graph.edgeReports := by
  have nodes : codeCount code graph.nodeReports = 0 := codeCount_eq_zero fun report inside same => by
    rw [← same, graph.nodeReports_code report inside] at isEdge
    exact absurd isEdge (by decide)
  have alone : codeCount code graph.aloneReports = 0 := codeCount_eq_zero fun report inside same => by
    rw [← same, graph.aloneReports_orphan report inside] at isEdge
    exact absurd isEdge (by decide)
  rw [wiringReports_eq, codeCount_append, codeCount_append, nodes, alone, Nat.zero_add, Nat.add_zero]

/-- The reports with the code of repeated ids are the reports on nodes. -/
theorem codeCount_nodes (graph : Graph) :
    codeCount .duplicateNodeId graph.wiringReports = (repeats Node.id graph.nodes).length := by
  have edges : codeCount .duplicateNodeId graph.edgeReports = 0 :=
    codeCount_eq_zero fun report inside same => by
      have isEdge := graph.edgeReports_code report inside
      rw [same] at isEdge
      exact absurd isEdge (by decide)
  have alone : codeCount .duplicateNodeId graph.aloneReports = 0 :=
    codeCount_eq_zero fun report inside same => by
      have isOrphan := graph.aloneReports_orphan report inside
      rw [same] at isOrphan
      exact absurd isOrphan (by decide)
  rw [wiringReports_eq, codeCount_append, codeCount_append, edges, alone,
    codeCount_eq_length graph.nodeReports_code, nodeReports, List.length_map]
  rfl

/-- **The wiring of a graph and the reports on it account for the graph**: no node and no edge is lost,
and none is counted twice. -/
theorem accounts_wiring (graph : Graph) :
    graph.Accounts graph.wiring (graph.wiringProblems.map WiringProblem.diagnostic) where
  edges := by
    have reported : (codeCount .danglingEdge graph.edgeReports + codeCount .typeMismatchEdge
        graph.edgeReports + codeCount .duplicateBinding graph.edgeReports) =
          (graph.problemsAfter [] graph.edges).length := by
      have sorted := sum_countP_eq_length Diagnostic.code (by decide) graph.edgeReports_code
      rw [edgeReports, List.length_map] at sorted
      rw [← sorted]
      exact Nat.add_assoc _ _ _
    show _ = _ + (codeCount .danglingEdge graph.wiringReports +
      codeCount .typeMismatchEdge graph.wiringReports +
        codeCount .duplicateBinding graph.wiringReports)
    rw [codeCount_edges (by decide), codeCount_edges (by decide), codeCount_edges (by decide), reported,
      sum_bound, length_bindings_add_length_problems]
  nodes := by
    show _ = _ + codeCount .duplicateNodeId graph.wiringReports
    rw [codeCount_nodes, length_keptNodes, keptNodes, length_firsts_add_length_repeats]
  ids := graph.ids_nodup
  inputs := by
    intro function inside
    obtain ⟨isFunction, inputs, _⟩ := bound_of_mem_functions inside
    rw [inputs]
    exact (boundTo_pairwise isFunction).map _ fun _ _ => id
  outputs := by
    intro function inside
    obtain ⟨isFunction, _, outputs⟩ := bound_of_mem_functions inside
    rw [outputs]
    exact (boundTo_pairwise isFunction).map _ fun _ _ => id

end Graph

end PipelineGraph
