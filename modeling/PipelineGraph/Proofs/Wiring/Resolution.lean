/-
**The wiring, described without indices and filters.**

`Graph.Resolves` says of a wiring what a reader of the graph expects of it:

* its datasets stand, in order, for the dataset nodes that are the first with their id, and its
  functions for the function nodes that are;
* the inputs of a function stand for the nodes that `Graph.datasetsAlong` meets on a walk over the
  edges, each taken once at its first appearance; and so do the outputs, with the ends of the edges
  exchanged.

`resolves_iff_eq_wiring` says that the wiring of a graph is the only one that resolves it. The inputs
and outputs come from `boundTo_eq`: the two look-ups, of the function and of the dataset, lose nothing
and repeat nothing.
-/

import Mathlib.Data.List.Forall2
import PipelineGraph.Proofs.Wiring.Edge

namespace PipelineGraph

/-! ### Nodes -/

namespace Graph

variable {graph : Graph}

theorem keptNodes_pairwise (graph : Graph) :
    graph.keptNodes.Pairwise fun node other => node.id ≠ other.id :=
  firsts_pairwise Node.id graph.nodes

/-- **An id stands for the same node in the graph and among the nodes kept.** -/
theorem find?_keptNodes (graph : Graph) (id : String) :
    (graph.keptNodes.find? fun node => node.id = id) = graph.node? id :=
  find?_firsts Node.id id graph.nodes

/-- A node that is kept is the one that its id stands for. -/
theorem node?_of_mem_keptNodes {node : Node} (kept : node ∈ graph.keptNodes) :
    graph.node? node.id = some node := by
  rw [← find?_keptNodes]
  exact find?_of_pairwise graph.keptNodes_pairwise kept

theorem mem_keptNodes_of_node? {id : String} {node : Node} (first : graph.node? id = some node) :
    node ∈ graph.keptNodes := by
  rw [← find?_keptNodes] at first
  exact List.mem_of_find?_eq_some first

/-- The id of a function node that is kept stands for a function. -/
theorem isFunction_of_mem_keptNodes {node : Node} {payload : FunctionPayload}
    (kept : node ∈ graph.keptNodes) (holds : node.payload = .function payload) :
    graph.HasKind node.id .function :=
  ⟨node, node?_of_mem_keptNodes kept, by rw [Node.kind, holds, Payload.kind]⟩

end Graph

theorem Node.id_of_datasetRef? {node : Node} {dataset : DatasetRef}
    (shown : node.datasetRef? = some dataset) : dataset.id = node.id := by
  unfold Node.datasetRef? at shown
  split at shown
  · cases shown
    rfl
  · cases shown

theorem Node.isSome_datasetRef? (node : Node) :
    node.datasetRef?.isSome = decide (node.kind = .dataset) := by
  unfold Node.datasetRef? Node.kind
  cases node.payload <;> rfl

namespace Graph

variable {graph : Graph}

/-- **An id stands for the dataset of the first node with it**, if that is a dataset node. -/
theorem find?_datasetRefs (graph : Graph) (id : String) :
    (graph.datasetRefs.find? fun dataset => dataset.id = id) =
      (graph.node? id).bind Node.datasetRef? := by
  rw [datasetRefs, find?_filterMap_of_pairwise (fun _ _ => Node.id_of_datasetRef?)
    graph.keptNodes_pairwise, find?_keptNodes]

theorem dataset?_wiring (graph : Graph) (id : String) :
    graph.wiring.dataset? id = (graph.node? id).bind Node.datasetRef? :=
  graph.find?_datasetRefs id

theorem id_of_functionRef? {node : Node} {function : FunctionRef}
    (shown : graph.functionRef? node = some function) : function.id = node.id := by
  unfold functionRef? at shown
  split at shown
  · cases shown
  · cases shown
    rfl

/-- **An id stands for the function of the first node with it**, if that is a function node. -/
theorem function?_wiring (graph : Graph) (id : String) :
    graph.wiring.function? id = (graph.node? id).bind graph.functionRef? := by
  rw [Wiring.function?, wiring, find?_filterMap_of_pairwise (fun _ _ => id_of_functionRef?)
    graph.keptNodes_pairwise, find?_keptNodes]

/-! ### The datasets bound to a function -/

/-- **The dataset nodes met on a walk over the edges** that have a function at one end: at the other
end, where the first node with that id is a dataset. -/
def datasetsAlong (graph : Graph) (direction : Direction) (function : String) : List Node :=
  graph.edges.filterMap fun edge =>
    if edge.functionEnd direction = function then
      (graph.node? (edge.datasetEnd direction)).filter fun node => node.kind = .dataset
    else none

theorem node?_of_mem_datasetsAlong {direction : Direction} {function : String} {node : Node}
    (met : node ∈ graph.datasetsAlong direction function) :
    graph.node? node.id = some node ∧ node.kind = .dataset := by
  obtain ⟨edge, _, found⟩ := List.mem_filterMap.mp met
  split at found
  · obtain ⟨first, isDataset⟩ := Option.filter_eq_some_iff.mp found
    exact ⟨by rw [id_of_node? first, first], of_decide_eq_true isDataset⟩
  · cases found

/-- The bindings of a function in a direction are made by the edges on which its datasets are met. -/
theorem filter_binding? {direction : Direction} {function : String}
    (isFunction : graph.HasKind function .function) :
    ((graph.edges.filterMap graph.binding?).filter fun binding =>
        binding.direction = direction && binding.function = function) =
      (graph.datasetsAlong direction function).map fun node => ⟨direction, node.id, function⟩ := by
  rw [datasetsAlong, List.filter_filterMap, List.map_filterMap]
  refine List.filterMap_congr fun edge _ => Option.ext fun binding => ?_
  rw [Option.filter_eq_some_iff, binding?_eq_some_iff]
  constructor
  · rintro ⟨⟨direction', ⟨node, found, isDataset⟩, _⟩, here⟩
    rw [Bool.and_eq_true, decide_eq_true_eq, decide_eq_true_eq] at here
    obtain ⟨rfl, ends⟩ : direction' = direction ∧ edge.functionEnd direction' = function := here
    rw [if_pos ends, found]
    simp [isDataset, Edge.binding, id_of_node? found, ends]
  · intro met
    split at met
    · rename_i ends
      obtain ⟨node, found, rfl⟩ := Option.map_eq_some_iff.mp met
      obtain ⟨first, isDataset⟩ := Option.filter_eq_some_iff.mp found
      rw [id_of_node? first, ← ends]
      exact ⟨.along direction ⟨node, first, of_decide_eq_true isDataset⟩ (ends ▸ isFunction), by simp⟩
    · cases met

/-- **The datasets bound to a function are those met along the edges**, each at its first
appearance. -/
theorem boundTo_eq {direction : Direction} {function : String}
    (isFunction : graph.HasKind function .function) :
    graph.boundTo direction function =
      (firsts Node.id (graph.datasetsAlong direction function)).filterMap Node.datasetRef? := by
  let bound : Binding → Bool := fun binding =>
    binding.direction = direction && binding.function = function
  let bind : Node → Binding := fun node => ⟨direction, node.id, function⟩
  have alike : ∀ node other, bind node = bind other ↔ node.id = other.id := by
    intro node other
    simp [bind]
  have taken : graph.bindings.filter bound =
      (firsts Node.id (graph.datasetsAlong direction function)).map bind := by
    calc graph.bindings.filter bound
        = firsts id ((graph.edges.filterMap graph.binding?).filter bound) := by
          rw [bindings_eq_firsts]
          exact firsts_filter id bound _
      _ = firsts id ((graph.datasetsAlong direction function).map bind) := by
          rw [← filter_binding? isFunction]
      _ = (firsts Node.id (graph.datasetsAlong direction function)).map bind := by
          rw [firsts_map]
          exact congrArg _ (firsts_congr alike _)
  rw [boundTo, taken, List.filterMap_map]
  refine List.filterMap_congr fun node kept => ?_
  have first := (node?_of_mem_datasetsAlong (mem_of_mem_firsts _ kept)).1
  show (graph.datasetRefs.find? fun dataset => dataset.id = node.id) = _
  rw [find?_datasetRefs, first]
  rfl

/-- Where the same datasets are met along the edges, the same are bound. -/
theorem boundTo_congr {other : Graph} {direction direction' : Direction} {function : String}
    (isFunction : graph.HasKind function .function) (isFunction' : other.HasKind function .function)
    (met : other.datasetsAlong direction' function = graph.datasetsAlong direction function) :
    other.boundTo direction' function = graph.boundTo direction function := by
  rw [boundTo_eq isFunction, boundTo_eq isFunction', met]

/-- No dataset is bound twice to a function in one direction. -/
theorem boundTo_pairwise {direction : Direction} {function : String}
    (isFunction : graph.HasKind function .function) :
    (graph.boundTo direction function).Pairwise fun dataset other => dataset.id ≠ other.id := by
  rw [boundTo_eq isFunction]
  refine List.Pairwise.filterMap Node.datasetRef? ?_ (firsts_pairwise Node.id _)
  intro node node' different dataset shown dataset' shown'
  rwa [Node.id_of_datasetRef? shown, Node.id_of_datasetRef? shown']

/-- What is bound to a function is a dataset of the graph. -/
theorem mem_datasetRefs_of_mem_boundTo {direction : Direction} {function : String}
    {dataset : DatasetRef} (bound : dataset ∈ graph.boundTo direction function) :
    dataset ∈ graph.datasetRefs := by
  obtain ⟨binding, _, found⟩ := List.mem_filterMap.mp bound
  exact List.mem_of_find?_eq_some found

/-- **A function of the wiring has the id of a function node and the datasets bound to that id.** -/
theorem bound_of_mem_functions {function : FunctionRef}
    (inside : function ∈ graph.wiring.functions) :
    graph.HasKind function.id .function ∧
      function.inputs = graph.boundTo .input function.id ∧
      function.outputs = graph.boundTo .output function.id := by
  obtain ⟨node, kept, shown⟩ := List.mem_filterMap.mp inside
  unfold functionRef? at shown
  split at shown
  · cases shown
  · rename_i payload holds
    cases shown
    exact ⟨isFunction_of_mem_keptNodes kept holds, rfl, rfl⟩

end Graph

/-! ### The name of a function -/

/-- The name given to a function, trimmed, unless that leaves nothing. -/
def FunctionPayload.givenName (payload : FunctionPayload) : Option String :=
  (payload.functionName.map trim).filter fun name => name ≠ ""

theorem trim_eq_empty_iff (text : String) : trim text = "" ↔ isBlank text = true := by
  rw [isBlank, ← Text.trim_eq_nil_iff, trim, ← String.toList_eq_nil_iff, String.toList_ofList]

/-- **A function goes by the name given to it, else by the canonical name of its label.** -/
theorem FunctionPayload.identifier_eq (payload : FunctionPayload) (label : String) :
    payload.identifier label = payload.givenName.getD (canonical label) := by
  unfold identifier givenName
  cases payload.functionName with
  | none => rfl
  | some name =>
    by_cases blank : isBlank name = true
    · simp [blank, (trim_eq_empty_iff name).mpr blank, Option.filter]
    · have named : trim name ≠ "" := fun empty => blank ((trim_eq_empty_iff name).mp empty)
      simp [blank, named, Option.filter]

/-! ### The wiring -/

/-- **A dataset stands for a node**: it has the node's fields, and is named by the canonical name of
its label. -/
def DatasetRef.StandsFor (node : Node) (dataset : DatasetRef) : Prop :=
  ∃ payload, node.payload = .dataset payload ∧
    dataset = { id := node.id, name := canonical node.label, label := node.label
                storageType := payload.storageType, location := payload.location
                description := payload.description }

/-- **A function stands for a node**: it has the node's fields, its identifier is the name given to it
or else the canonical name of its label, and its inputs and outputs stand for the datasets met along
the edges, each at its first appearance. -/
structure FunctionRef.StandsFor (graph : Graph) (node : Node) (function : FunctionRef) : Prop where
  fields : ∃ payload, node.payload = .function payload ∧ function.id = node.id ∧
    function.label = node.label ∧
    function.identifier = payload.givenName.getD (canonical node.label) ∧
    function.body = payload.body ∧ function.description = payload.description
  inputs : List.Forall₂ DatasetRef.StandsFor
    (firstOccurrences Node.id (graph.datasetsAlong .input node.id)) function.inputs
  outputs : List.Forall₂ DatasetRef.StandsFor
    (firstOccurrences Node.id (graph.datasetsAlong .output node.id)) function.outputs

/-- **A wiring resolves a graph**: its datasets and functions stand, in order, for the nodes of their
kind that are the first with their id. -/
structure Graph.Resolves (graph : Graph) (wiring : Wiring) : Prop where
  datasets : List.Forall₂ DatasetRef.StandsFor
    ((firstOccurrences Node.id graph.nodes).filter fun node => node.kind = .dataset) wiring.datasets
  functions : List.Forall₂ (FunctionRef.StandsFor graph)
    ((firstOccurrences Node.id graph.nodes).filter fun node => node.kind = .function) wiring.functions

theorem DatasetRef.standsFor_rightUnique : Relator.RightUnique DatasetRef.StandsFor := by
  rintro node dataset other ⟨payload, holds, rfl⟩ ⟨payload', holds', rfl⟩
  rw [holds] at holds'
  cases holds'
  rfl

theorem FunctionRef.standsFor_rightUnique (graph : Graph) :
    Relator.RightUnique (FunctionRef.StandsFor graph) := by
  intro node function other first second
  obtain ⟨payload, holds, id, label, identifier, body, description⟩ := first.fields
  obtain ⟨payload', holds', id', label', identifier', body', description'⟩ := second.fields
  rw [holds] at holds'
  cases holds'
  have inputs : function.inputs = other.inputs :=
    DatasetRef.standsFor_rightUnique.forall₂ first.inputs second.inputs
  have outputs : function.outputs = other.outputs :=
    DatasetRef.standsFor_rightUnique.forall₂ first.outputs second.outputs
  cases function
  cases other
  simp_all

theorem Node.standsFor_datasetRef? {node : Node} {dataset : DatasetRef}
    (shown : node.datasetRef? = some dataset) : DatasetRef.StandsFor node dataset := by
  unfold Node.datasetRef? at shown
  split at shown
  · rename_i payload holds
    cases shown
    exact ⟨payload, holds, rfl⟩
  · cases shown

/-- What a partial map makes of a list stands, in order, for the elements on which it is defined. -/
theorem forall₂_filterMap {α β : Type} {stands : α → β → Prop} {f : α → Option β} {p : α → Bool}
    {xs : List α} (defined : ∀ x ∈ xs, (f x).isSome = p x)
    (shown : ∀ x ∈ xs, ∀ y, f x = some y → stands x y) :
    List.Forall₂ stands (xs.filter p) (xs.filterMap f) := by
  induction xs with
  | nil => exact .nil
  | cons x rest ih =>
    have later := ih (fun y inside => defined y (List.mem_cons_of_mem x inside))
      fun y inside => shown y (List.mem_cons_of_mem x inside)
    have here := defined x List.mem_cons_self
    rw [List.filter_cons, List.filterMap_cons]
    cases found : f x with
    | none =>
      rw [found] at here
      rwa [if_neg (ne_true_of_eq_false here.symm)]
    | some y =>
      rw [found, Option.isSome_some] at here
      rw [if_pos here.symm]
      exact .cons (shown x List.mem_cons_self y found) later

/-- Related elements have the same image when the relation says so. -/
theorem map_eq_map_of_forall₂ {α β γ : Type} {f : α → γ} {g : β → γ} {xs : List α} {ys : List β}
    (same : List.Forall₂ (fun x y => f x = g y) xs ys) : xs.map f = ys.map g := by
  rwa [← List.forall₂_eq_eq_eq, List.forall₂_map_left_iff, List.forall₂_map_right_iff]

/-- A field that a partial map keeps is read off the elements on which it is defined. -/
theorem map_filterMap_eq {α β γ : Type} {f : α → Option β} {p : α → Bool} {g : β → γ} {h : α → γ}
    {xs : List α} (defined : ∀ x ∈ xs, (f x).isSome = p x)
    (kept : ∀ x ∈ xs, ∀ y, f x = some y → g y = h x) :
    (xs.filterMap f).map g = (xs.filter p).map h := by
  have stands : List.Forall₂ (fun x y => g y = h x) (xs.filter p) (xs.filterMap f) :=
    forall₂_filterMap defined kept
  exact (map_eq_map_of_forall₂ (stands.imp fun _ _ same => same.symm)).symm

namespace Graph

variable {graph : Graph}

theorem standsFor_boundTo {direction : Direction} {function : String}
    (isFunction : graph.HasKind function .function) :
    List.Forall₂ DatasetRef.StandsFor
      (firstOccurrences Node.id (graph.datasetsAlong direction function))
      (graph.boundTo direction function) := by
  have isDataset : ∀ node ∈ firsts Node.id (graph.datasetsAlong direction function),
      node.datasetRef?.isSome = true := by
    intro node kept
    rw [Node.isSome_datasetRef?]
    exact decide_eq_true (node?_of_mem_datasetsAlong (mem_of_mem_firsts _ kept)).2
  have stands := forall₂_filterMap isDataset fun node _ dataset => Node.standsFor_datasetRef?
  rwa [List.filter_eq_self.mpr fun _ _ => rfl, ← boundTo_eq isFunction,
    firsts_eq_firstOccurrences] at stands

theorem isSome_functionRef? (graph : Graph) (node : Node) :
    (graph.functionRef? node).isSome = decide (node.kind = .function) := by
  unfold functionRef? Node.kind
  cases node.payload <;> rfl

theorem standsFor_functionRef? {node : Node} {function : FunctionRef}
    (kept : node ∈ graph.keptNodes) (shown : graph.functionRef? node = some function) :
    FunctionRef.StandsFor graph node function := by
  unfold functionRef? at shown
  split at shown
  · cases shown
  · rename_i payload holds
    cases shown
    have isFunction := isFunction_of_mem_keptNodes kept holds
    exact ⟨⟨payload, holds, rfl, rfl, payload.identifier_eq node.label, rfl, rfl⟩,
      standsFor_boundTo isFunction, standsFor_boundTo isFunction⟩

/-- The wiring of a graph resolves it. -/
theorem resolves_wiring (graph : Graph) : graph.Resolves graph.wiring := by
  constructor
  · rw [← firsts_eq_firstOccurrences]
    exact forall₂_filterMap (fun node _ => node.isSome_datasetRef?)
      fun node _ dataset => Node.standsFor_datasetRef?
  · rw [← firsts_eq_firstOccurrences]
    exact forall₂_filterMap (fun node _ => graph.isSome_functionRef? node)
      fun node kept function => standsFor_functionRef? kept

/-- **The wiring of a graph is the only one that resolves it.** Ids may be repeated, edges may lead
nowhere, join two nodes of one kind, turn back to their source or repeat each other. -/
theorem resolves_iff_eq_wiring (graph : Graph) (wiring : Wiring) :
    graph.Resolves wiring ↔ wiring = graph.wiring := by
  constructor
  · intro resolves
    have datasets : wiring.datasets = graph.wiring.datasets :=
      DatasetRef.standsFor_rightUnique.forall₂ resolves.datasets graph.resolves_wiring.datasets
    have functions : wiring.functions = graph.wiring.functions :=
      (FunctionRef.standsFor_rightUnique graph).forall₂ resolves.functions
        graph.resolves_wiring.functions
    cases wiring
    exact congrArg₂ Wiring.mk datasets functions
  · rintro rfl
    exact graph.resolves_wiring

end Graph

end PipelineGraph
