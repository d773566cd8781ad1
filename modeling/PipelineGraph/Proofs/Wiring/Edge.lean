/-
**What an edge binds, and what is reported for it.**

The classification of an edge is a function of the first nodes with the ids at its two ends. Here it is
turned into two relations, and the walk over the edges into one step.

* `Graph.Binds` — an edge binds a dataset and a function in a direction: the end that the direction
  gives to the dataset is a dataset, the other end a function (`classify_eq_ok_iff`).
* `Graph.Misjoins` — an edge that binds nothing, with its problem: an end is unknown, or both ends are
  of one kind (`classify_eq_error_iff`).
* `Graph.Faulty` — an edge with a problem after the edges before it: it misjoins, or it binds and an
  earlier edge has the same two ends (`problemAfter?_eq_some_iff`).
* `bindings_eq_firsts` and `edgeProblems_eq` — the bindings are the first occurrences among all that
  the edges bind, and the problems come from one step for each edge, in order.
-/

import PipelineGraph.Proofs.FirstCome
import PipelineGraph.Wiring

namespace PipelineGraph

/-! ### The two ends of an edge -/

namespace Edge

/-- The end of an edge at which a binding in a direction has its dataset. -/
def datasetEnd (edge : Edge) : Direction → String
  | .input => edge.source
  | .output => edge.target

/-- The end of an edge at which a binding in a direction has its function. -/
def functionEnd (edge : Edge) : Direction → String
  | .input => edge.target
  | .output => edge.source

/-- What an edge binds when it is read in a direction. -/
def binding (edge : Edge) (direction : Direction) : Binding :=
  ⟨direction, edge.datasetEnd direction, edge.functionEnd direction⟩

end Edge

namespace Graph

variable {graph : Graph}

theorem id_of_node? {id : String} {node : Node} (found : graph.node? id = some node) :
    node.id = id := by
  simpa using List.find?_some found

theorem mem_of_node? {id : String} {node : Node} (found : graph.node? id = some node) :
    node ∈ graph.nodes :=
  List.mem_of_find?_eq_some found

/-- The first node with an id is of a kind. -/
def HasKind (graph : Graph) (id : String) (kind : Kind) : Prop :=
  ∃ node, graph.node? id = some node ∧ node.kind = kind

theorem HasKind.unique {id : String} {kind other : Kind} (first : graph.HasKind id kind)
    (second : graph.HasKind id other) : kind = other := by
  obtain ⟨node, found, isKind⟩ := first
  obtain ⟨node', found', isOther⟩ := second
  rw [found] at found'
  cases found'
  exact isKind.symm.trans isOther

/-! ### The classification -/

/-- **An edge binds**: read in some direction, its ends are a dataset and a function. -/
inductive Binds (graph : Graph) (edge : Edge) : Binding → Prop
  | along (direction : Direction) (dataset : graph.HasKind (edge.datasetEnd direction) .dataset)
      (function : graph.HasKind (edge.functionEnd direction) .function) :
      Binds graph edge (edge.binding direction)

/-- An edge binds a dataset and a function that are of their kinds and stand at its ends. -/
theorem binds_iff {edge : Edge} {direction : Direction} {dataset function : String} :
    graph.Binds edge ⟨direction, dataset, function⟩ ↔
      (edge.datasetEnd direction = dataset ∧ graph.HasKind dataset .dataset) ∧
        edge.functionEnd direction = function ∧ graph.HasKind function .function := by
  constructor
  · intro binds
    generalize same : (⟨direction, dataset, function⟩ : Binding) = binding at binds
    obtain ⟨direction', isDataset, isFunction⟩ := binds
    obtain ⟨rfl, rfl, rfl⟩ := Binding.mk.inj same
    exact ⟨⟨rfl, isDataset⟩, rfl, isFunction⟩
  · rintro ⟨⟨rfl, isDataset⟩, rfl, isFunction⟩
    exact .along direction isDataset isFunction

/-- **An edge misjoins**: an end is unknown, or both ends are of one kind. -/
inductive Misjoins (graph : Graph) (edge : Edge) : WiringProblem → Prop
  | unknownEnds (source : graph.node? edge.source = none) (target : graph.node? edge.target = none) :
      Misjoins graph edge (.unknownEnds edge)
  | unknownSource {node : Node} (source : graph.node? edge.source = none)
      (target : graph.node? edge.target = some node) : Misjoins graph edge (.unknownSource edge node)
  | unknownTarget {node : Node} (source : graph.node? edge.source = some node)
      (target : graph.node? edge.target = none) : Misjoins graph edge (.unknownTarget edge node)
  | sameKind {node other : Node} (source : graph.node? edge.source = some node)
      (target : graph.node? edge.target = some other) (same : node.kind = other.kind) :
      Misjoins graph edge (.sameKind edge node other)

/-- **Every edge either binds or misjoins, as it is classified.** -/
theorem classify_spec (graph : Graph) (edge : Edge) :
    match graph.classify edge with
    | .ok binding => graph.Binds edge binding
    | .error problem => graph.Misjoins edge problem := by
  unfold classify
  cases source : graph.node? edge.source with
  | none =>
    cases target : graph.node? edge.target with
    | none => exact .unknownEnds source target
    | some node => exact .unknownSource source target
  | some node =>
    cases target : graph.node? edge.target with
    | none => exact .unknownTarget source target
    | some other =>
      simp only
      rw [id_of_node? source, id_of_node? target]
      cases sourceKind : node.kind <;> cases targetKind : other.kind
      · exact .sameKind source target (sourceKind.trans targetKind.symm)
      · exact .along .input ⟨node, source, sourceKind⟩ ⟨other, target, targetKind⟩
      · exact .along .output ⟨other, target, targetKind⟩ ⟨node, source, sourceKind⟩
      · exact .sameKind source target (sourceKind.trans targetKind.symm)

/-- An edge binds one thing at most: the kind of its source gives the direction. -/
theorem Binds.unique {edge : Edge} {binding other : Binding} (first : graph.Binds edge binding)
    (second : graph.Binds edge other) : binding = other := by
  obtain ⟨direction, isDataset, isFunction⟩ := first
  obtain ⟨direction', isDataset', isFunction'⟩ := second
  cases direction <;> cases direction'
  · rfl
  · cases isDataset.unique isFunction'
  · cases isDataset.unique isFunction'
  · rfl

/-- An edge that binds has two known ends of different kinds. -/
theorem Binds.not_misjoins {edge : Edge} {binding : Binding} {problem : WiringProblem}
    (binds : graph.Binds edge binding) : ¬ graph.Misjoins edge problem := by
  obtain ⟨direction, ⟨node, found, isDataset⟩, ⟨other, found', isFunction⟩⟩ := binds
  intro misjoins
  cases direction <;> cases misjoins <;> simp_all [Edge.datasetEnd, Edge.functionEnd]

theorem classify_eq_ok_iff {edge : Edge} {binding : Binding} :
    graph.classify edge = .ok binding ↔ graph.Binds edge binding := by
  have spec := graph.classify_spec edge
  constructor
  · intro classified
    rw [classified] at spec
    exact spec
  · intro binds
    cases classified : graph.classify edge with
    | ok other =>
      rw [classified] at spec
      rw [binds.unique spec]
    | error problem =>
      rw [classified] at spec
      exact absurd spec binds.not_misjoins

theorem classify_eq_error_iff {edge : Edge} {problem : WiringProblem} :
    graph.classify edge = .error problem ↔ graph.Misjoins edge problem := by
  have spec := graph.classify_spec edge
  constructor
  · intro classified
    rw [classified] at spec
    exact spec
  · intro misjoins
    unfold classify
    cases misjoins with
    | unknownEnds source target => rw [source, target]
    | unknownSource source target => rw [source, target]
    | unknownTarget source target => rw [source, target]
    | @sameKind node other source target same =>
      rw [source, target]
      simp only
      rw [← same]
      cases node.kind <;> rfl

/-! ### The bindings -/

/-- What an edge binds, if it binds something. -/
def binding? (graph : Graph) (edge : Edge) : Option Binding := (graph.classify edge).toOption

theorem binding?_eq_some_iff {edge : Edge} {binding : Binding} :
    graph.binding? edge = some binding ↔ graph.Binds edge binding := by
  rw [← classify_eq_ok_iff, binding?]
  cases graph.classify edge <;> simp [Except.toOption]

/-- **The bindings are the first occurrences among all that the edges bind.** -/
theorem bindings_eq_firsts (graph : Graph) :
    graph.bindings = firsts id (graph.edges.filterMap graph.binding?) := by
  have kept : graph.bindings = (unpreceded graph.readEdges).filterMap ReadEdge.binding? := by
    rw [bindings, unpreceded, List.filterMap_filterMap]
    refine List.filterMap_congr fun pair _ => ?_
    obtain ⟨read, earlier⟩ := pair
    cases earlier <;> rfl
  rw [kept]
  show (firsts ReadEdge.binding? _).filterMap ReadEdge.binding? = _
  rw [filterMap_firsts, List.filterMap_map]
  rfl

/-- **A binding is what some edge binds.** -/
theorem mem_bindings_iff {binding : Binding} :
    binding ∈ graph.bindings ↔ ∃ edge ∈ graph.edges, graph.Binds edge binding := by
  have kept : binding ∈ graph.bindings ↔ binding ∈ graph.edges.filterMap graph.binding? := by
    rw [bindings_eq_firsts]
    refine ⟨mem_of_mem_firsts id, fun inside => ?_⟩
    obtain ⟨first, isFirst, rfl⟩ := exists_firsts id _ binding inside
    exact isFirst
  simp only [kept, List.mem_filterMap, binding?_eq_some_iff]

/-- Two edges that bind the same have the same ends, and an edge with the ends of one that binds
binds the same. -/
theorem Binds.iff_same_ends {edge earlier : Edge} {binding : Binding}
    (binds : graph.Binds edge binding) :
    graph.Binds earlier binding ↔ earlier.source = edge.source ∧ earlier.target = edge.target := by
  obtain ⟨direction, isDataset, isFunction⟩ := binds
  constructor
  · intro same
    generalize read : edge.binding direction = binding at same
    obtain ⟨direction'⟩ := same
    obtain ⟨rfl, dataset, function⟩ := Binding.mk.inj read
    cases direction
    · exact ⟨dataset.symm, function.symm⟩
    · exact ⟨function.symm, dataset.symm⟩
  · rintro ⟨source, target⟩
    have datasetEnd : earlier.datasetEnd direction = edge.datasetEnd direction := by
      cases direction <;> assumption
    have functionEnd : earlier.functionEnd direction = edge.functionEnd direction := by
      cases direction <;> assumption
    rw [Edge.binding, ← datasetEnd, ← functionEnd]
    exact .along direction (datasetEnd ▸ isDataset) (functionEnd ▸ isFunction)

/-! ### The problems -/

/-- **An edge has a problem after the edges before it**: it misjoins, or it binds and an earlier edge
has the same two ends. -/
inductive Faulty (graph : Graph) (before : List Edge) (edge : Edge) : WiringProblem → Prop
  | misjoins {problem : WiringProblem} (misjoins : graph.Misjoins edge problem) :
      Faulty graph before edge problem
  | repeated {binding : Binding} {earlier : Edge} (binds : graph.Binds edge binding)
      (old : earlier ∈ before) (source : earlier.source = edge.source)
      (target : earlier.target = edge.target) : Faulty graph before edge (.repeatedBinding edge)

/-- The problem of an edge after the edges before it. -/
def problemAfter? (graph : Graph) (before : List Edge) (edge : Edge) : Option WiringProblem :=
  match graph.classify edge with
  | .error problem => some problem
  | .ok binding =>
    if some binding ∈ before.map graph.binding? then some (.repeatedBinding edge) else none

theorem problemAfter?_eq_some_iff {before : List Edge} {edge : Edge} {problem : WiringProblem} :
    graph.problemAfter? before edge = some problem ↔ graph.Faulty before edge problem := by
  unfold problemAfter?
  cases classified : graph.classify edge with
  | error found =>
    have misjoins := classify_eq_error_iff.mp classified
    constructor
    · intro same
      cases same
      exact .misjoins misjoins
    · rintro (other | binds)
      · rw [classify_eq_error_iff.mpr other] at classified
        exact classified ▸ rfl
      · exact absurd misjoins binds.not_misjoins
  | ok binding =>
    have binds := classify_eq_ok_iff.mp classified
    show (if _ then _ else _) = _ ↔ _
    constructor
    · intro found
      split at found
      · rename_i taken
        cases found
        obtain ⟨earlier, old, same⟩ := List.mem_map.mp taken
        obtain ⟨source, target⟩ := binds.iff_same_ends.mp (binding?_eq_some_iff.mp same)
        exact .repeated binds old source target
      · cases found
    · rintro (misjoins | ⟨_, old, source, target⟩)
      · exact absurd misjoins binds.not_misjoins
      · refine if_pos (List.mem_map.mpr ⟨_, old, ?_⟩)
        exact binding?_eq_some_iff.mpr (binds.iff_same_ends.mpr ⟨source, target⟩)

/-- An edge with its classification. -/
def readEdge (graph : Graph) (edge : Edge) : ReadEdge := ⟨edge, graph.classify edge⟩

/-- The problem of an edge depends on the first earlier edge that binds the same only in whether
there is one. -/
theorem edgeProblem?_readEdge (before : List Edge) (edge : Edge) :
    edgeProblem? (graph.readEdge edge, (before.map graph.readEdge).find? fun earlier =>
      earlier.binding? = (graph.readEdge edge).binding?) = graph.problemAfter? before edge := by
  unfold problemAfter?
  cases classified : graph.classify edge with
  | error problem =>
    simp only [readEdge, classified]
    rfl
  | ok binding =>
    have bound : (graph.readEdge edge).binding? = some binding := by
      simp only [readEdge, ReadEdge.binding?, classified]
      rfl
    simp only [bound]
    by_cases taken : some binding ∈ before.map graph.binding?
    · obtain ⟨earlier, old, same⟩ := List.mem_map.mp taken
      have someone : ((before.map graph.readEdge).find? fun earlier =>
          earlier.binding? = some binding).isSome :=
        List.find?_isSome.mpr ⟨graph.readEdge earlier, List.mem_map_of_mem old, decide_eq_true same⟩
      obtain ⟨first, found⟩ := Option.isSome_iff_exists.mp someone
      rw [if_pos taken, found]
      simp only [readEdge, classified]
      rfl
    · have nobody : ((before.map graph.readEdge).find? fun earlier =>
          earlier.binding? = some binding) = none := by
        rw [List.find?_eq_none]
        intro other inside same
        obtain ⟨earlier, old, rfl⟩ := List.mem_map.mp inside
        exact taken (List.mem_map.mpr ⟨earlier, old, of_decide_eq_true same⟩)
      rw [if_neg taken, nobody]
      simp only [readEdge, classified]
      rfl

/-- The problems of edges after the edges before them, edge by edge. -/
def problemsAfter (graph : Graph) (before : List Edge) : List Edge → List WiringProblem
  | [] => []
  | edge :: rest =>
    (graph.problemAfter? before edge).toList ++ graph.problemsAfter (before ++ [edge]) rest

/-- **The problems of the edges come from one step for each edge, in order.** -/
theorem edgeProblems_eq (graph : Graph) :
    graph.readEdges.filterMap edgeProblem? = graph.problemsAfter [] graph.edges := by
  have walk : ∀ (edges before : List Edge),
      (withEarlierFrom ReadEdge.binding? (before.map graph.readEdge)
        (edges.map graph.readEdge)).filterMap edgeProblem? = graph.problemsAfter before edges := by
    intro edges
    induction edges with
    | nil => exact fun _ => rfl
    | cons edge rest ih =>
      intro before
      rw [List.map_cons, withEarlierFrom, List.filterMap_cons, edgeProblem?_readEdge, problemsAfter,
        ← ih, List.map_append]
      cases graph.problemAfter? before edge <;> rfl
  exact walk graph.edges []

/-- **A problem of the edges is the problem of one edge after all edges before it.** -/
theorem mem_problemsAfter_iff {problem : WiringProblem} (edges : List Edge) :
    ∀ before : List Edge, problem ∈ graph.problemsAfter before edges ↔
      ∃ first edge rest, edges = first ++ edge :: rest ∧
        graph.Faulty (before ++ first) edge problem := by
  induction edges with
  | nil =>
    intro before
    simp [problemsAfter]
  | cons head tail ih =>
    intro before
    rw [problemsAfter, List.mem_append, Option.mem_toList, problemAfter?_eq_some_iff, ih]
    constructor
    · rintro (here | ⟨first, edge, rest, rfl, faulty⟩)
      · exact ⟨[], head, tail, rfl, by rwa [List.append_nil]⟩
      · exact ⟨head :: first, edge, rest, rfl, by rwa [List.append_assoc] at faulty⟩
    · rintro ⟨first, edge, rest, parts, faulty⟩
      cases first with
      | nil =>
        obtain ⟨rfl, rfl⟩ := List.cons.inj parts
        exact .inl (by rwa [List.append_nil] at faulty)
      | cons other first =>
        obtain ⟨rfl, rfl⟩ := List.cons.inj parts
        exact .inr ⟨first, edge, rest, rfl, by rwa [List.append_assoc]⟩

theorem problemsAfter_append (first second : List Edge) :
    ∀ before : List Edge, graph.problemsAfter before (first ++ second) =
      graph.problemsAfter before first ++ graph.problemsAfter (before ++ first) second := by
  induction first with
  | nil =>
    intro before
    rw [List.append_nil]
    rfl
  | cons edge rest ih =>
    intro before
    rw [List.cons_append, problemsAfter, problemsAfter, ih, List.append_assoc, List.append_assoc]
    rfl

/-- The step sees the edges before only through what they bind. -/
theorem problemsAfter_congr (edges : List Edge) :
    ∀ before other : List Edge, (∀ binding,
      some binding ∈ before.map graph.binding? ↔ some binding ∈ other.map graph.binding?) →
      graph.problemsAfter before edges = graph.problemsAfter other edges := by
  induction edges with
  | nil => exact fun _ _ _ => rfl
  | cons edge rest ih =>
    intro before other same
    have step : graph.problemAfter? before edge = graph.problemAfter? other edge := by
      unfold problemAfter?
      simp only [same]
    rw [problemsAfter, problemsAfter, step, ih (before ++ [edge]) (other ++ [edge])]
    intro binding
    rw [List.map_append, List.map_append, List.mem_append, List.mem_append, same]

/-! ### Two graphs -/

variable {other : Graph}

/-- An edge is classified by what its ends stand for. -/
theorem classify_congr (same : graph.node? = other.node?) : graph.classify = other.classify := by
  funext edge
  rw [classify, classify, same]

theorem binding?_congr (same : graph.classify = other.classify) :
    graph.binding? = other.binding? := by
  funext edge
  rw [binding?, binding?, same]

theorem problemsAfter_of_classify (same : graph.classify = other.classify) (edges : List Edge) :
    ∀ before : List Edge, graph.problemsAfter before edges = other.problemsAfter before edges := by
  induction edges with
  | nil => exact fun _ => rfl
  | cons edge rest ih =>
    intro before
    have step : graph.problemAfter? before edge = other.problemAfter? before edge := by
      rw [problemAfter?, problemAfter?, same, binding?_congr same]
    rw [problemsAfter, problemsAfter, step, ih]

/-- An edge binds by what its ends stand for. -/
theorem binds_congr (same : graph.node? = other.node?) {edge : Edge} {binding : Binding} :
    graph.Binds edge binding ↔ other.Binds edge binding := by
  rw [← classify_eq_ok_iff, ← classify_eq_ok_iff, classify_congr same]

/-! ### Edge by edge -/

/-- The problem of an edge, told whether an earlier one has the same two ends. -/
def problem? (graph : Graph) (repeated : Bool) (edge : Edge) : Option WiringProblem :=
  match graph.classify edge with
  | .error problem => some problem
  | .ok _ => if repeated then some (.repeatedBinding edge) else none

/-- An edge that binds repeats an earlier one exactly when it has the same two ends. -/
theorem problemAfter?_eq {before : List Edge} {edge : Edge} {repeated : Bool}
    (told : repeated = true ↔
      (edge.source, edge.target) ∈ before.map fun earlier => (earlier.source, earlier.target)) :
    graph.problemAfter? before edge = graph.problem? repeated edge := by
  unfold problemAfter? problem?
  cases classified : graph.classify edge with
  | error problem => rfl
  | ok binding =>
    have binds := classify_eq_ok_iff.mp classified
    have taken : some binding ∈ before.map graph.binding? ↔ repeated = true := by
      rw [told, List.mem_map, List.mem_map]
      refine exists_congr fun earlier => and_congr_right fun _ => ?_
      rw [binding?_eq_some_iff, binds.iff_same_ends, Prod.mk.injEq]
    simp only [taken]

/-- **The problems of the edges are reported edge by edge**, each told whether its two ends are those of
an earlier edge. -/
theorem problemsAfter_eq_reportEach (graph : Graph) :
    graph.problemsAfter [] graph.edges =
      reportEach (fun edge => (edge.source, edge.target))
        (fun repeated edge => (graph.problem? repeated edge).toList) graph.edges := by
  let ends : Edge → String × String := fun edge => (edge.source, edge.target)
  let report : Bool → Edge → List WiringProblem := fun repeated edge =>
    (graph.problem? repeated edge).toList
  have walk : ∀ edges before : List Edge,
      graph.problemsAfter before edges = reportAfter ends report (before.map ends) edges := by
    intro edges
    induction edges with
    | nil => exact fun _ => rfl
    | cons edge rest ih =>
      intro before
      have taken : reportAfter ends report ((before ++ [edge]).map ends) rest =
          reportAfter ends report (ends edge :: before.map ends) rest :=
        reportAfter_congr ends report rest _ _ fun later _ => by
          rw [List.map_append, List.mem_append, List.map_singleton, List.mem_singleton, List.mem_cons,
            or_comm]
      have told := @decide_eq_true_iff (ends edge ∈ before.map ends) _
      rw [problemsAfter, ih, taken, problemAfter?_eq told, reportAfter_cons ends report told]
  rw [reportEach_eq_reportAfter]
  exact walk graph.edges []

end Graph

end PipelineGraph
