/-
**Which graphs compile.**

The verdict is spread over the stages: the wiring reports repeated ids and bad edges, the catalog names
that are taken, the steps identifiers that are taken, and each stage sees what the stages before it
left. `Graph.WellFormed` says the same of the graph as it is drawn, and `success_iff_wellFormed` that
the graphs that compile are exactly the well-formed ones.

Each stage has a lemma that says when it reports no error (`hasErrors_wiring_iff`,
`hasErrors_catalog_iff`, `hasErrors_functions`, `hasErrors_assembly_iff`). No stage hides an error of
another: when the first reports none, no node and no edge has been left out.
-/

import PipelineGraph.Compilation
import PipelineGraph.Proofs.Wiring.Resolution

namespace PipelineGraph

/-! ### Errors of a stage -/

theorem hasErrors_append (first second : List Diagnostic) :
    hasErrors (first ++ second) = (hasErrors first || hasErrors second) :=
  List.any_append

theorem hasErrors_map_eq_false_iff {α : Type} (report : α → Diagnostic) (problems : List α) :
    hasErrors (problems.map report) = false ↔
      ∀ problem ∈ problems, (report problem).isError = false := by
  rw [hasErrors, List.any_map, List.any_eq_false]
  simp only [Function.comp_apply, Bool.not_eq_true]

/-- Where each problem is an error, there is no error exactly when there is no problem. -/
theorem hasErrors_map_eq_false_iff_nil {α : Type} {report : α → Diagnostic}
    (errors : ∀ problem, (report problem).isError = true) (problems : List α) :
    hasErrors (problems.map report) = false ↔ problems = [] := by
  rw [hasErrors_map_eq_false_iff, List.eq_nil_iff_forall_not_mem]
  refine forall_congr' fun problem => ?_
  rw [errors problem]
  exact ⟨fun silent inside => Bool.noConfusion (silent inside),
    fun absent inside => (absent inside).elim⟩

/-- **The catalog reports no error exactly when the names are pairwise distinct.** -/
theorem hasErrors_catalog_iff (datasets : List DatasetRef) :
    hasErrors ((Catalog.problems datasets).map Catalog.Problem.diagnostic) = false ↔
      (datasets.map DatasetRef.name).Nodup := by
  have pair : ∀ pair : DatasetRef × Option DatasetRef,
      (∀ problem ∈ Catalog.problemsOf pair, problem.diagnostic.isError = false) ↔ pair.2 = none := by
    rintro ⟨dataset, earlier⟩
    cases earlier with
    | some first => simp [Catalog.problemsOf, Catalog.Problem.diagnostic, Diagnostic.isError]
    | none =>
      -- what is left are an odd name and a missing description
      refine iff_of_true (fun problem reported => ?_) rfl
      rcases List.mem_append.mp reported with invalid | undescribed
      · split at invalid
        · cases invalid
        · cases List.mem_singleton.mp invalid
          rfl
      · split at undescribed
        · cases List.mem_singleton.mp undescribed
          rfl
        · cases undescribed
  rw [hasErrors_map_eq_false_iff, nodup_iff_withEarlier, Catalog.problems]
  simp only [List.forall_mem_flatMap, pair]

/-- **The module of functions never reports an error.** -/
theorem hasErrors_functions (functions : List FunctionRef) :
    hasErrors ((FunctionModule.problems functions).map FunctionProblem.diagnostic) = false := by
  rw [hasErrors_map_eq_false_iff]
  rintro (_ | _ | _) _ <;> rfl

/-- **The steps report no error exactly when the identifiers are pairwise distinct.** -/
theorem hasErrors_assembly_iff (functions : List FunctionRef) (options : Options) :
    hasErrors ((Assembly.build functions options).2.map Assembly.Problem.diagnostic) = false ↔
      (functions.map FunctionRef.identifier).Nodup := by
  rw [hasErrors_map_eq_false_iff_nil fun _ => rfl, Assembly.problems_build, Assembly.problems,
    List.map_eq_nil_iff, repeats_eq_nil_iff]

namespace Graph

variable {graph : Graph}

theorem Misjoins.isError {edge : Edge} {problem : WiringProblem}
    (misjoins : graph.Misjoins edge problem) : problem.diagnostic.isError = true := by
  cases misjoins <;> rfl

/-- The edges are reported without an error exactly when each of them binds. -/
theorem hasErrors_edges_iff (graph : Graph) :
    hasErrors ((graph.readEdges.filterMap edgeProblem?).map WiringProblem.diagnostic) = false ↔
      ∀ edge ∈ graph.edges, ∃ binding, graph.Binds edge binding := by
  rw [hasErrors_map_eq_false_iff, edgeProblems_eq]
  constructor
  · intro silent edge inside
    obtain ⟨first, rest, parts⟩ := List.append_of_mem inside
    cases classified : graph.classify edge with
    | ok binding => exact ⟨binding, classify_eq_ok_iff.mp classified⟩
    | error problem =>
      have misjoins := classify_eq_error_iff.mp classified
      have quiet := silent problem
        ((mem_problemsAfter_iff _ _).mpr ⟨first, edge, rest, parts, .misjoins misjoins⟩)
      rw [misjoins.isError] at quiet
      cases quiet
  · intro binds problem reported
    obtain ⟨first, edge, rest, parts, faulty⟩ := (mem_problemsAfter_iff _ _).mp reported
    obtain ⟨binding, isBound⟩ := binds edge (by rw [parts]; simp)
    cases faulty with
    | misjoins misjoins => exact absurd misjoins isBound.not_misjoins
    | repeated => rfl

/-- **The wiring reports no error exactly when no id is repeated and each edge binds.** -/
theorem hasErrors_wiring_iff (graph : Graph) :
    hasErrors (graph.wiringProblems.map WiringProblem.diagnostic) = false ↔
      (graph.nodes.map Node.id).Nodup ∧ ∀ edge ∈ graph.edges, ∃ binding, graph.Binds edge binding := by
  have nodes : hasErrors (((repeats Node.id graph.nodes).map fun repeated =>
      WiringProblem.repeatedNode repeated.1).map WiringProblem.diagnostic) = false ↔
        (graph.nodes.map Node.id).Nodup := by
    rw [List.map_map, hasErrors_map_eq_false_iff_nil fun _ => rfl, repeats_eq_nil_iff]
  have orphans : hasErrors ((graph.orphans.map WiringProblem.orphan).map
      WiringProblem.diagnostic) = false := by
    rw [List.map_map, hasErrors_map_eq_false_iff]
    exact fun _ _ => rfl
  rw [wiringProblems, List.map_append, List.map_append, hasErrors_append, hasErrors_append, orphans,
    Bool.or_false, Bool.or_eq_false_iff, nodes, hasErrors_edges_iff]

/-- **A graph compiles exactly when no stage reports an error.** -/
theorem success_iff_stages (graph : Graph) (options : Options) :
    (graph.compile options).success = true ↔
      ((graph.nodes.map Node.id).Nodup ∧ ∀ edge ∈ graph.edges, ∃ binding, graph.Binds edge binding) ∧
        (graph.wiring.datasets.map DatasetRef.name).Nodup ∧
        (graph.wiring.functions.map FunctionRef.identifier).Nodup := by
  show (!hasErrors (graph.diagnostics options)) = true ↔ _
  rw [Bool.not_eq_true', diagnostics, hasErrors_append, hasErrors_append, hasErrors_append,
    hasErrors_functions, Bool.or_false, Bool.or_eq_false_iff, Bool.or_eq_false_iff,
    hasErrors_wiring_iff, hasErrors_catalog_iff, hasErrors_assembly_iff, and_assoc]

end Graph

/-! ### The verdict on the graph as it is drawn -/

/-- The identifier of a function node: the name given to it, else the canonical name of its label. -/
def Node.identifier? (node : Node) : Option String :=
  match node.payload with
  | .dataset _ => none
  | .function payload => some (payload.givenName.getD (canonical node.label))

/-- **An edge joins two kinds**: its ends are ids of nodes, one a dataset and the other a function. -/
def Graph.Joins (graph : Graph) (edge : Edge) : Prop :=
  ∃ source ∈ graph.nodes, ∃ target ∈ graph.nodes,
    source.id = edge.source ∧ target.id = edge.target ∧
      (source.kind = .dataset ∧ target.kind = .function ∨
        source.kind = .function ∧ target.kind = .dataset)

/-- **A graph is well formed**: ids are not repeated, edges join two kinds, no two datasets share a
canonical name, and no two functions an identifier. -/
structure Graph.WellFormed (graph : Graph) : Prop where
  ids : (graph.nodes.map Node.id).Nodup
  edges : ∀ edge ∈ graph.edges, graph.Joins edge
  names : ((graph.nodesOf .dataset).map fun node => canonical node.label).Nodup
  identifiers : (graph.nodes.filterMap Node.identifier?).Nodup

namespace Graph

variable {graph : Graph}

/-- Where no id is repeated, every node is kept. -/
theorem keptNodes_eq_nodes (distinct : (graph.nodes.map Node.id).Nodup) :
    graph.keptNodes = graph.nodes :=
  firsts_eq_self Node.id distinct

theorem map_name_datasets (graph : Graph) :
    graph.wiring.datasets.map DatasetRef.name =
      (graph.keptNodes.filter fun node => node.kind = .dataset).map fun node =>
        canonical node.label := by
  refine map_filterMap_eq (fun node _ => node.isSome_datasetRef?) fun node _ dataset shown => ?_
  obtain ⟨payload, _, rfl⟩ := Node.standsFor_datasetRef? shown
  rfl

theorem map_identifier_functions (graph : Graph) :
    graph.wiring.functions.map FunctionRef.identifier =
      graph.keptNodes.filterMap Node.identifier? := by
  show (graph.keptNodes.filterMap graph.functionRef?).map FunctionRef.identifier = _
  rw [List.map_filterMap]
  refine List.filterMap_congr fun node _ => ?_
  unfold functionRef? Node.identifier?
  cases node.payload with
  | dataset _ => rfl
  | function payload => exact congrArg some (payload.identifier_eq node.label)

/-- Where no id is repeated, an id has a kind when some node with it has. -/
theorem hasKind_iff (distinct : (graph.nodes.map Node.id).Nodup) {id : String} {kind : Kind} :
    graph.HasKind id kind ↔ ∃ node ∈ graph.nodes, node.id = id ∧ node.kind = kind := by
  constructor
  · rintro ⟨node, found, isKind⟩
    exact ⟨node, mem_of_node? found, id_of_node? found, isKind⟩
  · rintro ⟨node, inside, rfl, isKind⟩
    rw [← keptNodes_eq_nodes distinct] at inside
    exact ⟨node, node?_of_mem_keptNodes inside, isKind⟩

/-- **Where no id is repeated, an edge binds exactly when it joins two kinds.** -/
theorem exists_binds_iff (distinct : (graph.nodes.map Node.id).Nodup) (edge : Edge) :
    (∃ binding, graph.Binds edge binding) ↔ graph.Joins edge := by
  constructor
  · rintro ⟨_, direction, isDataset, isFunction⟩
    obtain ⟨node, inside, id, kind⟩ := (hasKind_iff distinct).mp isDataset
    obtain ⟨other, inside', id', kind'⟩ := (hasKind_iff distinct).mp isFunction
    cases direction
    · exact ⟨node, inside, other, inside', id, id', .inl ⟨kind, kind'⟩⟩
    · exact ⟨other, inside', node, inside, id', id, .inr ⟨kind', kind⟩⟩
  · rintro ⟨source, inside, target, inside', id, id', ⟨kind, kind'⟩ | ⟨kind, kind'⟩⟩
    · exact ⟨_, .along .input ((hasKind_iff distinct).mpr ⟨source, inside, id, kind⟩)
        ((hasKind_iff distinct).mpr ⟨target, inside', id', kind'⟩)⟩
    · exact ⟨_, .along .output ((hasKind_iff distinct).mpr ⟨target, inside', id', kind'⟩)
        ((hasKind_iff distinct).mpr ⟨source, inside, id, kind⟩)⟩

theorem isSome_artifacts (graph : Graph) (options : Options) :
    (graph.compile options).artifacts.isSome = (graph.compile options).success := by
  show (if hasErrors (graph.diagnostics options) then none else some _).isSome =
    !hasErrors (graph.diagnostics options)
  cases hasErrors (graph.diagnostics options) <;> rfl

/-- A graph that compiles is compiled to its texts. -/
theorem artifacts_of_success {options : Options} (success : (graph.compile options).success = true) :
    (graph.compile options).artifacts = some (graph.artifacts options) := by
  have clean : hasErrors (graph.diagnostics options) = false := by
    simpa [Compilation.success, compile] using success
  show (if hasErrors (graph.diagnostics options) then none else some _) = _
  rw [clean]
  rfl

/-- **Exactly the well-formed graphs compile**, whatever the options, and there are artifacts exactly
when a graph compiles. -/
theorem success_iff_wellFormed (graph : Graph) (options : Options) :
    ((graph.compile options).success = true ↔ graph.WellFormed) ∧
      (graph.compile options).artifacts.isSome = (graph.compile options).success := by
  refine ⟨?_, graph.isSome_artifacts options⟩
  rw [success_iff_stages, map_name_datasets, map_identifier_functions]
  constructor
  · rintro ⟨⟨ids, binds⟩, names, identifiers⟩
    rw [keptNodes_eq_nodes ids] at names identifiers
    exact ⟨ids, fun edge inside => (exists_binds_iff ids edge).mp (binds edge inside), names,
      identifiers⟩
  · intro wellFormed
    have ids := wellFormed.ids
    rw [keptNodes_eq_nodes ids]
    exact ⟨⟨ids, fun edge inside => (exists_binds_iff ids edge).mpr (wellFormed.edges edge inside)⟩,
      wellFormed.names, wellFormed.identifiers⟩

end Graph

end PipelineGraph
