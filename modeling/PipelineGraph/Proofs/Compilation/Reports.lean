/-
**The diagnostics of a graph, stage by stage.**

`diagnostics_eq` names the parts that the list of diagnostics is put together from, in the order of the
stages: reports on repeated ids, on edges, on datasets that stand alone, and those of the later stages.

The datasets that stand alone are the only part that looks at all edges, also at those that bind
nothing. `settled` takes their reports out of a list and `orphanReports` keeps nothing else;
`settled_diagnostics` and `orphanReports_diagnostics` say which parts each of them leaves.
-/

import PipelineGraph.Compilation
import PipelineGraph.Proofs.Wiring.Edge

namespace PipelineGraph

/-! ### Reports on datasets that stand alone -/

/-- The diagnostics that are not about datasets that stand alone. -/
def settled (diagnostics : List Diagnostic) : List Diagnostic :=
  diagnostics.filter fun diagnostic => diagnostic.code ≠ .orphanDataset

/-- The diagnostics about datasets that stand alone. -/
def orphanReports (diagnostics : List Diagnostic) : List Diagnostic :=
  diagnostics.filter fun diagnostic => diagnostic.code = .orphanDataset

section Filters

variable {diagnostics : List Diagnostic}

theorem settled_append (first second : List Diagnostic) :
    settled (first ++ second) = settled first ++ settled second :=
  List.filter_append ..

theorem orphanReports_append (first second : List Diagnostic) :
    orphanReports (first ++ second) = orphanReports first ++ orphanReports second :=
  List.filter_append ..

theorem settled_eq_self (other : ∀ diagnostic ∈ diagnostics, diagnostic.code ≠ .orphanDataset) :
    settled diagnostics = diagnostics :=
  List.filter_eq_self.mpr fun diagnostic inside => decide_eq_true (other diagnostic inside)

theorem orphanReports_eq_nil (other : ∀ diagnostic ∈ diagnostics, diagnostic.code ≠ .orphanDataset) :
    orphanReports diagnostics = [] :=
  List.filter_eq_nil_iff.mpr fun diagnostic inside same =>
    other diagnostic inside (of_decide_eq_true same)

theorem settled_eq_nil (orphans : ∀ diagnostic ∈ diagnostics, diagnostic.code = .orphanDataset) :
    settled diagnostics = [] :=
  List.filter_eq_nil_iff.mpr fun diagnostic inside same =>
    of_decide_eq_true same (orphans diagnostic inside)

theorem orphanReports_eq_self
    (orphans : ∀ diagnostic ∈ diagnostics, diagnostic.code = .orphanDataset) :
    orphanReports diagnostics = diagnostics :=
  List.filter_eq_self.mpr fun diagnostic inside => decide_eq_true (orphans diagnostic inside)

end Filters

namespace Graph

variable {graph : Graph}

/-! ### The parts -/

/-- The reports on repeated ids. -/
def nodeReports (graph : Graph) : List Diagnostic :=
  (repeats Node.id graph.nodes).map fun repeated => (WiringProblem.repeatedNode repeated.1).diagnostic

/-- The reports on edges. -/
def edgeReports (graph : Graph) : List Diagnostic :=
  (graph.problemsAfter [] graph.edges).map WiringProblem.diagnostic

/-- The reports on datasets that stand alone. -/
def aloneReports (graph : Graph) : List Diagnostic :=
  graph.orphans.map fun node => (WiringProblem.orphan node).diagnostic

/-- The reports of the wiring. -/
def wiringReports (graph : Graph) : List Diagnostic :=
  graph.wiringProblems.map WiringProblem.diagnostic

/-- The reports of the stages after the wiring. -/
def laterReports (graph : Graph) : List Diagnostic :=
  (Catalog.problems graph.wiring.datasets).map Catalog.Problem.diagnostic ++
    (FunctionModule.problems graph.wiring.functions).map FunctionProblem.diagnostic ++
    (Assembly.problems graph.wiring.functions).map Assembly.Problem.diagnostic

theorem texts_congr {other : Graph} (options : Options) (wiring : graph.wiring = other.wiring) :
    graph.artifacts options = other.artifacts options := by
  rw [artifacts, artifacts, assembly, assembly, entries, entries, wiring]

/-- The texts are given out alike where they are the same and there are errors in both or in neither. -/
theorem artifacts_congr {other : Graph} (options : Options)
    (errors : hasErrors (graph.diagnostics options) = hasErrors (other.diagnostics options))
    (texts : graph.artifacts options = other.artifacts options) :
    (graph.compile options).artifacts = (other.compile options).artifacts := by
  show (if hasErrors (graph.diagnostics options) then none else some (graph.artifacts options)) =
    if hasErrors (other.diagnostics options) then none else some (other.artifacts options)
  rw [errors, texts]

theorem laterReports_congr {other : Graph} (wiring : graph.wiring = other.wiring) :
    graph.laterReports = other.laterReports := by
  rw [laterReports, laterReports, wiring]

theorem wiringReports_eq (graph : Graph) :
    graph.wiringReports = graph.nodeReports ++ graph.edgeReports ++ graph.aloneReports := by
  rw [wiringReports, wiringProblems, edgeProblems_eq, List.map_append, List.map_append, List.map_map,
    List.map_map]
  rfl

/-- The reports on edges come edge by edge. -/
theorem edgeReports_eq (graph : Graph) :
    graph.edgeReports = reportEach (fun edge => (edge.source, edge.target))
      (fun repeated edge => (graph.problem? repeated edge).toList.map WiringProblem.diagnostic)
      graph.edges := by
  rw [edgeReports, problemsAfter_eq_reportEach, map_reportEach]

/-- **The diagnostics are the reports on nodes, edges, datasets that stand alone, and those of the
later stages**, whatever the options. -/
theorem diagnostics_eq (graph : Graph) (options : Options) :
    graph.diagnostics options =
      graph.nodeReports ++ graph.edgeReports ++ graph.aloneReports ++ graph.laterReports := by
  rw [← wiringReports_eq, diagnostics, Assembly.problems_build, laterReports, wiringReports,
    List.append_assoc, List.append_assoc, List.append_assoc]

/-! ### Which parts are about datasets that stand alone -/

theorem Faulty.code_ne_orphan {before : List Edge} {edge : Edge} {problem : WiringProblem}
    (faulty : graph.Faulty before edge problem) : problem.diagnostic.code ≠ .orphanDataset := by
  cases faulty with
  | misjoins misjoins => cases misjoins <;> exact Code.noConfusion
  | repeated => exact Code.noConfusion

theorem nodeReports_other (graph : Graph) :
    ∀ diagnostic ∈ graph.nodeReports, diagnostic.code ≠ .orphanDataset := by
  intro diagnostic reported
  obtain ⟨repeated, _, rfl⟩ := List.mem_map.mp reported
  exact Code.noConfusion

theorem edgeReports_other (graph : Graph) :
    ∀ diagnostic ∈ graph.edgeReports, diagnostic.code ≠ .orphanDataset := by
  intro diagnostic reported
  obtain ⟨problem, inside, rfl⟩ := List.mem_map.mp reported
  obtain ⟨first, edge, rest, _, faulty⟩ := (mem_problemsAfter_iff _ _).mp inside
  exact faulty.code_ne_orphan

theorem aloneReports_orphan (graph : Graph) :
    ∀ diagnostic ∈ graph.aloneReports, diagnostic.code = .orphanDataset := by
  intro diagnostic reported
  obtain ⟨node, _, rfl⟩ := List.mem_map.mp reported
  rfl

theorem laterReports_other (graph : Graph) :
    ∀ diagnostic ∈ graph.laterReports, diagnostic.code ≠ .orphanDataset := by
  intro diagnostic reported
  rcases List.mem_append.mp reported with early | late
  · rcases List.mem_append.mp early with early | late
    · obtain ⟨problem, _, rfl⟩ := List.mem_map.mp early
      cases problem <;> exact Code.noConfusion
    · obtain ⟨problem, _, rfl⟩ := List.mem_map.mp late
      cases problem <;> exact Code.noConfusion
  · obtain ⟨problem, _, rfl⟩ := List.mem_map.mp late
    exact Code.noConfusion

theorem settled_wiringReports (graph : Graph) :
    settled graph.wiringReports = graph.nodeReports ++ graph.edgeReports := by
  rw [wiringReports_eq, settled_append, settled_append, settled_eq_self graph.nodeReports_other,
    settled_eq_self graph.edgeReports_other, settled_eq_nil graph.aloneReports_orphan,
    List.append_nil]

/-- **What is settled are the reports on nodes and edges and those of the later stages.** -/
theorem settled_diagnostics (graph : Graph) (options : Options) :
    settled (graph.diagnostics options) = graph.nodeReports ++ graph.edgeReports ++ graph.laterReports := by
  rw [diagnostics_eq, ← wiringReports_eq, settled_append, settled_wiringReports,
    settled_eq_self graph.laterReports_other]

/-- **What is left are the reports on datasets that stand alone.** -/
theorem orphanReports_diagnostics (graph : Graph) (options : Options) :
    orphanReports (graph.diagnostics options) = graph.aloneReports := by
  rw [diagnostics_eq, orphanReports_append, orphanReports_append, orphanReports_append,
    orphanReports_eq_nil graph.nodeReports_other, orphanReports_eq_nil graph.edgeReports_other,
    orphanReports_eq_self graph.aloneReports_orphan, orphanReports_eq_nil graph.laterReports_other,
    List.append_nil]
  rfl

end Graph

end PipelineGraph
