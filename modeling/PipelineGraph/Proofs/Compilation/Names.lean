/-
**Every bad name is reported.**

Functions are checked where they are defined, but the names of their parameters are those of datasets
and checked in the catalog, and there only for a dataset that has its name to itself or is the first
with it. `bad_names_reported` says that nothing slips through, whether the graph compiles or not: a
report is missing only where all names are identifiers, and each report is at something with a bad name.

`mem_diagnostics_invalid_iff` is the exact account: the reports are those on the first dataset with each
bad name and on each function with a bad identifier.
-/

import PipelineGraph.Proofs.Compilation.Verdict
import PipelineGraph.Proofs.Wiring.Conservation

namespace PipelineGraph

/-! ### The two checks -/

/-- **The catalog checks the first dataset with each name.** -/
theorem Catalog.mem_problems_invalidName_iff {datasets : List DatasetRef} {dataset : DatasetRef} :
    .invalidName dataset ∈ Catalog.problems datasets ↔
      dataset ∈ firsts DatasetRef.name datasets ∧ isIdentifier dataset.name = false := by
  have pair : ∀ pair : DatasetRef × Option DatasetRef, .invalidName dataset ∈ Catalog.problemsOf pair ↔
      pair = (dataset, none) ∧ isIdentifier dataset.name = false := by
    rintro ⟨other, earlier⟩
    cases earlier with
    | some first => simp [Catalog.problemsOf]
    | none =>
      rw [Catalog.problemsOf, List.mem_append]
      constructor
      · rintro (invalid | undescribed)
        · split at invalid
          · cases invalid
          · rename_i bad
            cases List.mem_singleton.mp invalid
            exact ⟨rfl, Bool.eq_false_iff.mpr bad⟩
        · split at undescribed
          · cases List.mem_singleton.mp undescribed
          · cases undescribed
      · rintro ⟨same, bad⟩
        cases same
        exact .inl (by rw [bad]; exact List.mem_singleton_self _)
  rw [Catalog.problems, List.mem_flatMap, mem_firsts_iff]
  simp only [pair]
  constructor
  · rintro ⟨_, inside, rfl, bad⟩
    exact ⟨inside, bad⟩
  · rintro ⟨inside, bad⟩
    exact ⟨_, inside, rfl, bad⟩

/-- **The module of functions checks each function.** -/
theorem FunctionModule.mem_problems_invalidIdentifier_iff {functions : List FunctionRef}
    {function : FunctionRef} :
    .invalidIdentifier function ∈ FunctionModule.problems functions ↔
      function ∈ functions ∧ isIdentifier function.identifier = false := by
  have own : ∀ other : FunctionRef, .invalidIdentifier function ∈ other.problems ↔
      other = function ∧ isIdentifier function.identifier = false := by
    intro other
    rw [FunctionRef.problems, List.mem_append, List.mem_append]
    constructor
    · rintro ((body | description) | invalid)
      · split at body
        · cases List.mem_singleton.mp body
        · cases body
      · split at description
        · cases List.mem_singleton.mp description
        · cases description
      · split at invalid
        · cases invalid
        · rename_i bad
          cases List.mem_singleton.mp invalid
          exact ⟨rfl, Bool.eq_false_iff.mpr bad⟩
    · rintro ⟨rfl, bad⟩
      exact .inr (by rw [bad]; exact List.mem_singleton_self _)
  rw [FunctionModule.problems, List.mem_flatMap]
  simp only [own]
  constructor
  · rintro ⟨_, inside, rfl, bad⟩
    exact ⟨inside, bad⟩
  · rintro ⟨inside, bad⟩
    exact ⟨_, inside, rfl, bad⟩

namespace Graph

variable {graph : Graph}

/-! ### The reports on names -/

/-- **The report on a bad name**, of the first dataset with it or of a function. -/
inductive ReportsName (graph : Graph) : Diagnostic → Prop
  | dataset {dataset : DatasetRef} (kept : dataset ∈ firsts DatasetRef.name graph.wiring.datasets)
      (bad : isIdentifier dataset.name = false) :
      ReportsName graph (Catalog.Problem.invalidName dataset).diagnostic
  | function {function : FunctionRef} (inside : function ∈ graph.wiring.functions)
      (bad : isIdentifier function.identifier = false) :
      ReportsName graph (FunctionProblem.invalidIdentifier function).diagnostic

/-- The wiring reports no names. -/
theorem code_wiringReports {diagnostic : Diagnostic} (inside : diagnostic ∈ graph.wiringReports) :
    diagnostic.code ≠ .invalidIdentifier := by
  rw [wiringReports_eq, List.mem_append, List.mem_append] at inside
  rcases inside with (node | edge) | alone
  · obtain ⟨repeated, _, rfl⟩ := List.mem_map.mp node
    exact Code.noConfusion
  · obtain ⟨problem, isProblem, rfl⟩ := List.mem_map.mp edge
    obtain ⟨_, _, _, _, faulty⟩ := (mem_problemsAfter_iff _ _).mp isProblem
    intro same
    have codes := faulty.code_mem
    rw [same] at codes
    exact absurd codes (by decide)
  · obtain ⟨node, _, rfl⟩ := List.mem_map.mp alone
    exact Code.noConfusion

/-- **The diagnostics about names are the reports on bad names.** -/
theorem mem_diagnostics_invalid_iff {options : Options} {diagnostic : Diagnostic} :
    diagnostic ∈ graph.diagnostics options ∧ diagnostic.code = .invalidIdentifier ↔
      graph.ReportsName diagnostic := by
  constructor
  · rintro ⟨inside, code⟩
    rw [diagnostics, List.mem_append, List.mem_append, List.mem_append] at inside
    rcases inside with ((wiring | catalog) | function) | step
    · exact absurd code (code_wiringReports wiring)
    · obtain ⟨problem, reported, rfl⟩ := List.mem_map.mp catalog
      cases problem with
      | nameTaken _ _ => cases code
      | invalidName dataset =>
        obtain ⟨kept, bad⟩ := Catalog.mem_problems_invalidName_iff.mp reported
        exact .dataset kept bad
      | noDescription _ => cases code
    · obtain ⟨problem, reported, rfl⟩ := List.mem_map.mp function
      cases problem with
      | emptyBody _ => cases code
      | noDescription _ => cases code
      | invalidIdentifier function =>
        obtain ⟨isFunction, bad⟩ := FunctionModule.mem_problems_invalidIdentifier_iff.mp reported
        exact .function isFunction bad
    · obtain ⟨problem, _, rfl⟩ := List.mem_map.mp step
      cases code
  · intro reports
    rw [diagnostics, List.mem_append, List.mem_append, List.mem_append]
    cases reports with
    | dataset kept bad =>
      have reported := Catalog.mem_problems_invalidName_iff.mpr ⟨kept, bad⟩
      exact ⟨.inl (.inl (.inr (List.mem_map_of_mem reported))), rfl⟩
    | function inside bad =>
      have reported := FunctionModule.mem_problems_invalidIdentifier_iff.mpr ⟨inside, bad⟩
      exact ⟨.inl (.inr (List.mem_map_of_mem reported)), rfl⟩

/-- What a function reads or writes is a dataset of the wiring. -/
theorem mem_datasets_of_bound {function : FunctionRef} (inside : function ∈ graph.wiring.functions)
    {dataset : DatasetRef} (bound : dataset ∈ function.inputs ++ function.outputs) :
    dataset ∈ graph.wiring.datasets := by
  obtain ⟨_, inputs, outputs⟩ := bound_of_mem_functions inside
  rw [inputs, outputs, List.mem_append] at bound
  exact bound.elim mem_datasetRefs_of_mem_boundTo mem_datasetRefs_of_mem_boundTo

/-- **Where nothing is reported of names, all names are identifiers.** A dataset whose name is taken is
not checked, but the first dataset with this name is. -/
theorem isIdentifier_of_silent {options : Options}
    (silent : ∀ diagnostic ∈ graph.diagnostics options, diagnostic.code ≠ .invalidIdentifier) :
    (∀ function ∈ graph.wiring.functions, isIdentifier function.identifier = true) ∧
      ∀ dataset ∈ graph.wiring.datasets, isIdentifier dataset.name = true := by
  have unreported : ∀ diagnostic, ¬ graph.ReportsName diagnostic := by
    intro diagnostic reports
    obtain ⟨inside, code⟩ := mem_diagnostics_invalid_iff.mpr reports
    exact silent diagnostic inside code
  constructor
  · intro function inside
    exact Bool.of_not_eq_false fun bad => unreported _ (.function inside bad)
  · intro dataset inside
    obtain ⟨first, kept, same⟩ := exists_firsts DatasetRef.name _ dataset inside
    rw [← same]
    exact Bool.of_not_eq_false fun bad => unreported _ (.dataset kept bad)

/-- **Every bad name is reported.** If no diagnostic is about a name, the identifiers of all functions
and the names of all datasets that they read or write are identifiers; and each diagnostic about a name
is at a function whose identifier is none, or at a dataset whose name is none. -/
theorem bad_names_reported (graph : Graph) (options : Options) :
    ((∀ diagnostic ∈ (graph.compile options).diagnostics, diagnostic.code ≠ .invalidIdentifier) →
      ∀ function ∈ graph.wiring.functions, isIdentifier function.identifier = true ∧
        ∀ dataset ∈ function.inputs ++ function.outputs, isIdentifier dataset.name = true) ∧
      ∀ diagnostic ∈ (graph.compile options).diagnostics, diagnostic.code = .invalidIdentifier →
        (∃ function ∈ graph.wiring.functions,
          diagnostic.nodeId = some function.id ∧ isIdentifier function.identifier = false) ∨
        ∃ dataset ∈ graph.wiring.datasets,
          diagnostic.nodeId = some dataset.id ∧ isIdentifier dataset.name = false := by
  constructor
  · intro silent function inside
    obtain ⟨functions, datasets⟩ := isIdentifier_of_silent silent
    exact ⟨functions function inside,
      fun dataset bound => datasets dataset (mem_datasets_of_bound inside bound)⟩
  · intro diagnostic inside code
    cases mem_diagnostics_invalid_iff.mp ⟨inside, code⟩ with
    | dataset kept bad => exact .inr ⟨_, mem_of_mem_firsts _ kept, rfl, bad⟩
    | function isFunction bad => exact .inl ⟨_, isFunction, rfl, bad⟩

/-- A function that reads a dataset with a bad name, which an earlier dataset has as well. -/
def shadowed : Graph :=
  { nodes :=
      [{ id := "d1", label := "1st Model", payload := .dataset {} },
       { id := "d2", label := "1ST  model", payload := .dataset {} },
       { id := "f1", label := "Score", payload := .function {} }]
    edges := [⟨"e1", "d2", "f1"⟩] }

/-- The dataset that is read has a bad name and is not checked; a report is there all the same, at a
dataset with a bad name. -/
theorem bad_names_reported_shadowed :
    (∃ function ∈ shadowed.wiring.functions, ∃ dataset ∈ function.inputs ++ function.outputs,
      isIdentifier dataset.name = false) ∧
      ∃ diagnostic ∈ (shadowed.compile {}).diagnostics, diagnostic.code = .invalidIdentifier ∧
        ∃ dataset ∈ shadowed.wiring.datasets,
          diagnostic.nodeId = some dataset.id ∧ isIdentifier dataset.name = false := by
  have bad : ∃ function ∈ shadowed.wiring.functions, ∃ dataset ∈ function.inputs ++ function.outputs,
      isIdentifier dataset.name = false := by decide
  have functions : ∀ function ∈ shadowed.wiring.functions, isIdentifier function.identifier = true := by
    decide
  obtain ⟨complete, sound⟩ := bad_names_reported shadowed {}
  have reported : ∃ diagnostic ∈ (shadowed.compile {}).diagnostics,
      diagnostic.code = .invalidIdentifier := by
    by_contra silent
    obtain ⟨function, inside, dataset, bound, isBad⟩ := bad
    have good := complete (fun diagnostic isIn code => silent ⟨diagnostic, isIn, code⟩) function inside
    exact absurd (good.2 dataset bound) (Bool.eq_false_iff.mp isBad)
  obtain ⟨diagnostic, inside, code⟩ := reported
  refine ⟨bad, diagnostic, inside, code, (sound diagnostic inside code).resolve_left ?_⟩
  rintro ⟨function, isFunction, _, isBad⟩
  exact absurd (functions function isFunction) (Bool.eq_false_iff.mp isBad)

end Graph

end PipelineGraph
