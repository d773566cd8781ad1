/-
**Of the elements with one name, the first stands.**

The catalog and the pipeline each pass over a list, the one by the names of datasets, the other by the
identifiers of functions. `KeepsFirsts` says what such a filter does, without the walk: what it keeps is
made from the first occurrence of each name, what it reports are the other occurrences, each at its own
node and beside the first of its name, and what it keeps passes once more with nothing to report.

`filters_keep_firsts` says that both are filters of this kind. The steps of a pipeline are named with a
suffix, which keeps different names different (`Assembly.stepNames_distinct`), so a step is found by the
identifier of its function (`Assembly.step?_suffixed`).
-/

import PipelineGraph.Assembly.Basic
import PipelineGraph.Catalog.Basic
import PipelineGraph.Proofs.FirstCome

namespace PipelineGraph

/-! ### A filter by names -/

/-- The reports that a name is taken. -/
def collisions (reports : List Diagnostic) : List Diagnostic :=
  reports.filter fun report => report.code = .nameCollision

variable {α β : Type}

/-- **A filter by names.** Of the elements with one name the first is kept; at the node of each other one
an error says that the name is taken, in words about it and the first. What is kept passes once more,
and no name is found taken. -/
structure KeepsFirsts (name nodeId : α → String) (make : α → β) (words : α → α → String)
    (kept : List α → List β) (reports : List α → List Diagnostic) : Prop where
  keeps : ∀ xs, kept xs = (firstOccurrences name xs).map make
  tells : ∀ xs, List.Forall₂
    (fun x report => ∃ first, (xs.find? fun other => name other = name x) = some first ∧
      report = { code := .nameCollision, severity := .error, nodeId := some (nodeId x)
                 message := words x first })
    (laterOccurrences name xs) (collisions (reports xs))
  again : ∀ xs, kept (firstOccurrences name xs) = kept xs
  silent : ∀ xs, collisions (reports (firstOccurrences name xs)) = []

/-- **What keeps the first of each name and reports the others is a filter by names.** -/
theorem keepsFirsts_of_repeats {name nodeId : α → String} {make : α → β} {words : α → α → String}
    {kept : List α → List β} {reports : List α → List Diagnostic}
    (keeps : ∀ xs, kept xs = (firsts name xs).map make)
    (tells : ∀ xs, collisions (reports xs) = (repeats name xs).map fun pair =>
      { code := .nameCollision, severity := .error, nodeId := some (nodeId pair.1)
        message := words pair.1 pair.2 }) :
    KeepsFirsts name nodeId make words kept reports where
  keeps xs := by rw [keeps, firsts_eq_firstOccurrences]
  tells xs := by
    rw [tells, ← map_fst_repeats, List.forall₂_map_left_iff, List.forall₂_map_right_iff,
      List.forall₂_same]
    intro pair inside
    exact ⟨pair.2, find?_of_mem_repeats name inside, rfl⟩
  again xs := by
    have distinct := firstOccurrences_keys_nodup name xs
    rw [keeps, keeps, firsts_eq_self name distinct, firsts_eq_firstOccurrences]
  silent xs := by
    rw [tells, (repeats_eq_nil_iff name _).mpr (firstOccurrences_keys_nodup name xs), List.map_nil]

/-! ### The catalog -/

namespace Catalog

/-- The diagnostics of the catalog. -/
def diagnostics (datasets : List DatasetRef) : List Diagnostic :=
  (problems datasets).map Problem.diagnostic

/-- A dataset is reported as taking a name when an earlier one has it. -/
theorem collisions_problemsOf (dataset : DatasetRef) (earlier : Option DatasetRef) :
    collisions ((problemsOf (dataset, earlier)).map Problem.diagnostic) =
      (earlier.map fun first => (Problem.nameTaken dataset first).diagnostic).toList := by
  cases earlier with
  | some first => rfl
  | none =>
    rw [problemsOf]
    cases isIdentifier dataset.name <;> cases (nonBlank? dataset.description).isNone <;> rfl

theorem collisions_diagnostics (datasets : List DatasetRef) :
    collisions (diagnostics datasets) = (repeats DatasetRef.name datasets).map fun pair =>
      (Problem.nameTaken pair.1 pair.2).diagnostic := by
  rw [diagnostics, problems, repeats]
  induction withEarlier DatasetRef.name datasets with
  | nil => rfl
  | cons pair rest ih =>
    obtain ⟨dataset, earlier⟩ := pair
    rw [List.flatMap_cons, List.map_append, collisions, List.filter_append, List.filterMap_cons]
    refine (congrArg₂ _ (collisions_problemsOf dataset earlier) ih).trans ?_
    cases earlier <;> rfl

end Catalog

/-! ### The pipeline -/

namespace Assembly

/-- The diagnostics of the steps. -/
def diagnostics (functions : List FunctionRef) (options : Options) : List Diagnostic :=
  (build functions options).2.map Problem.diagnostic

theorem collisions_diagnostics (functions : List FunctionRef) (options : Options) :
    collisions (diagnostics functions options) =
      (repeats FunctionRef.identifier functions).map fun pair =>
        (Problem.mk pair.1 pair.2).diagnostic := by
  rw [collisions, List.filter_eq_self.mpr, diagnostics, problems_build, problems, List.map_map]
  · rfl
  · intro report inside
    obtain ⟨problem, _, rfl⟩ := List.mem_map.mp inside
    rfl

theorem map_name_steps (functions : List FunctionRef) (options : Options) :
    (ofFunctions functions options).steps.map Step.name =
      (firsts FunctionRef.identifier functions).map fun function =>
        function.identifier ++ options.stepSuffix := by
  rw [steps_ofFunctions, List.map_map]
  rfl

/-- **No two steps share a name**: a suffix keeps different names different. -/
theorem stepNames_distinct (functions : List FunctionRef) (options : Options) :
    ((ofFunctions functions options).steps.map Step.name).Nodup := by
  rw [map_name_steps]
  refine (firsts_pairwise FunctionRef.identifier functions).map _ fun _ _ different same => ?_
  exact different ((String.append_left_inj options.stepSuffix).mp same)

/-- **The step with the name of an identifier is that of the first function with it.** -/
theorem step?_suffixed (functions : List FunctionRef) (options : Options) (identifier : String) :
    (ofFunctions functions options).step? (identifier ++ options.stepSuffix) =
      (functions.find? fun function => function.identifier = identifier).map (stepOf options) := by
  have named : ∀ function : FunctionRef,
      (stepOf options function).name = identifier ++ options.stepSuffix ↔
        function.identifier = identifier :=
    fun function => String.append_left_inj options.stepSuffix
  rw [step?, steps_ofFunctions, List.find?_map, ← find?_firsts FunctionRef.identifier identifier functions]
  simp only [Function.comp_def, named]

end Assembly

/-! ### Both -/

/-- **Both filters keep the first of each name.** The catalog has an entry for each dataset whose name
no earlier one has, with the dataset's own storage; the pipeline has a step for each function whose
identifier no earlier one has, with the function's own inputs and outputs. The others are reported, each
at its node and beside the first of its name. Steps have names of their own, whatever the suffix, and
are found by them. -/
theorem filters_keep_firsts (functions : List FunctionRef) (options : Options) :
    KeepsFirsts DatasetRef.name DatasetRef.id
        (fun dataset =>
          { name := dataset.name, storageType := dataset.storageType, location := dataset.location
            description := nonBlank? dataset.description : Catalog.Entry })
        (fun dataset first =>
          s!"Dataset '{dataset.label}' and dataset '{first.label}' (node '{first.id}') both " ++
            s!"map to catalog name '{dataset.name}'")
        Catalog.entries Catalog.diagnostics ∧
      KeepsFirsts FunctionRef.identifier FunctionRef.id
        (fun function =>
          { nodeId := function.id, name := function.identifier ++ options.stepSuffix
            func := function.identifier, inputs := function.inputNames
            outputs := .ofNames function.outputNames : Step })
        (fun function first =>
          s!"Function '{function.label}' and function '{first.label}' (node '{first.id}') both " ++
            s!"compile to identifier '{function.identifier}'")
        (fun functions => (Assembly.ofFunctions functions options).steps)
        (fun functions => Assembly.diagnostics functions options) ∧
      ((Assembly.ofFunctions functions options).steps.map Step.name).Nodup ∧
      ∀ identifier : String,
        ((Assembly.ofFunctions functions options).step? (identifier ++ options.stepSuffix)).map
            Step.nodeId =
          (functions.find? fun function => function.identifier = identifier).map FunctionRef.id := by
  refine ⟨keepsFirsts_of_repeats (fun _ => rfl) Catalog.collisions_diagnostics,
    keepsFirsts_of_repeats (fun functions => Assembly.steps_ofFunctions functions options)
      (fun functions => Assembly.collisions_diagnostics functions options),
    Assembly.stepNames_distinct functions options, fun identifier => ?_⟩
  rw [Assembly.step?_suffixed, Option.map_map]
  rfl

end PipelineGraph
