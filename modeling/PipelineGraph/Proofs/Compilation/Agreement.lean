/-
**The artifacts of a graph that compiles agree.**

The catalog, the module of functions and the module of the pipeline are written apart from each other,
each from its own list. `Graph.Agreement` says how the lists fit together: entries and steps stand for
the nodes of the graph, one each and in order; the functions that are imported, defined and called are
the same; the module of functions has one definition for each step, in order, whose parameters are the
inputs of the step; and each name that a step reads or writes is the name of an entry, and occurs once
among the inputs and once among the outputs.

`agreement_of_success` derives it from the verdict alone. That no parameter is repeated is checked
nowhere: a function is bound to a dataset once (`Graph.boundTo_pairwise`), and where the names of the
datasets are pairwise distinct, one dataset is one name (`Graph.boundTo_names_nodup`).
-/

import PipelineGraph.Proofs.Compilation.Collisions
import PipelineGraph.Proofs.Compilation.Verdict
import PipelineGraph.Proofs.FunctionModule.Docstring

namespace PipelineGraph

/-! ### Agreement -/

/-- **An entry stands for a node**: it has the canonical name of the node's label, the node's storage,
and its description unless that is blank. -/
def Catalog.Entry.StandsFor (node : Node) (entry : Catalog.Entry) : Prop :=
  ∃ payload, node.payload = .dataset payload ∧
    entry = { name := canonical node.label, storageType := payload.storageType
              location := payload.location, description := nonBlank? payload.description }

/-- **A step stands for a node**: it calls the node's function, and is named by it and the suffix. -/
structure Step.StandsFor (options : Options) (node : Node) (step : Step) : Prop where
  nodeId : step.nodeId = node.id
  func : node.identifier? = some step.func
  name : step.name = step.func ++ options.stepSuffix

/-- **The artifacts of a graph agree.** -/
structure Graph.Agreement (graph : Graph) (options : Options) : Prop where
  /-- The artifacts are written from the functions, the steps and the entries. -/
  artifacts : (graph.compile options).artifacts = some
    { functions := FunctionModule.text graph.wiring.functions options
      assembly := (graph.assembly options).text options
      catalog := Catalog.document graph.entries options }
  entries : List.Forall₂ Catalog.Entry.StandsFor (graph.nodesOf .dataset) graph.entries
  entryNames : (graph.entries.map Catalog.Entry.name).Nodup
  steps : List.Forall₂ (Step.StandsFor options) (graph.nodesOf .function)
    (graph.assembly options).steps
  funcs : ((graph.assembly options).steps.map Step.func).Nodup
  stepNames : ((graph.assembly options).steps.map Step.name).Nodup
  /-- The functions imported are the functions defined. -/
  imported : (graph.assembly options).functions =
    graph.wiring.functions.map FunctionRef.identifier
  /-- The functions defined are the functions called. -/
  defined : graph.wiring.functions.map FunctionRef.identifier =
    (graph.assembly options).steps.map Step.func
  /-- The line after the head of the pipeline imports the functions called. -/
  importLine : ∃ rest, (graph.assembly options).text options = Assembly.header options ++
    (if (graph.assembly options).steps.isEmpty then "" else "from .nodes import " ++
      String.intercalate ", " ((graph.assembly options).steps.map Step.func) ++ "\n") ++ rest
  /-- The module of functions is its head and a definition for each step, in their order and each after
  two blank lines. A definition opens with the function of the step and the inputs of it; its docstring
  and its body follow, and nothing else. -/
  definitions : FunctionModule.text graph.wiring.functions options = FunctionModule.header options ++
    String.join (List.zipWith (fun step function =>
        "\n\ndef " ++ step.func ++ "(" ++ String.intercalate ", " step.inputs ++ "):\n    \"\"\"" ++
          (function.docstring options ++ "    \"\"\"\n" ++ function.bodyText))
      (graph.assembly options).steps graph.wiring.functions)
  /-- Each definition opens with the function of its step, and with the inputs of it. -/
  headers : List.Forall₂ (fun function step => ∃ rest, function.text options =
      "def " ++ step.func ++ "(" ++ String.intercalate ", " step.inputs ++ "):\n" ++ rest)
    graph.wiring.functions (graph.assembly options).steps
  parameters : graph.wiring.functions.map FunctionRef.inputNames =
    (graph.assembly options).steps.map Step.inputs
  inputs : ∀ step ∈ (graph.assembly options).steps, step.inputs.Nodup
  outputs : ∀ step ∈ (graph.assembly options).steps, step.outputs.names.Nodup
  known : ∀ step ∈ (graph.assembly options).steps, ∀ name ∈ step.inputs ++ step.outputs.names,
    name ∈ graph.entries.map Catalog.Entry.name

/-! ### The texts -/

/-- The text of a function opens with its identifier and its inputs. -/
theorem FunctionRef.text_eq_opening (function : FunctionRef) (options : Options) :
    function.text options = "def " ++ function.identifier ++ "(" ++
      String.intercalate ", " function.inputNames ++ "):\n" ++
        ("    \"\"\"" ++ (function.docstring options ++ "    \"\"\"\n" ++ function.bodyText)) := by
  have lineEnd : "\n    \"\"\"" = "\n" ++ "    \"\"\"" := rfl
  have closed : "):\n" = "):" ++ "\n" := rfl
  rw [text_eq, signature, lineEnd, closed]
  simp only [String.append_assoc]

/-- The text of the pipeline begins with its head and the line of imports. -/
theorem Assembly.exists_text_eq (assembly : Assembly) (options : Options) :
    ∃ rest, assembly.text options = header options ++
      (if assembly.steps.isEmpty then "" else "from .nodes import " ++
        String.intercalate ", " (assembly.steps.map Step.func) ++ "\n") ++ rest := by
  refine ⟨opening ++ String.join (assembly.steps.map Step.text) ++ closing, ?_⟩
  show header options ++ assembly.importLine ++ opening ++ _ ++ _ =
    header options ++ assembly.importLine ++ (opening ++ _ ++ _)
  rw [← String.append_assoc, ← String.append_assoc]

namespace Graph

variable {graph : Graph} {options : Options}

/-! ### The entries -/

theorem firstOccurrences_nodes (ids : (graph.nodes.map Node.id).Nodup) :
    firstOccurrences Node.id graph.nodes = graph.nodes := by
  rw [← firsts_eq_firstOccurrences, firsts_eq_self Node.id ids]

/-- Where no two datasets share a name, each of them has its entry. -/
theorem entries_eq (names : (graph.wiring.datasets.map DatasetRef.name).Nodup) :
    graph.entries = graph.wiring.datasets.map Catalog.Entry.ofDataset := by
  rw [entries, Catalog.entries, firsts_eq_self _ names]

theorem map_name_entries (names : (graph.wiring.datasets.map DatasetRef.name).Nodup) :
    graph.entries.map Catalog.Entry.name = graph.wiring.datasets.map DatasetRef.name := by
  rw [entries_eq names, List.map_map]
  rfl

/-- **The entries stand, in order, for the dataset nodes.** -/
theorem entries_standFor (ids : (graph.nodes.map Node.id).Nodup)
    (names : (graph.wiring.datasets.map DatasetRef.name).Nodup) :
    List.Forall₂ Catalog.Entry.StandsFor (graph.nodesOf .dataset) graph.entries := by
  have datasets := graph.resolves_wiring.datasets
  rw [firstOccurrences_nodes ids] at datasets
  rw [entries_eq names, List.forall₂_map_right_iff]
  refine datasets.imp fun node dataset stands => ?_
  obtain ⟨payload, holds, rfl⟩ := stands
  exact ⟨payload, holds, rfl⟩

/-! ### The steps -/

/-- Where no two functions share an identifier, each of them has its step. -/
theorem steps_eq (identifiers : (graph.wiring.functions.map FunctionRef.identifier).Nodup) :
    (graph.assembly options).steps = graph.wiring.functions.map (Assembly.stepOf options) := by
  rw [assembly, Assembly.steps_ofFunctions, firsts_eq_self _ identifiers]

theorem map_func_steps (identifiers : (graph.wiring.functions.map FunctionRef.identifier).Nodup) :
    (graph.assembly options).steps.map Step.func =
      graph.wiring.functions.map FunctionRef.identifier := by
  rw [steps_eq identifiers, List.map_map]
  rfl

/-- **The steps stand, in order, for the function nodes.** -/
theorem steps_standFor (ids : (graph.nodes.map Node.id).Nodup)
    (identifiers : (graph.wiring.functions.map FunctionRef.identifier).Nodup) :
    List.Forall₂ (Step.StandsFor options) (graph.nodesOf .function)
      (graph.assembly options).steps := by
  have functions := graph.resolves_wiring.functions
  rw [firstOccurrences_nodes ids] at functions
  rw [steps_eq identifiers, List.forall₂_map_right_iff]
  refine functions.imp fun node function stands => ?_
  obtain ⟨payload, holds, id, _, identifier, _⟩ := stands.fields
  refine ⟨id, ?_, rfl⟩
  show node.identifier? = some function.identifier
  rw [Node.identifier?, holds, identifier]

/-- Each definition opens with the function of its step, and with the inputs of it. -/
theorem headers_steps (identifiers : (graph.wiring.functions.map FunctionRef.identifier).Nodup) :
    List.Forall₂ (fun function step => ∃ rest, function.text options =
        "def " ++ step.func ++ "(" ++ String.intercalate ", " step.inputs ++ "):\n" ++ rest)
      graph.wiring.functions (graph.assembly options).steps := by
  rw [steps_eq identifiers, List.forall₂_map_right_iff, List.forall₂_same]
  intro function _
  exact ⟨_, function.text_eq_opening options⟩

/-- **The module of functions has a definition for each step, in order**, which opens with the function
of the step and the inputs of it. -/
theorem text_functions_eq (identifiers : (graph.wiring.functions.map FunctionRef.identifier).Nodup) :
    FunctionModule.text graph.wiring.functions options = FunctionModule.header options ++
      String.join (List.zipWith (fun step function =>
          "\n\ndef " ++ step.func ++ "(" ++ String.intercalate ", " step.inputs ++ "):\n    \"\"\"" ++
            (function.docstring options ++ "    \"\"\"\n" ++ function.bodyText))
        (graph.assembly options).steps graph.wiring.functions) := by
  have lineEnd : "):\n    \"\"\"" = "):\n" ++ "    \"\"\"" := rfl
  have opened : "\n\ndef " = "\n\n" ++ "def " := rfl
  rw [steps_eq identifiers, FunctionModule.text, List.zipWith_map_left, List.zipWith_self]
  refine congrArg _ (congrArg String.join (List.map_congr_left fun function _ => ?_))
  rw [function.text_eq_opening options, lineEnd, opened]
  simp only [String.append_assoc]
  rfl

/-! ### The names that a step reads and writes -/

/-- **Where datasets have pairwise distinct names, so have those bound to a function.** -/
theorem boundTo_names_nodup (names : (graph.wiring.datasets.map DatasetRef.name).Nodup)
    {direction : Direction} {function : String} (isFunction : graph.HasKind function .function) :
    ((graph.boundTo direction function).map DatasetRef.name).Nodup := by
  refine List.pairwise_map.mpr ((boundTo_pairwise isFunction).imp_of_mem ?_)
  intro dataset other bound bound' different same
  have equal : dataset = other := List.inj_on_of_nodup_map names
    (mem_datasetRefs_of_mem_boundTo bound) (mem_datasetRefs_of_mem_boundTo bound') same
  exact different (congrArg DatasetRef.id equal)

/-- **A step reads and writes no name twice, and only names of datasets.** -/
theorem step_names (names : (graph.wiring.datasets.map DatasetRef.name).Nodup)
    {function : FunctionRef} (inside : function ∈ graph.wiring.functions) :
    function.inputNames.Nodup ∧ function.outputNames.Nodup ∧
      ∀ name ∈ function.inputNames ++ function.outputNames,
        name ∈ graph.wiring.datasets.map DatasetRef.name := by
  obtain ⟨isFunction, inputs, outputs⟩ := bound_of_mem_functions inside
  rw [FunctionRef.inputNames, FunctionRef.outputNames, inputs, outputs]
  refine ⟨boundTo_names_nodup names isFunction, boundTo_names_nodup names isFunction, ?_⟩
  intro name bound
  rw [← List.map_append] at bound
  obtain ⟨dataset, member, rfl⟩ := List.mem_map.mp bound
  refine List.mem_map_of_mem ?_
  rcases List.mem_append.mp member with read | written
  · exact mem_datasetRefs_of_mem_boundTo read
  · exact mem_datasetRefs_of_mem_boundTo written

/-- **The artifacts of a graph that compiles agree.** -/
theorem agreement_of_success (graph : Graph) (options : Options)
    (success : (graph.compile options).success = true) : graph.Agreement options := by
  obtain ⟨⟨ids, _⟩, names, identifiers⟩ := (success_iff_stages graph options).mp success
  have steps : (graph.assembly options).steps =
      graph.wiring.functions.map (Assembly.stepOf options) := steps_eq identifiers
  have bound : ∀ step ∈ (graph.assembly options).steps, step.inputs.Nodup ∧
      step.outputs.names.Nodup ∧ ∀ name ∈ step.inputs ++ step.outputs.names,
        name ∈ graph.wiring.datasets.map DatasetRef.name := by
    intro step inside
    rw [steps] at inside
    obtain ⟨function, member, rfl⟩ := List.mem_map.mp inside
    simp only [Assembly.stepOf, StepOutputs.names_ofNames]
    exact step_names names member
  exact
    { artifacts := artifacts_of_success success
      entries := entries_standFor ids names
      entryNames := by rwa [map_name_entries names]
      steps := steps_standFor ids identifiers
      funcs := by rwa [map_func_steps identifiers]
      stepNames := Assembly.stepNames_distinct graph.wiring.functions options
      imported := map_func_steps identifiers
      defined := (map_func_steps identifiers).symm
      importLine := (graph.assembly options).exists_text_eq options
      definitions := text_functions_eq identifiers
      headers := headers_steps identifiers
      parameters := by
        rw [steps, List.map_map]
        rfl
      inputs := fun step inside => (bound step inside).1
      outputs := fun step inside => (bound step inside).2.1
      known := fun step inside => by
        rw [map_name_entries names]
        exact (bound step inside).2.2 }

/-- Two functions that share a dataset, one of them with a name of its own, and a repeated edge. -/
def shared : Graph :=
  { nodes :=
      [{ id := "d1", label := "Raw Data", payload := .dataset {} },
       { id := "f1", label := "Split", payload := .function { functionName := some " split rows " } },
       { id := "d2", label := "Model  Input", payload := .dataset {} },
       { id := "f2", label := "Train", payload := .function {} }]
    edges :=
      [⟨"e1", "d1", "f1"⟩, ⟨"e2", "f1", "d2"⟩, ⟨"e3", "d2", "f2"⟩, ⟨"e4", "d1", "f2"⟩,
       ⟨"e5", "d2", "f2"⟩] }

theorem agreement_shared : (shared.compile {}).success = true ∧ shared.Agreement {} :=
  ⟨by decide, agreement_of_success shared {} (by decide)⟩

end Graph

end PipelineGraph
