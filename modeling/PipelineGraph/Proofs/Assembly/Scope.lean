/-
**What the names in the module of the pipeline refer to.**

The module uses the names `Pipeline`, `node` and `pipeline` of the library and defines `create_pipeline`;
between the two it imports the functions of the graph, under whatever identifiers they have. A name refers
to what was bound to it last (`refersTo_eq`), so the functions go before the library and the definition goes
before the functions.

Where a graph compiles, the functions take exactly those names of the module by which some function node
goes (`ownNames_refer`). Nothing keeps a function from them: `ownNames_taken` is a graph that compiles with
nothing to report, and each step of it is built by the user's function in place of `node`.
-/

import PipelineGraph.Proofs.Compilation.SourceNames

namespace PipelineGraph

namespace Assembly

/-! ### Imports -/

/-- The names that the module takes from the library. -/
def libraryNames : List String := ["Pipeline", "node", "pipeline"]

/-- The names that the module uses for itself. -/
def ownNames : List String := libraryNames ++ ["create_pipeline"]

/-- The modules that are imported, each with the names taken from it, in order. -/
def imports (assembly : Assembly) : List (String × List String) :=
  ("kedro.pipeline", libraryNames) ::
    if assembly.steps.isEmpty then [] else [(".nodes", assembly.functions)]

/-- The line that imports names from a module. -/
def importText (taken : String × List String) : String :=
  "from " ++ taken.1 ++ " import " ++ String.intercalate ", " taken.2 ++ "\n"

theorem join_imports (assembly : Assembly) :
    String.join (assembly.imports.map importText) =
      "from kedro.pipeline import Pipeline, node, pipeline\n" ++ assembly.importLine := by
  have library : importText ("kedro.pipeline", libraryNames) =
      "from kedro.pipeline import Pipeline, node, pipeline\n" := by decide
  rw [imports, List.map_cons, String.join_cons, library, importLine]
  split
  · rfl
  · rw [List.map_singleton, String.join_cons, String.join_nil, String.append_empty]
    rfl

/-- **The module imports, defines and calls**: the imports come first, then the definition, which calls
`pipeline` on its steps. -/
theorem exists_text_eq_imports (assembly : Assembly) (options : Options) :
    ∃ before inner, assembly.text options =
      before ++ String.join (assembly.imports.map importText) ++
        "\n\ndef create_pipeline(**kwargs) -> Pipeline:\n" ++ inner ++
        "\n    return pipeline(\n        [\n" ++ String.join (assembly.steps.map Step.text) ++
        "        ]\n    )\n" := by
  refine ⟨Source.tripleQuote ++ "\nThis is a generated Kedro pipeline definition.\nGenerated by " ++
      options.generator ++ ".\n" ++ Source.tripleQuote ++ "\n",
    "    " ++ Source.tripleQuote ++
      "Create the project's pipeline.\n\n    Returns:\n        Pipeline: The pipeline definition.\n    " ++
      Source.tripleQuote, ?_⟩
  have library : "\nfrom kedro.pipeline import Pipeline, node, pipeline\n" =
      "\n" ++ "from kedro.pipeline import Pipeline, node, pipeline\n" := rfl
  have definition : "\n\ndef create_pipeline(**kwargs) -> Pipeline:\n    " =
      "\n\ndef create_pipeline(**kwargs) -> Pipeline:\n" ++ "    " := rfl
  unfold text header opening closing
  rw [join_imports, library, definition]
  simp only [String.append_assoc]

/-! ### What names refer to -/

/-- Where a name comes from: a module, the parameters of the definition, or the definition itself. -/
inductive Origin
  | imported (source : String)
  | parameter
  | defined
  deriving DecidableEq

/-- The names that the module binds, each with its origin, in order. -/
def bindings (assembly : Assembly) : List (String × Origin) :=
  (assembly.imports.flatMap fun taken => taken.2.map fun name => (name, .imported taken.1)) ++
    [("create_pipeline", .defined)]

/-- **What a name refers to** in the body of the definition: to its parameter, else to what was bound to
the name last. -/
def refersTo (assembly : Assembly) (name : String) : Option Origin :=
  (("kwargs", .parameter) :: assembly.bindings.reverse).lookup name

theorem lookup_cons_eq_if (first name : String) (origin : Origin) (rest : List (String × Origin)) :
    ((first, origin) :: rest).lookup name = if name = first then some origin else rest.lookup name := by
  rw [List.lookup_cons]
  split
  · rename_i same
    rw [if_pos (eq_of_beq same)]
  · rename_i other
    rw [if_neg (beq_eq_false_iff_ne.mp other)]

theorem lookup_map_const (names : List String) (origin : Origin) (name : String) :
    (names.map fun other => (other, origin)).lookup name =
      if name ∈ names then some origin else none := by
  induction names with
  | nil => rfl
  | cons first names ih =>
    rw [List.map_cons, lookup_cons_eq_if, ih]
    by_cases same : name = first <;> simp [same]

/-- The functions are bound after the names of the library and before the definition. -/
theorem bindings_eq (assembly : Assembly) :
    assembly.bindings = (libraryNames.map fun name => (name, .imported "kedro.pipeline")) ++
      (assembly.functions.map fun name => (name, .imported ".nodes")) ++
        [("create_pipeline", .defined)] := by
  rw [bindings, imports, List.flatMap_cons]
  split
  · rename_i none
    rw [functions, List.isEmpty_iff.mp none]
    rfl
  · rw [List.flatMap_singleton]

/-- **The last binding counts**: parameters go before the definition, the definition before the functions,
and these before the library. -/
theorem refersTo_eq (assembly : Assembly) (name : String) :
    assembly.refersTo name =
      if name = "kwargs" then some .parameter
      else if name = "create_pipeline" then some .defined
      else if name ∈ assembly.functions then some (.imported ".nodes")
      else if name ∈ libraryNames then some (.imported "kedro.pipeline")
      else none := by
  rw [refersTo, bindings_eq, List.reverse_append, List.reverse_append, ← List.map_reverse,
    ← List.map_reverse, List.reverse_singleton, List.singleton_append, lookup_cons_eq_if,
    lookup_cons_eq_if, List.lookup_append, lookup_map_const, lookup_map_const]
  simp only [List.mem_reverse]
  split
  · rfl
  · split
    · rfl
    · split <;> rfl

/-- A name of the library refers to the library unless a function takes it. -/
theorem refersTo_libraryName (assembly : Assembly) {name : String} (own : name ∈ libraryNames) :
    assembly.refersTo name =
      some (.imported (if name ∈ assembly.functions then ".nodes" else "kedro.pipeline")) := by
  have notParameter : name ≠ "kwargs" := by
    rintro rfl
    exact absurd own (by decide)
  have notDefinition : name ≠ "create_pipeline" := by
    rintro rfl
    exact absurd own (by decide)
  rw [refersTo_eq, if_neg notParameter, if_neg notDefinition, if_pos own]
  split <;> rfl

/-- A function is called by its steps unless it is named as the definition or its parameter. -/
theorem refersTo_function_iff (assembly : Assembly) {func : String}
    (inside : func ∈ assembly.functions) :
    assembly.refersTo func = some (.imported ".nodes") ↔ func ∉ ["kwargs", "create_pipeline"] := by
  rw [refersTo_eq, if_pos inside]
  split
  · simp_all
  · split <;> simp_all

end Assembly

namespace Graph

/-- **The names that the module of a graph uses for itself.** It imports from the functions exactly those
by which a function node goes. The names of the library refer to the library unless they are imported
again; `create_pipeline` refers to the definition always, and functions are called as imported unless they
are named as the definition or its parameter. -/
theorem ownNames_refer (graph : Graph) (options : Options)
    (success : (graph.compile options).success = true) :
    (∃ before inner, (graph.assembly options).text options =
      before ++ String.join ((graph.assembly options).imports.map Assembly.importText) ++
        "\n\ndef create_pipeline(**kwargs) -> Pipeline:\n" ++ inner ++
        "\n    return pipeline(\n        [\n" ++
        String.join ((graph.assembly options).steps.map Step.text) ++ "        ]\n    )\n") ∧
      (∀ name ∈ Assembly.ownNames, name ∈ (graph.assembly options).functions ↔
        ∃ node ∈ graph.nodes, node.identifier? = some name) ∧
      (∀ name ∈ Assembly.libraryNames, (graph.assembly options).refersTo name =
        some (.imported (if name ∈ (graph.assembly options).functions then ".nodes"
          else "kedro.pipeline"))) ∧
      (graph.assembly options).refersTo "create_pipeline" = some .defined ∧
      ∀ func ∈ (graph.assembly options).functions,
        ((graph.assembly options).refersTo func = some (.imported ".nodes") ↔
          func ∉ ["kwargs", "create_pipeline"]) := by
  obtain ⟨⟨ids, _⟩, _⟩ := (success_iff_stages graph options).mp success
  refine ⟨Assembly.exists_text_eq_imports _ options, fun name _ => ?_,
    fun name => Assembly.refersTo_libraryName _, Assembly.refersTo_eq _ _,
    fun func => Assembly.refersTo_function_iff _⟩
  rw [mem_functions_assembly_iff, mem_identifiers_iff ids]

/-- Two functions, one of which goes by the name of the definition. -/
def namedAsDefinition : Graph :=
  { nodes :=
      [{ id := "f1", label := "Create Pipeline", payload := .function {} },
       { id := "f2", label := "Sort", payload := .function { functionName := some "Sort" } }]
    edges := [] }

/-- The names of the library refer to the library, and the function does not take the definition's name. -/
theorem ownNames_refer_namedAsDefinition :
    (namedAsDefinition.assembly {}).functions = ["create_pipeline", "Sort"] ∧
      (∀ name ∈ Assembly.libraryNames,
        (namedAsDefinition.assembly {}).refersTo name = some (.imported "kedro.pipeline")) ∧
      (namedAsDefinition.assembly {}).refersTo "create_pipeline" = some .defined ∧
      (namedAsDefinition.assembly {}).refersTo "Sort" = some (.imported ".nodes") := by
  obtain ⟨_, _, library, definition, function⟩ := ownNames_refer namedAsDefinition {} (by decide)
  refine ⟨by decide, fun name own => ?_, definition, (function "Sort" (by decide)).mpr (by decide)⟩
  have free : ∀ name ∈ Assembly.libraryNames, name ∉ (namedAsDefinition.assembly {}).functions := by
    decide
  rw [library name own, if_neg (free name own)]

/-- A function with the name of one of the library's. -/
def namedAsNode : Graph :=
  { nodes :=
      [{ id := "f1", label := "Node"
         payload := .function { body := some "return None", description := some "Builds a node" } }]
    edges := [] }

/-- **A function takes a name that the module uses**, in a graph that compiles with nothing to report: the
call of `node` in every step is a call of the function. -/
theorem ownNames_taken :
    (namedAsNode.compile {}).success = true ∧ (namedAsNode.compile {}).diagnostics = [] ∧
      (namedAsNode.assembly {}).functions = ["node"] ∧ "node" ∈ Assembly.ownNames ∧
      (namedAsNode.assembly {}).refersTo "node" = some (.imported ".nodes") := by
  decide

end Graph

end PipelineGraph
