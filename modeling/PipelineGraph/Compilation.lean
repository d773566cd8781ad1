/-
**Compiling a graph.**

The wiring of the graph gives the catalog, the module of functions and the module of the pipeline. The
diagnostics are those of the wiring, the catalog, the functions and the pipeline, in this order; they do
not depend on the options (`Graph.diagnostics_congr`). The artifacts are given out when no diagnostic is
an error.
-/

import PipelineGraph.Assembly.PipelineModule
import PipelineGraph.Catalog.Document
import PipelineGraph.FunctionModule

namespace PipelineGraph

/-- The texts that a graph is compiled to. -/
structure Artifacts where
  functions : String
  assembly : String
  catalog : String
  deriving DecidableEq, Inhabited, Repr

/-- The result of compiling a graph. -/
structure Compilation where
  artifacts : Option Artifacts := none
  diagnostics : List Diagnostic
  deriving DecidableEq, Inhabited, Repr

/-- Nothing is so wrong that there are no artifacts. -/
def Compilation.success (compilation : Compilation) : Bool := !hasErrors compilation.diagnostics

namespace Graph

/-- Everything that is wrong with a graph. -/
def diagnostics (graph : Graph) (options : Options) : List Diagnostic :=
  graph.wiringProblems.map WiringProblem.diagnostic ++
    (Catalog.problems graph.wiring.datasets).map Catalog.Problem.diagnostic ++
    (FunctionModule.problems graph.wiring.functions).map FunctionProblem.diagnostic ++
    (Assembly.build graph.wiring.functions options).2.map Assembly.Problem.diagnostic

/-- With any two options, the same is wrong with a graph. -/
theorem diagnostics_congr (graph : Graph) (first second : Options) :
    graph.diagnostics first = graph.diagnostics second := by
  rw [diagnostics, diagnostics, Assembly.problems_build, Assembly.problems_build]

/-- The entries of the catalog of a graph. -/
def entries (graph : Graph) : List Catalog.Entry := Catalog.entries graph.wiring.datasets

/-- The steps of the pipeline of a graph. -/
def assembly (graph : Graph) (options : Options) : Assembly :=
  Assembly.ofFunctions graph.wiring.functions options

/-- The texts of a graph, whatever is wrong with it. -/
def artifacts (graph : Graph) (options : Options) : Artifacts :=
  { functions := FunctionModule.text graph.wiring.functions options
    assembly := (graph.assembly options).text options
    catalog := Catalog.document graph.entries options }

/-- Compiles a graph. -/
def compile (graph : Graph) (options : Options) : Compilation :=
  let diagnostics := graph.diagnostics options
  { diagnostics, artifacts := if hasErrors diagnostics then none else some (graph.artifacts options) }

end Graph

end PipelineGraph
