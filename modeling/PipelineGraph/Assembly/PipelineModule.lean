/-
**The module of the pipeline.**

It imports the functions and defines `create_pipeline`, which lists the steps with their inputs,
outputs and names. Names are string literals; a step without outputs writes `None`, a step with one
output that name alone, and any other step a list.
-/

import PipelineGraph.Assembly.Basic
import PipelineGraph.Source.Docstring
import PipelineGraph.Source.Literal

namespace PipelineGraph

/-- The outputs as an expression. -/
def StepOutputs.text : StepOutputs → String
  | .none => "None"
  | .single name => Source.literal name
  | .many names => Source.literalList names

/-- The lines of a step. -/
def Step.text (step : Step) : String :=
  "            node(\n                func=" ++ step.func ++
    ",\n                inputs=" ++ Source.literalList step.inputs ++
    ",\n                outputs=" ++ step.outputs.text ++
    ",\n                name=" ++ Source.literal step.name ++ ",\n            ),\n"

namespace Assembly

/-- The head of the module. -/
def header (options : Options) : String :=
  Source.tripleQuote ++ "\nThis is a generated Kedro pipeline definition.\nGenerated by " ++
    options.generator ++ ".\n" ++ Source.tripleQuote ++
    "\nfrom kedro.pipeline import Pipeline, node, pipeline\n"

/-- The line that imports the functions; none if there is no step. -/
def importLine (assembly : Assembly) : String :=
  if assembly.steps.isEmpty then ""
  else "from .nodes import " ++ String.intercalate ", " assembly.functions ++ "\n"

/-- The definition up to the first step. -/
def opening : String :=
  "\n\ndef create_pipeline(**kwargs) -> Pipeline:\n    " ++ Source.tripleQuote ++
    "Create the project's pipeline.\n\n    Returns:\n        Pipeline: The pipeline definition.\n    " ++
    Source.tripleQuote ++ "\n    return pipeline(\n        [\n"

/-- The definition after the last step. -/
def closing : String := "        ]\n    )\n"

/-- The module of the pipeline. -/
def text (assembly : Assembly) (options : Options) : String :=
  header options ++ assembly.importLine ++ opening ++
    String.join (assembly.steps.map Step.text) ++ closing

end Assembly

end PipelineGraph
