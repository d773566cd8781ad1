/-
**The module of functions.**

One Python function for every function of the wiring: the signature, a docstring and the body that
the user wrote, or a placeholder where there is none. Missing bodies, missing descriptions and names
that are no identifiers are reported; none of them keeps the text from being written.
-/

import PipelineGraph.Options
import PipelineGraph.Source.Docstring
import PipelineGraph.Text.Lines
import PipelineGraph.Wiring

namespace PipelineGraph

/-- What is missing or wrong in a function. -/
inductive FunctionProblem
  | emptyBody (function : FunctionRef)
  | noDescription (function : FunctionRef)
  | invalidIdentifier (function : FunctionRef)

/-- The diagnostic that reports a problem. -/
def FunctionProblem.diagnostic : FunctionProblem → Diagnostic
  | .emptyBody function =>
    { code := .emptyFunctionBody, severity := .warning, nodeId := some function.id
      message := s!"Function '{function.label}' has no body; a placeholder implementation is " ++
        "generated" }
  | .noDescription function =>
    { code := .noDescription, severity := .warning, nodeId := some function.id
      message := s!"Function '{function.label}' has no description" }
  | .invalidIdentifier function =>
    { code := .invalidIdentifier, severity := .warning, nodeId := some function.id
      message := s!"Function identifier '{function.identifier}' is not a valid Python identifier" }

namespace FunctionRef

/-- The problems of a function. -/
def problems (function : FunctionRef) : List FunctionProblem :=
  (if function.writtenBody.isNone then [.emptyBody function] else []) ++
    (if function.writtenDescription.isNone then [.noDescription function] else []) ++
    (if isIdentifier function.identifier then [] else [.invalidIdentifier function])

/-- The line that opens the definition. -/
def signature (function : FunctionRef) : String :=
  "def " ++ function.identifier ++ "(" ++ String.intercalate ", " function.inputNames ++ "):"

/-- The lines of the summary, the first after the opening quotes. -/
def summaryLines (function : FunctionRef) (options : Options) : List String :=
  let summary := Source.escapeDocstring
    (function.writtenDescription.getD options.defaultDescription)
  match lines summary with
  | [] => ["    " ++ Source.tripleQuote]
  | first :: rest => ("    " ++ Source.tripleQuote ++ first) :: rest.map (indentLine 4)

/-- The lines that describe the arguments. -/
def argumentLines (function : FunctionRef) : List String :=
  if function.inputs.isEmpty then []
  else "" :: "    Args:" :: function.inputs.map fun input =>
    Source.escapeDocstring ("        " ++ input.name ++ ": Input data from " ++ input.label ++ ".")

/-- The lines that describe what is returned. -/
def returnLines (function : FunctionRef) : List String :=
  "" :: "    Returns:" ::
    match function.outputs with
    | [] => ["        None."]
    | [_] => ["        Processed data."]
    | outputs => outputs.map fun output =>
      Source.escapeDocstring
        ("        " ++ output.name ++ ": Output data for " ++ output.label ++ ".")

/-- The lines of the docstring, with the quotes at both ends. -/
def docstringLines (function : FunctionRef) (options : Options) : List String :=
  function.summaryLines options ++ function.argumentLines ++ function.returnLines ++
    ["    " ++ Source.tripleQuote]

/-- What the placeholder returns: the inputs if there is one output, else the outputs. -/
def placeholderNames (function : FunctionRef) : List String :=
  if function.outputs.length = 1 then function.inputNames else function.outputNames

/-- The marker of a placeholder. -/
def placeholderMarker : String := "# TODO: not yet implemented"

/-- The lines of the body. -/
def bodyLines (function : FunctionRef) : List String :=
  match function.writtenBody with
  | some body => [indentBlock 4 (trimEnd body)]
  | none =>
    let names := function.placeholderNames
    ["    " ++ placeholderMarker,
     "    return " ++ if names.isEmpty then "None" else String.intercalate ", " names]

/-- The definition of a function, with a line feed at its end. -/
def text (function : FunctionRef) (options : Options) : String :=
  String.intercalate "\n"
    (function.signature :: function.docstringLines options ++ function.bodyLines) ++ "\n"

end FunctionRef

namespace FunctionModule

/-- The head of the module. -/
def header (options : Options) : String :=
  Source.tripleQuote ++ "\nThis module contains node functions for the pipeline.\nGenerated by " ++
    options.generator ++ ".\n" ++ Source.tripleQuote ++
    "\nfrom typing import Any, Dict, List\nimport pandas as pd\nimport numpy as np\n"

/-- The module: the head, then every function after two blank lines. -/
def text (functions : List FunctionRef) (options : Options) : String :=
  header options ++ String.join (functions.map fun function => "\n\n" ++ function.text options)

/-- The problems of the functions, function by function. -/
def problems (functions : List FunctionRef) : List FunctionProblem :=
  functions.flatMap FunctionRef.problems

end FunctionModule

end PipelineGraph
