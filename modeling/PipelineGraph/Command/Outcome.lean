/-
What a run shows, and how a compilation is reported: its diagnostics as lines and how many there are,
or all of it as JSON.
-/

import PipelineGraph.Compilation.Json

namespace PipelineGraph

/-- What is printed, as output and about errors. -/
structure Printed where
  output : String := ""
  errors : String := ""
  deriving DecidableEq, Inhabited, Repr

/-- What a run shows: what it prints, its exit code, and the causes of its failure. -/
structure Outcome extends Printed where
  exitCode : Nat := 0
  causes : List String := []
  deriving DecidableEq, Inhabited, Repr

namespace Printed

/-- More output. -/
def print (printed : Printed) (text : String) : Printed :=
  { printed with output := printed.output ++ text }

/-- More said about errors. -/
def say (printed : Printed) (text : String) : Printed :=
  { printed with errors := printed.errors ++ text }

/-- The outcome that ends with an exit code. -/
def exit (printed : Printed) (code : Nat) : Outcome := { printed with exitCode := code }

/-- The outcome that ends with a failure. -/
def fail (printed : Printed) (message : String) (cause : String) : Outcome :=
  { printed.say ("Error: " ++ message) with exitCode := 1, causes := [cause] }

end Printed

/-- Says how many errors and warnings there are. -/
def Compilation.summary (compilation : Compilation) : String :=
  let warnings := warningCount compilation.diagnostics
  if compilation.success then s!"Compiled with {warnings} warning(s)\n"
  else
    s!"Compilation failed: {errorCount compilation.diagnostics} error(s), {warnings} warning(s)\n"

/-- Reports a compilation: all of it as JSON, or its diagnostics as lines. -/
def Compilation.report (compilation : Compilation) (json : Bool) : Printed :=
  if json then { output := compilation.toJson.indentedText ++ "\n" }
  else
    { errors := String.join (compilation.diagnostics.map fun diagnostic => diagnostic.line ++ "\n") ++
        compilation.summary }

/-- The artifacts one after the other, each under a line that names its file. -/
def Artifacts.listing (artifacts : Artifacts) (options : Options) : String :=
  "# ---- nodes.py ----\n" ++ artifacts.functions ++ "\n# ---- pipeline.py ----\n" ++
    artifacts.assembly ++ "\n# ---- " ++ options.pipelineName ++ ".yml ----\n" ++
    artifacts.catalog ++ "\n"

end PipelineGraph
