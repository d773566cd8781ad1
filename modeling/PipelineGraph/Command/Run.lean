/-
**Running a request.**

First the options are loaded, then the graph; then the graph is compiled, checked or converted. The
artifacts of a compilation are printed or written into a project. Files are written only when no
diagnostic is an error. A compilation exits by whether there are artifacts, a check by whether there was
success.
-/

import PipelineGraph.Command.Outcome
import PipelineGraph.Command.Request
import PipelineGraph.Export.Viz
import PipelineGraph.Files.Layout
import PipelineGraph.Files.Loading

namespace PipelineGraph

/-- The graph in another notation. -/
def Graph.convert (graph : Graph) : ExportFormat → String
  | .dot => graph.toDot
  | .viz => graph.toViz.toJson.indentedText

namespace Files

variable {m : Type → Type} [Monad m]

/-- Writes a file and the directories on the way to it; what fails is told with its cause. -/
def writeFile (files : Files m) (path text : String) : m (Except (String × String) Unit) := do
  let directory := (Path.parent? path).getD ""
  match ← files.createDirectories directory with
  | .error cause => return .error (s!"Failed to create '{directory}'", cause.message)
  | .ok () =>
    match ← files.write path text with
    | .error cause => return .error (s!"Failed to write '{path}'", cause.message)
    | .ok () => return .ok ()

/-- Writes files one after the other, up to the first one that fails. -/
def writeFiles (files : Files m) : List (String × String) → m (Except (String × String) Unit)
  | [] => return .ok ()
  | (path, text) :: rest => do
    match ← files.writeFile path text with
    | .error failure => return .error failure
    | .ok () => files.writeFiles rest

/-- Writes the artifacts into a project. -/
def writeProject (files : Files m) (project : String) (layout : Layout) (artifacts : Artifacts)
    (printed : Printed) : m Outcome := do
  match ← files.writeFiles (layout.files artifacts) with
  | .ok () => return (printed.say s!"Wrote project '{project}' to {layout.root}\n").exit 0
  | .error (message, cause) => return printed.fail message cause

/-- Does what is to be done with a graph. -/
def perform (files : Files m) (task : Task) (graph : Graph) (options : Options) : m Outcome :=
  match task with
  | .compile directory project json =>
    let compilation := graph.compile options
    let printed := compilation.report json
    match compilation.artifacts, directory with
    | none, _ => return printed.exit 1
    | some artifacts, some directory =>
      files.writeProject project (.ofProject directory project options) artifacts printed
    | some artifacts, none =>
      return (if json then printed else printed.print (artifacts.listing options)).exit 0
  | .check json =>
    let compilation := { graph.compile options with artifacts := none }
    return (compilation.report json).exit (if compilation.success then 0 else 1)
  | .convert format => return ({ output := graph.convert format } : Printed).exit 0

/-- Loads the options that a request asks for. Without a file they are the defaults. -/
def requestOptions (files : Files m) (asked environment : Option String) :
    m (Except (String × LoadError) Options) := do
  match ← files.optionsPath? asked environment with
  | none => return .ok {}
  | some path => return (← files.loadOptions path).mapError (path, ·)

/-- Runs a request. `environment` is the file of options that the environment names. -/
def run (files : Files m) (request : Request) (environment : Option String) : m Outcome := do
  match ← files.requestOptions request.optionsPath environment with
  | .error (path, cause) =>
    return ({} : Printed).fail s!"Failed to load config '{path}'" cause.message
  | .ok options =>
    match ← files.loadGraph request.graphPath with
    | .error cause =>
      return ({} : Printed).fail s!"Failed to load graph '{request.graphPath}'" cause.message
    | .ok graph => files.perform request.task graph options

end Files

/-- The name and version of the program. -/
def versionLine : String := "pipepaint 0.1.0\n"

/-- How the program is called. -/
def usage : String :=
  "Usage: pipepaint [--config FILE] [--log-level LEVEL] COMMAND\n\n" ++
    "  compile GRAPH [--out DIRECTORY] [--project NAME] [--json]\n" ++
    "  check GRAPH [--json]\n" ++
    "  export GRAPH [--format dot|viz]\n"

/-- Runs the program with its arguments. -/
def runArguments {m : Type → Type} [Monad m] (files : Files m) (arguments : List String)
    (environment : Option String) : m Outcome :=
  match Request.ofArguments arguments with
  | .ok request => files.run request environment
  | .error .misuse => return { exitCode := 2 }
  | .error .help => return { output := usage }
  | .error .version => return { output := versionLine }

end PipelineGraph
