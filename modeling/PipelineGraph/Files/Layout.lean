/-
**Where the artifacts go.**

A project stands in a directory of its own. Its package is named like the project, in canonical form and
with underscores for hyphens; the modules go to the pipeline inside the package, and the catalog to a
file named like the pipeline.
-/

import PipelineGraph.Compilation
import PipelineGraph.Files.Path

namespace PipelineGraph

/-- The places of the artifacts of a project. -/
structure Layout where
  root : String
  package : String
  pipeline : String
  deriving DecidableEq, Inhabited, Repr

/-- The name of a package: canonical, with underscores for hyphens. -/
def packageName (project : String) : String :=
  String.ofList ((canonical project).toList.map fun c => if c = '-' then '_' else c)

namespace Layout

/-- The layout of a project in a directory. -/
def ofProject (directory project : String) (options : Options) : Layout :=
  { root := Path.join directory project, package := packageName project
    pipeline := options.pipelineName }

/-- The parts of a path, each in the one before it. -/
def inside (directory : String) (parts : List String) : String := parts.foldl Path.join directory

/-- The directory of the modules. -/
def pipelineDirectory (layout : Layout) : String :=
  inside layout.root ["src", layout.package, "pipelines", layout.pipeline]

/-- The directory of the catalog. -/
def catalogDirectory (layout : Layout) : String :=
  inside layout.root ["conf", "base", "catalog"]

/-- The path of the module of functions. -/
def nodesPath (layout : Layout) : String := Path.join layout.pipelineDirectory "nodes.py"

/-- The path of the module of the pipeline. -/
def pipelinePath (layout : Layout) : String := Path.join layout.pipelineDirectory "pipeline.py"

/-- The path of the catalog. -/
def catalogPath (layout : Layout) : String :=
  Path.join layout.catalogDirectory (layout.pipeline ++ ".yml")

/-- The artifacts with their paths. -/
def files (layout : Layout) (artifacts : Artifacts) : List (String × String) :=
  [(layout.nodesPath, artifacts.functions), (layout.pipelinePath, artifacts.assembly),
   (layout.catalogPath, artifacts.catalog)]

end Layout

end PipelineGraph
