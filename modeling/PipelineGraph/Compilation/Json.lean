/-
Diagnostics and compilations as JSON.
-/

import PipelineGraph.Compilation
import PipelineGraph.Graph.Json

namespace PipelineGraph

/-- A diagnostic. -/
def Diagnostic.toJson (diagnostic : Diagnostic) : Json.Value :=
  .object ([("code", .string diagnostic.code.name), ("message", .string diagnostic.message)] ++
    optionalMember "nodeId" diagnostic.nodeId ++ optionalMember "edgeId" diagnostic.edgeId ++
    [("severity", .string diagnostic.severity.name)])

/-- Artifacts. -/
def Artifacts.toJson (artifacts : Artifacts) : Json.Value :=
  .object
    [("functionsText", .string artifacts.functions), ("assemblyText", .string artifacts.assembly),
     ("catalogText", .string artifacts.catalog)]

/-- A compilation. Artifacts are left out when there are none. -/
def Compilation.toJson (compilation : Compilation) : Json.Value :=
  .object ([("success", .bool compilation.success)] ++
    (compilation.artifacts.map fun artifacts => ("artifacts", artifacts.toJson)).toList ++
    [("diagnostics", .array (compilation.diagnostics.map Diagnostic.toJson))])

end PipelineGraph
