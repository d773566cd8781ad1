/-
What the program was doing when something failed, and the words for it with the cause.
-/

namespace PipelineGraph

/-- What failed. -/
inductive Failure
  | readingFile (path : String)
  | readingYaml
  | readingJson
  | writingCatalogEntry
  | writingVizDocument
  deriving DecidableEq, Inhabited, Repr

/-- The words for a failure and its cause. -/
def Failure.message (failure : Failure) (cause : String) : String :=
  match failure with
  | .readingFile path => s!"Failed to read '{path}': {cause}"
  | .readingYaml => s!"Invalid YAML: {cause}"
  | .readingJson => s!"Invalid JSON: {cause}"
  | .writingCatalogEntry => s!"Failed to serialize catalog entry: {cause}"
  | .writingVizDocument => s!"Failed to serialize Kedro-Viz document: {cause}"

end PipelineGraph
