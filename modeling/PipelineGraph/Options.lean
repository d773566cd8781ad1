/-
The options of a compilation: the name of the generator shown in the headers, the name of the
pipeline, the ending of step names, and the summary of functions that have no description.
-/

namespace PipelineGraph

/-- The options of a compilation. -/
structure Options where
  generator : String := "Kedro Pipeline Painter"
  pipelineName : String := "data_processing"
  stepSuffix : String := "_node"
  defaultDescription : String := "Process the input data and return the result."
  deriving DecidableEq, Inhabited, Repr

end PipelineGraph
