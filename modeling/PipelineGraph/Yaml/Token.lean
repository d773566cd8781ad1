/-
The tokens of YAML. Where blocks start and end is a token of its own, and so is a key, also where
nothing in the text marks it.
-/

import PipelineGraph.Yaml.Lexeme.Tag

namespace PipelineGraph.Yaml

/-- A token. -/
inductive Token
  | directive (directive : Directive)
  | documentStart
  | documentEnd
  | blockSequenceStart
  | blockMappingStart
  | blockEnd
  | flowSequenceStart
  | flowSequenceEnd
  | flowMappingStart
  | flowMappingEnd
  | blockEntry
  | flowEntry
  | key
  | value
  | alias (name : String)
  | anchor (name : String)
  | tag (tag : Tag)
  | scalar (text : String) (plain : Bool)
  deriving DecidableEq, Inhabited, Repr

end PipelineGraph.Yaml
