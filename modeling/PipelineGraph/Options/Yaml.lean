/-
**Options read from YAML.**

A file of options names those that it sets; each is a text as it is written. A blank file sets none.
-/

import PipelineGraph.Options
import PipelineGraph.Text.Blank
import PipelineGraph.Yaml.Record

namespace PipelineGraph.Options

open Shape

/-- Options while they are read. -/
structure Draft where
  generator : Option String := none
  pipelineName : Option String := none
  stepSuffix : Option String := none
  defaultDescription : Option String := none

/-- The options of a draft, with the defaults of those that it does not set. -/
def Draft.options (draft : Draft) : Options :=
  let defaults : Options := {}
  { generator := draft.generator.getD defaults.generator
    pipelineName := draft.pipelineName.getD defaults.pipelineName
    stepSuffix := draft.stepSuffix.getD defaults.stepSuffix
    defaultDescription := draft.defaultDescription.getD defaults.defaultDescription }

/-- The fields of options, read by a reader of texts. -/
def record {ν : Type} {m : Type → Type} [Monad m] (asText : ν → m String) : Record ν m Draft where
  title := "struct CompilerOptions"
  draft := {}
  fields :=
    [⟨"generator", false, (·.generator.isSome),
      fun value draft => do return { draft with generator := some (← asText value) }⟩,
     ⟨"pipeline_name", false, (·.pipelineName.isSome),
      fun value draft => do return { draft with pipelineName := some (← asText value) }⟩,
     ⟨"step_suffix", false, (·.stepSuffix.isSome),
      fun value draft => do return { draft with stepSuffix := some (← asText value) }⟩,
     ⟨"default_description", false, (·.defaultDescription.isSome),
      fun value draft => do return { draft with defaultDescription := some (← asText value) }⟩]

/-- The options that a YAML text sets. -/
def ofYaml (text : String) : Except Yaml.Error Options :=
  if isBlank text then .ok {}
  else (Yaml.readWith (Yaml.Site.readRecord (record Yaml.Site.asText)) text).map Draft.options

end PipelineGraph.Options
