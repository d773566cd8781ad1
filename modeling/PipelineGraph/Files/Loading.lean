/-
**Graphs and options loaded from files.**

A file whose extension is `json`, in upper or lower case, holds a graph as JSON; any other file holds it
as YAML. Options are always YAML. Their file is the one that is asked for, or else the one that the
environment names, or else the default file if it is there.
-/

import PipelineGraph.Failure
import PipelineGraph.Files.Basic
import PipelineGraph.Files.Path
import PipelineGraph.Graph.Json
import PipelineGraph.Graph.Yaml
import PipelineGraph.Options.Yaml

namespace PipelineGraph

/-- The words for a fault. -/
def Json.Fault.message : Json.Fault → String
  | .unexpectedEnd => "unexpected end of the text"
  | .malformed => "the text is not JSON"

/-- The words for an error. -/
def Json.Error.message : Json.Error → String
  | .fault cause => cause.message
  | .shape problem => problem.message Json.wording

/-- The words for an error, with its place. -/
def Yaml.Error.message : Yaml.Error → String
  | .malformed => "the text is not one YAML document"
  | .tooDeep => "recursion limit exceeded"
  | .tooManyAliases => "repetition limit exceeded"
  | .shape place problem => place.message (problem.message Yaml.wording)

/-- Why a file is not loaded. -/
inductive LoadError
  | file (path : String) (error : FileError)
  | yaml (error : Yaml.Error)
  | json (error : Json.Error)

/-- The words for an error. -/
def LoadError.message : LoadError → String
  | .file path error => (Failure.readingFile path).message error.message
  | .yaml error => Failure.readingYaml.message error.message
  | .json error => Failure.readingJson.message error.message

/-- A file with this path holds JSON. -/
def isJsonPath (path : String) : Bool :=
  (Path.extension? path).any fun extension =>
    extension.toList.map Char.toLower = "json".toList

/-- The graph in a file, by its path and text. -/
def Graph.ofFileText (path text : String) : Except LoadError Graph :=
  if isJsonPath path then (Graph.ofJson text).mapError .json
  else (Graph.ofYaml text).mapError .yaml

namespace Files

variable {m : Type → Type} [Monad m]

/-- Reads a file and makes something of its text. -/
def load {α : Type} (files : Files m) (path : String) (ofText : String → Except LoadError α) :
    m (Except LoadError α) := do
  match ← files.read path with
  | .ok text => return ofText text
  | .error cause => return .error (.file path cause)

/-- Loads a graph. -/
def loadGraph (files : Files m) (path : String) : m (Except LoadError Graph) :=
  files.load path (Graph.ofFileText path)

/-- Loads options. -/
def loadOptions (files : Files m) (path : String) : m (Except LoadError Options) :=
  files.load path fun text => (Options.ofYaml text).mapError .yaml

/-- The file of options that is used when none is named. -/
def defaultOptionsPath : String := "pipepaint.yaml"

/-- The file of options to load, if there is one. A name from the environment counts unless it is
empty. -/
def optionsPath? (files : Files m) (asked environment : Option String) : m (Option String) := do
  match asked, environment.filter (!·.isEmpty) with
  | some path, _ => return some path
  | none, some path => return some path
  | none, none =>
    return if ← files.isThere defaultOptionsPath then some defaultOptionsPath else none

end Files

end PipelineGraph
