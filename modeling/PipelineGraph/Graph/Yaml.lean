/-
**Graphs read from YAML.**

The type of a node is text as it is written, and it may stand anywhere among the entries; everything
else is content. A node that is a sequence starts with its type. Problems of the fields are reported at
the list of nodes, because they are found only after a node has been read whole.
-/

import PipelineGraph.Graph.Record
import PipelineGraph.Yaml.Record

namespace PipelineGraph

open Shape

namespace Yaml.Site

/-- The kind that a text names. -/
def readKind (site : Site) : Decoder Kind := do
  site.orRefuse (Kind.ofName (← site.readText "variant identifier"))

/-- What a node should be. -/
def nodeTitle : String := "internally tagged enum NodeRecord"

/-- What a key of a node should be. -/
def nodeKeyTitle : String := "a type tag `type` or any other value"

/-- The content of a key of a node. -/
def nodeKey (site : Site) : Decoder Content :=
  contentWith (.invalidType .tagged nodeKeyTitle) nodeKeyTitle (contentWithin site.depth) site

/-- Reads the entries of a node: its type, which may stand anywhere, and the content of the others. -/
def readTagged (site : Site) (kind : Option Kind) :
    List (Site × Site) → Decoder (Kind × List (Content × Content))
  | [] =>
    match kind with
    | some kind => return (kind, [])
    | none => site.refuse (.missingField "type")
  | (key, value) :: rest => do
    match ← key.nodeKey with
    | .text "type" =>
      if kind.isSome then site.refuse (.duplicateField "type")
      else site.readTagged (some (← value.readKind)) rest
    | key => do
      let value ← value.content
      let (kind, entries) ← site.readTagged kind rest
      return (kind, (key, value) :: entries)

/-- Reads a node as its kind and its content. -/
def readNodeContent (site : Site) : Decoder (Kind × Content) := do
  let refuseOwn (tag : Option String) : Decoder Unit :=
    if Scalar.isOwnTag tag then site.refuse (.invalidType .tagged nodeTitle) else return ()
  match ← site.value with
  | .mapping tag entries => do
    refuseOwn tag
    let (kind, entries) ← site.readTagged none ((← site.enter).entries entries)
    return (kind, .map entries)
  | .sequence tag items => do
    refuseOwn tag
    match (← site.enter).items items with
    | [] => site.refuse (.missingField "type")
    | type :: rest => do
      let kind ← type.readKind
      return (kind, .sequence (← rest.mapM content))
  | .scalar scalar => do
    refuseOwn scalar.tag
    site.unexpected nodeTitle (.scalar scalar)

/-- Reads the nodes, each into content and then into its fields. -/
def readNodes (site : Site) : Decoder (List Node) :=
  site.readSequence fun item => do
    let (kind, content) ← item.readNodeContent
    site.orRefuse (Node.ofContent kind content)

/-- Reads an edge. -/
def readEdge (site : Site) : Decoder Edge := do
  return (← site.readRecord (Edge.record asText)).edge

/-- Reads a graph. -/
def readGraph (site : Site) : Decoder Graph := do
  return (← site.readRecord (Graph.record readNodes (readSequence readEdge))).graph

end Yaml.Site

/-- The graph that a YAML text stands for. -/
def Graph.ofYaml (text : String) : Except Yaml.Error Graph := Yaml.readWith Yaml.Site.readGraph text

end PipelineGraph
