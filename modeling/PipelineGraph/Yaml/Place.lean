/-
Places in a document, for messages: the keys and indices on the way from the root. A key that is not
written as a scalar is shown as a question mark.
-/

namespace PipelineGraph.Yaml

/-- A place in a document. -/
inductive Place
  | root
  | key (parent : Place) (name : String)
  | index (parent : Place) (number : Nat)
  | unnamed (parent : Place)
  deriving DecidableEq, Inhabited, Repr

/-- The words for a place; the root has none. -/
def Place.text : Place → String
  | .root => ""
  | .key .root name => name
  | .key parent name => parent.text ++ "." ++ name
  | .index parent number => parent.text ++ "[" ++ toString number ++ "]"
  | .unnamed .root => "?"
  | .unnamed parent => parent.text ++ ".?"

/-- A message about a place. -/
def Place.message (place : Place) (message : String) : String :=
  match place with
  | .root => message
  | place => place.text ++ ": " ++ message

end PipelineGraph.Yaml
