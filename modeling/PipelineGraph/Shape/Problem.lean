/-
Problems of shape: a well-formed input that does not say what it should. Each cause has its own
constructor, and `message` has the words.
-/

import PipelineGraph.Shape.Found

namespace PipelineGraph.Shape

/-- Why a well-formed value is not of the shape that is wanted. -/
inductive Problem
  | invalidType (found : Found) (expected : String)
  | invalidValue (found : Found) (expected : String)
  | invalidLength (length : Nat) (expected : String)
  | missingField (name : String)
  | duplicateField (name : String)
  | unknownKind (name : String)
  /-- A value with a tag of its own inside a node. -/
  | taggedContent

/-- The words for a problem. -/
def Problem.message (wording : Wording) : Problem → String
  | .invalidType found expected =>
    "invalid type: " ++ found.describe wording ++ ", expected " ++ expected
  | .invalidValue found expected =>
    "invalid value: " ++ found.describe wording ++ ", expected " ++ expected
  | .invalidLength length expected =>
    "invalid length " ++ toString length ++ ", expected " ++ expected
  | .missingField name => "missing field " ++ quoted name
  | .duplicateField name => "duplicate field " ++ quoted name
  | .unknownKind name =>
    "unknown variant " ++ quoted name ++ ", expected `dataset` or `function`"
  | .taggedContent => "untagged and internally tagged enums do not support enum input"

/-- A number of elements, in words. -/
def elements (count : Nat) : String :=
  if count = 1 then "1 element" else toString count ++ " elements"

end PipelineGraph.Shape
