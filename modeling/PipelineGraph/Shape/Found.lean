/-
**What stands where something else was expected.**

Messages about values of a wrong shape name what was found. Both input formats use the same words,
except for the value that means nothing and for the layout of numbers.
-/

import PipelineGraph.Decimal.Text
import PipelineGraph.Text.Visible

namespace PipelineGraph.Shape

/-- A value, as far as a message about it goes. -/
inductive Found
  | nothing
  | bool (value : Bool)
  | integer (value : Int)
  /-- An integer beyond 64 bits. -/
  | wide (value : Int)
  | float (value : Float)
  | text (value : String)
  | sequence
  | map
  /-- A value with a tag of its own. -/
  | tagged

/-- How an input format words its messages. -/
structure Wording where
  /-- The word for the value that means nothing. -/
  nothing : String
  /-- The layout of numbers. -/
  layout : Decimal.Layout

/-- An integer with a sign if it is negative. -/
def integerText (value : Int) : String :=
  (if value < 0 then "-" else "") ++ toString value.natAbs

/-- A text between backquotes. -/
def quoted (text : String) : String := "`" ++ text ++ "`"

/-- The words for a value. -/
def Found.describe (wording : Wording) : Found → String
  | .nothing => wording.nothing
  | .bool value => "boolean " ++ quoted (if value then "true" else "false")
  | .integer value => "integer " ++ quoted (integerText value)
  | .wide value =>
    "integer " ++ quoted (integerText value) ++ (if value < 0 then " as i128" else " as u128")
  | .float value => "floating point " ++ quoted (Decimal.floatText wording.layout value)
  | .text value => "string " ++ shown value
  | .sequence => "sequence"
  | .map => "map"
  | .tagged => "enum"

end PipelineGraph.Shape
