/-
White space inside a flow scalar, between two of its words. Blanks on one line stand for themselves;
blanks around line breaks vanish, one break becomes a space, and of several breaks the first vanishes.
-/

import PipelineGraph.Yaml.Cursor

namespace PipelineGraph.Yaml

/-- The white space since the last word. -/
inductive Gap
  | blanks (text : List Char)
  | breaks (first : List Char) (more : List Char)
  deriving DecidableEq, Inhabited, Repr

namespace Gap

/-- No white space. -/
def none : Gap := .blanks []

/-- The gap with one more blank. -/
def addBlank (c : Char) : Gap → Gap
  | .blanks text => .blanks (text ++ [c])
  | .breaks first more => .breaks first more

/-- The gap with one more line break. -/
def addBreak (text : List Char) : Gap → Gap
  | .blanks _ => .breaks text []
  | .breaks first more => .breaks first (more ++ text)

/-- The gap holds a line break. -/
def isBroken : Gap → Bool
  | .blanks _ => false
  | .breaks _ _ => true

/-- What the gap stands for between two words. -/
def text : Gap → List Char
  | .blanks text => text
  | .breaks first more =>
    if first = ['\n'] then (if more.isEmpty then [' '] else more) else first ++ more

end Gap

end PipelineGraph.Yaml
