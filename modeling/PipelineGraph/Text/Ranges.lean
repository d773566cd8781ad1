/-
Sets of code points, written as lists of stretches with both ends included. The tables of character
properties are written in this form.
-/

namespace PipelineGraph.Text

/-- The code point lies in one of the stretches. -/
def inRanges (ranges : List (Nat × Nat)) (code : Nat) : Bool :=
  ranges.any fun range => range.1 ≤ code && code ≤ range.2

theorem inRanges_iff {ranges : List (Nat × Nat)} {code : Nat} :
    inRanges ranges code = true ↔ ∃ range ∈ ranges, range.1 ≤ code ∧ code ≤ range.2 := by
  simp [inRanges]

end PipelineGraph.Text
