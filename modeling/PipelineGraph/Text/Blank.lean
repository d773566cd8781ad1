/-
White space: the characters of the Unicode property `White_Space`, text trimmed of them at its ends,
and blank text, which holds nothing else. `trim_eq_nil_iff` says that trimming empties exactly the
blank texts.
-/

import PipelineGraph.Text.Ranges

namespace PipelineGraph.Text

/-- The stretches of the property `White_Space`. -/
def whiteRanges : List (Nat × Nat) :=
  [(0x9, 0xD), (0x20, 0x20), (0x85, 0x85), (0xA0, 0xA0), (0x1680, 0x1680), (0x2000, 0x200A),
   (0x2028, 0x2029), (0x202F, 0x202F), (0x205F, 0x205F), (0x3000, 0x3000)]

/-- White space in the sense of Unicode. -/
def isWhite (c : Char) : Bool := inRanges whiteRanges c.toNat

/-- The characters after the leading white space. -/
def trimStartChars (text : List Char) : List Char := text.dropWhile isWhite

/-- The characters before the trailing white space. -/
def trimEndChars (text : List Char) : List Char := (text.reverse.dropWhile isWhite).reverse

/-- The characters between the leading and the trailing white space. -/
def trimChars (text : List Char) : List Char := trimEndChars (trimStartChars text)

theorem dropWhite_eq_nil_iff (text : List Char) :
    text.dropWhile isWhite = [] ↔ text.all isWhite = true := by
  induction text with
  | nil => simp
  | cons c rest ih => by_cases white : isWhite c = true <;> simp_all

/-- Trimming empties exactly the blank texts. -/
theorem trim_eq_nil_iff (text : List Char) : trimChars text = [] ↔ text.all isWhite = true := by
  simp only [trimChars, trimEndChars, trimStartChars, List.reverse_eq_nil_iff,
    dropWhite_eq_nil_iff, List.all_reverse]
  induction text with
  | nil => simp
  | cons c rest ih => by_cases white : isWhite c = true <;> simp_all

end PipelineGraph.Text

namespace PipelineGraph

/-- The text without white space at either end. -/
def trim (text : String) : String := String.ofList (Text.trimChars text.toList)

/-- The text without white space at its end. -/
def trimEnd (text : String) : String := String.ofList (Text.trimEndChars text.toList)

/-- The text is empty or holds white space only. -/
def isBlank (text : String) : Bool := text.toList.all Text.isWhite

/-- An optional text, less the blank ones. -/
def nonBlank? (text : Option String) : Option String := text.filter fun written => !isBlank written

end PipelineGraph
