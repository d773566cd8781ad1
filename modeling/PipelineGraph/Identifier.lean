/-
**Names of things in the generated project.**

The canonical name of a label has one underscore for each stretch of white space and the lower case
of every other character. An identifier starts with an underscore or a letter and goes on with
underscores, letters and numerals.
-/

import PipelineGraph.Text.Blank
import PipelineGraph.Text.LowerCase
import PipelineGraph.Text.Numeric

namespace PipelineGraph

namespace Text

/-- The canonical form of a text; `afterWhite` says that the character before it was white. -/
def canonicalChars (afterWhite : Bool) : List Char → List Char
  | [] => []
  | c :: rest =>
    if isWhite c then
      if afterWhite then canonicalChars true rest else '_' :: canonicalChars true rest
    else lowerChar c ++ canonicalChars false rest

/-- The character may start an identifier. -/
def startsIdentifier (c : Char) : Bool := c == '_' || isAlphabetic c

/-- The character may stand in an identifier after its start. -/
def continuesIdentifier (c : Char) : Bool := c == '_' || isAlphanumeric c

/-- The text is an identifier. -/
def isIdentifierChars : List Char → Bool
  | [] => false
  | first :: rest => startsIdentifier first && rest.all continuesIdentifier

theorem continuesIdentifier_of_starts {c : Char} (starts : startsIdentifier c = true) :
    continuesIdentifier c = true := by
  rw [startsIdentifier, Bool.or_eq_true] at starts
  rw [continuesIdentifier, Bool.or_eq_true]
  exact starts.imp_right isAlphanumeric_of_isAlphabetic

/-- Every character of an identifier may continue one. -/
theorem continuesIdentifier_of_mem {text : List Char} (identifier : isIdentifierChars text = true) :
    ∀ c ∈ text, continuesIdentifier c = true := by
  cases text with
  | nil => exact nofun
  | cons first rest =>
    obtain ⟨starts, continues⟩ := Bool.and_eq_true_iff.mp identifier
    exact List.forall_mem_cons.mpr
      ⟨continuesIdentifier_of_starts starts, List.all_eq_true.mp continues⟩

end Text

/-- The canonical name of a label. -/
def canonical (label : String) : String :=
  String.ofList (Text.canonicalChars false label.toList)

/-- The name is an identifier. -/
def isIdentifier (name : String) : Bool := Text.isIdentifierChars name.toList

end PipelineGraph
