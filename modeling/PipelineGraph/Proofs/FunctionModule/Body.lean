/-
**The body of a definition.**

What the user wrote is moved right by four spaces, line by line, and stands after the line that closes
the docstring. `body_is_kept` says that it is all there, in its order, and that nothing of it stands
further left: without the four spaces, the lines of the body are those that the user wrote. What is lost is
white space after the last of them and on lines that hold nothing else.

Lines end with a line feed here. A carriage return alone is part of its line and stays in it.
-/

import PipelineGraph.Proofs.FunctionModule.Docstring

namespace PipelineGraph

namespace Text

/-! ### The last visible character -/

/-- **A text that is not blank ends visibly**, once it is trimmed. -/
theorem exists_getLast?_trimEndChars {text : List Char} (visible : text.all isWhite = false) :
    ∃ c, (trimEndChars text).getLast? = some c ∧ isWhite c = false := by
  have some : text.reverse.dropWhile isWhite ≠ [] := by
    rw [Ne, dropWhite_eq_nil_iff, List.all_reverse, visible]
    exact Bool.false_ne_true
  refine ⟨(text.reverse.dropWhile isWhite).head some, ?_, List.head_dropWhile_not isWhite some⟩
  rw [trimEndChars, List.getLast?_reverse, List.head?_eq_some_head some]

/-! ### Lines moved right -/

/-- The line, or nothing if it is blank. -/
def visibleLine (line : List Char) : List Char := if line.all isWhite then [] else line

theorem drop_indentLine (width : Nat) (line : List Char) :
    (indentLine width line).drop width = visibleLine line := by
  unfold indentLine visibleLine
  split
  · exact List.drop_nil
  · rw [List.drop_left' List.length_replicate]

theorem indentLine_cases (width : Nat) (line : List Char) :
    indentLine width line = [] ∨ List.replicate width ' ' <+: indentLine width line := by
  unfold indentLine
  split
  · exact .inl rfl
  · exact .inr (List.prefix_append _ _)

theorem notMem_indentLine {width : Nat} {line : List Char} (oneLine : '\n' ∉ line) :
    '\n' ∉ indentLine width line := by
  unfold indentLine
  split
  · exact List.not_mem_nil
  · simp [oneLine]

end Text

/-- The lines of a body that are kept: those up to its last visible character, the blank ones emptied. -/
def keptBodyLines (body : String) : List (List Char) :=
  ((Text.withFeeds (trimEnd body).toList).splitOn '\n').map Text.visibleLine

theorem splitOn_trimEnd {body : String} (visible : isBlank body = false) :
    (Text.withFeeds (trimEnd body).toList).splitOn '\n' = Text.splitLines (trimEnd body).toList := by
  obtain ⟨c, last, shown⟩ := Text.exists_getLast?_trimEndChars visible
  rw [trimEnd, String.toList_ofList]
  refine Text.splitOn_withFeeds last ?_
  rintro rfl
  exact absurd shown (by decide)

theorem keptBodyLines_eq {body : String} (visible : isBlank body = false) :
    keptBodyLines body = (Text.splitLines (trimEnd body).toList).map Text.visibleLine := by
  rw [keptBodyLines, splitOn_trimEnd visible]

theorem keptBodyLines_ne_nil (body : String) : keptBodyLines body ≠ [] := by
  rw [keptBodyLines, Ne, List.map_eq_nil_iff]
  exact List.splitOn_ne_nil _ _

namespace FunctionRef

open Source (scan)
open Text (splitLines)

variable {function : FunctionRef} {body : String}

/-- The lines of the text after the docstring. -/
def bodyTextLines (function : FunctionRef) : List (List Char) :=
  function.bodyText.toList.splitOn '\n'

/-- A body that is not blank is written line by line. -/
theorem toList_bodyText (written : function.body = some body) (visible : isBlank body = false) :
    function.bodyText.toList =
      Text.unlines ((splitLines (trimEnd body).toList).map (Text.indentLine 4)) := by
  have same : function.writtenBody = some body := by
    rw [writtenBody, nonBlank?, written]
    simp [visible]
  have some : (lines (trimEnd body)).map (PipelineGraph.indentLine 4) ≠ [] := by
    have kept := keptBodyLines_ne_nil body
    rw [keptBodyLines_eq visible, Ne, List.map_eq_nil_iff] at kept
    rwa [lines, Ne, List.map_eq_nil_iff, List.map_eq_nil_iff]
  have chars : ((lines (trimEnd body)).map (PipelineGraph.indentLine 4)).map String.toList =
      (splitLines (trimEnd body).toList).map (Text.indentLine 4) := by
    rw [lines, List.map_map, List.map_map]
    refine List.map_congr_left fun line _ => ?_
    simp [PipelineGraph.indentLine]
  rw [bodyText, bodyLines, same, ← chars, ← Text.toList_intercalate_lines some]
  dsimp only
  rw [String.intercalate_singleton, String.toList_append, indentBlock]
  rfl

/-- **The lines of the body's text are those of the body, moved right**, and nothing after the last. -/
theorem bodyTextLines_eq (written : function.body = some body) (visible : isBlank body = false) :
    function.bodyTextLines =
      (splitLines (trimEnd body).toList).map (Text.indentLine 4) ++ [[]] := by
  rw [bodyTextLines, toList_bodyText written visible]
  refine Text.splitOn_unlines ?_
  rw [List.forall_mem_map]
  exact fun line isLine => Text.notMem_indentLine (Text.noLineFeed_of_mem_splitLines line isLine)

/-- Without the spaces in front, the lines of the body's text are those that are kept of the body. -/
theorem map_drop_bodyTextLines (written : function.body = some body)
    (visible : isBlank body = false) :
    function.bodyTextLines.map (List.drop 4) = keptBodyLines body ++ [[]] := by
  have dropped : List.drop 4 ∘ Text.indentLine 4 = Text.visibleLine :=
    funext (Text.drop_indentLine 4)
  rw [bodyTextLines_eq written visible, List.map_append, List.map_map, dropped, keptBodyLines_eq visible]
  rfl

/-- **A body is kept and stays inside its definition.** After the line that closes the docstring, each
line is empty or starts with four spaces; without these, the lines are those of the body, in their order,
with a line feed after the last. -/
theorem body_is_kept (function : FunctionRef) (options : Options) {body : String}
    (written : function.body = some body) (visible : isBlank body = false) :
    function.text options = function.signature ++ "\n    \"\"\"" ++
        (function.docstring options ++ "    \"\"\"\n" ++ function.bodyText) ∧
      scan .triple false (function.docstring options ++ "    \"\"\"\n" ++ function.bodyText).toList =
        some ((function.docstring options ++ "    ").toList, ("\n" ++ function.bodyText).toList) ∧
      (∀ line ∈ function.bodyTextLines, line = [] ∨ "    ".toList <+: line) ∧
      function.bodyTextLines.map (List.drop 4) = keptBodyLines body ++ [[]] ∧
      ['\n'].intercalate (function.bodyTextLines.map (List.drop 4)) =
        ['\n'].intercalate (keptBodyLines body) ++ ['\n'] := by
  have lines := map_drop_bodyTextLines written visible
  refine ⟨function.text_eq options, function.scan_docstring options, ?_, lines, ?_⟩
  · rw [bodyTextLines_eq written visible, List.forall_mem_append, List.forall_mem_map,
      List.forall_mem_singleton]
    exact ⟨fun line _ => Text.indentLine_cases 4 line, .inl rfl⟩
  · rw [lines]
    exact Text.intercalate_append_nil (keptBodyLines_ne_nil body)

/-- A function whose body mixes line ends, ends with empty lines and has a blank line with a space. -/
def dropRows : FunctionRef where
  id := "f"
  label := "Drop rows"
  identifier := "drop_rows"
  body := some "if rows:\r\n    rows = rows[1:]\r\r\n \u3000\n\treturn rows \r\n\n"

theorem body_is_kept_dropRows :
    (∀ line ∈ dropRows.bodyTextLines, line = [] ∨ "    ".toList <+: line) ∧
      dropRows.bodyTextLines.map (List.drop 4) =
        ["if rows:".toList, "    rows = rows[1:]\r".toList, [], "\treturn rows".toList, []] := by
  obtain ⟨_, _, inside, lines, _⟩ := body_is_kept dropRows {} rfl (by decide)
  exact ⟨inside, lines.trans (by decide)⟩

end FunctionRef

end PipelineGraph
