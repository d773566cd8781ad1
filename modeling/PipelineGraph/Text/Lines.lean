/-
The lines of a text. A line ends at a line feed, and a carriage return just before that line feed
belongs to the end; what follows the last line feed is a line unless it is empty.
-/

import PipelineGraph.Text.Blank

namespace PipelineGraph.Text

/-- Puts a character in front of the first line. -/
def consLine (c : Char) : List (List Char) → List (List Char)
  | [] => [[c]]
  | line :: lines => (c :: line) :: lines

/-- The lines of a text. -/
def splitLines : List Char → List (List Char)
  | [] => []
  | '\n' :: rest => [] :: splitLines rest
  | '\r' :: '\n' :: rest => [] :: splitLines rest
  | c :: rest => consLine c (splitLines rest)

/-- A line moved right by `width` spaces; a blank line becomes empty. -/
def indentLine (width : Nat) (line : List Char) : List Char :=
  if line.all isWhite then [] else List.replicate width ' ' ++ line

end PipelineGraph.Text

namespace PipelineGraph

/-- The lines of a text. -/
def lines (text : String) : List String := (Text.splitLines text.toList).map String.ofList

/-- A line moved right by `width` spaces; a blank line becomes empty. -/
def indentLine (width : Nat) (line : String) : String :=
  String.ofList (Text.indentLine width line.toList)

/-- Every line of a block moved right by `width` spaces, the lines joined by line feeds. -/
def indentBlock (width : Nat) (block : String) : String :=
  String.intercalate "\n" ((lines block).map (indentLine width))

end PipelineGraph
