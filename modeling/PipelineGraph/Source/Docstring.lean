/-
Text inside a docstring. Three double quotes in a row would end the docstring, so each of them gets a
backslash; shorter rows of quotes and everything else stay as they are.
-/

namespace PipelineGraph.Source

/-- Puts a backslash before each of three double quotes in a row, from the left. -/
def escapeTriples : List Char → List Char
  | '"' :: '"' :: '"' :: rest => '\\' :: '"' :: '\\' :: '"' :: '\\' :: '"' :: escapeTriples rest
  | c :: rest => c :: escapeTriples rest
  | [] => []

/-- The text as it is written inside a docstring. -/
def escapeDocstring (text : String) : String := String.ofList (escapeTriples text.toList)

/-- The quotes around a docstring. -/
def tripleQuote : String := "\"\"\""

end PipelineGraph.Source
