/-
String literals of the generated Python source. A literal stands between double quotes; a backslash,
a double quote, a line feed and a tab are written with a backslash, every other character as it is.
-/

namespace PipelineGraph.Source

/-- A character inside a literal. -/
def escapeChar : Char → List Char
  | '\\' => ['\\', '\\']
  | '"' => ['\\', '"']
  | '\n' => ['\\', 'n']
  | '\t' => ['\\', 't']
  | c => [c]

/-- A literal with its quotes. -/
def literalChars (text : List Char) : List Char := '"' :: text.flatMap escapeChar ++ ['"']

/-- A string literal. -/
def literal (text : String) : String := String.ofList (literalChars text.toList)

/-- String literals with commas between them. -/
def literals (texts : List String) : String := String.intercalate ", " (texts.map literal)

/-- A list of string literals. -/
def literalList (texts : List String) : String := "[" ++ literals texts ++ "]"

end PipelineGraph.Source
