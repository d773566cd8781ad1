/-
**The catalog as a YAML document.**

Two lines of comment, and then a block for every entry after an empty line: the name as a key, under it
the type and the path, and the lines of the description as comments. A name that cannot be written in
front of a colon is written after a question mark.
-/

import PipelineGraph.Catalog.Basic
import PipelineGraph.Options
import PipelineGraph.Text.Lines
import PipelineGraph.Yaml.ScalarText

namespace PipelineGraph.Catalog

namespace Entry

/-- The entry as a mapping of its name, without the description. -/
def blockChars (entry : Entry) : List Char :=
  let head :=
    if Yaml.isSimpleKey entry.name then
      Yaml.scalarChars (Yaml.Style.ofText entry.name) 2 entry.name.toList ++ ":\n  ".toList
    else "? ".toList ++ Yaml.scalarLine 2 entry.name ++ ": ".toList
  head ++ "type: ".toList ++ Yaml.scalarLine 4 entry.storageType ++
    "  filepath: ".toList ++ Yaml.scalarLine 4 entry.location

/-- The block, with a line feed at its end. -/
def block (entry : Entry) : String :=
  let chars := entry.blockChars
  String.ofList (if chars.getLast? = some '\n' then chars else chars ++ ['\n'])

/-- The lines of the description, as comments. -/
def comments (entry : Entry) : String :=
  match entry.description with
  | some description =>
    String.join (((lines description).filter fun line => !isBlank line).map fun line =>
      "  # " ++ trimEnd line ++ "\n")
  | none => ""

/-- The block and the comments after it. -/
def text (entry : Entry) : String := entry.block ++ entry.comments

end Entry

/-- The comment at the head of the document. -/
def header (options : Options) : String :=
  "# Catalog entries for the pipeline\n# Generated by " ++ options.generator ++ "\n"

/-- The document: the head, then every entry after an empty line. -/
def document (entries : List Entry) (options : Options) : String :=
  header options ++ String.join (entries.map fun entry => "\n" ++ entry.text)

end PipelineGraph.Catalog
