/-
**Plain scalars.**

A plain scalar ends before a colon with a gap after it, before a hash with a gap before it, at a marker
at the start of a line, where a line is indented too little, and inside a flow collection at the
characters that belong to the collection.
-/

import PipelineGraph.Yaml.Lexeme.Gap

namespace PipelineGraph.Yaml

/-- A character that separates or closes the items of a flow collection. -/
def isFlowIndicator (c : Char) : Bool :=
  c == ',' || c == '[' || c == ']' || c == '\x7b' || c == '\x7d'

/-- Where a plain scalar is read: inside a flow collection or not, and the least column of its
lines. -/
structure PlainContext where
  flow : Bool
  indent : Nat

/-- A plain scalar that has been read. -/
structure PlainEnd where
  text : List Char
  /-- A line break was passed over after the last word. -/
  broken : Bool
  cursor : Cursor

/-- The scalar ends before the next word, which comes after a gap. -/
def PlainContext.endsBefore (context : PlainContext) (gap : Gap) (mark : Mark) (text : List Char) :
    Bool :=
  gap != .none && (!context.flow && mark.column < context.indent ||
    mark.column == 0 && atMarker text || text.head? == some '#')

/-- The scalar ends before the next character of a word. -/
def PlainContext.endsAt (context : PlainContext) (c : Char) (rest : List Char) : Bool :=
  (c == ':' && atGap rest) || (context.flow && isFlowIndicator c)

/-- A colon in a flow collection goes before a character that makes it unclear. -/
def PlainContext.isUnclear (context : PlainContext) (c : Char) (rest : List Char) : Bool :=
  context.flow && c == ':' && rest.head?.any fun next => next == '?' || isFlowIndicator next

/-- Reads the rest of a plain scalar after a gap. There is none if a tab stands for indentation, or if
a colon is unclear. -/
def readPlain (context : PlainContext) (gap : Gap) (mark : Mark) : List Char → Option PlainEnd
  | [] => some ⟨[], gap.isBroken, ⟨mark, []⟩⟩
  | '\r' :: '\n' :: rest => readPlain context (gap.addBreak ['\n']) (mark.nextLine 2) rest
  | c :: rest =>
    if isBreak c then readPlain context (gap.addBreak (breakText c)) (mark.nextLine 1) rest
    else if isBlank c then
      if gap.isBroken && c == '\t' && mark.column < context.indent then none
      else readPlain context (gap.addBlank c) (mark.skip 1) rest
    else if context.endsBefore gap mark (c :: rest) then
      some ⟨[], gap.isBroken, ⟨mark, c :: rest⟩⟩
    else if context.isUnclear c rest then none
    else if context.endsAt c rest then some ⟨[], gap.isBroken, ⟨mark, c :: rest⟩⟩
    else
      (readPlain context .none (mark.skip 1) rest).map fun plain =>
        { plain with text := gap.text ++ c :: plain.text }

end PipelineGraph.Yaml
