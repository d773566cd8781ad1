/-
A place in a YAML text: the characters that are left, with the line, the column and the number of
characters before them. A line break is one character or a carriage return with a line feed; read as
text it is a line feed, except that the separators of lines and paragraphs stay what they are.
-/

import PipelineGraph.Yaml.Character

namespace PipelineGraph.Yaml

/-- The number of a place in the text, and its line and column. -/
structure Mark where
  index : Nat := 0
  line : Nat := 0
  column : Nat := 0
  deriving DecidableEq, Inhabited, Repr

/-- The place `count` characters further on the same line. -/
def Mark.skip (mark : Mark) (count : Nat) : Mark :=
  { mark with index := mark.index + count, column := mark.column + count }

/-- The start of the next line, after a break of `width` characters. -/
def Mark.nextLine (mark : Mark) (width : Nat) : Mark :=
  ⟨mark.index + width, mark.line + 1, 0⟩

/-- A place in a text and the characters from there on. -/
structure Cursor where
  mark : Mark := {}
  rest : List Char
  deriving DecidableEq, Inhabited, Repr

namespace Cursor

/-- The place `count` characters further on the same line. -/
def skip (cursor : Cursor) (count : Nat) : Cursor :=
  ⟨cursor.mark.skip count, cursor.rest.drop count⟩

/-- The place after the characters that pass a test. -/
def skipWhile (cursor : Cursor) (test : Char → Bool) : Cursor :=
  cursor.skip (cursor.rest.takeWhile test).length

/-- The place after the blanks. -/
def skipBlanks (cursor : Cursor) : Cursor := cursor.skipWhile isBlank

/-- The place after a line break, if there is one here. -/
def skipBreak (cursor : Cursor) : Cursor :=
  match cursor.rest with
  | '\r' :: '\n' :: rest => ⟨cursor.mark.nextLine 2, rest⟩
  | c :: rest => if isBreak c then ⟨cursor.mark.nextLine 1, rest⟩ else cursor
  | [] => cursor

/-- The start of the next line, if only blanks and a comment are left on this one. A comment needs no
blank before it. -/
def skipLineEnd? (cursor : Cursor) : Option Cursor :=
  let cursor := cursor.skipBlanks
  let cursor := if cursor.rest.head? = some '#' then cursor.skipWhile (!isBreak ·) else cursor
  if atLineEnd cursor.rest then some cursor.skipBreak else none

end Cursor

/-- A line break as text. -/
def breakText (c : Char) : List Char :=
  if c == '\u2028' || c == '\u2029' then [c] else ['\n']

/-- The text goes on with three hyphens or three dots before a gap. -/
def atMarker : List Char → Bool
  | '-' :: '-' :: '-' :: rest => atGap rest
  | '.' :: '.' :: '.' :: rest => atGap rest
  | _ => false

end PipelineGraph.Yaml
