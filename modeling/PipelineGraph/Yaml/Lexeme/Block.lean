/-
**Block scalars.**

A header after the indicator says what becomes of the line breaks at the end, and may say how far the
lines are indented; if it does not, the first line that is not empty says so. In a folded scalar a single
line break between two lines that do not start with a blank becomes a space.
-/

import PipelineGraph.Yaml.Cursor

namespace PipelineGraph.Yaml

/-- What becomes of the line breaks at the end of a block scalar. -/
inductive Chomp
  | strip
  | clip
  | keep
  deriving DecidableEq, Inhabited, Repr

/-- The chomping that a character stands for. -/
def Chomp.ofChar? : Char → Option Chomp
  | '+' => some .keep
  | '-' => some .strip
  | _ => none

/-- The chomping at the start of a text. -/
def readChomp (cursor : Cursor) : Option Chomp × Cursor :=
  match cursor.rest.head?.bind Chomp.ofChar? with
  | some chomp => (some chomp, cursor.skip 1)
  | none => (none, cursor)

/-- The number of columns at the start of a text, zero if there is none; it must not be a zero. -/
def readIncrement (cursor : Cursor) : Option (Nat × Cursor) :=
  match cursor.rest with
  | [] => some (0, cursor)
  | c :: _ =>
    if c = '0' then none
    else if c.isDigit then some (c.toNat - '0'.toNat, cursor.skip 1)
    else some (0, cursor)

/-- The two parts of a header, in either order. -/
def readHeader (cursor : Cursor) : Option (Chomp × Nat × Cursor) := do
  match readChomp cursor with
  | (some chomp, cursor) =>
    let (increment, cursor) ← readIncrement cursor
    return (chomp, increment, cursor)
  | (none, cursor) =>
    let (increment, cursor) ← readIncrement cursor
    let (chomp, cursor) := if increment = 0 then (none, cursor) else readChomp cursor
    return (chomp.getD .clip, increment, cursor)

/-- Where a reader of a block scalar is. -/
structure BlockState where
  /-- The column of the lines; zero while it is not known. -/
  indent : Nat
  /-- The widest indentation so far of the empty lines at the start. -/
  widest : Nat := 0
  /-- The break after the last line. -/
  leading : List Char := []
  /-- The breaks of the empty lines after it. -/
  trailing : List Char := []
  /-- The last line started with a blank. -/
  afterBlank : Bool := false
  /-- The reader is inside a line. -/
  inLine : Bool := false

namespace BlockState

/-- A space here belongs to the indentation. -/
def inIndent (state : BlockState) (column : Nat) : Bool :=
  state.indent = 0 || column < state.indent

/-- The column of the lines, once a line that is not empty starts; `least` is the least one. -/
def settle (state : BlockState) (least column : Nat) : Nat :=
  if state.indent = 0 then max (max state.widest column) least else state.indent

/-- The breaks before a line that starts with this character. -/
def joint (state : BlockState) (folded : Bool) (c : Char) : List Char :=
  (if folded && state.leading == ['\n'] && !state.afterBlank && !isBlank c then
    (if state.trailing.isEmpty then [' '] else [])
  else state.leading) ++ state.trailing

/-- The breaks at the end of the scalar. -/
def tail (state : BlockState) : Chomp → List Char
  | .strip => []
  | .clip => state.leading
  | .keep => state.leading ++ state.trailing

/-- The state after the break at the end of a line, or of an empty line. -/
def breakLine (state : BlockState) (column : Nat) (text : List Char) : BlockState :=
  if state.inLine then { state with inLine := false, leading := text, trailing := [] }
  else { state with widest := max state.widest column, trailing := state.trailing ++ text }

end BlockState

/-- Reads the lines of a block scalar. There is none if a tab stands for indentation. -/
def readBlock (folded : Bool) (chomp : Chomp) (least : Nat) (state : BlockState) (mark : Mark) :
    List Char → Option (List Char × Cursor)
  | [] => some (state.tail chomp, ⟨mark, []⟩)
  | '\r' :: '\n' :: rest =>
    readBlock folded chomp least (state.breakLine mark.column ['\n']) (mark.nextLine 2) rest
  | c :: rest =>
    if isBreak c then
      readBlock folded chomp least (state.breakLine mark.column (breakText c)) (mark.nextLine 1) rest
    else if state.inLine then
      (readBlock folded chomp least state (mark.skip 1) rest).map fun (text, cursor) =>
        (c :: text, cursor)
    else if c == ' ' && state.inIndent mark.column then
      readBlock folded chomp least state (mark.skip 1) rest
    else if c == '\t' && state.inIndent mark.column then none
    else
      let indent := state.settle least mark.column
      if mark.column = indent then
        let started : BlockState :=
          { indent := indent, afterBlank := isBlank c, inLine := true }
        (readBlock folded chomp least started (mark.skip 1) rest).map fun (text, cursor) =>
          (state.joint folded c ++ c :: text, cursor)
      else some (state.tail chomp, ⟨mark, c :: rest⟩)

/-- Reads a block scalar after its indicator, inside a collection at column `indent`, which is negative
outside of all. -/
def readBlockScalar (folded : Bool) (indent : Int) (cursor : Cursor) :
    Option (List Char × Cursor) := do
  let (chomp, increment, cursor) ← readHeader cursor
  let cursor ← cursor.skipLineEnd?
  let column := if increment = 0 then 0 else (max indent 0).toNat + increment
  readBlock folded chomp (max (indent + 1) 1).toNat { indent := column } cursor.mark cursor.rest

end PipelineGraph.Yaml
