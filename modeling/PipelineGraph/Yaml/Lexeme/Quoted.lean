/-
**Scalars between quotes.**

Between single quotes a quote is written twice. Between double quotes a backslash starts an escape, and
before a line break it takes the break away. White space around line breaks folds as in plain scalars,
and no marker may stand at the start of a line.
-/

import PipelineGraph.Yaml.Lexeme.Gap

namespace PipelineGraph.Yaml

/-- Puts a gap and a character before what has been read. -/
def andThen (text : List Char) (read : Option (List Char × Cursor)) : Option (List Char × Cursor) :=
  read.map fun (rest, cursor) => (text ++ rest, cursor)

/-- Reads the rest of a scalar between single quotes. -/
def readSingle (gap : Gap) (mark : Mark) : List Char → Option (List Char × Cursor)
  | [] => none
  | '\r' :: '\n' :: rest => readSingle (gap.addBreak ['\n']) (mark.nextLine 2) rest
  | '\'' :: '\'' :: rest => andThen (gap.text ++ ['\'']) (readSingle .none (mark.skip 2) rest)
  | c :: rest =>
    if isBreak c then readSingle (gap.addBreak (breakText c)) (mark.nextLine 1) rest
    else if isBlank c then readSingle (gap.addBlank c) (mark.skip 1) rest
    else if c = '\'' then some (gap.text, ⟨mark.skip 1, rest⟩)
    else if mark.column == 0 && atMarker (c :: rest) then none
    else andThen (gap.text ++ [c]) (readSingle .none (mark.skip 1) rest)

/-- Where a reader is between double quotes. -/
inductive DoubleState
  /-- In the text, after a gap. -/
  | text (gap : Gap)
  /-- After a backslash. -/
  | escape
  /-- In an escape by number: `left` digits are to come. -/
  | code (left value : Nat)

/-- The character of a short escape. -/
def unescape? : Char → Option Char
  | '0' => some '\x00'
  | 'a' => some '\x07'
  | 'b' => some '\x08'
  | 't' => some '\t'
  | '\t' => some '\t'
  | 'n' => some '\n'
  | 'v' => some '\x0b'
  | 'f' => some '\x0c'
  | 'r' => some '\r'
  | 'e' => some '\x1b'
  | ' ' => some ' '
  | '"' => some '"'
  | '/' => some '/'
  | '\\' => some '\\'
  | 'N' => some '\u0085'
  | '_' => some '\u00a0'
  | 'L' => some '\u2028'
  | 'P' => some '\u2029'
  | _ => none

/-- The number of digits of an escape by number. -/
def codeWidth? : Char → Option Nat
  | 'x' => some 2
  | 'u' => some 4
  | 'U' => some 8
  | _ => none

/-- The character with a code, unless it is a surrogate or beyond the last character. -/
def charOfCode? (code : Nat) : Option Char :=
  if 0xD800 ≤ code && code < 0xE000 || 0x10FFFF < code then none else some (Char.ofNat code)

/-- Reads the rest of a scalar between double quotes. -/
def readDouble (state : DoubleState) (mark : Mark) : List Char → Option (List Char × Cursor)
  | [] => none
  | c :: rest =>
    match state with
    | .text gap =>
      if c == '\r' && rest.head? == some '\n' then
        -- The line feed that follows ends the line.
        readDouble (.text gap) { mark with index := mark.index + 1 } rest
      else if isBreak c then
        readDouble (.text (gap.addBreak (breakText c))) (mark.nextLine 1) rest
      else if isBlank c then readDouble (.text (gap.addBlank c)) (mark.skip 1) rest
      else if c = '"' then some (gap.text, ⟨mark.skip 1, rest⟩)
      else if mark.column == 0 && atMarker (c :: rest) then none
      else if c = '\\' then andThen gap.text (readDouble .escape (mark.skip 1) rest)
      else andThen (gap.text ++ [c]) (readDouble (.text .none) (mark.skip 1) rest)
    | .escape =>
      if c == '\r' && rest.head? == some '\n' then
        readDouble .escape { mark with index := mark.index + 1 } rest
      else if isBreak c then readDouble (.text (.breaks [] [])) (mark.nextLine 1) rest
      else match unescape? c with
        | some d => andThen [d] (readDouble (.text .none) (mark.skip 1) rest)
        | none =>
          match codeWidth? c with
          | some width => readDouble (.code width 0) (mark.skip 1) rest
          | none => none
    | .code left value =>
      match hexDigit? c with
      | none => none
      | some digit =>
        let value := value * 16 + digit
        if left ≤ 1 then
          match charOfCode? value with
          | some d => andThen [d] (readDouble (.text .none) (mark.skip 1) rest)
          | none => none
        else readDouble (.code (left - 1) value) (mark.skip 1) rest

end PipelineGraph.Yaml
