/-
**How a text is written as a YAML scalar.**

A text with a line feed asks for a literal block. A text that a reader would not take for a text when
written plainly, or that is digits after a leading zero, asks for single quotes; every other text asks
to be written plainly. Where the text does not allow what it asks for, a plain scalar falls back to
single quotes, and single quotes and literal blocks to double quotes, which allow every text.
-/

import PipelineGraph.Yaml.Character
import PipelineGraph.Yaml.Scalar

namespace PipelineGraph.Yaml

/-- The ways to write a scalar. -/
inductive Style
  | plain
  | single
  | double
  | literal
  deriving DecidableEq, Inhabited, Repr

/-! ### What a text allows -/

/-- Characters that cannot start a plain scalar. -/
def indicators : List Char :=
  ['#', ',', '[', ']', '\x7b', '\x7d', '&', '*', '!', '|', '>', '\'', '"', '%', '@', '\x60']

/-- The text starts like a marker of a document's start or end. -/
def startsLikeMarker : List Char → Bool
  | '-' :: '-' :: '-' :: _ => true
  | '.' :: '.' :: '.' :: _ => true
  | _ => false

/-- The start of the text would be taken for something else than a plain scalar. -/
def startsLikeIndicator : List Char → Bool
  | [] => false
  | c :: rest =>
    indicators.contains c || ((c == '?' || c == ':' || c == '-') && atGap rest)

/-- Inside the text, `afterGap` saying that a blank or break came before, there is a colon before a
gap or a hash after one. -/
def hasInnerIndicator (afterGap : Bool) : List Char → Bool
  | [] => false
  | c :: rest =>
    (c == ':' && atGap rest) || (c == '#' && afterGap) ||
      hasInnerIndicator (isBlank c || isBreak c) rest

/-- Somewhere the first test holds of a character and the second of the next one. -/
def hasPair (first second : Char → Bool) : List Char → Bool
  | c :: d :: rest => (first c && second d) || hasPair first second (d :: rest)
  | _ => false

/-- The character is a space. -/
def isSpace (c : Char) : Bool := c == ' '

/-- The text has more than one line. -/
def isMultiline (text : List Char) : Bool := text.any isBreak

/-- The text starts with a space. -/
def startsWithSpace (text : List Char) : Bool := text.head?.any isSpace

/-- The text ends with a space. -/
def endsWithSpace (text : List Char) : Bool := text.getLast?.any isSpace

/-- The text ends with a line break. -/
def endsWithBreak (text : List Char) : Bool := text.getLast?.any isBreak

/-- Every character can be written as it is, and no space stands before a line break. -/
def isTame (text : List Char) : Bool := text.all isPrintable && !hasPair isSpace isBreak text

/-- The text can stand between single quotes. -/
def allowsSingle (text : List Char) : Bool := isTame text && !hasPair isBreak isSpace text

/-- The text can be written as a literal block. -/
def allowsLiteral (text : List Char) : Bool :=
  !text.isEmpty && isTame text && !endsWithSpace text

/-- The text can be written plainly. -/
def allowsPlain (text : List Char) : Bool :=
  allowsSingle text && !isMultiline text && !startsWithSpace text && !endsWithSpace text &&
    !startsLikeMarker text && !startsLikeIndicator text &&
    !hasInnerIndicator false text

/-- A reader would take the plain scalar for the text that it spells. -/
def readsAsText (text : String) : Bool :=
  match Meaning.ofPlain text with
  | .text => !hasLeadingZero text.toList
  | _ => false

/-- The way that a text is written. -/
def Style.ofText (text : String) : Style :=
  let chars := text.toList
  if chars.contains '\n' then
    if allowsLiteral chars then .literal else .double
  else if readsAsText text && allowsPlain chars then .plain
  else if allowsSingle chars then .single
  else .double

/-! ### The scalars -/

/-- Spaces to indent with. -/
def spaces (width : Nat) : List Char := List.replicate width ' '

/-- A hexadecimal number in upper case with a fixed number of digits. -/
def upperHex (width n : Nat) : List Char :=
  let digits := (Nat.toDigits 16 n).map Char.toUpper
  List.replicate (width - digits.length) '0' ++ digits

/-- The escape of a character. -/
def escape (c : Char) : List Char :=
  match c.toNat with
  | 0x00 => ['\\', '0']
  | 0x07 => ['\\', 'a']
  | 0x08 => ['\\', 'b']
  | 0x09 => ['\\', 't']
  | 0x0A => ['\\', 'n']
  | 0x0B => ['\\', 'v']
  | 0x0C => ['\\', 'f']
  | 0x0D => ['\\', 'r']
  | 0x1B => ['\\', 'e']
  | 0x22 => ['\\', '"']
  | 0x5C => ['\\', '\\']
  | 0x85 => ['\\', 'N']
  | 0xA0 => ['\\', '_']
  | 0x2028 => ['\\', 'L']
  | 0x2029 => ['\\', 'P']
  | code =>
    if code ≤ 0xFF then '\\' :: 'x' :: upperHex 2 code
    else if code ≤ 0xFFFF then '\\' :: 'u' :: upperHex 4 code
    else '\\' :: 'U' :: upperHex 8 code

/-- A character between double quotes. -/
def doubleChar (c : Char) : List Char :=
  if isPrintable c && !isBreak c && c != '"' && c != '\\' then [c] else escape c

/-- The inside of a scalar between double quotes. -/
def doubleChars (text : List Char) : List Char := text.flatMap doubleChar

/-- The inside of a scalar between single quotes: quotes are doubled, and what follows a line break
is indented. -/
def singleChars (indent : Nat) (afterBreak : Bool) : List Char → List Char
  | [] => if afterBreak then spaces indent else []
  | c :: rest =>
    if isBreak c then c :: singleChars indent true rest
    else
      (if afterBreak then spaces indent else []) ++
        (if c = '\'' then ['\'', '\''] else [c]) ++ singleChars indent false rest

/-- The lines of a literal block, each indented unless it is empty. -/
def literalChars (indent : Nat) (afterBreak : Bool) : List Char → List Char
  | [] => []
  | c :: rest =>
    if isBreak c then c :: literalChars indent true rest
    else (if afterBreak then spaces indent else []) ++ c :: literalChars indent false rest

/-- The indicator of the indentation, needed when the text starts with a space or a break. -/
def indentIndicator : List Char → List Char
  | [] => []
  | c :: _ => if isSpace c || isBreak c then ['2'] else []

/-- The indicator of what becomes of the line breaks at the end. -/
def chompIndicator (text : List Char) : List Char :=
  match text.reverse with
  | [] => ['-']
  | last :: before =>
    if !isBreak last then ['-']
    else match before with
      | [] => ['+']
      | c :: _ => if isBreak c then ['+'] else []

/-- A scalar in a style, inside a collection whose items are indented by `indent`. -/
def scalarChars (style : Style) (indent : Nat) (text : List Char) : List Char :=
  match style with
  | .plain => text
  | .single => '\'' :: singleChars indent false text ++ ['\'']
  | .double => '"' :: doubleChars text ++ ['"']
  | .literal =>
    '|' :: indentIndicator text ++ chompIndicator text ++ '\n' :: literalChars indent true text

/-- A scalar with the line break after it. A literal block that ends with a break has it already. -/
def scalarLine (indent : Nat) (text : String) : List Char :=
  let style := Style.ofText text
  scalarChars style indent text.toList ++
    if style = .literal && endsWithBreak text.toList then [] else ['\n']

/-- The text can stand before a colon on one line: it has one line of at most 128 bytes. -/
def isSimpleKey (text : String) : Bool := !isMultiline text.toList && text.utf8ByteSize ≤ 128

end PipelineGraph.Yaml
