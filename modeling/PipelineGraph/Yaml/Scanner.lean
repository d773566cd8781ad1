/-
**From characters to tokens.**

The scanner keeps the columns of the blocks that are open and, for each flow collection that is open,
the place where a key may have begun. That something was a key is known only at the colon after it; then
the tokens of the key, and of the block that starts with it, are put in before it. A key ends on the
line where it begins and within 1024 characters.
-/

import PipelineGraph.Yaml.Lexeme.Block
import PipelineGraph.Yaml.Lexeme.Plain
import PipelineGraph.Yaml.Lexeme.Quoted
import PipelineGraph.Yaml.Token

namespace PipelineGraph.Yaml

/-- A place where a key may have begun: the number of tokens before it, and whether nothing but a key
can stand there. -/
structure PossibleKey where
  before : Nat
  mark : Mark
  required : Bool
  deriving DecidableEq, Inhabited, Repr

/-- A scanner in the middle of a text. -/
structure Scanner where
  cursor : Cursor
  /-- The tokens so far, the last one first. -/
  tokens : List Token := []
  /-- The column of the innermost block, negative outside of all. -/
  indent : Int := -1
  /-- The columns of the blocks around it. -/
  outer : List Int := []
  /-- The possible keys of the flow collections that are open, innermost first. -/
  keys : List (Option PossibleKey) := [none]
  /-- A key may begin here. -/
  keyAllowed : Bool := true
  deriving Inhabited

namespace Scanner

/-- The scanner is inside a flow collection. -/
def inFlow (scanner : Scanner) : Bool := 1 < scanner.keys.length

/-- The column of the next character. -/
def column (scanner : Scanner) : Nat := scanner.cursor.mark.column

/-- Adds a token. -/
def push (scanner : Scanner) (token : Token) : Scanner :=
  { scanner with tokens := token :: scanner.tokens }

/-- Puts a token in after the first `before` tokens. -/
def insert (scanner : Scanner) (before : Nat) (token : Token) : Scanner :=
  let after := scanner.tokens.length - before
  { scanner with tokens := scanner.tokens.take after ++ token :: scanner.tokens.drop after }

/-- Passes over characters. -/
def skip (scanner : Scanner) (count : Nat) : Scanner :=
  { scanner with cursor := scanner.cursor.skip count }

/-- Says whether a key may begin here. -/
def allowKey (scanner : Scanner) (allowed : Bool) : Scanner := { scanner with keyAllowed := allowed }

/-! ### White space and comments -/

/-- The place of the next token, and whether a key may begin there. Outside of flow collections a tab is
white space only where no key may begin. -/
def skipSpace (flow keyAllowed inComment : Bool) (mark : Mark) : List Char → Cursor × Bool
  | [] => (⟨mark, []⟩, keyAllowed)
  | '\r' :: '\n' :: rest => skipSpace flow (keyAllowed || !flow) false (mark.nextLine 2) rest
  | c :: rest =>
    if isBreak c then skipSpace flow (keyAllowed || !flow) false (mark.nextLine 1) rest
    else if inComment || c == ' ' || (c == '\t' && (flow || !keyAllowed)) ||
        (c == '\ufeff' && mark.index == 0) then
      skipSpace flow keyAllowed inComment (mark.skip 1) rest
    else if c = '#' then skipSpace flow keyAllowed true (mark.skip 1) rest
    else (⟨mark, c :: rest⟩, keyAllowed)

/-- Goes to the next token. -/
def toToken (scanner : Scanner) : Scanner :=
  let (cursor, keyAllowed) :=
    skipSpace scanner.inFlow scanner.keyAllowed false scanner.cursor.mark scanner.cursor.rest
  { scanner with cursor := cursor, keyAllowed := keyAllowed }

/-! ### Keys -/

/-- A possible key is given up, unless it is required. -/
def giveUp : Option PossibleKey → Option (Option PossibleKey)
  | some key => if key.required then none else some none
  | none => some none

/-- The possible key cannot be one any more: it began on another line or too far back. -/
def isStale (mark : Mark) (key : PossibleKey) : Bool :=
  key.mark.line < mark.line || key.mark.index + 1024 < mark.index

/-- Gives up the possible keys that cannot be keys any more. -/
def dropStaleKeys (scanner : Scanner) : Option Scanner := do
  let keys ← scanner.keys.mapM fun key =>
    if key.any (isStale scanner.cursor.mark) then giveUp key else some key
  return { scanner with keys := keys }

/-- Gives up the possible key of the innermost collection. -/
def removeKey (scanner : Scanner) : Option Scanner :=
  match scanner.keys with
  | [] => some scanner
  | key :: rest => do return { scanner with keys := (← giveUp key) :: rest }

/-- A key may begin here. -/
def saveKey (scanner : Scanner) : Option Scanner :=
  if scanner.keyAllowed then do
    let scanner ← scanner.removeKey
    let key : PossibleKey :=
      { before := scanner.tokens.length, mark := scanner.cursor.mark
        required := !scanner.inFlow && scanner.indent = scanner.column }
    return { scanner with keys := some key :: scanner.keys.tail }
  else some scanner

/-! ### Blocks -/

/-- Starts a block at a column, with a token after the first `before` tokens, unless the block is open
already. -/
def openBlock (scanner : Scanner) (column before : Nat) (token : Token) : Scanner :=
  if !scanner.inFlow && scanner.indent < column then
    { scanner.insert before token with
      indent := column, outer := scanner.indent :: scanner.outer }
  else scanner

/-- Ends the blocks to the right of a column. -/
def closeFrom (column indent : Int) (tokens : List Token) : List Int → Int × List Token × List Int
  | [] => (indent, tokens, [])
  | parent :: outer =>
    if column < indent then closeFrom column parent (.blockEnd :: tokens) outer
    else (indent, tokens, parent :: outer)

/-- Ends the blocks to the right of a column. Inside a flow collection columns mean nothing. -/
def closeBlocks (scanner : Scanner) (column : Int) : Scanner :=
  if scanner.inFlow then scanner
  else
    let (indent, tokens, outer) := closeFrom column scanner.indent scanner.tokens scanner.outer
    { scanner with indent := indent, tokens := tokens, outer := outer }

/-! ### Tokens -/

/-- A marker of a document's start or end. -/
def scanMarker (scanner : Scanner) (token : Token) : Option Scanner := do
  let scanner ← (scanner.closeBlocks (-1)).removeKey
  return ((scanner.allowKey false).skip 3).push token

/-- A directive. -/
def scanDirective (scanner : Scanner) : Option Scanner := do
  let scanner ← (scanner.closeBlocks (-1)).removeKey
  let (directive, cursor) ← readDirective scanner.cursor
  return { (scanner.allowKey false).push (.directive directive) with cursor := cursor }

/-- The start of a flow collection. -/
def scanFlowStart (scanner : Scanner) (token : Token) : Option Scanner := do
  let scanner ← scanner.saveKey
  return (({ scanner with keys := none :: scanner.keys }.allowKey true).skip 1).push token

/-- The end of a flow collection. -/
def scanFlowEnd (scanner : Scanner) (token : Token) : Option Scanner := do
  let scanner ← scanner.removeKey
  let keys := if scanner.inFlow then scanner.keys.tail else scanner.keys
  return (({ scanner with keys := keys }.allowKey false).skip 1).push token

/-- A comma in a flow collection. -/
def scanFlowEntry (scanner : Scanner) : Option Scanner := do
  let scanner ← scanner.removeKey
  return ((scanner.allowKey true).skip 1).push .flowEntry

/-- A hyphen before an item. -/
def scanBlockEntry (scanner : Scanner) : Option Scanner := do
  if !scanner.inFlow && !scanner.keyAllowed then none
  else
    let scanner := scanner.openBlock scanner.column scanner.tokens.length .blockSequenceStart
    let scanner ← scanner.removeKey
    return ((scanner.allowKey true).skip 1).push .blockEntry

/-- A question mark before a key. -/
def scanKey (scanner : Scanner) : Option Scanner := do
  if !scanner.inFlow && !scanner.keyAllowed then none
  else
    let scanner := scanner.openBlock scanner.column scanner.tokens.length .blockMappingStart
    let scanner ← scanner.removeKey
    return ((scanner.allowKey (!scanner.inFlow)).skip 1).push .key

/-- A colon before a value. What may have been a key before it was one. -/
def scanValue (scanner : Scanner) : Option Scanner :=
  match scanner.keys with
  | some key :: rest =>
    let scanner := scanner.insert key.before .key
    let scanner := scanner.openBlock key.mark.column key.before .blockMappingStart
    some ((({ scanner with keys := none :: rest }.allowKey false).skip 1).push .value)
  | _ =>
    if !scanner.inFlow && !scanner.keyAllowed then none
    else
      let scanner := scanner.openBlock scanner.column scanner.tokens.length .blockMappingStart
      some (((scanner.allowKey (!scanner.inFlow)).skip 1).push .value)

/-- An alias or an anchor. -/
def scanAnchor (scanner : Scanner) (token : String → Token) : Option Scanner := do
  let scanner ← scanner.saveKey
  let (name, cursor) ← readAnchor (scanner.cursor.skip 1)
  return { (scanner.allowKey false).push (token name) with cursor := cursor }

/-- A tag. -/
def scanTag (scanner : Scanner) : Option Scanner := do
  let scanner ← scanner.saveKey
  let (tag, cursor) ← readTag scanner.inFlow scanner.cursor
  return { (scanner.allowKey false).push (.tag tag) with cursor := cursor }

/-- A block scalar. -/
def scanBlockScalar (scanner : Scanner) (folded : Bool) : Option Scanner := do
  let scanner ← scanner.removeKey
  let (text, cursor) ← readBlockScalar folded scanner.indent (scanner.cursor.skip 1)
  return { (scanner.allowKey true).push (.scalar (String.ofList text) false) with cursor := cursor }

/-- A scalar between quotes. -/
def scanQuoted (scanner : Scanner) (double : Bool) : Option Scanner := do
  let scanner ← scanner.saveKey
  let start := scanner.cursor.skip 1
  let (text, cursor) ←
    if double then readDouble (.text .none) start.mark start.rest
    else readSingle .none start.mark start.rest
  return { (scanner.allowKey false).push (.scalar (String.ofList text) false) with cursor := cursor }

/-- A plain scalar. If it ends after a line break, a key may begin after it. -/
def scanPlain (scanner : Scanner) : Option Scanner := do
  let scanner ← scanner.saveKey
  let context : PlainContext := ⟨scanner.inFlow, (scanner.indent + 1).toNat⟩
  let plain ← readPlain context .none scanner.cursor.mark scanner.cursor.rest
  return { (scanner.allowKey plain.broken).push (.scalar (String.ofList plain.text) true) with
    cursor := plain.cursor }

/-- Characters that start something else than a plain scalar. -/
def starters : List Char :=
  ['-', '?', ':', ',', '[', ']', '\x7b', '\x7d', '#', '&', '*', '!', '|', '>', '\'', '"', '%', '@',
    '\x60']

/-- A plain scalar starts here. -/
def startsPlain (flow : Bool) (c : Char) (rest : List Char) : Bool :=
  !(isBlank c || starters.contains c) ||
    (c == '-' && !atGap rest) ||
    (!flow && (c == '?' || c == ':') && !atGap rest)

/-- The token that starts with a character. -/
def scanToken (scanner : Scanner) (c : Char) (rest : List Char) : Option Scanner :=
  let flow := scanner.inFlow
  if scanner.column = 0 && c = '%' then scanner.scanDirective
  else if scanner.column = 0 && atMarker (c :: rest) then
    scanner.scanMarker (if c = '-' then .documentStart else .documentEnd)
  else if c = '[' then scanner.scanFlowStart .flowSequenceStart
  else if c = '\x7b' then scanner.scanFlowStart .flowMappingStart
  else if c = ']' then scanner.scanFlowEnd .flowSequenceEnd
  else if c = '\x7d' then scanner.scanFlowEnd .flowMappingEnd
  else if c = ',' then scanner.scanFlowEntry
  else if c = '-' && atGap rest then scanner.scanBlockEntry
  else if c = '?' && (flow || atGap rest) then scanner.scanKey
  else if c = ':' && (flow || atGap rest) then scanner.scanValue
  else if c = '*' then scanner.scanAnchor .alias
  else if c = '&' then scanner.scanAnchor .anchor
  else if c = '!' then scanner.scanTag
  else if c = '|' && !flow then scanner.scanBlockScalar false
  else if c = '>' && !flow then scanner.scanBlockScalar true
  else if c = '\'' then scanner.scanQuoted false
  else if c = '"' then scanner.scanQuoted true
  else if startsPlain flow c rest then scanner.scanPlain
  else none

/-- The tokens after the last one of the text. -/
def finish (scanner : Scanner) : Option Scanner := (scanner.closeBlocks (-1)).removeKey

/-- Scans the rest of a text. `fuel` bounds the number of tokens. -/
def run : Nat → Scanner → Option Scanner
  | 0, _ => none
  | fuel + 1, scanner => do
    let scanner ← scanner.toToken.dropStaleKeys
    let scanner := scanner.closeBlocks scanner.column
    match scanner.cursor.rest with
    | [] => scanner.finish
    | c :: rest => run fuel (← scanner.scanToken c rest)

end Scanner

/-- The tokens of a text, if it has tokens. -/
def scan (text : List Char) : Option (List Token) :=
  if text.all isAllowed then
    (Scanner.run (text.length + 1) { cursor := { rest := text } }).map fun scanner =>
      scanner.tokens.reverse
  else none

end PipelineGraph.Yaml
