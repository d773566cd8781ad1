/-
**From tokens to trees.**

A text holds at most one document, and a document one tree. An item, key or value that is left out is an
empty plain scalar. `fuel` bounds the nesting of the calls; the wrapper gives more than the tokens can use.
-/

import PipelineGraph.Yaml.Scanner

namespace PipelineGraph.Yaml

/-- What may stand before a node: an anchor and a tag. -/
structure Properties where
  anchor : Option String := none
  tag : Option String := none
  deriving DecidableEq, Inhabited, Repr

/-- A node as it is written. -/
inductive Tree
  | alias (name : String)
  | scalar (properties : Properties) (plain : Bool) (text : String)
  | sequence (properties : Properties) (items : List Tree)
  | mapping (properties : Properties) (entries : List (Tree × Tree))
  deriving Inhabited

/-- A node that is left out. -/
def Tree.empty (properties : Properties) : Tree := .scalar properties true ""

/-- The beginnings of tags, by their handles. -/
abbrev Handles := List (String × String)

/-- The handles that every document has. -/
def standardHandles : Handles := [("!", "!"), ("!!", "tag:yaml.org,2002:")]

/-- The tag with its handle replaced, if the handle is known. -/
def Tag.resolve? (handles : Handles) (tag : Tag) : Option String :=
  if tag.handle.isEmpty then some tag.suffix
  else (handles.lookup tag.handle).map (· ++ tag.suffix)

/-- Reads an anchor and a tag, in either order, each at most once. -/
def readProperties (handles : Handles) : List Token → Option (Properties × List Token)
  | .anchor name :: .tag tag :: rest => do
    return (⟨some name, some (← tag.resolve? handles)⟩, rest)
  | .tag tag :: .anchor name :: rest => do
    return (⟨some name, some (← tag.resolve? handles)⟩, rest)
  | .anchor name :: rest => some (⟨some name, none⟩, rest)
  | .tag tag :: rest => do return (⟨none, some (← tag.resolve? handles)⟩, rest)
  | rest => some ({}, rest)

/-- The first token is one of these. -/
def startsWith (tokens stops : List Token) : Bool := tokens.head?.any stops.contains

/-- The tokens after which a block entry has no node of its own. -/
def blockStops : List Token := [.key, .value, .blockEnd]

mutual

/-- Reads a node. Blocks are allowed outside of flow collections, and items without a block of their own
where a mapping has a key or a value. -/
def readNode (handles : Handles) (fuel : Nat) (block indentless : Bool) (tokens : List Token) :
    Option (Tree × List Token) :=
  match fuel with
  | 0 => none
  | fuel + 1 =>
    match tokens with
    | .alias name :: rest => some (.alias name, rest)
    | tokens =>
      match readProperties handles tokens with
      | none => none
      | some (properties, tokens) =>
        match tokens with
        | .scalar text plain :: rest =>
          -- The tag `!` says of a scalar what is true of it anyhow.
          let tag := properties.tag.filter (· != "!")
          some (.scalar { properties with tag := tag } plain text, rest)
        | .flowSequenceStart :: rest => do
          let (items, rest) ← readFlowItems handles fuel true rest
          some (.sequence properties items, rest)
        | .flowMappingStart :: rest => do
          let (entries, rest) ← readFlowEntries handles fuel true rest
          some (.mapping properties entries, rest)
        | .blockEntry :: rest =>
          if indentless then do
            let (items, rest) ← readIndentlessItems handles fuel (.blockEntry :: rest)
            some (.sequence properties items, rest)
          else if properties != {} then some (Tree.empty properties, .blockEntry :: rest)
          else none
        | .blockSequenceStart :: rest =>
          if block then do
            let (items, rest) ← readBlockItems handles fuel rest
            some (.sequence properties items, rest)
          else if properties != {} then some (Tree.empty properties, .blockSequenceStart :: rest)
          else none
        | .blockMappingStart :: rest =>
          if block then do
            let (entries, rest) ← readBlockEntries handles fuel rest
            some (.mapping properties entries, rest)
          else if properties != {} then some (Tree.empty properties, .blockMappingStart :: rest)
          else none
        | tokens => if properties != {} then some (Tree.empty properties, tokens) else none

/-- Reads a node, unless one of these tokens says that it is left out. -/
def readOptional (handles : Handles) (fuel : Nat) (block indentless : Bool) (stops : List Token)
    (tokens : List Token) : Option (Tree × List Token) :=
  match fuel with
  | 0 => none
  | fuel + 1 =>
    if startsWith tokens stops then some (Tree.empty {}, tokens)
    else readNode handles fuel block indentless tokens

/-- Reads the value after a key; without a colon it is left out. -/
def readEntryValue (handles : Handles) (fuel : Nat) (block : Bool) (stops : List Token)
    (tokens : List Token) : Option (Tree × List Token) :=
  match fuel with
  | 0 => none
  | fuel + 1 =>
    match tokens with
    | .value :: rest => readOptional handles fuel block block stops rest
    | tokens => some (Tree.empty {}, tokens)

/-- Reads the items of a block sequence and its end. -/
def readBlockItems (handles : Handles) (fuel : Nat) (tokens : List Token) :
    Option (List Tree × List Token) :=
  match fuel with
  | 0 => none
  | fuel + 1 =>
    match tokens with
    | .blockEnd :: rest => some ([], rest)
    | .blockEntry :: rest => do
      let (item, rest) ← readOptional handles fuel true false [.blockEntry, .blockEnd] rest
      let (items, rest) ← readBlockItems handles fuel rest
      some (item :: items, rest)
    | _ => none

/-- Reads the items of a sequence that has no block of its own. -/
def readIndentlessItems (handles : Handles) (fuel : Nat) (tokens : List Token) :
    Option (List Tree × List Token) :=
  match fuel with
  | 0 => none
  | fuel + 1 =>
    match tokens with
    | .blockEntry :: rest => do
      let (item, rest) ← readOptional handles fuel true false (.blockEntry :: blockStops) rest
      let (items, rest) ← readIndentlessItems handles fuel rest
      some (item :: items, rest)
    | tokens => some ([], tokens)

/-- Reads the entries of a block mapping and its end. -/
def readBlockEntries (handles : Handles) (fuel : Nat) (tokens : List Token) :
    Option (List (Tree × Tree) × List Token) :=
  match fuel with
  | 0 => none
  | fuel + 1 =>
    match tokens with
    | .blockEnd :: rest => some ([], rest)
    | .key :: rest => do
      let (key, rest) ← readOptional handles fuel true true blockStops rest
      let (value, rest) ← readEntryValue handles fuel true blockStops rest
      let (entries, rest) ← readBlockEntries handles fuel rest
      some ((key, value) :: entries, rest)
    | _ => none

/-- Reads a mapping of one entry inside a flow sequence, after the token of its key. A key that is left
out takes the token that says so with it. -/
def readSingleEntry (handles : Handles) (fuel : Nat) (tokens : List Token) :
    Option (Tree × List Token) :=
  match fuel with
  | 0 => none
  | fuel + 1 => do
    let (key, rest) ←
      if startsWith tokens [.value, .flowEntry, .flowSequenceEnd] then
        some (Tree.empty {}, tokens.tail)
      else readNode handles fuel false false tokens
    let (value, rest) ←
      readEntryValue handles fuel false [.flowEntry, .flowSequenceEnd] rest
    some (.mapping {} [(key, value)], rest)

/-- Reads the items of a flow sequence and its end. -/
def readFlowItems (handles : Handles) (fuel : Nat) (first : Bool) (tokens : List Token) :
    Option (List Tree × List Token) :=
  match fuel with
  | 0 => none
  | fuel + 1 =>
    if tokens.head? = some .flowSequenceEnd then some ([], tokens.tail)
    else
      match (if first then some tokens
        else if tokens.head? = some .flowEntry then some tokens.tail else none) with
      | none => none
      | some (.flowSequenceEnd :: rest) => some ([], rest)
      | some (.key :: rest) => do
        let (item, rest) ← readSingleEntry handles fuel rest
        let (items, rest) ← readFlowItems handles fuel false rest
        some (item :: items, rest)
      | some tokens => do
        let (item, rest) ← readNode handles fuel false false tokens
        let (items, rest) ← readFlowItems handles fuel false rest
        some (item :: items, rest)

/-- Reads the entries of a flow mapping and its end. -/
def readFlowEntries (handles : Handles) (fuel : Nat) (first : Bool) (tokens : List Token) :
    Option (List (Tree × Tree) × List Token) :=
  match fuel with
  | 0 => none
  | fuel + 1 =>
    if tokens.head? = some .flowMappingEnd then some ([], tokens.tail)
    else
      match (if first then some tokens
        else if tokens.head? = some .flowEntry then some tokens.tail else none) with
      | none => none
      | some (.flowMappingEnd :: rest) => some ([], rest)
      | some (.key :: rest) => do
        let (key, rest) ←
          readOptional handles fuel false false [.value, .flowEntry, .flowMappingEnd] rest
        let (value, rest) ← readEntryValue handles fuel false [.flowEntry, .flowMappingEnd] rest
        let (entries, rest) ← readFlowEntries handles fuel false rest
        some ((key, value) :: entries, rest)
      | some tokens => do
        let (key, rest) ← readNode handles fuel false false tokens
        let (entries, rest) ← readFlowEntries handles fuel false rest
        some ((key, Tree.empty {}) :: entries, rest)

end

/-! ### Documents -/

/-- What the directives before a document say. -/
structure Prologue where
  hasVersion : Bool := false
  handles : Handles := []

/-- Reads the directives before a document: at most one version, which is 1.1 or 1.2, and each handle
at most once. -/
def readDirectives (prologue : Prologue) : List Token → Option (Prologue × List Token)
  | .directive (.version major minor) :: rest =>
    if prologue.hasVersion || major ≠ 1 || (minor ≠ 1 && minor ≠ 2) then none
    else readDirectives { prologue with hasVersion := true } rest
  | .directive (.tag handle beginning) :: rest =>
    if (prologue.handles.lookup handle).isSome then none
    else readDirectives
      { prologue with handles := prologue.handles ++ [(handle, beginning)] } rest
  | rest => some (prologue, rest)

/-- The token belongs to a document's frame and not to its content. -/
def isFrame : Token → Bool
  | .directive _ | .documentStart | .documentEnd => true
  | _ => false

/-- Reads the content of a document after its start marker. -/
def readContent (handles : Handles) (fuel : Nat) (tokens : List Token) :
    Option (Tree × List Token) :=
  if tokens.head?.all isFrame then some (Tree.empty {}, tokens)
  else readNode handles fuel true false tokens

/-- Reads a document. Where there is no start marker, there are no directives either. -/
def readDocument (fuel : Nat) (tokens : List Token) : Option (Tree × List Token) := do
  if tokens.head?.any fun token => token != .documentEnd && isFrame token then
    let (prologue, rest) ← readDirectives {} tokens
    match rest with
    | .documentStart :: rest => readContent (prologue.handles ++ standardHandles) fuel rest
    | _ => none
  else readNode standardHandles fuel true false tokens

/-- The tree of a text; the inner option is empty when the text has no document. -/
def Tree.ofTokens (tokens : List Token) : Option (Option Tree) :=
  if tokens.isEmpty then some none
  else do
    let (tree, rest) ← readDocument (6 * tokens.length + 6) tokens
    if rest.all (· == .documentEnd) then some (some tree) else none

/-- The tree of a text; the inner option is empty when the text has no document. -/
def Tree.ofText (text : String) : Option (Option Tree) := do
  Tree.ofTokens (← scan text.toList)

end PipelineGraph.Yaml
