/-
**Tags, anchors and directives.**

A tag is written whole between angle brackets, or as a handle and a suffix; the handle is `!`, `!!`, or
a word between exclamation marks. Octets written with a percent sign stand for UTF-8, and each is kept
as a character of its own. A directive stands on a line of its own.
-/

import PipelineGraph.Yaml.Cursor

namespace PipelineGraph.Yaml

/-- A tag as it is written. A whole tag has an empty handle. -/
structure Tag where
  handle : String
  suffix : String
  deriving DecidableEq, Inhabited, Repr

/-- A character of the suffix of a tag. -/
def isTagChar (c : Char) : Bool :=
  isWord c ||
    [';', '/', '?', ':', '@', '&', '=', '+', '$', '.', '!', '~', '*', '\'', '(', ')'].contains c

/-- A character that only a whole tag may hold besides those of a suffix. -/
def isWholeTagChar (c : Char) : Bool := c == ',' || c == '[' || c == ']'

/-- The number of octets that follow a first octet of UTF-8. -/
def octetsAfter? (octet : Nat) : Option Nat :=
  if octet < 0x80 then some 0
  else if 0xC0 ≤ octet && octet < 0xE0 then some 1
  else if 0xE0 ≤ octet && octet < 0xF0 then some 2
  else if 0xF0 ≤ octet && octet < 0xF8 then some 3
  else none

/-- The number of octets that are to follow an octet, when `pending` were to follow before it. -/
def octetsPending? (pending octet : Nat) : Option Nat :=
  match pending with
  | 0 => octetsAfter? octet
  | pending + 1 => if 0x80 ≤ octet && octet < 0xC0 then some pending else none

/-- Reads the characters of a tag, written whole or not; `pending` octets are still to come. -/
def readTagChars (whole : Bool) (pending : Nat) (mark : Mark) : List Char → Option (List Char × Cursor)
  | '%' :: a :: b :: rest =>
    match hexDigit? a, hexDigit? b with
    | some high, some low =>
      let octet := high * 16 + low
      match octetsPending? pending octet with
      | some pending =>
        (readTagChars whole pending (mark.skip 3) rest).map fun (text, cursor) =>
          (Char.ofNat octet :: text, cursor)
      | none => none
    | _, _ => none
  | '%' :: _ => none
  | text =>
    if pending ≠ 0 then none
    else match text with
      | [] => some ([], ⟨mark, []⟩)
      | c :: rest =>
        if isTagChar c || (whole && isWholeTagChar c) then
          (readTagChars whole 0 (mark.skip 1) rest).map fun (text, cursor) => (c :: text, cursor)
        else some ([], ⟨mark, c :: rest⟩)

/-- Reads a handle from its exclamation mark on: a word, and whether a second mark closes it. -/
def readHandle (cursor : Cursor) : List Char × Bool × Cursor :=
  let word := (cursor.rest.drop 1).takeWhile isWord
  let cursor := cursor.skip (word.length + 1)
  if cursor.rest.head? = some '!' then (word, true, cursor.skip 1) else (word, false, cursor)

/-- A text up to its first NUL. -/
def beforeNul (text : List Char) : String := String.ofList (text.takeWhile (· != '\x00'))

/-- Reads a tag between angle brackets, from its exclamation mark on. -/
def readWholeTag (cursor : Cursor) : Option (Tag × Cursor) := do
  let cursor := cursor.skip 2
  let (text, cursor) ← readTagChars true 0 cursor.mark cursor.rest
  if text.isEmpty || cursor.rest.head? ≠ some '>' then none
  else some (⟨"", beforeNul text⟩, cursor.skip 1)

/-- Reads a tag with a handle, from its exclamation mark on. A word that no second exclamation mark
closes is part of the suffix. -/
def readShortTag (cursor : Cursor) : Option (Tag × Cursor) := do
  let (word, closed, cursor) := readHandle cursor
  let (text, cursor) ← readTagChars false 0 cursor.mark cursor.rest
  if closed then
    if text.isEmpty then none
    else some (⟨"!" ++ String.ofList word ++ "!", beforeNul text⟩, cursor)
  else
    let suffix := beforeNul (word ++ text)
    some (if suffix.isEmpty then ⟨"", "!"⟩ else ⟨"!", suffix⟩, cursor)

/-- Reads a tag. It ends at a gap, or at a comma inside a flow collection. -/
def readTag (flow : Bool) (cursor : Cursor) : Option (Tag × Cursor) := do
  let (tag, cursor) ←
    if cursor.rest[1]? = some '<' then readWholeTag cursor else readShortTag cursor
  if atGap cursor.rest || (flow && cursor.rest.head? = some ',') then some (tag, cursor) else none

/-- A character that may follow the name of an anchor or an alias. -/
def endsAnchor (text : List Char) : Bool :=
  atGap text || text.head?.any (['?', ':', ',', ']', '\x7d', '%', '@', '\x60'].contains ·)

/-- Reads the name of an anchor or an alias after its indicator. -/
def readAnchor (cursor : Cursor) : Option (String × Cursor) :=
  let name := cursor.rest.takeWhile isWord
  let cursor := cursor.skip name.length
  if name.isEmpty || !endsAnchor cursor.rest then none else some (String.ofList name, cursor)

/-! ### Directives -/

/-- What a directive says. -/
inductive Directive
  | version (major minor : Nat)
  /-- The beginning of the tags that are written with a handle. -/
  | tag (handle beginning : String)
  deriving DecidableEq, Inhabited, Repr

/-- Reads a number of at most nine digits. -/
def readVersionNumber (cursor : Cursor) : Option (Nat × Cursor) :=
  let digits := cursor.rest.takeWhile Char.isDigit
  if digits.isEmpty || 9 < digits.length then none
  else some (digits.foldl (fun value c => value * 10 + (c.toNat - '0'.toNat)) 0,
    cursor.skip digits.length)

/-- Reads the two numbers of a version. -/
def readVersion (cursor : Cursor) : Option (Directive × Cursor) := do
  let (major, cursor) ← readVersionNumber cursor.skipBlanks
  if cursor.rest.head? = some '.' then
    let (minor, cursor) ← readVersionNumber (cursor.skip 1)
    some (.version major minor, cursor)
  else none

/-- Reads a handle and the beginning that it stands for. -/
def readTagDirective (cursor : Cursor) : Option (Directive × Cursor) := do
  let cursor := cursor.skipBlanks
  if cursor.rest.head? ≠ some '!' then none
  else
    let (word, closed, cursor) := readHandle cursor
    let blank := cursor.rest.head?.any isBlank
    if !blank || (!closed && !word.isEmpty) then none
    else
      let cursor := cursor.skipBlanks
      let (text, cursor) ← readTagChars true 0 cursor.mark cursor.rest
      if text.isEmpty || !atGap cursor.rest then none
      else
        let handle := if closed then "!" ++ String.ofList word ++ "!" else "!"
        some (.tag handle (beforeNul text), cursor)

/-- Reads a directive with the rest of its line, from the percent sign on. -/
def readDirective (cursor : Cursor) : Option (Directive × Cursor) := do
  let cursor := cursor.skip 1
  let name := cursor.rest.takeWhile isWord
  let cursor := cursor.skip name.length
  if !atGap cursor.rest then none
  else
    let (directive, cursor) ←
      if name = "YAML".toList then readVersion cursor
      else if name = "TAG".toList then readTagDirective cursor
      else none
    some (directive, ← cursor.skipLineEnd?)

end PipelineGraph.Yaml
