/-
**What a reader of JSON sees, from left to right.**

A text is read into a tree that never fails as a whole: where the text stops being JSON, the tree has
a fault in that place and nothing after it. So whoever walks the tree from left to right meets the
problems of the text and those of its meaning in one order, and the first one met decides.

Strings are kept as units, because a lone surrogate escape is a problem only for those who want the
text of the string, and numbers as numerals, because their range matters only to those who want their
value.
-/

import PipelineGraph.Decimal.Read
import PipelineGraph.Json.Value

namespace PipelineGraph.Json

/-- Why a text cannot be read on: it ends, or it is not JSON. -/
inductive Fault
  | unexpectedEnd
  | malformed
  deriving DecidableEq, Inhabited, Repr

/-- A unit of a string: a character, or half of a surrogate pair written as an escape. -/
inductive StringUnit
  | char (c : Char)
  | surrogate (code : Nat)
  deriving DecidableEq, Inhabited, Repr

/-- A string as it is read, with the fault that it stops at, if it is not closed. -/
structure Quoted where
  units : List StringUnit
  stop : Option Fault
  deriving DecidableEq, Inhabited, Repr

/-- A number as it is read. An integral one has neither a point nor an exponent. -/
structure Numeral where
  negative : Bool
  integral : Bool
  decimal : Decimal.Numeral
  deriving Inhabited

/-- What is read of a value. -/
inductive Reading
  | null
  | bool (value : Bool)
  | number (value : Numeral)
  /-- A number that breaks off. -/
  | brokenNumber (fault : Fault)
  | string (value : Quoted)
  | array (items : List Reading) (stop : Option Fault)
  | object (members : List (Quoted × Reading)) (stop : Option Fault)
  | fault (fault : Fault)
  deriving Inhabited

/-! ### Blanks, words, strings and numbers -/

/-- A space, a tab, a line feed or a carriage return. -/
def isBlank (c : Char) : Bool := c == ' ' || c == '\n' || c == '\t' || c == '\r'

/-- The text after its blanks. -/
def skipBlanks (text : List Char) : List Char := text.dropWhile isBlank

/-- What follows a word. -/
def readWord : List Char → List Char → Except Fault (List Char)
  | [], text => .ok text
  | _ :: _, [] => .error .unexpectedEnd
  | c :: word, d :: text => if c = d then readWord word text else .error .malformed

/-- The value of a hexadecimal digit. -/
def hexValue? (c : Char) : Option Nat :=
  if '0' ≤ c && c ≤ '9' then some (c.toNat - '0'.toNat)
  else if 'a' ≤ c && c ≤ 'f' then some (c.toNat - 'a'.toNat + 10)
  else if 'A' ≤ c && c ≤ 'F' then some (c.toNat - 'A'.toNat + 10)
  else none

/-- The code unit that four hexadecimal digits stand for. -/
def codeUnit? (a b c d : Char) : Option Nat := do
  let a ← hexValue? a
  let b ← hexValue? b
  let c ← hexValue? c
  let d ← hexValue? d
  return a * 0x1000 + b * 0x100 + c * 0x10 + d

/-- The fault of an escape without four hexadecimal digits: the text may end within the four bytes
where they should be. -/
def hexFault (text : List Char) : Fault :=
  if (String.ofList text).utf8ByteSize < 4 then .unexpectedEnd else .malformed

/-- The unit of a code unit. -/
def StringUnit.ofCode (code : Nat) : StringUnit :=
  if 0xD800 ≤ code && code < 0xE000 then .surrogate code else .char (Char.ofNat code)

/-- The character of a short escape. -/
def unescape? : Char → Option Char
  | '"' => some '"'
  | '\\' => some '\\'
  | '/' => some '/'
  | 'b' => some '\x08'
  | 'f' => some '\x0c'
  | 'n' => some '\n'
  | 'r' => some '\r'
  | 't' => some '\t'
  | _ => none

/-- The units of a string up to its closing quote, and what follows it. -/
def readUnits : List Char → List StringUnit × Except Fault (List Char)
  | [] => ([], .error .unexpectedEnd)
  | '"' :: rest => ([], .ok rest)
  | ['\\'] => ([], .error .unexpectedEnd)
  | '\\' :: 'u' :: a :: b :: c :: d :: rest =>
    match codeUnit? a b c d with
    | some code =>
      let (units, stop) := readUnits rest
      (.ofCode code :: units, stop)
    | none => ([], .error (hexFault (a :: b :: c :: d :: rest)))
  | '\\' :: 'u' :: short => ([], .error (hexFault short))
  | '\\' :: c :: rest =>
    match unescape? c with
    | some d =>
      let (units, stop) := readUnits rest
      (.char d :: units, stop)
    | none => ([], .error .malformed)
  | c :: rest =>
    if c.toNat < 0x20 then ([], .error .malformed)
    else
      let (units, stop) := readUnits rest
      (.char c :: units, stop)

/-- A string after its opening quote, and what follows it. -/
def readString (text : List Char) : Quoted × Option (List Char) :=
  match readUnits text with
  | (units, .ok rest) => (⟨units, none⟩, some rest)
  | (units, .error fault) => (⟨units, some fault⟩, none)

/-- The digits at the start of a text, and what follows them. -/
def spanDigits (text : List Char) : List Nat × List Char :=
  ((text.takeWhile Char.isDigit).map fun c => c.toNat - '0'.toNat, text.dropWhile Char.isDigit)

/-- One or more digits at the start of a text, and what follows them. -/
def readDigits (text : List Char) : Except Fault (List Nat × List Char) :=
  match spanDigits text with
  | ([], []) => .error .unexpectedEnd
  | ([], _ :: _) => .error .malformed
  | (digits, rest) => .ok (digits, rest)

/-- The digits before the point; a zero stands alone. -/
def readWhole (text : List Char) : Except Fault (List Nat × List Char) :=
  match readDigits text with
  | .ok (0 :: _ :: _, _) => .error .malformed
  | result => result

/-- The digits after the point, if there is a point. -/
def readFraction : List Char → Except Fault (List Nat × List Char)
  | '.' :: rest => readDigits rest
  | text => .ok ([], text)

/-- The exponent, if there is one. -/
def readExponent : List Char → Except Fault (Option Int × List Char)
  | [] => .ok (none, [])
  | c :: text =>
    if c = 'e' || c = 'E' then
      let (negative, text) := match text with
        | '-' :: text => (true, text)
        | '+' :: text => (false, text)
        | text => (false, text)
      match readDigits text with
      | .ok (digits, rest) =>
        let magnitude : Int := Decimal.ofDigits digits
        .ok (some (if negative then -magnitude else magnitude), rest)
      | .error fault => .error fault
    else .ok (none, c :: text)

/-- A number after its sign, and what follows it. -/
def readNumber (negative : Bool) (text : List Char) : Except Fault (Numeral × List Char) :=
  match readWhole text with
  | .error fault => .error fault
  | .ok (whole, text) =>
    match readFraction text with
    | .error fault => .error fault
    | .ok (fraction, text) =>
      match readExponent text with
      | .error fault => .error fault
      | .ok (exponent, text) =>
        .ok (⟨negative, fraction.isEmpty && exponent.isNone,
          ⟨whole, fraction, exponent.getD 0⟩⟩, text)

/-! ### Values -/

/-- A value that is one word. -/
def readConstant (word : String) (value : Reading) (text : List Char) :
    Reading × Option (List Char) :=
  match readWord word.toList text with
  | .ok rest => (value, some rest)
  | .error fault => (.fault fault, none)

/-- A value that is a number. -/
def readNumeral (negative : Bool) (text : List Char) : Reading × Option (List Char) :=
  match readNumber negative text with
  | .ok (numeral, rest) => (.number numeral, some rest)
  | .error fault => (.brokenNumber fault, none)

/-- The colon between a key and its value, and what follows it. -/
def readColon (text : List Char) : Except Fault (List Char) :=
  match skipBlanks text with
  | ':' :: rest => .ok rest
  | [] => .error .unexpectedEnd
  | _ :: _ => .error .malformed

mutual

/-- A value and what follows it, unless it has a fault. `fuel` bounds the steps. -/
def readValue : Nat → List Char → Reading × Option (List Char)
  | 0, _ => (.fault .malformed, none)
  | fuel + 1, text =>
    match skipBlanks text with
    | [] => (.fault .unexpectedEnd, none)
    | 'n' :: rest => readConstant "ull" .null rest
    | 't' :: rest => readConstant "rue" (.bool true) rest
    | 'f' :: rest => readConstant "alse" (.bool false) rest
    | '-' :: rest => readNumeral true rest
    | '"' :: rest =>
      let (value, stop) := readString rest
      (.string value, stop)
    | '[' :: rest =>
      match skipBlanks rest with
      | ']' :: rest => (.array [] none, some rest)
      | [] => (.array [] (some .unexpectedEnd), none)
      | rest =>
        let (items, fault, stop) := readItems fuel rest
        (.array items fault, stop)
    | '\x7b' :: rest =>
      match skipBlanks rest with
      | '\x7d' :: rest => (.object [] none, some rest)
      | rest =>
        let (members, fault, stop) := readMembers fuel rest
        (.object members fault, stop)
    | c :: rest => if c.isDigit then readNumeral false (c :: rest) else (.fault .malformed, none)

/-- The items from the next one on, the fault that they stop at, and what follows them. -/
def readItems : Nat → List Char → List Reading × Option Fault × Option (List Char)
  | 0, _ => ([.fault .malformed], none, none)
  | fuel + 1, text =>
    match readValue fuel text with
    | (item, none) => ([item], none, none)
    | (item, some rest) =>
      match skipBlanks rest with
      | ']' :: rest => ([item], none, some rest)
      | ',' :: rest =>
        let (items, fault, stop) := readItems fuel rest
        (item :: items, fault, stop)
      | [] => ([item], some .unexpectedEnd, none)
      | _ :: _ => ([item], some .malformed, none)

/-- The members from the next one on, the fault that they stop at, and what follows them. -/
def readMembers : Nat → List Char → List (Quoted × Reading) × Option Fault × Option (List Char)
  | 0, _ => ([], some .malformed, none)
  | fuel + 1, text =>
    match skipBlanks text with
    | [] => ([], some .unexpectedEnd, none)
    | '"' :: rest =>
      match readString rest with
      | (key, none) => ([(key, .fault .malformed)], none, none)
      | (key, some rest) =>
        match readColon rest with
        | .error fault => ([(key, .fault fault)], none, none)
        | .ok rest =>
          match readValue fuel rest with
          | (value, none) => ([(key, value)], none, none)
          | (value, some rest) =>
            match skipBlanks rest with
            | '\x7d' :: rest => ([(key, value)], none, some rest)
            | ',' :: rest =>
              let (members, fault, stop) := readMembers fuel rest
              ((key, value) :: members, fault, stop)
            | [] => ([(key, value)], some .unexpectedEnd, none)
            | _ :: _ => ([(key, value)], some .malformed, none)
    | _ :: _ => ([], some .malformed, none)

end

/-- A whole text: a value, and whether anything but blanks follows it. -/
structure Document where
  root : Reading
  trailing : Bool

/-- The reading of a text. -/
def read (text : String) : Document :=
  let chars := text.toList
  match readValue (2 * chars.length + 2) chars with
  | (value, some rest) => ⟨value, !(skipBlanks rest).isEmpty⟩
  | (value, none) => ⟨value, false⟩

/-! ### Faults, texts and numbers -/

mutual

/-- The fault that the reading of a value stops at, if any: what matters of a value that nobody
wants. -/
def Reading.fault? : Reading → Option Fault
  | .null => none
  | .bool _ => none
  | .number _ => none
  | .brokenNumber _ => some .malformed
  | .string value => value.stop
  | .array items stop => (itemsFault? items).or stop
  | .object members stop => (membersFault? members).or stop
  | .fault fault => some fault

/-- The first fault of a list of items. -/
def itemsFault? : List Reading → Option Fault
  | [] => none
  | item :: rest => item.fault?.or (itemsFault? rest)

/-- The first fault of a list of members. -/
def membersFault? : List (Quoted × Reading) → Option Fault
  | [] => none
  | (key, value) :: rest => (key.stop.or value.fault?).or (membersFault? rest)

end

/-- A high and a low surrogate together. -/
def joinSurrogates (high low : Nat) : Char :=
  Char.ofNat (0x10000 + (high - 0xD800) * 0x400 + (low - 0xDC00))

/-- The characters of a string, with surrogates joined in pairs. A surrogate without its other half
is a fault where it stands. -/
def joinUnits (stop : Option Fault) : List StringUnit → Except Fault (List Char)
  | [] => match stop with
    | none => .ok []
    | some fault => .error fault
  | .char c :: rest => (joinUnits stop rest).map (c :: ·)
  | [.surrogate high] => .error (if 0xDC00 ≤ high then .malformed else stop.getD .malformed)
  | .surrogate high :: .surrogate low :: rest =>
    if high < 0xDC00 ∧ 0xDC00 ≤ low then
      (joinUnits stop rest).map (joinSurrogates high low :: ·)
    else .error .malformed
  | .surrogate _ :: .char _ :: _ => .error .malformed

/-- The text of a string. -/
def Quoted.text (value : Quoted) : Except Fault String :=
  (joinUnits value.stop value.units).map String.ofList

/-- The number of a numeral; none beyond the range of floats. An integral numeral that fits in 64 bits
is an integer, except for a negative zero. -/
def Numeral.number? (numeral : Numeral) : Option Number :=
  let value := Decimal.ofDigits numeral.decimal.whole
  if numeral.integral && !numeral.negative && value < Nat.pow 2 64 then some (.natural value)
  else if numeral.integral && numeral.negative && 0 < value && value ≤ Nat.pow 2 63 then
    some (.negative value)
  else numeral.decimal.stepwise?.map fun x => .float (if numeral.negative then -x else x)

mutual

/-- The value that is read, if the text has no fault. -/
def Reading.value : Reading → Except Fault Value
  | .null => .ok .null
  | .bool value => .ok (.bool value)
  | .number numeral =>
    match numeral.number? with
    | some number => .ok (.number number)
    | none => .error .malformed
  | .brokenNumber fault => .error fault
  | .string value => value.text.map .string
  | .array items stop => (itemsValue stop items).map .array
  | .object members stop => (membersValue stop members).map .object
  | .fault fault => .error fault

/-- The values of a list of items. -/
def itemsValue (stop : Option Fault) : List Reading → Except Fault (List Value)
  | [] => match stop with
    | none => .ok []
    | some fault => .error fault
  | item :: rest => do
    let item ← item.value
    let rest ← itemsValue stop rest
    return item :: rest

/-- The values of a list of members. -/
def membersValue (stop : Option Fault) : List (Quoted × Reading) → Except Fault (List (String × Value))
  | [] => match stop with
    | none => .ok []
    | some fault => .error fault
  | (key, value) :: rest => do
    let key ← key.text
    let value ← value.value
    let rest ← membersValue stop rest
    return (key, value) :: rest

end

/-- The value of a whole text. -/
def Document.value (document : Document) : Except Fault Value := do
  let value ← document.root.value
  if document.trailing then throw .malformed else return value

end PipelineGraph.Json
