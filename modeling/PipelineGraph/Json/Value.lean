/-
**JSON values and their text.**

Objects are lists of members in the order in which they are written. There is a compact text, without
any white space, and an indented one, with two spaces for each level.
-/

import PipelineGraph.Decimal.Text

namespace PipelineGraph.Json

/-- A number: a natural number, the negative of one, or a float. -/
inductive Number
  | natural (value : Nat)
  | negative (magnitude : Nat)
  | float (value : Float)
  deriving Inhabited, Repr

/-- A JSON value. -/
inductive Value
  | null
  | bool (value : Bool)
  | number (value : Number)
  | string (value : String)
  | array (items : List Value)
  | object (members : List (String × Value))
  deriving Inhabited

/-- A hexadecimal digit in lower case. -/
def hexChar (n : Nat) : Char := Nat.digitChar n

/-- A character inside a string. -/
def escapeChar (c : Char) : List Char :=
  match c with
  | '"' => ['\\', '"']
  | '\\' => ['\\', '\\']
  | '\x08' => ['\\', 'b']
  | '\x0c' => ['\\', 'f']
  | '\n' => ['\\', 'n']
  | '\r' => ['\\', 'r']
  | '\t' => ['\\', 't']
  | c =>
    if c.toNat < 0x20 then ['\\', 'u', '0', '0', hexChar (c.toNat / 16), hexChar (c.toNat % 16)]
    else [c]

/-- A string with its quotes. -/
def stringChars (text : String) : List Char := '"' :: text.toList.flatMap escapeChar ++ ['"']

/-- A number. Floats that are not finite have no number and are written as `null`. -/
def Number.chars : Number → List Char
  | .natural value => Nat.toDigits 10 value
  | .negative magnitude => '-' :: Nat.toDigits 10 magnitude
  | .float value =>
    if value.isFinite then (Decimal.floatText Decimal.json value).toList else "null".toList

mutual

/-- The compact text of a value. -/
def Value.chars : Value → List Char
  | .null => "null".toList
  | .bool true => "true".toList
  | .bool false => "false".toList
  | .number value => value.chars
  | .string value => stringChars value
  | .array [] => ['[', ']']
  | .array (item :: rest) => '[' :: item.chars ++ itemsChars rest ++ [']']
  | .object [] => ['\x7b', '\x7d']
  | .object ((key, value) :: rest) =>
    '\x7b' :: stringChars key ++ ':' :: value.chars ++ membersChars rest ++ ['\x7d']

/-- The items after the first one, each after a comma. -/
def itemsChars : List Value → List Char
  | [] => []
  | item :: rest => ',' :: item.chars ++ itemsChars rest

/-- The members after the first one, each after a comma. -/
def membersChars : List (String × Value) → List Char
  | [] => []
  | (key, value) :: rest => ',' :: stringChars key ++ ':' :: value.chars ++ membersChars rest

end

/-- A line feed and the indentation of a level. -/
def newLine (level : Nat) : List Char := '\n' :: List.replicate (2 * level) ' '

mutual

/-- The indented text of a value that stands at a level. -/
def Value.indentedChars (level : Nat) : Value → List Char
  | .array [] => ['[', ']']
  | .array (item :: rest) =>
    '[' :: newLine (level + 1) ++ item.indentedChars (level + 1) ++
      itemsIndentedChars (level + 1) rest ++ newLine level ++ [']']
  | .object [] => ['\x7b', '\x7d']
  | .object ((key, value) :: rest) =>
    '\x7b' :: newLine (level + 1) ++ stringChars key ++ ':' :: ' ' ::
      value.indentedChars (level + 1) ++ membersIndentedChars (level + 1) rest ++
      newLine level ++ ['\x7d']
  | .null => "null".toList
  | .bool true => "true".toList
  | .bool false => "false".toList
  | .number value => value.chars
  | .string value => stringChars value

/-- The items after the first one, each on a line after a comma. -/
def itemsIndentedChars (level : Nat) : List Value → List Char
  | [] => []
  | item :: rest =>
    ',' :: newLine level ++ item.indentedChars level ++ itemsIndentedChars level rest

/-- The members after the first one, each on a line after a comma. -/
def membersIndentedChars (level : Nat) : List (String × Value) → List Char
  | [] => []
  | (key, value) :: rest =>
    ',' :: newLine level ++ stringChars key ++ ':' :: ' ' :: value.indentedChars level ++
      membersIndentedChars level rest

end

/-- The compact text of a value. -/
def Value.text (value : Value) : String := String.ofList value.chars

/-- The indented text of a value, without a line feed at its end. -/
def Value.indentedText (value : Value) : String := String.ofList (value.indentedChars 0)

end PipelineGraph.Json
