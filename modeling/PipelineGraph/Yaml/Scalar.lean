/-
**Scalars, and what plain ones mean.**

A plain scalar is nothing, a boolean, an integer, a float, or else a text. Integers may have a sign
and be written in base 2, 8, 10 or 16; digits after a leading zero are a text. Floats are decimal, or
spelled `.inf` or `.nan`; one beyond the range of floats is a text.
-/

import PipelineGraph.Decimal.Read

namespace PipelineGraph.Yaml

/-- A scalar as it is written. -/
structure Scalar where
  tag : Option String := none
  plain : Bool := true
  text : String := ""
  deriving DecidableEq, Inhabited, Repr

/-- What a scalar may mean. -/
inductive Meaning
  | nothing
  | bool (value : Bool)
  | integer (value : Int)
  | float (value : Float)
  | text
  deriving Inhabited, Repr

/-- The value of a digit in a base. -/
def digitIn? (base : Nat) (c : Char) : Option Nat :=
  let value? :=
    if '0' ≤ c && c ≤ '9' then some (c.toNat - '0'.toNat)
    else if 'a' ≤ c && c ≤ 'f' then some (c.toNat - 'a'.toNat + 10)
    else if 'A' ≤ c && c ≤ 'F' then some (c.toNat - 'A'.toNat + 10)
    else none
  value?.filter (· < base)

/-- The number that digits in a base stand for, after those already read. -/
def digitsFrom? (base value : Nat) : List Char → Option Nat
  | [] => some value
  | c :: rest =>
    match digitIn? base c with
    | some digit => digitsFrom? base (value * base + digit) rest
    | none => none

/-- The number that one or more digits in a base stand for. -/
def digits? (base : Nat) : List Char → Option Nat
  | [] => none
  | digits => digitsFrom? base 0 digits

/-- The text without its sign. -/
def dropSign : List Char → List Char
  | '+' :: rest => rest
  | '-' :: rest => rest
  | text => text

/-- A zero with more digits after it, up to a sign: digits that stand for a text. -/
def hasLeadingZero (text : List Char) : Bool :=
  match dropSign text with
  | '0' :: rest => !rest.isEmpty && rest.all Char.isDigit
  | _ => false

/-- The number that an unsigned spelling in any base stands for. -/
def magnitude? : List Char → Option Nat
  | '0' :: 'x' :: digits => digits? 16 digits
  | '0' :: 'o' :: digits => digits? 8 digits
  | '0' :: 'b' :: digits => digits? 2 digits
  | digits => digits? 10 digits

/-- A number without a sign, within 128 bits. -/
def natural? (value : Nat) : Option Int := if value < Nat.pow 2 128 then some value else none

/-- The integer that a spelling stands for, within 128 bits. -/
def integer? (text : List Char) : Option Int :=
  if hasLeadingZero text then none
  else match text with
    | '-' :: rest =>
      (magnitude? rest).bind fun value =>
        if value ≤ Nat.pow 2 127 then some (-(value : Int)) else none
    | '+' :: rest => (magnitude? rest).bind natural?
    | text => (magnitude? text).bind natural?

/-- The digits at the start of a text, and what follows them. -/
def spanDigits (text : List Char) : List Nat × List Char :=
  ((text.takeWhile Char.isDigit).map fun c => c.toNat - '0'.toNat, text.dropWhile Char.isDigit)

/-- The digits before and after the point, and what follows them; there is at least one digit. -/
def spanDecimal? (text : List Char) : Option (List Nat × List Nat × List Char) :=
  let (whole, rest) := spanDigits text
  let (fraction, rest) := match rest with
    | '.' :: rest => spanDigits rest
    | rest => ([], rest)
  if whole.isEmpty && fraction.isEmpty then none else some (whole, fraction, rest)

/-- The exponent that makes up a whole text. -/
def exponent? : List Char → Option Int
  | [] => some 0
  | c :: rest =>
    if c = 'e' || c = 'E' then
      match rest with
      | '-' :: digits => (digits? 10 digits).map fun value => -(value : Int)
      | '+' :: digits => (digits? 10 digits).map Int.ofNat
      | digits => (digits? 10 digits).map Int.ofNat
    else none

/-- The float that an unsigned decimal spelling stands for; none beyond the range of floats. -/
def decimal? (text : List Char) : Option Float :=
  match spanDecimal? text with
  | some (whole, fraction, rest) =>
    match exponent? rest with
    | some exponent =>
      let x := (Decimal.Numeral.value ⟨whole, fraction, exponent⟩).nearest
      if x.isInf then none else some x
    | none => none
  | none => none

/-- The unsigned spellings of infinity. -/
def infinities : List String := [".inf", ".Inf", ".INF"]

/-- The spellings of what is no number. -/
def notNumbers : List String := [".nan", ".NaN", ".NAN"]

/-- The float that an unsigned spelling stands for. -/
def unsignedFloat? (text : List Char) : Option Float :=
  if infinities.contains (String.ofList text) then some (1 / 0) else decimal? text

/-- The float that a spelling stands for. -/
def float? (text : List Char) : Option Float :=
  if notNumbers.contains (String.ofList text) then some (0 / 0)
  else match text with
    | '-' :: rest => (unsignedFloat? rest).map fun x => -x
    | '+' :: rest => unsignedFloat? rest
    | text => unsignedFloat? text

/-- The spellings of the value that means nothing. -/
def nulls : List String := ["null", "Null", "NULL", "~"]

/-- The boolean that a spelling stands for. -/
def bool? (text : String) : Option Bool :=
  if ["true", "True", "TRUE"].contains text then some true
  else if ["false", "False", "FALSE"].contains text then some false
  else none

/-- The meaning of a plain scalar. -/
def Meaning.ofPlain (text : String) : Meaning :=
  if text.isEmpty || nulls.contains text then .nothing
  else match bool? text with
    | some value => .bool value
    | none =>
      match integer? text.toList with
      | some value => .integer value
      | none =>
        if hasLeadingZero text.toList then .text
        else match float? text.toList with
          | some value => .float value
          | none => .text

end PipelineGraph.Yaml
