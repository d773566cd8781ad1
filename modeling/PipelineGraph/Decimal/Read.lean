/-
Decimals read as floats. `nearest` rounds correctly, however many digits there are. `stepwise`
keeps as many leading digits as fit in 64 bits and scales them by a power of ten in floating point,
which rounds twice; it refuses a number beyond the range of floats.
-/

import PipelineGraph.Decimal.Shortest

namespace PipelineGraph.Decimal

/-- A numeral without its sign: the digits before and after the point, and the exponent. -/
structure Numeral where
  whole : List Nat
  fraction : List Nat
  exponent : Int
  deriving DecidableEq, Inhabited, Repr

/-- The number that a list of digits stands for. -/
def ofDigits (digits : List Nat) : Nat := digits.foldl (fun value digit => value * 10 + digit) 0

/-- The exact value of a numeral. -/
def Numeral.value (numeral : Numeral) : Scaled :=
  ⟨ofDigits (numeral.whole ++ numeral.fraction), numeral.exponent - numeral.fraction.length⟩

/-- The float nearest to a decimal; infinite beyond the range. -/
def Scaled.nearest (number : Scaled) : Float :=
  let places := (digitChars number.digits).length + number.exponent
  if number.digits = 0 then 0
  else if places < -400 then 0
  else if 400 < places then 1 / 0
  else Float.ofScientific number.digits (number.exponent < 0) number.exponent.natAbs

/-- Leading digits that fit in 64 bits, and the power of ten that they are to be scaled by. -/
structure Leading where
  significand : Nat
  exponent : Int

/-- The significand with one more digit still fits in 64 bits. -/
def Leading.fits (leading : Leading) (digit : Nat) : Bool :=
  leading.significand * 10 + digit < Nat.pow 2 64

/-- Takes in the digits before the point; from the first that does not fit on, each only scales. -/
def Leading.takeWhole (leading : Leading) : List Nat → Leading
  | [] => leading
  | digit :: rest =>
    if leading.fits digit then
      Leading.takeWhole ⟨leading.significand * 10 + digit, leading.exponent⟩ rest
    else ⟨leading.significand, leading.exponent + (rest.length + 1)⟩

/-- Takes in the digits after the point; from the first that does not fit on, they are dropped. -/
def Leading.takeFraction (leading : Leading) : List Nat → Leading
  | [] => leading
  | digit :: rest =>
    if leading.fits digit then
      Leading.takeFraction ⟨leading.significand * 10 + digit, leading.exponent - 1⟩ rest
    else leading

/-- A power of ten that floats can hold. -/
def powerOfTen (exponent : Nat) : Float := Float.ofScientific 1 false exponent

/-- Divides by `10 ^ places`, in steps of at most `10 ^ 308`. -/
def divideByPower (x : Float) (places : Nat) : Float :=
  if places ≤ 308 then x / powerOfTen places
  else if x == 0 then x
  else divideByPower (x / powerOfTen 308) (places - 308)
termination_by places

/-- The significand scaled in floating point; none beyond the range of floats. -/
def Leading.scale? (leading : Leading) : Option Float :=
  let x := Float.ofNat leading.significand
  if leading.exponent < 0 then some (divideByPower x leading.exponent.natAbs)
  else if leading.exponent ≤ 308 then
    let scaled := x * powerOfTen leading.exponent.natAbs
    if scaled.isInf then none else some scaled
  else if x == 0 then some x
  else none

/-- The float that a numeral is read as digit by digit; none beyond the range of floats. -/
def Numeral.stepwise? (numeral : Numeral) : Option Float :=
  let leading := (Leading.takeWhole ⟨0, 0⟩ numeral.whole).takeFraction numeral.fraction
  Leading.scale? ⟨leading.significand, leading.exponent + numeral.exponent⟩

end PipelineGraph.Decimal
