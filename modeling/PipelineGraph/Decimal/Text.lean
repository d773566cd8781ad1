/-
Decimals as text. `Layout` says where positional writing ends; `json` and `plain` are the two
layouts in use. A float is written with the fewest digits that read back as it.
-/

import PipelineGraph.Decimal.Shortest

namespace PipelineGraph.Decimal

/-- How a decimal is laid out. The exponent asked about is that of the first digit. -/
structure Layout where
  /-- The number is written with its digits around a point, and not with an exponent. -/
  positional : Int → Bool

/-- From `0.00001` up to below `10 ^ 16` a number is written positionally, else with an exponent. -/
def json : Layout := ⟨fun exponent => -5 ≤ exponent && exponent < 16⟩

/-- Every number is written positionally. -/
def plain : Layout := ⟨fun _ => true⟩

/-- A nonzero decimal around a point, with at least one digit on either side. -/
def Scaled.positional (number : Scaled) : String :=
  let written := digitChars number.digits
  let whole := written.length + number.exponent
  if 0 ≤ number.exponent then
    String.ofList (written ++ List.replicate number.exponent.toNat '0') ++ ".0"
  else if 0 < whole then
    String.ofList (written.take whole.toNat ++ '.' :: written.drop whole.toNat)
  else "0." ++ String.ofList (List.replicate (-whole).toNat '0' ++ written)

/-- An exponent with its sign. -/
def signedExponent (exponent : Int) : String :=
  (if exponent < 0 then "-" else "+") ++ toString exponent.natAbs

/-- A nonzero decimal as one digit, the other digits after a point, and an exponent. -/
def Scaled.scientific (number : Scaled) : String :=
  let written := digitChars number.digits
  let exponent := number.exponent + written.length - 1
  match written with
  | [] => ""
  | [digit] => String.ofList [digit] ++ "e" ++ signedExponent exponent
  | digit :: rest => String.ofList (digit :: '.' :: rest) ++ "e" ++ signedExponent exponent

/-- A decimal in a layout. -/
def Scaled.text (layout : Layout) (number : Scaled) : String :=
  let exponent := number.exponent + (digitChars number.digits).length - 1
  if number.digits = 0 then "0.0"
  else if layout.positional exponent then number.positional
  else number.scientific

/-- The text of a float. -/
def floatText (layout : Layout) (x : Float) : String :=
  let bits := x.toBits.toNat
  let signBit := Nat.pow 2 63
  let sign := if bits / signBit = 1 then "-" else ""
  if x.isNaN then "NaN"
  else if x.isInf then sign ++ "inf"
  else sign ++ (shortest (Binary.ofBits (bits % signBit))).text layout

end PipelineGraph.Decimal
