/-
**The fewest decimal digits that read back as a given binary float.**

A finite positive double is `mantissa · 2 ^ exponent`, and the reals that round to it form an
interval around it, with its ends exactly when the mantissa is even. Among the decimals in that
interval `shortest` takes one with the fewest digits, of those the nearest to the value, and of two
equally near the one with an even last digit. All the arithmetic is exact, on natural numbers.
-/

namespace PipelineGraph.Decimal

/-- The number `digits · 10 ^ exponent`. -/
structure Scaled where
  digits : Nat
  exponent : Int
  deriving DecidableEq, Repr

/-- The decimal digits of a natural number. -/
def digitChars (n : Nat) : List Char := Nat.toDigits 10 n

/-- The same number without zeros at the end of its digits; `fuel` bounds how many are removed. -/
def Scaled.strip : Nat → Scaled → Scaled
  | 0, number => number
  | fuel + 1, number =>
    if number.digits ≠ 0 ∧ number.digits % 10 = 0 then
      Scaled.strip fuel ⟨number.digits / 10, number.exponent + 1⟩
    else number

/-- A finite positive double, taken apart. -/
structure Binary where
  mantissa : Nat
  exponent : Int
  /-- The gap to the next smaller double is half the gap to the next larger one. -/
  atPowerOfTwo : Bool
  deriving DecidableEq, Repr

/-- The mantissa and exponent of a double, from its bits without the sign. -/
def Binary.ofBits (bits : Nat) : Binary :=
  let unit := Nat.pow 2 52
  let fraction := bits % unit
  let biased := bits / unit % Nat.pow 2 11
  if biased = 0 then ⟨fraction, -1074, false⟩
  else ⟨unit + fraction, (biased : Int) - 1075, fraction = 0 && biased != 1⟩

/-- The value and the ends of its rounding interval, as numerators over one denominator. -/
structure Interval where
  low : Nat
  value : Nat
  high : Nat
  denominator : Nat
  /-- The ends belong to the interval. -/
  closed : Bool

/-- The reals that round to a double. -/
def Binary.interval (x : Binary) : Interval :=
  let scale := Nat.pow 2 (x.exponent - 2).toNat
  let below := if x.atPowerOfTwo then 1 else 2
  ⟨(4 * x.mantissa - below) * scale, 4 * x.mantissa * scale, (4 * x.mantissa + 2) * scale,
    Nat.pow 2 (2 - x.exponent).toNat, x.mantissa % 2 = 0⟩

/-- The decimal lies in the interval. -/
def Interval.holds (range : Interval) (number : Scaled) : Bool :=
  let up := Nat.pow 10 number.exponent.toNat
  let down := Nat.pow 10 (-number.exponent).toNat
  let point := number.digits * up * range.denominator
  if range.closed then range.low * down ≤ point && point ≤ range.high * down
  else range.low * down < point && point < range.high * down

/-- The distance of the decimal from the value, up to a factor that depends on the exponents. -/
def Interval.distance (range : Interval) (number : Scaled) : Nat :=
  let point := number.digits * Nat.pow 10 number.exponent.toNat * range.denominator
  let value := range.value * Nat.pow 10 (-number.exponent).toNat
  (point - value) + (value - point)

/-- The two decimals next to the value whose last digit stands for `10 ^ exponent`. -/
def Interval.neighbours (range : Interval) (exponent : Int) : Scaled × Scaled :=
  let digits := range.value * Nat.pow 10 (-exponent).toNat /
    (range.denominator * Nat.pow 10 exponent.toNat)
  (⟨digits, exponent⟩, ⟨digits + 1, exponent⟩)

/-- Of two neighbours the nearer to the value; of two equally near the one with an even digit. -/
def Interval.nearer (range : Interval) (lower upper : Scaled) : Scaled :=
  match compare (range.distance lower) (range.distance upper) with
  | .lt => lower
  | .gt => upper
  | .eq => if lower.digits % 2 = 0 then lower else upper

/-- The nearer of the two neighbours on one grid that lie in the interval. -/
def Interval.onGrid? (range : Interval) (exponent : Int) : Option Scaled :=
  let (lower, upper) := range.neighbours exponent
  match range.holds lower, range.holds upper with
  | true, true => some (range.nearer lower upper)
  | true, false => some lower
  | false, true => some upper
  | false, false => none

/-- The number of decimal places before the point; zero or less for a value below one tenth. -/
def Interval.places (range : Interval) : Int :=
  if range.denominator ≤ range.value then (digitChars (range.value / range.denominator)).length
  else
    match (List.range 400).find? fun zeros =>
      range.denominator ≤ range.value * Nat.pow 10 zeros with
    | some zeros => 1 - (zeros : Int)
    | none => 0

/-- The decimal with the fewest digits that reads back as the double. -/
def shortest (x : Binary) : Scaled :=
  let range := x.interval
  match (List.range 17).findSome? fun (index : Nat) =>
      range.onGrid? (range.places - (index + 1 : Nat)) with
  | some number => number.strip 20
  | none => ⟨0, 0⟩

end PipelineGraph.Decimal
