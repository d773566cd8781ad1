/-
**Sets of code points as numbers.**

The tables of character properties are long lists, and comparing two of them entry by entry is slow. Here
a set of code points is the number whose bits are its elements (`rangesMask`, `codesMask`), so that one
operation on two numbers compares two tables. `disjoint_of_land` and `subset_of_land` read the answer
back as statements about the elements. `forall_ascii` checks the characters of ASCII by their codes.
-/

import PipelineGraph.Text.Ranges

namespace PipelineGraph.Text

/-! ### Bits -/

/-- The bits of a stretch. -/
def rangeMask (range : Nat × Nat) : Nat := (1 <<< (range.2 + 1 - range.1) - 1) <<< range.1

/-- The bits of some stretches. -/
def rangesMask (ranges : List (Nat × Nat)) : Nat :=
  ranges.foldr (fun range mask => rangeMask range ||| mask) 0

/-- The bits of some code points. -/
def codesMask (codes : List Nat) : Nat := codes.foldr (fun code mask => 1 <<< code ||| mask) 0

theorem testBit_rangeMask (range : Nat × Nat) (code : Nat) :
    (rangeMask range).testBit code = (range.1 ≤ code && code ≤ range.2) := by
  rw [rangeMask, Nat.testBit_shiftLeft, Nat.one_shiftLeft, Nat.testBit_two_pow_sub_one, ← Bool.decide_and,
    ← Bool.decide_and, decide_eq_decide]
  omega

/-- **A bit of some stretches is set when the code point lies in one of them.** -/
theorem testBit_rangesMask (ranges : List (Nat × Nat)) (code : Nat) :
    (rangesMask ranges).testBit code = inRanges ranges code := by
  induction ranges with
  | nil => exact Nat.zero_testBit code
  | cons range rest ih =>
    rw [rangesMask, List.foldr_cons, Nat.testBit_or, testBit_rangeMask, inRanges, List.any_cons]
    exact congrArg _ ih

/-- **A bit of some code points is set when the code point is one of them.** -/
theorem testBit_codesMask_iff {codes : List Nat} {code : Nat} :
    (codesMask codes).testBit code = true ↔ code ∈ codes := by
  induction codes with
  | nil => simp [codesMask]
  | cons first rest ih =>
    rw [codesMask, List.foldr_cons, Nat.testBit_or, Nat.one_shiftLeft, Nat.testBit_two_pow, Bool.or_eq_true,
      decide_eq_true_eq, List.mem_cons, eq_comm]
    exact or_congr_right ih

/-! ### Comparisons -/

/-- **No code point is in both sets, if they have no bit in common.** -/
theorem disjoint_of_land {mask other code : Nat} (apart : mask &&& other = 0)
    (inside : mask.testBit code = true) : other.testBit code = false := by
  have both := congrArg (Nat.testBit · code) apart
  simpa only [Nat.testBit_and, inside, Bool.true_and, Nat.zero_testBit] using both

/-- **A set lies in another, if it is what they have in common.** -/
theorem subset_of_land {mask other code : Nat} (within : mask &&& other = mask)
    (inside : mask.testBit code = true) : other.testBit code = true := by
  have both := congrArg (Nat.testBit · code) within
  simpa only [Nat.testBit_and, inside, Bool.true_and] using both

/-! ### ASCII -/

/-- What holds of the ASCII codes holds of the ASCII characters. -/
theorem forall_ascii {p : Char → Prop} (each : ∀ code < 0x80, p (Char.ofNat code)) {c : Char}
    (ascii : c.toNat < 0x80) : p c := by
  have known := each c.toNat ascii
  rwa [Char.ofNat_toNat] at known

end PipelineGraph.Text
