/-
**Lower case, letters and white space.**

What the tables of character properties say of each other.

* `isWhite_of_isAlphanumeric` — no letter and no numeral is white space.
* `lowerChar_cases` — but for `İ`, the lower case of a character is the character itself or one letter
  that is not in upper case.
* `lowerChar_settled` — lower-casing what lower-casing gives changes nothing.
* `isWhite_of_mem_lowerChar` — lower-casing makes no white space.
-/

import PipelineGraph.Identifier
import PipelineGraph.Proofs.Text.CodePoints

namespace PipelineGraph.Text

/-! ### Letters and numerals, with those of ASCII -/

/-- The stretches of letters. -/
def letterRanges : List (Nat × Nat) := (0x41, 0x5A) :: (0x61, 0x7A) :: alphabeticRanges

/-- The stretches of numerals. -/
def numeralRanges : List (Nat × Nat) := (0x30, 0x39) :: numericRanges

/-- **A property with an ASCII part and a table for the rest is one table**, if the ASCII part is a table
too and each of the two keeps to its side. -/
theorem ite_ascii_eq_inRanges {p : Char → Bool} (first : List (Nat × Nat)) {rest : List (Nat × Nat)}
    (within : ∀ range ∈ first, range.2 < 0x80) (beyond : ∀ range ∈ rest, 0x80 ≤ range.1)
    (agree : ∀ code < 0x80, p (Char.ofNat code) = inRanges first (Char.ofNat code).toNat) (c : Char) :
    (if c.toNat < 0x80 then p c else inRanges rest c.toNat) = inRanges (first ++ rest) c.toNat := by
  have joined : inRanges (first ++ rest) c.toNat = (inRanges first c.toNat || inRanges rest c.toNat) :=
    List.any_append
  rw [joined]
  split
  · rename_i ascii
    have outside : inRanges rest c.toNat = false := by
      rw [Bool.eq_false_iff, ne_eq, inRanges_iff]
      rintro ⟨range, inside, low, _⟩
      have high := beyond range inside
      omega
    rw [outside, Bool.or_false]
    exact forall_ascii (p := fun c => p c = inRanges first c.toNat) agree ascii
  · rename_i notAscii
    have outside : inRanges first c.toNat = false := by
      rw [Bool.eq_false_iff, ne_eq, inRanges_iff]
      rintro ⟨range, inside, _, high⟩
      have low := within range inside
      omega
    rw [outside, Bool.false_or]

theorem isAlphabetic_eq (c : Char) : isAlphabetic c = inRanges letterRanges c.toNat :=
  ite_ascii_eq_inRanges [(0x41, 0x5A), (0x61, 0x7A)] (by decide) (by decide +kernel) (by decide) c

theorem isNumeral_eq (c : Char) : isNumeral c = inRanges numeralRanges c.toNat :=
  ite_ascii_eq_inRanges [(0x30, 0x39)] (by decide) (by decide +kernel) (by decide) c

theorem white_land_alphanumeric :
    rangesMask (letterRanges ++ numeralRanges) &&& rangesMask whiteRanges = 0 := by
  decide +kernel

/-- **No letter and no numeral is white space.** -/
theorem isWhite_of_isAlphanumeric {c : Char} (inside : isAlphanumeric c = true) :
    isWhite c = false := by
  have listed : (rangesMask (letterRanges ++ numeralRanges)).testBit c.toNat = true := by
    rw [testBit_rangesMask, inRanges, List.any_append]
    rwa [isAlphanumeric, isAlphabetic_eq, isNumeral_eq] at inside
  rw [isWhite, ← testBit_rangesMask]
  exact disjoint_of_land white_land_alphanumeric listed

/-! ### The images of the table -/

/-- The upper-case characters of ASCII. -/
def asciiRun : CaseRun := ⟨0x41, 0x5A, 1, 32⟩

/-- The stretches of upper-case characters. -/
def allCaseRuns : List CaseRun := asciiRun :: caseRuns

namespace CaseRun

/-- The code points of the run. -/
def codes (run : CaseRun) : List Nat :=
  List.range' run.low ((run.high - run.low) / run.step + 1) run.step

/-- The lower case of a code point of the run. -/
def image (run : CaseRun) (code : Nat) : Nat := (code + run.shift).toNat

theorem mem_codes {run : CaseRun} {code : Nat} (inside : run.contains code = true) :
    code ∈ run.codes := by
  simp only [contains, Bool.and_eq_true, decide_eq_true_eq, beq_iff_eq] at inside
  obtain ⟨⟨low, high⟩, onStep⟩ := inside
  have split := Nat.div_add_mod (code - run.low) run.step
  have fits := Nat.div_le_div_right (c := run.step) (Nat.sub_le_sub_right high run.low)
  exact List.mem_range'.mpr ⟨(code - run.low) / run.step, by omega, by omega⟩

end CaseRun

/-- The code points in upper case. -/
def upperCodes : List Nat := 0x130 :: allCaseRuns.flatMap CaseRun.codes

/-- Their lower case, but for that of `İ`. -/
def imageCodes : List Nat := allCaseRuns.flatMap fun run => run.codes.map run.image

theorem images_land_upper : codesMask imageCodes &&& codesMask upperCodes = 0 := by
  decide +kernel

theorem images_land_letters :
    codesMask imageCodes &&& rangesMask letterRanges = codesMask imageCodes := by
  decide +kernel

section Image

variable {run : CaseRun} (listed : run ∈ allCaseRuns) {code : Nat} (inside : run.contains code = true)
include listed inside

theorem image_mem : (codesMask imageCodes).testBit (run.image code) = true :=
  testBit_codesMask_iff.mpr
    (List.mem_flatMap.mpr ⟨run, listed, List.mem_map_of_mem (CaseRun.mem_codes inside)⟩)

/-- **An image is not in upper case.** -/
theorem image_settled :
    run.image code ≠ 0x130 ∧ ∀ other ∈ allCaseRuns, other.contains (run.image code) = false := by
  have free := disjoint_of_land images_land_upper (image_mem listed inside)
  have outside : run.image code ∉ upperCodes := by
    rw [← testBit_codesMask_iff, free]
    exact Bool.false_ne_true
  rw [upperCodes, List.mem_cons, not_or] at outside
  refine ⟨outside.1, fun other isOther => Bool.eq_false_iff.mpr fun contained => outside.2 ?_⟩
  exact List.mem_flatMap.mpr ⟨other, isOther, CaseRun.mem_codes contained⟩

/-- **An image is a letter.** -/
theorem image_letter : inRanges letterRanges (run.image code) = true := by
  rw [← testBit_rangesMask]
  exact subset_of_land images_land_letters (image_mem listed inside)

end Image

/-- A code point in the stretches of letters is that of a character. -/
theorem toNat_ofNat_of_letter {code : Nat} (letter : inRanges letterRanges code = true) :
    (Char.ofNat code).toNat = code := by
  have scalars : ∀ range ∈ letterRanges, range.2 < 0xD800 ∨ 0xDFFF < range.1 ∧ range.2 < 0x110000 := by
    decide +kernel
  obtain ⟨range, inside, low, high⟩ := inRanges_iff.mp letter
  have valid : code.isValidChar := by
    refine (scalars range inside).imp (fun below => ?_) fun beyond => ⟨?_, ?_⟩ <;> omega
  rw [Char.ofNat, dif_pos valid]
  rfl

/-! ### The lower case of a character -/

/-- Runs beyond ASCII have no ASCII character. -/
theorem contains_of_ascii {code : Nat} (ascii : code < 0x80) :
    ∀ run ∈ caseRuns, run.contains code = false := by
  have beyond : ∀ run ∈ caseRuns, 0x80 ≤ run.low := by decide +kernel
  intro run listed
  have low := beyond run listed
  have short : ¬ run.low ≤ code := by omega
  simp [CaseRun.contains, short]

/-- **The lower case of a character**: a character that no run has stays as it is, and one of a run
becomes its image. -/
theorem lowerChar_eq {c : Char} (plain : c ≠ 'İ') :
    (lowerChar c = [c] ∧ ∀ run ∈ allCaseRuns, run.contains c.toNat = false) ∨
      ∃ run ∈ allCaseRuns, run.contains c.toNat = true ∧
        lowerChar c = [Char.ofNat (run.image c.toNat)] := by
  by_cases ascii : c.toNat < 0x80
  · have lower : c.toLower =
        if asciiRun.contains c.toNat then Char.ofNat (asciiRun.image c.toNat) else c :=
      forall_ascii (p := fun c => c.toLower =
        if asciiRun.contains c.toNat then Char.ofNat (asciiRun.image c.toNat) else c) (by decide) ascii
    rw [lowerChar, if_pos ascii, lower]
    cases upper : asciiRun.contains c.toNat with
    | false => exact .inl ⟨rfl, List.forall_mem_cons.mpr ⟨upper, contains_of_ascii ascii⟩⟩
    | true => exact .inr ⟨asciiRun, List.mem_cons_self, upper, rfl⟩
  · have notDotted : c.toNat ≠ 0x130 := fun same => plain (Char.toNat_inj.mp same)
    have upper : asciiRun.contains c.toNat = false := by
      have long : ¬ c.toNat ≤ 0x5A := by omega
      simp [CaseRun.contains, asciiRun, long]
    rw [lowerChar, if_neg ascii, if_neg notDotted, lowerCode]
    cases found : caseRuns.find? (·.contains c.toNat) with
    | none =>
      refine .inl ⟨by rw [Char.ofNat_toNat], List.forall_mem_cons.mpr ⟨upper, ?_⟩⟩
      simpa using found
    | some run =>
      exact .inr ⟨run, List.mem_cons_of_mem _ (List.mem_of_find?_eq_some found),
        List.find?_some (p := fun run : CaseRun => run.contains c.toNat) found, rfl⟩

/-- **The lower case of a character is the character itself or one letter.** -/
theorem lowerChar_cases {c : Char} (plain : c ≠ 'İ') :
    lowerChar c = [c] ∨ ∃ d, lowerChar c = [d] ∧ isAlphabetic d = true := by
  refine (lowerChar_eq plain).imp And.left ?_
  rintro ⟨run, listed, inside, lower⟩
  have letter := image_letter listed inside
  refine ⟨_, lower, ?_⟩
  rw [isAlphabetic_eq, toNat_ofNat_of_letter letter, letter]

theorem mem_lowerChar_dotted_iff {d : Char} : d ∈ lowerChar 'İ' ↔ d = 'i' ∨ d = '\u0307' := by
  rw [show lowerChar 'İ' = ['i', '\u0307'] from rfl, List.mem_cons, List.mem_singleton]

/-- **Lower-casing what lower-casing gives changes nothing.** -/
theorem lowerChar_settled {c d : Char} (image : d ∈ lowerChar c) : lowerChar d = [d] := by
  by_cases plain : c = 'İ'
  · subst plain
    rcases mem_lowerChar_dotted_iff.mp image with rfl | rfl <;> decide +kernel
  · rcases lowerChar_eq plain with ⟨same, free⟩ | ⟨run, listed, inside, lower⟩
    · rw [same, List.mem_singleton] at image
      rw [image, same]
    · rw [lower, List.mem_singleton] at image
      obtain ⟨notDotted, free⟩ := image_settled listed inside
      have code : d.toNat = run.image c.toNat := by
        rw [image, toNat_ofNat_of_letter (image_letter listed inside)]
      rw [← code] at notDotted free
      rcases lowerChar_eq (c := d) fun same => notDotted (by rw [same]; rfl) with
        ⟨same, _⟩ | ⟨other, isOther, contained, _⟩
      · exact same
      · rw [free other isOther] at contained
        cases contained

/-- **Lower-casing makes no white space.** -/
theorem isWhite_of_mem_lowerChar {c d : Char} (image : d ∈ lowerChar c) (notWhite : isWhite c = false) :
    isWhite d = false := by
  by_cases plain : c = 'İ'
  · subst plain
    rcases mem_lowerChar_dotted_iff.mp image with rfl | rfl <;> decide
  · rcases lowerChar_cases plain with same | ⟨letter, lower, isLetter⟩
    · rw [same, List.mem_singleton] at image
      rw [image, notWhite]
    · rw [lower, List.mem_singleton] at image
      exact isWhite_of_isAlphanumeric (isAlphanumeric_of_isAlphabetic (image ▸ isLetter))

end PipelineGraph.Text
