/-
**Scalars on one line and between quotes are read back.**

What a style allows is what its reader gives back: each lemma takes a text that the style allows, goes
through it character by character with the gap that the reader has, and ends where the scalar ends.

* `readSingle_singleChars` — between single quotes, where breaks are those of lines and paragraphs.
* `readDouble_flatMap` — between double quotes, however each character is written (`QuotesChar`).
* `readDouble_doubleChars` — between double quotes, for every text.
* `readPlain_append` — a plain text, whatever follows it.
-/

import PipelineGraph.Proofs.Yaml.Margin

namespace PipelineGraph.Yaml

/-! ### Characters -/

theorem not_return_of_printable {c : Char} (printable : isPrintable c = true) : c ≠ '\r' := by
  rintro rfl
  exact absurd printable (by decide)

/-- The only blank that is printable is a space. -/
theorem eq_space_of_printable {c : Char} (printable : isPrintable c = true)
    (blank : isBlank c = true) : c = ' ' := by
  rw [isBlank, Bool.or_eq_true, beq_iff_eq, beq_iff_eq] at blank
  refine blank.resolve_right ?_
  rintro rfl
  exact absurd printable (by decide)

/-- A break that is printable is read as it is. -/
theorem breakText_of_printable {c : Char} (printable : isPrintable c = true)
    (ends : isBreak c = true) : breakText c = [c] := by
  simp only [isBreak, Bool.or_eq_true, beq_iff_eq] at ends
  rcases ends with (((rfl | rfl) | rfl) | rfl) | rfl
  · rfl
  · exact absurd printable (by decide)
  · exact absurd printable (by decide)
  · rfl
  · rfl

/-! ### Pairs of characters -/

theorem hasPair_tail {first second : Char → Bool} {c : Char} {text : List Char}
    (noPair : hasPair first second (c :: text) = false) : hasPair first second text = false := by
  cases text with
  | nil => rfl
  | cons d text =>
    rw [hasPair, Bool.or_eq_false_iff] at noPair
    exact noPair.2

theorem hasPair_head {first second : Char → Bool} {c : Char} {text : List Char}
    (noPair : hasPair first second (c :: text) = false) (isFirst : first c = true) :
    text.head?.any second = false := by
  cases text with
  | nil => rfl
  | cons d text =>
    rw [hasPair, Bool.or_eq_false_iff, isFirst] at noPair
    exact noPair.1

/-! ### What is put before a text that has been read -/

theorem andThen_nil (read : Option (List Char × Cursor)) : andThen [] read = read := by
  cases read <;> rfl

theorem andThen_andThen (text more : List Char) (read : Option (List Char × Cursor)) :
    andThen text (andThen more read) = andThen (text ++ more) read := by
  cases read with
  | none => rfl
  | some read => exact congrArg (fun text => some (text, read.2)) (List.append_assoc _ _ _).symm

/-! ### Single quotes -/

section

variable {gap : Gap} {mark : Mark} {rest : List Char}

theorem readSingle_cons {c : Char} (notReturn : c ≠ '\r') (notQuote : c ≠ '\'') :
    readSingle gap mark (c :: rest) =
      if isBreak c then readSingle (gap.addBreak (breakText c)) (mark.nextLine 1) rest
      else if isBlank c then readSingle (gap.addBlank c) (mark.skip 1) rest
      else if mark.column == 0 && atMarker (c :: rest) then none
      else andThen (gap.text ++ [c]) (readSingle .none (mark.skip 1) rest) := by
  rw [readSingle]
  · rw [if_neg notQuote]
  · intro _ same
    exact absurd same notReturn
  · intro _ same
    exact absurd same notQuote

theorem readSingle_spaces (broken : gap.isBroken = true) (width : Nat) :
    ∀ {mark : Mark}, readSingle gap mark (spaces width ++ rest) =
      readSingle gap (mark.skip width) rest := by
  induction width with
  | zero => exact rfl
  | succ width ih =>
    intro mark
    show readSingle gap mark (' ' :: (spaces width ++ rest)) = _
    rw [readSingle_cons (by decide) (by decide), if_neg (by decide), if_pos (by decide),
      Gap.addBlank_of_isBroken broken, ih, Mark.skip_skip, Nat.add_comm]

theorem readSingle_quote (noQuote : rest.head? ≠ some '\'') :
    readSingle gap mark ('\'' :: rest) = some (gap.text, ⟨mark.skip 1, rest⟩) := by
  rw [readSingle]
  · rfl
  · intro _ same _
    exact absurd same (by decide)
  · rintro more _ rfl
    exact noQuote rfl

/-- What is written for a character of a word: a quote is written twice. -/
def wordChar (c : Char) : List Char := if c = '\'' then ['\'', '\''] else [c]

theorem isBreak_of_mem_wordChar {c d : Char} (inLine : isBreak c = false) (inside : d ∈ wordChar c) :
    isBreak d = false := by
  rw [wordChar] at inside
  split at inside
  · obtain rfl : d = '\'' := by simpa using inside
    rfl
  · rwa [List.mem_singleton.mp inside]

theorem length_wordChar_le (c : Char) : (wordChar c).length ≤ 2 := by
  rw [wordChar]
  split <;> simp

/-- A character of a word, a quote among them, is read after the gap. -/
theorem readSingle_word {c : Char} (inLine : isBreak c = false) (notBlank : isBlank c = false)
    (column : 0 < mark.column) :
    readSingle gap mark (wordChar c ++ rest) =
      andThen (gap.text ++ [c]) (readSingle .none (mark.after (wordChar c)) rest) := by
  rw [Mark.after_of_line fun _ => isBreak_of_mem_wordChar inLine]
  by_cases quote : c = '\''
  · subst quote
    show readSingle gap mark ('\'' :: '\'' :: rest) = _
    rw [readSingle]
    rfl
  · have away : (mark.column == 0) = false := beq_eq_false_iff_ne.mpr (Nat.ne_of_gt column)
    rw [wordChar, if_neg quote]
    show readSingle gap mark (c :: rest) = _
    rw [readSingle_cons (not_return_of_not_break inLine) quote, if_neg (by simp [inLine]),
      if_neg (by simp [notBlank]), if_neg (by simp [away])]
    rfl

end

/-- A text that can stand between single quotes, with no line feed in it. -/
structure SingleText (text : List Char) : Prop where
  printable : ∀ c ∈ text, isPrintable c = true
  noFeed : '\n' ∉ text
  noSpaceBefore : hasPair isSpace isBreak text = false
  noSpaceAfter : hasPair isBreak isSpace text = false

theorem SingleText.tail {c : Char} {text : List Char} (single : SingleText (c :: text)) :
    SingleText text where
  printable := (List.forall_mem_cons.mp single.printable).2
  noFeed := fun inside => single.noFeed (List.mem_cons_of_mem c inside)
  noSpaceBefore := hasPair_tail single.noSpaceBefore
  noSpaceAfter := hasPair_tail single.noSpaceAfter

/-- The gap that a reader has in front of the rest of a text: blanks on the same line, or the breaks
that are written without a line feed. -/
inductive FitsGap : Gap → Bool → List Char → Prop
  | blanks {blanks text : List Char} (apart : blanks = [] ∨ text.head?.any isBreak = false) :
      FitsGap (.blanks blanks) false text
  | breaks {first more text : List Char} (kept : first ≠ ['\n'])
      (apart : text.head?.any isSpace = false) : FitsGap (.breaks first more) true text

/-- One more break is one more character of the text. -/
theorem FitsGap.text_addBreak {gap : Gap} {afterBreak : Bool} {c : Char} {text : List Char}
    (fits : FitsGap gap afterBreak (c :: text)) (ends : isBreak c = true) (notFeed : c ≠ '\n') :
    (gap.addBreak [c]).text = gap.text ++ [c] := by
  cases fits with
  | blanks apart =>
    have noBlanks := apart.resolve_right (by simp [ends])
    subst noBlanks
    simp [Gap.addBreak, Gap.text, notFeed]
  | breaks kept _ => simp [Gap.addBreak, Gap.text, kept]

theorem FitsGap.addBreak {gap : Gap} {afterBreak : Bool} {c : Char} {text : List Char}
    (fits : FitsGap gap afterBreak (c :: text)) (notFeed : c ≠ '\n')
    (apart : text.head?.any isSpace = false) : FitsGap (gap.addBreak [c]) true text := by
  cases fits with
  | blanks _ => exact .breaks (by simpa using notFeed) apart
  | breaks kept _ => exact .breaks kept apart

/-- What is written in front of a character that is no break. -/
def indentAfter (indent : Nat) (afterBreak : Bool) : List Char := if afterBreak then spaces indent else []

theorem after_spaces (mark : Mark) (width : Nat) : mark.after (spaces width) = mark.skip width := by
  rw [Mark.after_of_line (by simp [spaces, isBreak]), spaces, List.length_replicate]

/-- The indentation after a break is passed over, and leads inside of the line. -/
theorem FitsGap.readSingle_indent {gap : Gap} {afterBreak : Bool} {text : List Char} {indent : Nat}
    {mark : Mark} (fits : FitsGap gap afterBreak text) (positive : 0 < indent)
    (inside : afterBreak = true ∨ 0 < mark.column) (rest : List Char) :
    readSingle gap mark (indentAfter indent afterBreak ++ rest) =
        readSingle gap (mark.after (indentAfter indent afterBreak)) rest ∧
      0 < (mark.after (indentAfter indent afterBreak)).column := by
  cases fits with
  | blanks _ => exact ⟨rfl, inside.resolve_left (by decide)⟩
  | breaks _ _ =>
    rw [indentAfter, if_pos rfl, after_spaces]
    refine ⟨readSingle_spaces rfl indent, ?_⟩
    show 0 < mark.column + indent
    omega

/-- What stands for one character between single quotes. -/
def singleChar (indent : Nat) (afterBreak : Bool) (c : Char) : List Char :=
  if isBreak c then [c] else indentAfter indent afterBreak ++ wordChar c

theorem singleChars_cons (indent : Nat) (afterBreak : Bool) (c : Char) (text : List Char) :
    singleChars indent afterBreak (c :: text) =
      singleChar indent afterBreak c ++ singleChars indent (isBreak c) text := by
  rw [singleChars, singleChar]
  by_cases ends : isBreak c = true
  · rw [if_pos ends, if_pos ends, ends]
    rfl
  · rw [if_neg ends, if_neg ends, Bool.eq_false_iff.mpr ends]
    rfl

section Steps

variable {gap : Gap} {afterBreak : Bool} {c : Char} {text : List Char} {indent : Nat} {mark : Mark}

/-- A break goes into the gap. -/
theorem FitsGap.readSingle_break (fits : FitsGap gap afterBreak (c :: text))
    (single : SingleText (c :: text)) (ends : isBreak c = true) :
    (∀ (mark : Mark) (rest : List Char),
        readSingle gap mark (c :: rest) = readSingle (gap.addBreak [c]) (mark.over c) rest) ∧
      FitsGap (gap.addBreak [c]) true text ∧ (gap.addBreak [c]).text = gap.text ++ [c] := by
  have printable := single.printable c List.mem_cons_self
  have notFeed : c ≠ '\n' := fun same => single.noFeed (same ▸ List.mem_cons_self)
  have notQuote : c ≠ '\'' := by
    rintro rfl
    exact absurd ends (by decide)
  refine ⟨fun mark rest => ?_, fits.addBreak notFeed (hasPair_head single.noSpaceAfter ends),
    fits.text_addBreak ends notFeed⟩
  rw [readSingle_cons (not_return_of_printable printable) notQuote, if_pos ends,
    breakText_of_printable printable ends, Mark.over_of_break ends]

/-- A space goes into the gap, which has blanks only. -/
theorem FitsGap.exists_blanks (fits : FitsGap gap afterBreak (' ' :: text))
    (single : SingleText (' ' :: text)) :
    afterBreak = false ∧ ∃ blanks, gap = .blanks blanks ∧
      FitsGap (.blanks (blanks ++ [' '])) false text := by
  cases fits with
  | breaks _ apart => cases apart
  | @blanks blanks _ _ =>
    exact ⟨rfl, blanks, rfl, .blanks (.inr (hasPair_head single.noSpaceBefore (by decide)))⟩

/-- **A character between single quotes is read as it is**: what is given back and the gap that it
leaves are the gap before it and the character. -/
theorem FitsGap.readSingle_singleChar (fits : FitsGap gap afterBreak (c :: text))
    (single : SingleText (c :: text)) (positive : 0 < indent)
    (inside : afterBreak = true ∨ 0 < mark.column) :
    ∃ (after : Gap) (given : List Char),
      (∀ rest, readSingle gap mark (singleChar indent afterBreak c ++ rest) =
        andThen given (readSingle after (mark.after (singleChar indent afterBreak c)) rest)) ∧
      FitsGap after (isBreak c) text ∧ given ++ after.text = gap.text ++ [c] ∧
      (isBreak c = true ∨ 0 < (mark.after (singleChar indent afterBreak c)).column) := by
  cases ends : isBreak c with
  | true =>
    obtain ⟨passes, fitsAfter, text⟩ := fits.readSingle_break single ends
    refine ⟨gap.addBreak [c], [], fun rest => ?_, fitsAfter, text, .inl rfl⟩
    rw [singleChar, if_pos ends, andThen_nil]
    exact passes mark rest
  | false =>
    have written : singleChar indent afterBreak c = indentAfter indent afterBreak ++ wordChar c := by
      rw [singleChar, if_neg (by simp [ends])]
    obtain ⟨_, column⟩ := fits.readSingle_indent positive inside []
    have passes := fun rest => (fits.readSingle_indent positive inside rest).1
    rw [written, Mark.after_append]
    have further : 0 < ((mark.after (indentAfter indent afterBreak)).after (wordChar c)).column := by
      rw [Mark.after_of_line fun _ => isBreak_of_mem_wordChar ends]
      exact Nat.lt_of_lt_of_le column (Nat.le_add_right _ _)
    cases blank : isBlank c with
    | true =>
      obtain rfl := eq_space_of_printable (single.printable c List.mem_cons_self) blank
      obtain ⟨rfl, blanks, rfl, fitsAfter⟩ := fits.exists_blanks single
      exact ⟨_, [], fun rest => (andThen_nil _).symm, fitsAfter, rfl, .inr further⟩
    | false =>
      refine ⟨.none, gap.text ++ [c], fun rest => ?_, .blanks (.inl rfl), List.append_nil _,
        .inr further⟩
      rw [List.append_assoc, passes, readSingle_word ends blank column]

end Steps

/-- **A text between single quotes is read back.** -/
theorem readSingle_singleChars {indent : Nat} (positive : 0 < indent) {rest : List Char}
    (noQuote : rest.head? ≠ some '\'') {text : List Char} :
    ∀ (gap : Gap) (mark : Mark) (afterBreak : Bool), SingleText text →
      FitsGap gap afterBreak text → (afterBreak = true ∨ 0 < mark.column) →
      readSingle gap mark (singleChars indent afterBreak text ++ '\'' :: rest) =
        some (gap.text ++ text,
          ⟨mark.after (singleChars indent afterBreak text ++ ['\'']), rest⟩) := by
  induction text with
  | nil =>
    intro gap mark afterBreak _ fits inside
    obtain ⟨passes, _⟩ := fits.readSingle_indent positive inside ('\'' :: rest)
    show readSingle gap mark (indentAfter indent afterBreak ++ '\'' :: rest) =
      some (_, ⟨mark.after (indentAfter indent afterBreak ++ ['\'']), rest⟩)
    rw [passes, readSingle_quote noQuote, List.append_nil, Mark.after_append]
    rfl
  | cons c text ih =>
    intro gap mark afterBreak single fits inside
    obtain ⟨after, given, passes, fitsAfter, text_eq, insideAfter⟩ :=
      fits.readSingle_singleChar single positive inside
    rw [singleChars_cons, List.append_assoc, List.append_assoc, passes, Mark.after_append,
      ih after _ (isBreak c) single.tail fitsAfter insideAfter]
    show some (given ++ (after.text ++ text), _) = _
    rw [← List.append_assoc, text_eq, List.append_assoc]
    rfl

/-! ### Double quotes -/

/-- The number that hexadecimal digits stand for, after those already read. -/
def hexNumber? (value : Nat) : List Char → Option Nat
  | [] => some value
  | c :: rest => (hexDigit? c).bind fun digit => hexNumber? (value * 16 + digit) rest

/-- **An escape stands for a character**: by its letter, or by the number of at most four digits after
it. -/
inductive StandsForChar : List Char → Char → Prop
  | short {letter c : Char} (means : unescape? letter = some c) : StandsForChar ['\\', letter] c
  | code {letter c : Char} {digits : List Char} {code : Nat} (noLetter : unescape? letter = none)
      (width : codeWidth? letter = some digits.length) (narrow : digits.length ≤ 4)
      (number : hexNumber? 0 digits = some code) (means : charOfCode? code = some c) :
      StandsForChar ('\\' :: letter :: digits) c

section

variable {gap : Gap} {mark : Mark} {rest : List Char}

theorem readDouble_quote : readDouble (.text gap) mark ('"' :: rest) =
    some (gap.text, ⟨mark.skip 1, rest⟩) := by
  rw [readDouble]
  rfl

/-- A reader of the digits of an escape gets the number and goes on after it. -/
theorem readDouble_code {digits : List Char} {code : Nat} {c : Char} (some : digits ≠ []) :
    ∀ {value : Nat} {mark : Mark}, hexNumber? value digits = .some code → charOfCode? code = .some c →
      readDouble (.code digits.length value) mark (digits ++ rest) =
        andThen [c] (readDouble (.text .none) (mark.skip digits.length) rest) := by
  induction digits with
  | nil => exact absurd rfl some
  | cons d digits ih =>
    intro value mark number means
    rw [hexNumber?] at number
    cases digit : hexDigit? d with
    | none =>
      rw [digit] at number
      cases number
    | some known =>
      rw [digit] at number
      rw [List.cons_append, readDouble, digit]
      cases digits with
      | nil =>
        have same : value * 16 + known = code := Option.some.inj number
        simp only [same, means]
        rfl
      | cons e digits =>
        have more : ¬ (d :: e :: digits).length ≤ 1 := by simp
        simp only [if_neg more]
        show readDouble (.code (e :: digits).length (value * 16 + known)) (mark.skip 1)
          (e :: digits ++ rest) = _
        rw [ih (List.cons_ne_nil _ _) number means, Mark.skip_skip, Nat.add_comm 1]
        rfl

/-- The letter after a backslash is no break. -/
theorem not_isBreak_of_letter {letter : Char}
    (known : (unescape? letter).isSome = true ∨ (codeWidth? letter).isSome = true) :
    isBreak letter = false := by
  cases ends : isBreak letter with
  | false => rfl
  | true =>
    simp only [isBreak, Bool.or_eq_true, beq_iff_eq] at ends
    rcases ends with (((rfl | rfl) | rfl) | rfl) | rfl <;> exact absurd known (by decide)

/-- After a backslash and a letter the reader has a character, or a number to read. -/
theorem readDouble_letter {letter : Char} (notBreak : isBreak letter = false) :
    readDouble .escape mark (letter :: rest) =
      match unescape? letter with
      | some c => andThen [c] (readDouble (.text .none) (mark.skip 1) rest)
      | none =>
        match codeWidth? letter with
        | some width => readDouble (.code width 0) (mark.skip 1) rest
        | none => none := by
  have notReturn : (letter == '\r') = false := beq_eq_false_iff_ne.mpr (not_return_of_not_break notBreak)
  rw [readDouble]
  exact (if_neg (by simp [notReturn])).trans (if_neg (by rw [notBreak]; decide))

/-- An escape is read as what it stands for. -/
theorem readDouble_escape {chars : List Char} {c : Char} (stands : StandsForChar chars c)
    (inside : 0 < mark.column) :
    readDouble (.text gap) mark (chars ++ rest) =
      andThen (gap.text ++ [c]) (readDouble (.text .none) (mark.skip chars.length) rest) := by
  have backslash : ∀ text, readDouble (.text gap) mark ('\\' :: text) =
      andThen gap.text (readDouble .escape (mark.skip 1) text) := by
    intro text
    have away : (mark.column == 0) = false := beq_eq_false_iff_ne.mpr (Nat.ne_of_gt inside)
    rw [readDouble, if_neg (by simp), if_neg (by decide), if_neg (by decide), if_neg (by decide),
      if_neg (by simp [away]), if_pos rfl]
  cases stands with
  | @short letter _ means =>
    have notBreak := not_isBreak_of_letter (.inl (by rw [means]; rfl))
    show readDouble (.text gap) mark ('\\' :: letter :: rest) = _
    rw [backslash, readDouble_letter notBreak, means]
    simp only [andThen_andThen, Mark.skip_skip]
    rfl
  | @code letter _ digits code noLetter width _ number means =>
    have notBreak := not_isBreak_of_letter (.inr (by rw [width]; rfl))
    have some : digits ≠ [] := by
      rintro rfl
      unfold codeWidth? at width
      split at width <;> cases width
    show readDouble (.text gap) mark ('\\' :: letter :: (digits ++ rest)) = _
    rw [backslash, readDouble_letter notBreak, noLetter, width]
    simp only [readDouble_code some number means, andThen_andThen, Mark.skip_skip]
    rw [List.length_cons, List.length_cons, Nat.add_comm (1 + 1), Nat.add_assoc]

end

/-! ### Escapes -/

/-- A character that is not written as it is between double quotes. -/
def needsEscape (c : Char) : Bool := !(isPrintable c && !isBreak c && c != '"' && c != '\\')

theorem doubleChar_eq (c : Char) : doubleChar c = if needsEscape c then escape c else [c] := by
  rw [doubleChar, needsEscape]
  cases isPrintable c && !isBreak c && c != '"' && c != '\\' <;> rfl

/-- The codes of characters that need a number: controls, marks of byte order, and the last two codes of
the basic plane. -/
theorem code_of_not_printable {c : Char} (hidden : isPrintable c = false) :
    c.toNat < 0xA0 ∨ c.toNat = 0xFEFF ∨ c.toNat = 0xFFFE ∨ c.toNat = 0xFFFF := by
  have le_iff : ∀ {d e : Char}, d ≤ e ↔ d.toNat ≤ e.toNat := Iff.rfl
  simp only [isPrintable, Bool.or_eq_false_iff, Bool.and_eq_false_iff, decide_eq_false_iff_not, le_iff,
    bne_eq_false_iff_eq] at hidden
  obtain ⟨⟨_, wide⟩, basic⟩ := hidden
  by_cases mark : c = '\ufeff'
  · subst mark
    exact .inr (.inl rfl)
  · have lower : ('\u00a0' : Char).toNat = 0xA0 := rfl
    have upper : ('\ufffd' : Char).toNat = 0xFFFD := rfl
    have beyond := wide.resolve_right mark
    omega

/-- A number in two hexadecimal digits. -/
theorem hexNumber?_upperHex_two : ∀ code < 0x100,
    (upperHex 2 code).length = 2 ∧ hexNumber? 0 (upperHex 2 code) = some code := by
  decide +kernel

/-- The escapes of characters that have no letter of their own are by number. -/
theorem standsForChar_number {c : Char} (hidden : isPrintable c = false) :
    StandsForChar (if c.toNat ≤ 0xFF then '\\' :: 'x' :: upperHex 2 c.toNat
      else if c.toNat ≤ 0xFFFF then '\\' :: 'u' :: upperHex 4 c.toNat
      else '\\' :: 'U' :: upperHex 8 c.toNat) c := by
  have means : charOfCode? c.toNat = some c := by
    have valid : c.toNat < 0xD800 ∨ 0xDFFF < c.toNat ∧ c.toNat < 0x110000 := c.valid
    rw [charOfCode?, if_neg, Char.ofNat_toNat]
    simp only [Bool.or_eq_true, Bool.and_eq_true, decide_eq_true_eq]
    omega
  rcases code_of_not_printable hidden with small | large
  · obtain ⟨width, number⟩ := hexNumber?_upperHex_two c.toNat (by omega)
    rw [if_pos (by omega)]
    exact .code rfl (by rw [width]; rfl) (by omega) number means
  · rw [if_neg (by omega), if_pos (by omega)]
    have four : ∀ code, (code = 0xFEFF ∨ code = 0xFFFE ∨ code = 0xFFFF) →
        (upperHex 4 code).length = 4 ∧ hexNumber? 0 (upperHex 4 code) = some code := by
      rintro code (rfl | rfl | rfl) <;> decide
    obtain ⟨width, number⟩ := four c.toNat large
    exact .code rfl (by rw [width]; rfl) (by omega) number means

/-- **The escape of a character stands for it.** -/
theorem standsForChar_escape {c : Char} (needs : needsEscape c = true) : StandsForChar (escape c) c := by
  have ofCode : ∀ {code : Nat}, c.toNat = code → c = Char.ofNat code := by
    rintro code rfl
    exact (Char.ofNat_toNat c).symm
  by_cases printable : isPrintable c = true
  · simp only [needsEscape, printable, isBreak, Bool.true_and, Bool.not_eq_true', Bool.and_eq_false_iff,
      Bool.not_eq_false', Bool.or_eq_true, beq_iff_eq, bne_eq_false_iff_eq] at needs
    rcases needs with (((((rfl | rfl) | rfl) | rfl) | rfl) | rfl) | rfl <;> exact .short rfl
  · rw [Bool.not_eq_true] at printable
    unfold escape
    split
    all_goals first
      | rename_i same
        rw [ofCode same]
        exact .short rfl
      | exact standsForChar_number printable

theorem StandsForChar.length_le {chars : List Char} {c : Char} (stands : StandsForChar chars c) :
    chars.length ≤ 6 := by
  cases stands with
  | short _ => exact (by decide : 2 ≤ 6)
  | code _ _ narrow _ _ => exact Nat.add_le_add_right narrow 2

/-! ### Texts -/

/-- **What is written for a character between double quotes**: an escape that stands for it, or the
character itself. -/
inductive QuotesChar (c : Char) : List Char → Prop
  | escape {chars : List Char} (stands : StandsForChar chars c) : QuotesChar c chars
  | itself (inLine : isBreak c = false) (notQuote : c ≠ '"') (notBackslash : c ≠ '\\') :
      QuotesChar c [c]

/-- **A text between double quotes is read back**, however its characters are written. -/
theorem readDouble_flatMap {write : Char → List Char} {rest text : List Char} :
    ∀ (blanks : List Char) (mark : Mark), (∀ c ∈ text, QuotesChar c (write c)) → 0 < mark.column →
      readDouble (.text (.blanks blanks)) mark (text.flatMap write ++ '"' :: rest) =
        some (blanks ++ text, ⟨mark.skip ((text.flatMap write).length + 1), rest⟩) := by
  induction text with
  | nil =>
    intro blanks mark _ _
    rw [List.append_nil]
    exact readDouble_quote
  | cons c text ih =>
    intro blanks mark each inside
    rw [List.forall_mem_cons] at each
    have counted : ∀ width, mark.skip (width + (text.flatMap write).length + 1) =
        (mark.skip width).skip ((text.flatMap write).length + 1) := fun width => by
      rw [Mark.skip_skip, Nat.add_assoc]
    have further : ∀ width, 0 < (mark.skip width).column := fun width =>
      Nat.lt_of_lt_of_le inside (Nat.le_add_right _ _)
    rw [List.flatMap_cons, List.append_assoc, List.length_append, counted]
    generalize write c = chars at each
    cases each.1 with
    | escape stands =>
      rw [readDouble_escape stands inside]
      show andThen _ (readDouble (.text (.blanks [])) _ _) = _
      rw [ih [] _ each.2 (further _)]
      show some (blanks ++ [c] ++ text, _) = _
      rw [List.append_assoc]
      rfl
    | itself inLine notQuote notBackslash =>
      have notReturn : (c == '\r') = false := beq_eq_false_iff_ne.mpr (not_return_of_not_break inLine)
      have away : (mark.column == 0) = false := beq_eq_false_iff_ne.mpr (Nat.ne_of_gt inside)
      show readDouble (.text (.blanks blanks)) mark (c :: (text.flatMap write ++ '"' :: rest)) = _
      rw [readDouble, if_neg (by simp [notReturn]), if_neg (by rw [inLine]; decide)]
      by_cases blank : isBlank c = true
      · have read := ih (blanks ++ [c]) (mark.skip 1) each.2 (further 1)
        rw [List.append_assoc] at read
        rw [if_pos blank]
        exact read
      · rw [if_neg blank, if_neg notQuote, if_neg (by simp [away]), if_neg notBackslash]
        show andThen _ (readDouble (.text (.blanks [])) _ _) = _
        rw [ih [] _ each.2 (further 1)]
        show some (blanks ++ [c] ++ text, _) = _
        rw [List.append_assoc]
        rfl

theorem quotesChar_doubleChar (c : Char) : QuotesChar c (doubleChar c) := by
  rw [doubleChar_eq]
  by_cases needs : needsEscape c = true
  · rw [if_pos needs]
    exact .escape (standsForChar_escape needs)
  · rw [if_neg needs]
    rw [Bool.not_eq_true, needsEscape, Bool.not_eq_false'] at needs
    simp only [Bool.and_eq_true, Bool.not_eq_true', bne_iff_ne] at needs
    obtain ⟨⟨⟨_, notBreak⟩, notQuote⟩, notBackslash⟩ := needs
    exact .itself notBreak notQuote notBackslash

/-- A text between double quotes is read back. -/
theorem readDouble_doubleChars {rest text : List Char} (blanks : List Char) (mark : Mark)
    (inside : 0 < mark.column) :
    readDouble (.text (.blanks blanks)) mark (doubleChars text ++ '"' :: rest) =
      some (blanks ++ text, ⟨mark.skip ((doubleChars text).length + 1), rest⟩) :=
  readDouble_flatMap blanks mark (fun c _ => quotesChar_doubleChar c) inside

/-! ### Plain scalars -/

theorem atGap_append {text rest : List Char} (some : text ≠ []) : atGap (text ++ rest) = atGap text := by
  cases text with
  | nil => exact absurd rfl some
  | cons c text => rfl

/-- A character of a word is read after the blanks before it, where these do not end the scalar. -/
theorem readPlain_word {indent : Nat} {blanks rest : List Char} {mark : Mark} {c : Char}
    (inLine : isBreak c = false) (notBlank : isBlank c = false)
    (within : blanks ≠ [] → c ≠ '#' ∧ indent ≤ mark.column ∧ 0 < mark.column)
    (noColon : (c == ':' && atGap rest) = false) :
    readPlain ⟨false, indent⟩ (.blanks blanks) mark (c :: rest) =
      (readPlain ⟨false, indent⟩ .none (mark.skip 1) rest).map fun plain =>
        { plain with text := blanks ++ c :: plain.text } := by
  have notBefore : ¬ PlainContext.endsBefore ⟨false, indent⟩ (.blanks blanks) mark (c :: rest) =
      true := by
    cases blanks with
    | nil => simp [PlainContext.endsBefore, Gap.none]
    | cons d blanks =>
      obtain ⟨noHash, deep, further⟩ := within (List.cons_ne_nil _ _)
      have away : (mark.column == 0) = false := beq_eq_false_iff_ne.mpr (Nat.ne_of_gt further)
      simp [PlainContext.endsBefore, noHash, deep, away]
  have notAt : ¬ PlainContext.endsAt ⟨false, indent⟩ c rest = true := by
    rw [PlainContext.endsAt, noColon]
    simp
  rw [readPlain_cons (not_return_of_not_break inLine), if_neg (by simp [inLine]),
    if_neg (by simp [notBlank]), if_neg notBefore, if_neg (by simp [PlainContext.isUnclear]), if_neg notAt]
  rfl

/-- **A plain text is read back**, and then what follows it. -/
theorem readPlain_append (indent : Nat) (rest : List Char) {text : List Char} :
    ∀ (blanks : List Char) (mark : Mark) (afterGap : Bool), text ≠ [] →
      (∀ c ∈ text, isPrintable c = true ∧ isBreak c = false) → endsWithSpace text = false →
      hasInnerIndicator afterGap text = false → (blanks ≠ [] → afterGap = true) →
      (blanks = [] ∧ indent ≤ mark.column + 1 ∨ indent ≤ mark.column ∧ 0 < mark.column) →
      readPlain ⟨false, indent⟩ (.blanks blanks) mark (text ++ rest) =
        (readPlain ⟨false, indent⟩ .none (mark.skip text.length) rest).map fun plain =>
          { plain with text := blanks ++ text ++ plain.text } := by
  induction text with
  | nil => exact fun _ _ _ some => absurd rfl some
  | cons c text ih =>
    intro blanks mark afterGap _ characters noSpace noIndicator gapBefore inside
    rw [List.forall_mem_cons] at characters
    obtain ⟨⟨printable, notBreak⟩, others⟩ := characters
    rw [hasInnerIndicator, Bool.or_eq_false_iff, Bool.or_eq_false_iff] at noIndicator
    obtain ⟨⟨noColon, noHash⟩, later⟩ := noIndicator
    have counted : mark.skip (c :: text).length = (mark.skip 1).skip text.length := by
      rw [Mark.skip_skip, List.length_cons, Nat.add_comm]
    have restNoSpace : text ≠ [] → endsWithSpace text = false := by
      intro some
      rwa [endsWithSpace, List.getLast?_cons_of_ne_nil some] at noSpace
    have column : (mark.skip 1).column = mark.column + 1 := rfl
    rw [List.cons_append, counted]
    cases blank : isBlank c with
    | true =>
      obtain rfl := eq_space_of_printable printable blank
      have some : text ≠ [] := by
        rintro rfl
        cases noSpace
      rw [readPlain_cons (by decide), if_neg (by decide), if_pos blank, if_neg (by simp [Gap.isBroken])]
      show readPlain _ (.blanks (blanks ++ [' '])) _ _ = _
      rw [ih (blanks ++ [' ']) (mark.skip 1) true some others (restNoSpace some) later (fun _ => rfl)
        (.inr (by omega)), List.append_assoc]
      rfl
    | false =>
      have within : blanks ≠ [] → c ≠ '#' ∧ indent ≤ mark.column ∧ 0 < mark.column := by
        intro some
        rw [gapBefore some, Bool.and_true, beq_eq_false_iff_ne] at noHash
        exact ⟨noHash, inside.resolve_left fun first => some first.1⟩
      cases text with
      | nil =>
        have noColonHere : (c == ':') = false := by
          rwa [show atGap [] = true from rfl, Bool.and_true] at noColon
        rw [List.nil_append, readPlain_word notBreak blank within (by rw [noColonHere]; rfl)]
        simp only [List.append_assoc]
        rfl
      | cons d text =>
        have more : d :: text ≠ [] := List.cons_ne_nil _ _
        have noColonHere : (c == ':' && atGap (d :: text ++ rest)) = false := by
          rwa [atGap_append more]
        rw [blank, notBreak] at later
        rw [readPlain_word notBreak blank within noColonHere]
        show Option.map _ (readPlain _ (.blanks []) _ _) = _
        rw [ih [] (mark.skip 1) false more others (restNoSpace more) later (fun some => absurd rfl some)
          (.inr (by omega)), Option.map_map]
        simp only [List.append_assoc]
        rfl

end PipelineGraph.Yaml
