/-
**Strings, words and numerals of JSON as scalars of YAML.**

YAML reads what JSON writes between double quotes, because each escape of JSON is one of YAML with the
same meaning, and what JSON writes without an escape YAML takes as it is, save for some characters that
YAML refuses or takes for the end of a line (`isShared`). A word or a numeral of JSON is a plain scalar
that ends where its collection goes on.

* `readDouble_stringChars` — a string of such characters is read back.
* `readPlain_bareWord` — a word or a numeral is read up to the next indicator.
* `plainFound_floatText` — **the text of a finite float means that float**, and neither an integer nor a
  text, given that it is the float which YAML's reader of floats finds in it.
-/

import PipelineGraph.Proofs.Json.Writing
import PipelineGraph.Proofs.Yaml.Legality
import PipelineGraph.Yaml.Record

namespace PipelineGraph.Yaml

open Json (escapeChar stringChars SpellsWhole SpellsFraction SpellsExponent SpellsUnsigned SpellsNumeral
  AreDigits)

/-! ### Strings -/

/-- The character means itself to YAML where JSON writes it without an escape: it is none of DEL and the
controls after it, the separators of lines and paragraphs, the mark of byte order, and the last two
codes of the basic plane. -/
def isShared (c : Char) : Bool :=
  !(('\x7f' ≤ c && c ≤ '\u009f') || c == '\u2028' || c == '\u2029' || c == '\ufeff' || c == '\ufffe' ||
    c == '\uffff')

/-- The digits that JSON writes for a control character say its code. -/
theorem hexNumber?_of_control : ∀ code < 0x20,
    hexNumber? 0 ['0', '0', Json.hexChar (code / 16), Json.hexChar (code % 16)] = some code ∧
      charOfCode? code = some (Char.ofNat code) := by
  decide

/-- **JSON writes a character as an escape that YAML knows**, or as it is. -/
theorem escapeChar_cases (c : Char) :
    StandsForChar (escapeChar c) c ∨
      escapeChar c = [c] ∧ 0x20 ≤ c.toNat ∧ c ≠ '"' ∧ c ≠ '\\' := by
  unfold escapeChar
  split
  · exact .inl (.short rfl)
  · exact .inl (.short rfl)
  · exact .inl (.short rfl)
  · exact .inl (.short rfl)
  · exact .inl (.short rfl)
  · exact .inl (.short rfl)
  · exact .inl (.short rfl)
  · rename_i quote backslash _ _ _ _ _
    split
    · rename_i control
      obtain ⟨number, means⟩ := hexNumber?_of_control c.toNat control
      rw [Char.ofNat_toNat] at means
      exact .inl (.code rfl rfl (Nat.le_refl 4) number means)
    · rename_i printable
      exact .inr ⟨rfl, Nat.le_of_not_lt printable, quote, backslash⟩

/-- A character that is shared and no control is in a line of YAML. -/
theorem isAllowed_of_isShared {c : Char} (shared : isShared c = true) (printable : 0x20 ≤ c.toNat) :
    isAllowed c = true ∧ isBreak c = false := by
  have le_iff : ∀ {d e : Char}, d ≤ e ↔ d.toNat ≤ e.toNat := Iff.rfl
  have eq_iff : ∀ {d e : Char}, d = e ↔ d.toNat = e.toNat := Char.toNat_inj.symm
  simp only [isShared, isAllowed, isBreak, Bool.not_eq_true', Bool.or_eq_false_iff, Bool.and_eq_false_iff,
    Bool.or_eq_true, Bool.and_eq_true, decide_eq_false_iff_not, decide_eq_true_eq, beq_iff_eq,
    beq_eq_false_iff_ne, ne_eq, le_iff, eq_iff, Char.reduceToNat] at shared ⊢
  omega

theorem quotesChar_escapeChar {c : Char} (shared : isShared c = true) : QuotesChar c (escapeChar c) := by
  rcases escapeChar_cases c with stands | ⟨same, printable, notQuote, notBackslash⟩
  · exact .escape stands
  · rw [same]
    exact .itself (isAllowed_of_isShared shared printable).2 notQuote notBackslash

theorem isAllowed_escapeChar {c : Char} (shared : isShared c = true) :
    ∀ d ∈ escapeChar c, isAllowed d = true := by
  rcases escapeChar_cases c with stands | ⟨same, printable, _, _⟩
  · exact stands.isAllowed
  · rw [same, List.forall_mem_singleton]
    exact (isAllowed_of_isShared shared printable).1

/-- **A string of JSON is read back**, after its first quote. -/
theorem readDouble_stringChars {text : String} (shared : ∀ c ∈ text.toList, isShared c = true)
    {mark : Mark} (inside : 0 < mark.column) (rest : List Char) :
    readDouble (.text .none) mark (text.toList.flatMap escapeChar ++ '"' :: rest) =
      some (text.toList, ⟨mark.skip ((text.toList.flatMap escapeChar).length + 1), rest⟩) :=
  readDouble_flatMap [] mark (fun c isIn => quotesChar_escapeChar (shared c isIn)) inside

theorem isAllowed_stringChars {text : String} (shared : ∀ c ∈ text.toList, isShared c = true) :
    ∀ c ∈ stringChars text, isAllowed c = true := by
  simp only [stringChars, List.forall_mem_append, List.forall_mem_cons, List.mem_flatMap]
  refine ⟨⟨rfl, ?_⟩, rfl, List.forall_mem_nil _⟩
  rintro c ⟨d, inside, isChar⟩
  exact isAllowed_escapeChar (shared d inside) c isChar

/-! ### Words and numerals -/

/-- A character of JSON's words and numerals. -/
def isBareChar (c : Char) : Bool := c.isAlphanum || c == '.' || c == '+' || c == '-'

/-- The text starts with a letter or a digit, perhaps after a minus sign. -/
inductive StartsBare : List Char → Prop
  | word {c : Char} {rest : List Char} (alphanumeric : c.isAlphanum = true) : StartsBare (c :: rest)
  | negative {c : Char} {rest : List Char} (alphanumeric : c.isAlphanum = true) :
      StartsBare ('-' :: c :: rest)

theorem StartsBare.append {word : List Char} (starts : StartsBare word) (rest : List Char) :
    StartsBare (word ++ rest) := by
  cases starts with
  | word alphanumeric => exact .word alphanumeric
  | negative alphanumeric => exact .negative alphanumeric

theorem StartsBare.length_pos {word : List Char} (starts : StartsBare word) : 0 < word.length := by
  cases starts with
  | word _ => exact Nat.succ_pos _
  | negative _ => exact Nat.succ_pos _

/-- **A word or a numeral of JSON.** -/
structure BareWord (word : List Char) : Prop where
  starts : StartsBare word
  all : ∀ c ∈ word, isBareChar c = true

/-- A character of words and numerals is an ordinary one. -/
theorem ordinary_of_isBareChar {c : Char} (bare : isBareChar c = true) :
    isAllowed c = true ∧ isBreak c = false ∧ isBlank c = false ∧ c ≠ ':' ∧
      isFlowIndicator c = false := by
  have ascii : c.toNat < 0x80 := by
    simp only [isBareChar, Bool.or_eq_true, beq_iff_eq] at bare
    rcases bare with ((alphanumeric | rfl) | rfl) | rfl
    · delta Char.isAlphanum Char.isAlpha Char.isUpper Char.isLower Char.isDigit at alphanumeric
      simp only [Bool.or_eq_true, Bool.and_eq_true, decide_eq_true_eq, UInt32.le_iff_toNat_le]
        at alphanumeric
      rcases alphanumeric with (upper | lower) | digit
      · exact Nat.lt_of_le_of_lt upper.2 (by decide)
      · exact Nat.lt_of_le_of_lt lower.2 (by decide)
      · exact Nat.lt_of_le_of_lt digit.2 (by decide)
    · decide
    · decide
    · decide
  have each : ∀ code < 0x80, isBareChar (Char.ofNat code) = true →
      isAllowed (Char.ofNat code) = true ∧ isBreak (Char.ofNat code) = false ∧
        isBlank (Char.ofNat code) = false ∧ Char.ofNat code ≠ ':' ∧
          isFlowIndicator (Char.ofNat code) = false := by
    decide
  have known := each c.toNat ascii
  rw [Char.ofNat_toNat] at known
  exact known bare

/-- **A word or a numeral is read up to the next indicator** of the collection. -/
theorem readPlain_bareWord (indent : Nat) {indicator : Char} (rest : List Char) {word : List Char}
    (indicates : isFlowIndicator indicator = true) :
    ∀ mark : Mark, (∀ c ∈ word, isBareChar c = true) →
      readPlain ⟨true, indent⟩ .none mark (word ++ indicator :: rest) =
        some ⟨word, false, ⟨mark.skip word.length, indicator :: rest⟩⟩ := by
  induction word with
  | nil =>
    intro mark _
    simp only [isFlowIndicator, Bool.or_eq_true, beq_iff_eq] at indicates
    rcases indicates with (((rfl | rfl) | rfl) | rfl) | rfl <;>
      · rw [List.nil_append, readPlain_cons (by decide)]
        rfl
  | cons c word ih =>
    intro mark bare
    rw [List.forall_mem_cons] at bare
    obtain ⟨_, inLine, notBlank, notColon, ordinary⟩ := ordinary_of_isBareChar bare.1
    have unclear : PlainContext.isUnclear ⟨true, indent⟩ c (word ++ indicator :: rest) = false := by
      simp [PlainContext.isUnclear, notColon]
    have ends : PlainContext.endsAt ⟨true, indent⟩ c (word ++ indicator :: rest) = false := by
      simp [PlainContext.endsAt, notColon, ordinary]
    rw [List.cons_append, readPlain_cons (not_return_of_not_break inLine), if_neg (by simp [inLine]),
      if_neg (by simp [notBlank]), if_neg (by simp [PlainContext.endsBefore]), if_neg (by simp [unclear]),
      if_neg (by simp [ends]), ih _ bare.2, List.length_cons, Nat.add_comm, ← Mark.skip_skip]
    rfl

theorem bareWord_null : BareWord "null".toList := ⟨.word (by decide), List.all_eq_true.mp (by decide)⟩

theorem bareWord_bool (value : Bool) : BareWord (Json.Value.bool value).chars := by
  cases value with
  | true => exact ⟨.word (by decide), List.all_eq_true.mp (by decide)⟩
  | false => exact ⟨.word (by decide), List.all_eq_true.mp (by decide)⟩

/-! ### Numerals -/

/-- A character of a numeral. -/
def isNumeralChar (c : Char) : Bool :=
  c.isDigit || c == '.' || c == 'e' || c == 'E' || c == '+' || c == '-'

theorem isNumeralChar_of_isDigit {c : Char} (digit : c.isDigit = true) : isNumeralChar c = true := by
  simp [isNumeralChar, digit]

theorem isBareChar_of_isNumeralChar {c : Char} (numeral : isNumeralChar c = true) :
    isBareChar c = true := by
  simp only [isNumeralChar, Bool.or_eq_true, beq_iff_eq] at numeral
  rcases numeral with ((((digit | rfl) | rfl) | rfl) | rfl) | rfl
  · simp [isBareChar, Char.isAlphanum, digit]
  · rfl
  · rfl
  · rfl
  · rfl
  · rfl

theorem areDigits_of_spellsWhole {whole : List Nat} {chars : List Char} (spelled : SpellsWhole whole chars) :
    AreDigits chars := by
  cases spelled with
  | zero => exact ⟨List.cons_ne_nil _ _, List.forall_mem_singleton.mpr rfl⟩
  | many _ areDigits => exact areDigits

theorem isNumeralChar_of_spellsFraction {fraction : List Nat} {chars : List Char}
    (spelled : SpellsFraction fraction chars) : ∀ c ∈ chars, isNumeralChar c = true := by
  cases spelled with
  | none => exact List.forall_mem_nil _
  | point areDigits =>
    rw [List.forall_mem_cons]
    exact ⟨rfl, fun c inside => isNumeralChar_of_isDigit (areDigits.all c inside)⟩

theorem isNumeralChar_of_spellsExponent {exponent : Option Int} {chars : List Char}
    (spelled : SpellsExponent exponent chars) : ∀ c ∈ chars, isNumeralChar c = true := by
  cases spelled with
  | none => exact List.forall_mem_nil _
  | some isMark signed areDigits =>
    rw [List.forall_mem_append, List.forall_mem_cons]
    refine ⟨⟨?_, ?_⟩, fun c inside => isNumeralChar_of_isDigit (areDigits.all c inside)⟩
    · rcases isMark with rfl | rfl <;> rfl
    · cases signed with
      | none => exact List.forall_mem_nil _
      | plus => exact List.forall_mem_singleton.mpr rfl
      | minus => exact List.forall_mem_singleton.mpr rfl

/-- A numeral without its sign starts with a digit, and is made of the characters of numerals. -/
theorem exists_digit_of_spellsUnsigned {negative : Bool} {numeral : Json.Numeral} {chars : List Char}
    (spelled : SpellsUnsigned negative numeral chars) :
    (∃ c rest, chars = c :: rest ∧ c.isDigit = true) ∧ ∀ c ∈ chars, isNumeralChar c = true := by
  cases spelled with
  | parts before after scale =>
    obtain ⟨some, areDigits⟩ := areDigits_of_spellsWhole before
    refine ⟨?_, ?_⟩
    · obtain ⟨c, rest, rfl⟩ := List.exists_cons_of_ne_nil some
      exact ⟨c, _, rfl, areDigits c (List.mem_cons_self ..)⟩
    · simp only [List.forall_mem_append]
      exact ⟨⟨fun c inside => isNumeralChar_of_isDigit (areDigits c inside),
        isNumeralChar_of_spellsFraction after⟩, isNumeralChar_of_spellsExponent scale⟩

theorem isNumeralChar_of_spellsNumeral {numeral : Json.Numeral} {chars : List Char}
    (spelled : SpellsNumeral numeral chars) : ∀ c ∈ chars, isNumeralChar c = true := by
  cases spelled with
  | positive spelled => exact (exists_digit_of_spellsUnsigned spelled).2
  | negative spelled =>
    rw [List.forall_mem_cons]
    exact ⟨rfl, (exists_digit_of_spellsUnsigned spelled).2⟩

/-- **A numeral of JSON is a bare word.** -/
theorem bareWord_of_spellsNumeral {numeral : Json.Numeral} {chars : List Char}
    (spelled : SpellsNumeral numeral chars) : BareWord chars where
  starts := by
    have alphanumeric : ∀ {c : Char}, c.isDigit = true → c.isAlphanum = true := fun digit => by
      simp [Char.isAlphanum, digit]
    cases spelled with
    | positive spelled =>
      obtain ⟨c, rest, rfl, digit⟩ := (exists_digit_of_spellsUnsigned spelled).1
      exact .word (alphanumeric digit)
    | negative spelled =>
      obtain ⟨c, rest, rfl, digit⟩ := (exists_digit_of_spellsUnsigned spelled).1
      exact .negative (alphanumeric digit)
  all := fun c inside => isBareChar_of_isNumeralChar (isNumeralChar_of_spellsNumeral spelled c inside)

/-! ### What numerals mean -/

/-- A decimal in the layout of JSON has a point or an exponent. -/
theorem exists_point_text (number : Decimal.Scaled) :
    ∃ point ∈ (number.text Decimal.json).toList, point = '.' ∨ point = 'e' := by
  simp only [Decimal.Scaled.text]
  split
  · exact ⟨'.', by decide, .inl rfl⟩
  · split
    · refine ⟨'.', ?_, .inl rfl⟩
      simp only [Decimal.Scaled.positional]
      split
      · simp
      · split <;> simp
    · refine ⟨'e', ?_, .inr rfl⟩
      simp only [Decimal.Scaled.scientific]
      split
      · rename_i none
        exact absurd none Nat.toDigits_ne_nil
      · simp
      · simp

/-- The text of a finite float has a point or an exponent. -/
theorem exists_point_floatText {x : Float} (isFinite : x.isFinite = true) :
    ∃ point ∈ (Decimal.floatText Decimal.json x).toList, point = '.' ∨ point = 'e' := by
  obtain ⟨negative, number, text⟩ := Json.exists_floatText isFinite
  obtain ⟨point, inside, isPoint⟩ := exists_point_text number
  rw [text]
  exact ⟨point, List.mem_append_right _ inside, isPoint⟩

theorem isDigit_of_digitIn? {c : Char} {digit : Nat} (isIn : digitIn? 10 c = some digit) :
    c.isDigit = true := by
  have le_iff : ∀ {d e : Char}, d ≤ e ↔ d.toNat ≤ e.toNat := Iff.rfl
  simp only [digitIn?, Option.filter_eq_some_iff, le_iff, Bool.and_eq_true, decide_eq_true_eq,
    Char.reduceToNat] at isIn
  obtain ⟨isIn, small⟩ := isIn
  split at isIn
  · rename_i between
    simpa [Char.isDigit, UInt32.le_iff_toNat_le] using between
  · -- A letter has a value of ten or more.
    split at isIn
    · cases isIn
      omega
    · split at isIn
      · cases isIn
        omega
      · cases isIn

/-- A text with something else than digits is no number. -/
theorem digits?_eq_none {text : List Char} {c : Char} (inside : c ∈ text) (notDigit : c.isDigit = false) :
    digits? 10 text = none := by
  have from? : ∀ value, digitsFrom? 10 value text = none := by
    induction text with
    | nil => cases inside
    | cons d text ih =>
      intro value
      rw [digitsFrom?]
      cases digit : digitIn? 10 d with
      | none => rfl
      | some known =>
        refine ih ((List.mem_cons.mp inside).resolve_left ?_) _
        rintro rfl
        rw [isDigit_of_digitIn? digit] at notDigit
        cases notDigit
  cases text with
  | nil => cases inside
  | cons d text => exact from? 0

section

variable {text : List Char} {point : Char}

/-- A numeral is in base ten. -/
theorem magnitude?_of_isNumeralChar (numeral : ∀ c ∈ text, isNumeralChar c = true) :
    magnitude? text = digits? 10 text := by
  unfold magnitude?
  split
  · exact absurd (numeral 'x' (by simp)) (by decide)
  · exact absurd (numeral 'o' (by simp)) (by decide)
  · exact absurd (numeral 'b' (by simp)) (by decide)
  · rfl

/-- A numeral with a point or an exponent is no integer. -/
theorem integer?_eq_none (numeral : ∀ c ∈ text, isNumeralChar c = true) (inside : point ∈ text)
    (isPoint : point = '.' ∨ point = 'e') : integer? text = none := by
  have notDigit : point.isDigit = false := by
    rcases isPoint with rfl | rfl <;> rfl
  have unsigned : ∀ {sign : Char} {rest : List Char}, text = sign :: rest → point ≠ sign →
      magnitude? rest = none := by
    rintro sign rest rfl notSign
    rw [List.forall_mem_cons] at numeral
    rw [magnitude?_of_isNumeralChar numeral.2]
    exact digits?_eq_none ((List.mem_cons.mp inside).resolve_left notSign) notDigit
  unfold integer?
  split
  · rfl
  · split
    · rw [unsigned rfl (by rcases isPoint with rfl | rfl <;> decide)]
      rfl
    · rw [unsigned rfl (by rcases isPoint with rfl | rfl <;> decide)]
      rfl
    · rw [magnitude?_of_isNumeralChar numeral, digits?_eq_none inside notDigit]
      rfl

/-- A numeral with a point or an exponent has no zero that makes it a text. -/
theorem hasLeadingZero_eq_false (inside : point ∈ text) (isPoint : point = '.' ∨ point = 'e') :
    hasLeadingZero text = false := by
  have afterSign : point ∈ dropSign text := by
    unfold dropSign
    split
    · exact (List.mem_cons.mp inside).resolve_left (by rcases isPoint with rfl | rfl <;> decide)
    · exact (List.mem_cons.mp inside).resolve_left (by rcases isPoint with rfl | rfl <;> decide)
    · exact inside
  rw [hasLeadingZero]
  split
  · rename_i rest zero
    rw [zero] at afterSign
    have later : point ∈ rest := (List.mem_cons.mp afterSign).resolve_left (by
      rcases isPoint with rfl | rfl <;> decide)
    have notAll : rest.all Char.isDigit = false := by
      rw [List.all_eq_false]
      exact ⟨point, later, by rcases isPoint with rfl | rfl <;> decide⟩
    rw [notAll, Bool.and_false]
  · rfl

end

/-- A numeral is none of some words with letters in them. -/
theorem not_mem_of_isNumeralChar {text : String}
    (numeral : ∀ c ∈ text.toList, isNumeralChar c = true) {words : List String}
    (letters : ∀ word ∈ words, word.toList.all isNumeralChar = false) : text ∉ words := by
  intro isWord
  have notAll := letters text isWord
  rw [List.all_eq_true.mpr numeral] at notAll
  cases notAll

/-- **The text of a finite float means that float**, if this is what its digits say to YAML. -/
theorem plainFound_floatText {x : Float} (isFinite : x.isFinite = true)
    (isRead : float? (Decimal.floatText Decimal.json x).toList = some x) :
    Scalar.plainFound (Decimal.floatText Decimal.json x) = .float x := by
  obtain ⟨_, spelled⟩ := Json.exists_spellsNumeral_floatText isFinite
  obtain ⟨point, inside, isPoint⟩ := exists_point_floatText isFinite
  generalize Decimal.floatText Decimal.json x = text at isRead spelled inside
  have numeral := isNumeralChar_of_spellsNumeral spelled
  have some : text.isEmpty = false := by
    rw [String.isEmpty_eq_false_iff]
    rintro rfl
    cases inside
  have noNull : text ∉ nulls := not_mem_of_isNumeralChar numeral (by decide)
  have noTrue : text ∉ ["true", "True", "TRUE"] := not_mem_of_isNumeralChar numeral (by decide)
  have noFalse : text ∉ ["false", "False", "FALSE"] := not_mem_of_isNumeralChar numeral (by decide)
  have noBool : bool? text = none := by
    rw [bool?, if_neg (by simpa using noTrue), if_neg (by simpa using noFalse)]
  have means : Meaning.ofPlain text = .float x := by
    simp [Meaning.ofPlain, some, noNull, noBool, integer?_eq_none numeral inside isPoint,
      hasLeadingZero_eq_false inside isPoint, isRead]
  rw [Scalar.plainFound, means]

end PipelineGraph.Yaml
