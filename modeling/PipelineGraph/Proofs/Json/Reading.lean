/-
**A text that spells a value is read as that value.**

The reader is followed through the grammar, phrase by phrase (`Value.SpelledBy.read`). A number is the only
value whose end depends on what follows it; everywhere in a text that is a blank, a comma, a closing
bracket or the end, none of which goes on with a number (`EndsNumber`).

What is read keeps the places of faults and the units of strings, so it is tied to the value by
`Reading.value`, which fails at the first fault.
-/

import PipelineGraph.Proofs.Json.Grammar

namespace PipelineGraph.Json

/-! ### Blanks -/

theorem skipBlanks_append {blanks : List Char} (areBlanks : AreBlanks blanks) (text : List Char) :
    skipBlanks (blanks ++ text) = skipBlanks text :=
  List.dropWhile_append_of_pos areBlanks

theorem skipBlanks_cons {c : Char} (notBlank : isBlank c = false) (text : List Char) :
    skipBlanks (c :: text) = c :: text := by
  simp [skipBlanks, notBlank]

theorem skipBlanks_skipBlanks (text : List Char) : skipBlanks (skipBlanks text) = skipBlanks text := by
  induction text with
  | nil => rfl
  | cons c text ih =>
    cases blank : isBlank c with
    | true => simpa [skipBlanks, blank] using ih
    | false => rw [skipBlanks_cons blank, skipBlanks_cons blank]

/-- A value is read from what is left without blanks. -/
theorem readValue_skipBlanks (fuel : Nat) (text : List Char) :
    readValue fuel (skipBlanks text) = readValue fuel text := by
  cases fuel with
  | zero => rfl
  | succ fuel => rw [readValue, readValue, skipBlanks_skipBlanks]

/-! ### Numbers -/

/-- **What follows does not go on with a number.** -/
def EndsNumber (rest : List Char) : Prop :=
  ∀ c ∈ rest.head?, c.isDigit = false ∧ c ≠ '.' ∧ c ≠ 'e' ∧ c ≠ 'E'

theorem spanDigits_append {digits rest : List Char} (all : ∀ c ∈ digits, c.isDigit = true)
    (ends : ∀ c ∈ rest.head?, c.isDigit = false) :
    spanDigits (digits ++ rest) = (digitValues digits, rest) := by
  have stop : rest.takeWhile Char.isDigit = [] ∧ rest.dropWhile Char.isDigit = rest := by
    cases rest with
    | nil => exact ⟨rfl, rfl⟩
    | cons c rest =>
      have noDigit : c.isDigit = false := ends c rfl
      simp [noDigit]
  rw [spanDigits, List.takeWhile_append_of_pos all, List.dropWhile_append_of_pos all, stop.1, stop.2,
    List.append_nil]
  rfl

theorem readDigits_append {digits rest : List Char} (areDigits : AreDigits digits)
    (ends : ∀ c ∈ rest.head?, c.isDigit = false) :
    readDigits (digits ++ rest) = .ok (digitValues digits, rest) := by
  rw [readDigits, spanDigits_append areDigits.all ends]
  cases digits with
  | nil => exact absurd rfl areDigits.some
  | cons c digits => rfl

/-- A digit with the value zero is a zero. -/
theorem eq_zero_of_digit {c : Char} (isDigit : c.isDigit = true) (zero : c.toNat - '0'.toNat = 0) :
    c = '0' := by
  have least : '0'.toNat ≤ c.toNat := by
    simp only [Char.isDigit, Bool.and_eq_true, decide_eq_true_eq] at isDigit
    exact isDigit.1
  exact Char.toNat_inj.mp (by omega)

theorem readWhole_append {whole : List Nat} {chars rest : List Char}
    (spelled : SpellsWhole whole chars) (ends : ∀ c ∈ rest.head?, c.isDigit = false) :
    readWhole (chars ++ rest) = .ok (whole, rest) := by
  cases spelled with
  | zero =>
    have areDigits : AreDigits ['0'] := ⟨List.cons_ne_nil _ _, List.forall_mem_singleton.mpr rfl⟩
    rw [readWhole, readDigits_append areDigits ends]
    rfl
  | @many c digits nonzero areDigits =>
    rw [readWhole, readDigits_append areDigits ends]
    have positive : c.toNat - '0'.toNat ≠ 0 := fun zero =>
      nonzero (eq_zero_of_digit (areDigits.all c (List.mem_cons_self ..)) zero)
    simp only [digitValues, List.map_cons]
    split
    · rename_i same
      simp only [Except.ok.injEq, Prod.mk.injEq, List.cons.injEq] at same
      exact absurd same.1.1 positive
    · rfl

theorem readFraction_append {fraction : List Nat} {chars rest : List Char}
    (spelled : SpellsFraction fraction chars)
    (ends : ∀ c ∈ rest.head?, c.isDigit = false ∧ c ≠ '.') :
    readFraction (chars ++ rest) = .ok (fraction, rest) := by
  cases spelled with
  | none =>
    cases rest with
    | nil => rfl
    | cons c rest =>
      have noPoint : c ≠ '.' := (ends c rfl).2
      rw [List.nil_append, readFraction.eq_2]
      rintro more same
      exact noPoint (List.cons.inj same).1
  | point areDigits => exact readDigits_append areDigits fun c first => (ends c first).1

theorem readExponent_append {exponent : Option Int} {chars rest : List Char}
    (spelled : SpellsExponent exponent chars) (ends : EndsNumber rest) :
    readExponent (chars ++ rest) = .ok (exponent, rest) := by
  cases spelled with
  | none =>
    cases rest with
    | nil => rfl
    | cons c rest =>
      obtain ⟨_, _, lower, upper⟩ := ends c rfl
      simp [readExponent, lower, upper]
  | @some mark negative sign digits isMark signed areDigits =>
    have read := readDigits_append areDigits fun c first => (ends c first).1
    have first : ∃ d more, digits ++ rest = d :: more ∧ d ≠ '-' ∧ d ≠ '+' := by
      cases digits with
      | nil => exact absurd rfl areDigits.some
      | cons d digits =>
        have isDigit := areDigits.all d (List.mem_cons_self ..)
        refine ⟨d, digits ++ rest, rfl, ?_, ?_⟩ <;> rintro rfl <;> simp at isDigit
    obtain ⟨d, more, parts, minus, plus⟩ := first
    have marked : (mark = 'e' || mark = 'E') = true := by
      rcases isMark with rfl | rfl <;> rfl
    cases signed with
    | none =>
      simp only [List.nil_append, List.cons_append, readExponent, marked, if_true]
      rw [parts] at read ⊢
      split <;> simp_all
    | plus => simp only [List.cons_append, List.nil_append, readExponent, marked, if_true, read]
    | minus => simp only [List.cons_append, List.nil_append, readExponent, marked, if_true, read]

/-- What starts with the digits after a point, or with an exponent, starts with no digit. -/
theorem head?_fraction {fraction : List Nat} {chars : List Char}
    (spelled : SpellsFraction fraction chars) (c : Char) (first : c ∈ chars.head?) : c = '.' := by
  cases spelled with
  | none => cases first
  | point => exact (Option.some.inj first).symm

theorem head?_exponent {exponent : Option Int} {chars : List Char}
    (spelled : SpellsExponent exponent chars) (c : Char) (first : c ∈ chars.head?) :
    c = 'e' ∨ c = 'E' := by
  cases spelled with
  | none => cases first
  | some isMark =>
    cases first
    exact isMark

/-- **A numeral is read up to its end.** -/
theorem readNumber_append {negative : Bool} {numeral : Numeral} {chars rest : List Char}
    (spelled : SpellsUnsigned negative numeral chars) (ends : EndsNumber rest) :
    readNumber negative (chars ++ rest) = .ok (numeral, rest) := by
  cases spelled with
  | @parts whole fraction exponent wholeChars fractionChars exponentChars before after scale =>
    have scaleEnds : ∀ c ∈ (exponentChars ++ rest).head?, c.isDigit = false ∧ c ≠ '.' := by
      intro c first
      rw [List.head?_append] at first
      rcases Option.or_eq_some_iff.mp first with inside | ⟨_, outside⟩
      · rcases head?_exponent scale c inside with rfl | rfl <;> decide
      · exact ⟨(ends c outside).1, (ends c outside).2.1⟩
    have fractionEnds : ∀ c ∈ (fractionChars ++ (exponentChars ++ rest)).head?,
        c.isDigit = false := by
      intro c first
      rw [List.head?_append] at first
      rcases Option.or_eq_some_iff.mp first with inside | ⟨_, outside⟩
      · rw [head?_fraction after c inside]
        decide
      · exact (scaleEnds c outside).1
    rw [List.append_assoc, List.append_assoc, readNumber, readWhole_append before fractionEnds]
    simp only [readFraction_append after scaleEnds, readExponent_append scale ends]

/-! ### Strings -/

theorem readUnits_plain {c : Char} (printable : 0x20 ≤ c.toNat) (quote : c ≠ '"')
    (backslash : c ≠ '\\') (more : List Char) :
    readUnits (c :: more) = (.char c :: (readUnits more).1, (readUnits more).2) := by
  have visible : ¬ c.toNat < 0x20 := Nat.not_lt.mpr printable
  rw [readUnits.eq_def]
  split <;> simp_all

theorem readUnits_short {letter c : Char} (means : unescape? letter = some c) (more : List Char) :
    readUnits ('\\' :: letter :: more) = (.char c :: (readUnits more).1, (readUnits more).2) := by
  have notCode : letter ≠ 'u' := by
    rintro rfl
    cases means
  simp [readUnits, notCode, means]

theorem readUnits_code {a b c d : Char} {code : Nat} (means : codeUnit? a b c d = some code)
    (more : List Char) :
    readUnits ('\\' :: 'u' :: a :: b :: c :: d :: more) =
      (.ofCode code :: (readUnits more).1, (readUnits more).2) := by
  rw [readUnits.eq_def]
  simp only [means]

/-- **A spelled character is read as units that join to it.** -/
theorem readUnits_char {c : Char} {spelling : List Char} (spelled : SpellsChar c spelling) :
    ∃ units, (∀ more, readUnits (spelling ++ more) =
        (units ++ (readUnits more).1, (readUnits more).2)) ∧
      ∀ others, joinUnits none (units ++ others) = (joinUnits none others).map (c :: ·) := by
  cases spelled with
  | plain printable quote backslash =>
    exact ⟨[.char c], readUnits_plain printable quote backslash, fun _ => rfl⟩
  | short means => exact ⟨[.char c], readUnits_short means, fun _ => rfl⟩
  | @code a b c d code means whole =>
    refine ⟨[.char (Char.ofNat code)], fun more => ?_, fun _ => rfl⟩
    have unit : StringUnit.ofCode code = .char (Char.ofNat code) := by
      simp only [StringUnit.ofCode, Bool.and_eq_true, decide_eq_true_eq, whole, if_false]
    rw [← unit]
    exact readUnits_code means more
  | @surrogates a b c d a' b' c' d' high low first second isHigh isLow =>
    refine ⟨[.surrogate high, .surrogate low], fun more => ?_, fun others => ?_⟩
    · have high' : StringUnit.ofCode high = .surrogate high := by
        rw [StringUnit.ofCode, if_pos (by simp; omega)]
      have low' : StringUnit.ofCode low = .surrogate low := by
        rw [StringUnit.ofCode, if_pos (by simp; omega)]
      show readUnits ('\\' :: 'u' :: a :: b :: c :: d :: '\\' :: 'u' :: a' :: b' :: c' :: d' :: more) = _
      rw [readUnits_code first, readUnits_code second, high', low']
      rfl
    · show joinUnits none (.surrogate high :: .surrogate low :: others) = _
      rw [joinUnits, if_pos ⟨isHigh.2, isLow.1⟩]

/-- **A spelled string is read up to its closing quote.** -/
theorem readUnits_append {text chars : List Char} (spelled : SpellsText text chars)
    (rest : List Char) :
    ∃ units, readUnits (chars ++ '"' :: rest) = (units, .ok rest) ∧
      joinUnits none units = .ok text := by
  induction spelled with
  | nil => exact ⟨[], rfl, rfl⟩
  | @cons c text spelling more first _ ih =>
    obtain ⟨units, read, joined⟩ := ih
    obtain ⟨here, step, join⟩ := readUnits_char first
    refine ⟨here ++ units, ?_, ?_⟩
    · rw [List.append_assoc, step, read]
    · rw [join, joined]
      rfl

theorem readString_append {text : String} {chars : List Char}
    (spelled : SpellsText text.toList chars) (rest : List Char) :
    ∃ quoted, readString (chars ++ '"' :: rest) = (quoted, some rest) ∧ quoted.text = .ok text := by
  obtain ⟨units, read, joined⟩ := readUnits_append spelled rest
  refine ⟨⟨units, none⟩, ?_, ?_⟩
  · rw [readString, read]
  · rw [Quoted.text, joined]
    exact congrArg _ String.ofList_toList

/-! ### Values -/

theorem AreDigits.starts {digits : List Char} (areDigits : AreDigits digits) :
    ∃ c more, digits = c :: more ∧ c.isDigit = true := by
  cases digits with
  | nil => exact absurd rfl areDigits.some
  | cons c more => exact ⟨c, more, rfl, areDigits.all c (List.mem_cons_self ..)⟩

theorem SpellsUnsigned.starts {negative : Bool} {numeral : Numeral} {chars : List Char}
    (spelled : SpellsUnsigned negative numeral chars) :
    ∃ c more, chars = c :: more ∧ c.isDigit = true := by
  cases spelled with
  | parts before _ _ =>
    cases before with
    | zero => exact ⟨'0', _, rfl, rfl⟩
    | many _ areDigits => exact ⟨_, _, rfl, areDigits.all _ (List.mem_cons_self ..)⟩

/-- The first character of what a text goes on with is no blank and closes no array. -/
def Opens (text : List Char) : Prop :=
  ∃ c more, text = c :: more ∧ isBlank c = false ∧ c ≠ ']'

theorem SpellsNumeral.opens {numeral : Numeral} {chars : List Char}
    (spelled : SpellsNumeral numeral chars) (rest : List Char) : Opens (chars ++ rest) := by
  cases spelled with
  | negative => exact ⟨_, _, rfl, by decide⟩
  | positive spelled =>
    obtain ⟨c, more, rfl, isDigit⟩ := spelled.starts
    refine ⟨c, more ++ rest, rfl, ?_, ?_⟩
    · cases blank : isBlank c with
      | false => rfl
      | true =>
        simp only [isBlank, Bool.or_eq_true, beq_iff_eq] at blank
        rcases blank with ((rfl | rfl) | rfl) | rfl <;> simp at isDigit
    · rintro rfl
      simp at isDigit

/-- A value begins with a character that is no blank and closes no array. -/
theorem Spells.opens {value : Value} {chars : List Char} (spelled : Spells (.value value) chars)
    (rest : List Char) : Opens (chars ++ rest) := by
  cases spelled with
  | null => exact ⟨_, _, rfl, by decide⟩
  | yes => exact ⟨_, _, rfl, by decide⟩
  | no => exact ⟨_, _, rfl, by decide⟩
  | string => exact ⟨_, _, rfl, by decide⟩
  | emptyArray => exact ⟨_, _, rfl, by decide⟩
  | array => exact ⟨_, _, rfl, by decide⟩
  | emptyObject => exact ⟨_, _, rfl, by decide⟩
  | object => exact ⟨_, _, rfl, by decide⟩
  | number spelled => exact spelled.opens rest

theorem Opens.skipBlanks_eq {text : List Char} (opens : Opens text) : skipBlanks text = text := by
  obtain ⟨c, more, rfl, notBlank, _⟩ := opens
  exact skipBlanks_cons notBlank more

theorem Spells.skipBlanks_element {value : Value} {chars : List Char}
    (spelled : Spells (.element value) chars) (rest : List Char) :
    Opens (skipBlanks (chars ++ rest)) := by
  cases spelled with
  | @element _ before chars after blanksBefore spelled _ =>
    have opens := spelled.opens (after ++ rest)
    rw [List.append_assoc, List.append_assoc, skipBlanks_append blanksBefore, opens.skipBlanks_eq]
    exact opens

theorem Spells.skipBlanks_items {items : List Value} {chars : List Char}
    (spelled : Spells (.items items) chars) (rest : List Char) :
    Opens (skipBlanks (chars ++ rest)) := by
  cases spelled with
  | lastItem spelled => exact spelled.skipBlanks_element rest
  | item spelled _ =>
    rw [List.append_assoc]
    exact spelled.skipBlanks_element _

theorem SpellsKey.skipBlanks_eq {key : String} {chars : List Char} (spelled : SpellsKey key chars)
    (rest : List Char) : ∃ more, skipBlanks (chars ++ rest) = '"' :: more := by
  cases spelled with
  | quoted blanksBefore _ _ =>
    rw [List.append_assoc, List.append_assoc, skipBlanks_append blanksBefore]
    exact ⟨_, skipBlanks_cons (by decide) _⟩

theorem Spells.skipBlanks_members {members : List (String × Value)} {chars : List Char}
    (spelled : Spells (.members members) chars) (rest : List Char) :
    ∃ more, skipBlanks (chars ++ rest) = '"' :: more := by
  cases spelled with
  | lastMember keySpelled =>
    rw [List.append_assoc]
    exact keySpelled.skipBlanks_eq _
  | member keySpelled =>
    rw [List.append_assoc, List.append_assoc]
    exact keySpelled.skipBlanks_eq _

/-- **What a reader makes of the text of a phrase**, whatever follows it, when it has enough steps
left. It sees of the text only what is left without blanks. -/
def Phrase.IsReadFrom (chars : List Char) : Phrase → Prop
  | .value meant => ∀ fuel text rest, 2 * chars.length ≤ fuel → EndsNumber rest →
      skipBlanks text = chars ++ rest →
      ∃ reading, readValue fuel text = (reading, some rest) ∧ reading.value = .ok meant
  | .element meant => ∀ fuel text rest, 2 * chars.length ≤ fuel → EndsNumber rest →
      skipBlanks text = skipBlanks (chars ++ rest) →
      ∃ reading after, readValue fuel text = (reading, some after) ∧
        skipBlanks after = skipBlanks rest ∧ reading.value = .ok meant
  | .items meant => ∀ fuel text rest, 2 * chars.length < fuel →
      skipBlanks text = skipBlanks (chars ++ ']' :: rest) →
      ∃ readings, readItems fuel text = (readings, none, some rest) ∧
        itemsValue none readings = .ok meant
  | .members meant => ∀ fuel text rest, 2 * chars.length < fuel →
      skipBlanks text = skipBlanks (chars ++ '\x7d' :: rest) →
      ∃ readings, readMembers fuel text = (readings, none, some rest) ∧
        membersValue none readings = .ok meant

theorem endsNumber_cons {c : Char} (ends : c.isDigit = false ∧ c ≠ '.' ∧ c ≠ 'e' ∧ c ≠ 'E')
    (rest : List Char) : EndsNumber (c :: rest) := by
  rintro d ⟨⟩
  exact ends

/-- Blanks, and then what does not go on with a number, do not go on with a number. -/
theorem EndsNumber.blanks {blanks rest : List Char} (areBlanks : AreBlanks blanks)
    (ends : EndsNumber rest) : EndsNumber (blanks ++ rest) := by
  cases blanks with
  | nil => exact ends
  | cons c blanks =>
    refine endsNumber_cons ?_ _
    have blank := areBlanks c (List.mem_cons_self ..)
    simp only [isBlank, Bool.or_eq_true, beq_iff_eq] at blank
    rcases blank with ((rfl | rfl) | rfl) | rfl <;> decide

/-- A step is left where there are at least as many steps as characters, twice counted. -/
theorem exists_succ {chars : List Char} {fuel : Nat} (some : chars ≠ [])
    (enough : 2 * chars.length ≤ fuel) : ∃ left, fuel = left + 1 := by
  have positive := List.length_pos_iff.mpr some
  exact Nat.exists_eq_add_one.mpr (by omega)

theorem isReadFrom_null : Phrase.IsReadFrom ['n', 'u', 'l', 'l'] (.value .null) := by
  intro fuel text rest enough _ skipped
  obtain ⟨fuel, rfl⟩ := exists_succ (by simp) enough
  rw [← readValue_skipBlanks, skipped]
  exact ⟨.null, rfl, rfl⟩

theorem isReadFrom_true : Phrase.IsReadFrom ['t', 'r', 'u', 'e'] (.value (.bool true)) := by
  intro fuel text rest enough _ skipped
  obtain ⟨fuel, rfl⟩ := exists_succ (by simp) enough
  rw [← readValue_skipBlanks, skipped]
  exact ⟨.bool true, rfl, rfl⟩

theorem isReadFrom_false : Phrase.IsReadFrom ['f', 'a', 'l', 's', 'e'] (.value (.bool false)) := by
  intro fuel text rest enough _ skipped
  obtain ⟨fuel, rfl⟩ := exists_succ (by simp) enough
  rw [← readValue_skipBlanks, skipped]
  exact ⟨.bool false, rfl, rfl⟩

/-- A numeral is read as it is, whether its number is in range or not. -/
theorem readValue_numeral {numeral : Numeral} {chars rest text : List Char} {fuel : Nat}
    (spelled : SpellsNumeral numeral chars) (ends : EndsNumber rest)
    (skipped : skipBlanks text = chars ++ rest) :
    readValue (fuel + 1) text = (.number numeral, some rest) := by
  cases spelled with
  | positive spelled =>
    have read := readNumber_append spelled ends
    obtain ⟨c, more, rfl, isDigit⟩ := spelled.starts
    rw [List.cons_append] at skipped read
    rw [readValue, skipped]
    have numeralRead : readNumeral false (c :: (more ++ rest)) = (.number numeral, some rest) := by
      rw [readNumeral, read]
    split <;> simp_all
  | @negative chars spelled =>
    rw [← readValue_skipBlanks, skipped]
    show readNumeral true (chars ++ rest) = _
    rw [readNumeral, readNumber_append spelled ends]

theorem SpellsNumeral.ne_nil {numeral : Numeral} {chars : List Char}
    (spelled : SpellsNumeral numeral chars) : chars ≠ [] := by
  cases spelled with
  | positive spelled =>
    obtain ⟨c, more, rfl, _⟩ := spelled.starts
    exact List.cons_ne_nil _ _
  | negative _ => exact List.cons_ne_nil _ _

theorem isReadFrom_number {numeral : Numeral} {number : Number} {chars : List Char}
    (spelled : SpellsNumeral numeral chars) (inRange : numeral.number? = some number) :
    Phrase.IsReadFrom chars (.value (.number number)) := by
  intro fuel text rest enough ends skipped
  obtain ⟨fuel, rfl⟩ := exists_succ spelled.ne_nil enough
  have value : (Reading.number numeral).value = .ok (.number number) := by
    rw [Reading.value, inRange]
  exact ⟨.number numeral, readValue_numeral spelled ends skipped, value⟩

theorem isReadFrom_string {text : String} {chars : List Char}
    (spelled : SpellsText text.toList chars) :
    Phrase.IsReadFrom ('"' :: chars ++ ['"']) (.value (.string text)) := by
  intro fuel input rest enough _ skipped
  obtain ⟨fuel, rfl⟩ := exists_succ (by simp) enough
  obtain ⟨quoted, read, same⟩ := readString_append spelled rest
  refine ⟨.string quoted, ?_, ?_⟩
  · rw [List.append_assoc] at skipped
    rw [← readValue_skipBlanks, skipped]
    show (Reading.string (readString (chars ++ '"' :: rest)).1,
      (readString (chars ++ '"' :: rest)).2) = _
    rw [read]
  · rw [Reading.value, same]
    rfl

theorem isReadFrom_emptyArray {blanks : List Char} (areBlanks : AreBlanks blanks) :
    Phrase.IsReadFrom ('[' :: blanks ++ [']']) (.value (.array [])) := by
  intro fuel text rest enough _ skipped
  obtain ⟨fuel, rfl⟩ := exists_succ (by simp) enough
  have closes : skipBlanks (blanks ++ ']' :: rest) = ']' :: rest := by
    rw [skipBlanks_append areBlanks, skipBlanks_cons (by decide)]
  rw [List.append_assoc] at skipped
  refine ⟨.array [] none, ?_, rfl⟩
  rw [readValue, skipped]
  simp only [List.cons_append, List.nil_append, closes]

theorem isReadFrom_array {items : List Value} {inside : List Char}
    (spelled : Spells (.items items) inside) (isRead : Phrase.IsReadFrom inside (.items items)) :
    Phrase.IsReadFrom ('[' :: inside ++ [']']) (.value (.array items)) := by
  intro fuel text rest enough _ skipped
  obtain ⟨fuel, rfl⟩ := exists_succ (by simp) enough
  simp only [List.length_cons, List.length_append, List.length_nil] at enough
  obtain ⟨readings, read, same⟩ := isRead fuel (skipBlanks (inside ++ ']' :: rest)) rest (by omega)
    (skipBlanks_skipBlanks _)
  obtain ⟨c, more, opens, _, notEnd⟩ := spelled.skipBlanks_items (']' :: rest)
  rw [List.append_assoc] at skipped
  refine ⟨.array readings none, ?_, ?_⟩
  · rw [readValue, skipped]
    rw [opens] at read
    simp only [List.cons_append, List.nil_append, opens]
    split <;> simp_all
  · rw [Reading.value, same]
    rfl

theorem isReadFrom_emptyObject {blanks : List Char} (areBlanks : AreBlanks blanks) :
    Phrase.IsReadFrom ('\x7b' :: blanks ++ ['\x7d']) (.value (.object [])) := by
  intro fuel text rest enough _ skipped
  obtain ⟨fuel, rfl⟩ := exists_succ (by simp) enough
  have closes : skipBlanks (blanks ++ '\x7d' :: rest) = '\x7d' :: rest := by
    rw [skipBlanks_append areBlanks, skipBlanks_cons (by decide)]
  rw [List.append_assoc] at skipped
  refine ⟨.object [] none, ?_, rfl⟩
  rw [readValue, skipped]
  simp only [List.cons_append, List.nil_append, closes]

theorem isReadFrom_object {members : List (String × Value)} {inside : List Char}
    (spelled : Spells (.members members) inside)
    (isRead : Phrase.IsReadFrom inside (.members members)) :
    Phrase.IsReadFrom ('\x7b' :: inside ++ ['\x7d']) (.value (.object members)) := by
  intro fuel text rest enough _ skipped
  obtain ⟨fuel, rfl⟩ := exists_succ (by simp) enough
  simp only [List.length_cons, List.length_append, List.length_nil] at enough
  obtain ⟨readings, read, same⟩ := isRead fuel (skipBlanks (inside ++ '\x7d' :: rest)) rest
    (by omega) (skipBlanks_skipBlanks _)
  obtain ⟨more, opens⟩ := spelled.skipBlanks_members ('\x7d' :: rest)
  rw [List.append_assoc] at skipped
  refine ⟨.object readings none, ?_, ?_⟩
  · rw [readValue, skipped]
    rw [opens] at read
    simp only [List.cons_append, List.nil_append, opens]
    show (Reading.object (readMembers fuel ('"' :: more)).1 (readMembers fuel ('"' :: more)).2.1,
      (readMembers fuel ('"' :: more)).2.2) = _
    rw [read]
  · rw [Reading.value, same]
    rfl

theorem isReadFrom_element {value : Value} {before chars after : List Char}
    (blanksBefore : AreBlanks before) (spelled : Spells (.value value) chars)
    (blanksAfter : AreBlanks after) (isRead : Phrase.IsReadFrom chars (.value value)) :
    Phrase.IsReadFrom (before ++ chars ++ after) (.element value) := by
  intro fuel text rest enough ends skipped
  simp only [List.length_append] at enough
  have opens := spelled.opens (after ++ rest)
  rw [List.append_assoc, List.append_assoc, skipBlanks_append blanksBefore, opens.skipBlanks_eq]
    at skipped
  obtain ⟨reading, read, same⟩ :=
    isRead fuel text (after ++ rest) (by omega) (ends.blanks blanksAfter) skipped
  exact ⟨reading, after ++ rest, read, skipBlanks_append blanksAfter rest, same⟩

theorem isReadFrom_lastItem {value : Value} {chars : List Char}
    (isRead : Phrase.IsReadFrom chars (.element value)) :
    Phrase.IsReadFrom chars (.items [value]) := by
  intro fuel text rest enough skipped
  obtain ⟨fuel, rfl⟩ := Nat.exists_eq_add_one.mpr (Nat.zero_lt_of_lt enough)
  obtain ⟨reading, after, read, left, same⟩ := isRead fuel text (']' :: rest) (by omega)
    (endsNumber_cons (by decide) rest) skipped
  rw [skipBlanks_cons (by decide)] at left
  refine ⟨[reading], ?_, ?_⟩
  · rw [readItems, read]
    simp only [left]
  · rw [itemsValue, same]
    rfl

theorem isReadFrom_item {value : Value} {others : List Value} {chars more : List Char}
    (isRead : Phrase.IsReadFrom chars (.element value))
    (othersRead : Phrase.IsReadFrom more (.items others)) :
    Phrase.IsReadFrom (chars ++ ',' :: more) (.items (value :: others)) := by
  intro fuel text rest enough skipped
  obtain ⟨fuel, rfl⟩ := Nat.exists_eq_add_one.mpr (Nat.zero_lt_of_lt enough)
  simp only [List.length_append, List.length_cons] at enough
  rw [List.append_assoc, List.cons_append] at skipped
  obtain ⟨reading, after, read, left, same⟩ := isRead fuel text (',' :: (more ++ ']' :: rest))
    (by omega) (endsNumber_cons (by decide) _) skipped
  obtain ⟨readings, readOthers, sameOthers⟩ :=
    othersRead fuel (more ++ ']' :: rest) rest (by omega) rfl
  rw [skipBlanks_cons (by decide)] at left
  refine ⟨reading :: readings, ?_, ?_⟩
  · rw [readItems, read]
    simp only [left, readOthers]
  · rw [itemsValue, same]
    simp only [sameOthers]
    rfl

/-- A key and its colon are read up to the value. -/
theorem SpellsKey.read {key : String} {chars : List Char} (spelled : SpellsKey key chars)
    {text rest : List Char} (skipped : skipBlanks text = skipBlanks (chars ++ ':' :: rest)) :
    ∃ more quoted after, skipBlanks text = '"' :: more ∧ readString more = (quoted, some after) ∧
      readColon after = .ok rest ∧ quoted.text = .ok key := by
  cases spelled with
  | @quoted before chars after blanksBefore spelled blanksAfter =>
    obtain ⟨quoted, read, same⟩ := readString_append spelled (after ++ ':' :: rest)
    refine ⟨chars ++ '"' :: (after ++ ':' :: rest), quoted, after ++ ':' :: rest, ?_, read, ?_, same⟩
    · rw [skipped, List.append_assoc, List.append_assoc, skipBlanks_append blanksBefore]
      exact skipBlanks_cons (by decide) _
    · rw [readColon, skipBlanks_append blanksAfter, skipBlanks_cons (by decide)]
      rfl

theorem isReadFrom_lastMember {key : String} {value : Value} {keyChars chars : List Char}
    (keySpelled : SpellsKey key keyChars) (isRead : Phrase.IsReadFrom chars (.element value)) :
    Phrase.IsReadFrom (keyChars ++ ':' :: chars) (.members [(key, value)]) := by
  intro fuel text rest enough skipped
  obtain ⟨fuel, rfl⟩ := Nat.exists_eq_add_one.mpr (Nat.zero_lt_of_lt enough)
  simp only [List.length_append, List.length_cons] at enough
  rw [List.append_assoc] at skipped
  obtain ⟨afterQuote, quoted, afterKey, opens, readKey, colon, sameKey⟩ := keySpelled.read skipped
  obtain ⟨reading, after, read, left, same⟩ := isRead fuel (chars ++ '\x7d' :: rest)
    ('\x7d' :: rest) (by omega) (endsNumber_cons (by decide) rest) rfl
  rw [skipBlanks_cons (by decide)] at left
  refine ⟨[(quoted, reading)], ?_, ?_⟩
  · rw [readMembers, opens]
    simp only [readKey, colon, List.append_eq, read, left]
  · rw [membersValue, sameKey, same]
    rfl

theorem isReadFrom_member {key : String} {value : Value} {others : List (String × Value)}
    {keyChars chars more : List Char} (keySpelled : SpellsKey key keyChars)
    (isRead : Phrase.IsReadFrom chars (.element value))
    (othersRead : Phrase.IsReadFrom more (.members others)) :
    Phrase.IsReadFrom (keyChars ++ ':' :: chars ++ ',' :: more)
      (.members ((key, value) :: others)) := by
  intro fuel text rest enough skipped
  obtain ⟨fuel, rfl⟩ := Nat.exists_eq_add_one.mpr (Nat.zero_lt_of_lt enough)
  simp only [List.length_append, List.length_cons] at enough
  rw [List.append_assoc, List.append_assoc] at skipped
  obtain ⟨afterQuote, quoted, afterKey, opens, readKey, colon, sameKey⟩ := keySpelled.read skipped
  obtain ⟨reading, after, read, left, same⟩ := isRead fuel (chars ++ ',' :: (more ++ '\x7d' :: rest))
    (',' :: (more ++ '\x7d' :: rest)) (by omega) (endsNumber_cons (by decide) _) rfl
  obtain ⟨readings, readOthers, sameOthers⟩ :=
    othersRead fuel (more ++ '\x7d' :: rest) rest (by omega) rfl
  rw [skipBlanks_cons (by decide)] at left
  refine ⟨(quoted, reading) :: readings, ?_, ?_⟩
  · rw [readMembers, opens]
    simp only [readKey, colon, List.append_eq, List.cons_append, read, left, readOthers]
  · rw [membersValue, sameKey, same]
    simp only [sameOthers]
    rfl

/-- **The text of a phrase is read as what it spells.** -/
theorem Spells.isReadFrom {phrase : Phrase} {chars : List Char} (spelled : Spells phrase chars) :
    phrase.IsReadFrom chars := by
  induction spelled with
  | null => exact isReadFrom_null
  | yes => exact isReadFrom_true
  | no => exact isReadFrom_false
  | number spelled inRange => exact isReadFrom_number spelled inRange
  | string spelled => exact isReadFrom_string spelled
  | emptyArray areBlanks => exact isReadFrom_emptyArray areBlanks
  | array spelled ih => exact isReadFrom_array spelled ih
  | emptyObject areBlanks => exact isReadFrom_emptyObject areBlanks
  | object spelled ih => exact isReadFrom_object spelled ih
  | element blanksBefore spelled blanksAfter ih =>
    exact isReadFrom_element blanksBefore spelled blanksAfter ih
  | lastItem _ ih => exact isReadFrom_lastItem ih
  | item _ _ ih ihOthers => exact isReadFrom_item ih ihOthers
  | lastMember keySpelled _ ih => exact isReadFrom_lastMember keySpelled ih
  | member keySpelled _ _ ih ihOthers => exact isReadFrom_member keySpelled ih ihOthers

/-- **A text that spells a value is read as that value, and nothing is left of it.** -/
theorem Value.SpelledBy.read {value : Value} {text : String} (spelled : value.SpelledBy text) :
    ∃ reading, read text = ⟨reading, false⟩ ∧ reading.value = .ok value := by
  obtain ⟨reading, after, isRead, left, same⟩ := Spells.isReadFrom spelled
    (2 * text.toList.length + 2) text.toList [] (by omega) (fun _ none => by cases none)
    (by rw [List.append_nil])
  refine ⟨reading, ?_, same⟩
  have nothing : skipBlanks after = [] := left
  simp only [Json.read, isRead, nothing]
  rfl

/-- A text that is one numeral and is read as a number says that number. -/
theorem SpellsNumeral.number?_of_read {numeral : Numeral} {text : String} {number : Number}
    (spelled : SpellsNumeral numeral text.toList)
    (same : (Json.read text).value = .ok (.number number)) : numeral.number? = some number := by
  have starts : skipBlanks text.toList = text.toList ++ [] := by
    have opens := spelled.opens []
    rw [List.append_nil] at opens ⊢
    exact opens.skipBlanks_eq
  have isRead : Json.read text = ⟨.number numeral, false⟩ := by
    simp only [Json.read, readValue_numeral spelled (fun _ none => by cases none) starts]
    rfl
  rw [isRead, Document.value, Reading.value] at same
  cases inRange : numeral.number? with
  | none =>
    rw [inRange] at same
    cases same
  | some found =>
    rw [inRange] at same
    cases same
    rfl

end PipelineGraph.Json
