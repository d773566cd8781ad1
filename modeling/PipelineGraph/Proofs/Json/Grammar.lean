/-
**The grammar of JSON.**

`Spells` relates a value to each of the texts that spell it: with any blanks between the parts, any
escapes inside strings, and any digits in numbers. It is the grammar of the format and says nothing of
how a text is read.

* `SpellsChar` — a character of a string and its spellings: as it is, as a short escape, by its code,
  or by the codes of two surrogates.
* `SpellsNumeral` — a numeral: a sign, digits without a needless zero in front, and optionally a
  fraction and an exponent.
* `Spells` — a phrase: a value, an element, which is a value among blanks, or the elements or members
  between the brackets of an array or an object.

That the numbers of a text are in range is part of the relation: a numeral spells the number that it
stands for, if it stands for one.
-/

import PipelineGraph.Json.Reading

namespace PipelineGraph.Json

/-! ### Strings -/

/-- **A character of a string is spelled.** -/
inductive SpellsChar : Char → List Char → Prop
  | plain {c : Char} (printable : 0x20 ≤ c.toNat) (quote : c ≠ '"') (backslash : c ≠ '\\') :
      SpellsChar c [c]
  | short {letter c : Char} (means : unescape? letter = some c) : SpellsChar c ['\\', letter]
  | code {a b c d : Char} {code : Nat} (means : codeUnit? a b c d = some code)
      (whole : ¬ (0xD800 ≤ code ∧ code < 0xE000)) :
      SpellsChar (Char.ofNat code) ['\\', 'u', a, b, c, d]
  | surrogates {a b c d a' b' c' d' : Char} {high low : Nat}
      (first : codeUnit? a b c d = some high) (second : codeUnit? a' b' c' d' = some low)
      (isHigh : 0xD800 ≤ high ∧ high < 0xDC00) (isLow : 0xDC00 ≤ low ∧ low < 0xE000) :
      SpellsChar (joinSurrogates high low) ['\\', 'u', a, b, c, d, '\\', 'u', a', b', c', d']

/-- **The inside of a string is spelled**, character by character. -/
inductive SpellsText : List Char → List Char → Prop
  | nil : SpellsText [] []
  | cons {c : Char} {text spelling rest : List Char} (first : SpellsChar c spelling)
      (more : SpellsText text rest) : SpellsText (c :: text) (spelling ++ rest)

/-! ### Numbers -/

/-- The values of digits. -/
def digitValues (digits : List Char) : List Nat := digits.map fun c => c.toNat - '0'.toNat

/-- One or more digits. -/
structure AreDigits (digits : List Char) : Prop where
  some : digits ≠ []
  all : ∀ c ∈ digits, c.isDigit = true

/-- The digits before the point are spelled: a zero stands alone. -/
inductive SpellsWhole : List Nat → List Char → Prop
  | zero : SpellsWhole [0] ['0']
  | many {c : Char} {digits : List Char} (nonzero : c ≠ '0') (areDigits : AreDigits (c :: digits)) :
      SpellsWhole (digitValues (c :: digits)) (c :: digits)

/-- The digits after the point are spelled, or there is no point. -/
inductive SpellsFraction : List Nat → List Char → Prop
  | none : SpellsFraction [] []
  | point {digits : List Char} (areDigits : AreDigits digits) :
      SpellsFraction (digitValues digits) ('.' :: digits)

/-- The sign of an exponent is spelled. -/
inductive SpellsSign : Bool → List Char → Prop
  | none : SpellsSign false []
  | plus : SpellsSign false ['+']
  | minus : SpellsSign true ['-']

/-- The exponent is spelled, or there is none. -/
inductive SpellsExponent : Option Int → List Char → Prop
  | none : SpellsExponent none []
  | some {mark : Char} {negative : Bool} {sign digits : List Char} (isMark : mark = 'e' ∨ mark = 'E')
      (signed : SpellsSign negative sign) (areDigits : AreDigits digits) :
      SpellsExponent
        (some (let magnitude : Int := Decimal.ofDigits (digitValues digits)
          if negative then -magnitude else magnitude))
        (mark :: sign ++ digits)

/-- **A numeral is spelled**, after its sign. -/
inductive SpellsUnsigned (negative : Bool) : Numeral → List Char → Prop
  | parts {whole fraction : List Nat} {exponent : Option Int}
      {wholeChars fractionChars exponentChars : List Char} (before : SpellsWhole whole wholeChars)
      (after : SpellsFraction fraction fractionChars)
      (scale : SpellsExponent exponent exponentChars) :
      SpellsUnsigned negative
        ⟨negative, fraction.isEmpty && exponent.isNone, ⟨whole, fraction, exponent.getD 0⟩⟩
        (wholeChars ++ fractionChars ++ exponentChars)

/-- **A numeral is spelled**, with its sign. -/
inductive SpellsNumeral : Numeral → List Char → Prop
  | positive {numeral : Numeral} {chars : List Char} (spelled : SpellsUnsigned false numeral chars) :
      SpellsNumeral numeral chars
  | negative {numeral : Numeral} {chars : List Char} (spelled : SpellsUnsigned true numeral chars) :
      SpellsNumeral numeral ('-' :: chars)

/-! ### Values -/

/-- Blanks, or nothing. -/
def AreBlanks (chars : List Char) : Prop := ∀ c ∈ chars, isBlank c = true

/-- **A key is spelled**, with blanks around its quotes. -/
inductive SpellsKey : String → List Char → Prop
  | quoted {key : String} {before chars after : List Char} (blanksBefore : AreBlanks before)
      (spelled : SpellsText key.toList chars) (blanksAfter : AreBlanks after) :
      SpellsKey key (before ++ '"' :: chars ++ '"' :: after)

/-- What a part of a JSON text spells: a value, an element, or what stands between brackets. -/
inductive Phrase
  | value (value : Value)
  | element (value : Value)
  | items (items : List Value)
  | members (members : List (String × Value))

/-- **A phrase is spelled.** -/
inductive Spells : Phrase → List Char → Prop
  | null : Spells (.value .null) ['n', 'u', 'l', 'l']
  | yes : Spells (.value (.bool true)) ['t', 'r', 'u', 'e']
  | no : Spells (.value (.bool false)) ['f', 'a', 'l', 's', 'e']
  | number {numeral : Numeral} {number : Number} {chars : List Char}
      (spelled : SpellsNumeral numeral chars) (inRange : numeral.number? = some number) :
      Spells (.value (.number number)) chars
  | string {text : String} {chars : List Char} (spelled : SpellsText text.toList chars) :
      Spells (.value (.string text)) ('"' :: chars ++ ['"'])
  | emptyArray {blanks : List Char} (areBlanks : AreBlanks blanks) :
      Spells (.value (.array [])) ('[' :: blanks ++ [']'])
  | array {items : List Value} {inside : List Char} (spelled : Spells (.items items) inside) :
      Spells (.value (.array items)) ('[' :: inside ++ [']'])
  | emptyObject {blanks : List Char} (areBlanks : AreBlanks blanks) :
      Spells (.value (.object [])) ('\x7b' :: blanks ++ ['\x7d'])
  | object {members : List (String × Value)} {inside : List Char}
      (spelled : Spells (.members members) inside) :
      Spells (.value (.object members)) ('\x7b' :: inside ++ ['\x7d'])
  | element {value : Value} {before chars after : List Char} (blanksBefore : AreBlanks before)
      (spelled : Spells (.value value) chars) (blanksAfter : AreBlanks after) :
      Spells (.element value) (before ++ chars ++ after)
  | lastItem {value : Value} {chars : List Char} (spelled : Spells (.element value) chars) :
      Spells (.items [value]) chars
  | item {value : Value} {rest : List Value} {chars more : List Char}
      (spelled : Spells (.element value) chars) (others : Spells (.items rest) more) :
      Spells (.items (value :: rest)) (chars ++ ',' :: more)
  | lastMember {key : String} {value : Value} {keyChars chars : List Char}
      (keySpelled : SpellsKey key keyChars) (spelled : Spells (.element value) chars) :
      Spells (.members [(key, value)]) (keyChars ++ ':' :: chars)
  | member {key : String} {value : Value} {rest : List (String × Value)}
      {keyChars chars more : List Char} (keySpelled : SpellsKey key keyChars)
      (spelled : Spells (.element value) chars) (others : Spells (.members rest) more) :
      Spells (.members ((key, value) :: rest)) (keyChars ++ ':' :: chars ++ ',' :: more)

/-- **A text spells a value**: it is the value, with blanks around it. -/
def Value.SpelledBy (value : Value) (text : String) : Prop := Spells (.element value) text.toList

end PipelineGraph.Json
