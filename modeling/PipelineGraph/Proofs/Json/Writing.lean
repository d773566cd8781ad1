/-
**What is written as JSON spells what is written.**

The compact text of a value is one of its spellings, so whoever reads spellings reads it back.

* `spellsChar_escapeChar` — a character is escaped as one of its spellings.
* `exists_spellsNumeral_floatText` — the text of a finite float is a numeral, in each of the layouts:
  with zeros at its end, around a point, with zeros in front, or with an exponent.
* `Value.spells_chars` — **a value is spelled by its text**, given that each of its numbers is
  (`Value.IsWritten`).
-/

import PipelineGraph.Proofs.Json.Reading

namespace PipelineGraph.Json

/-! ### Strings -/

/-- The code of a control character, as four hexadecimal digits. -/
theorem codeUnit?_of_control : ∀ code < 0x20,
    codeUnit? '0' '0' (hexChar (code / 16)) (hexChar (code % 16)) = some code := by
  decide

theorem spellsChar_escapeChar (c : Char) : SpellsChar c (escapeChar c) := by
  unfold escapeChar
  split
  · exact .short rfl
  · exact .short rfl
  · exact .short rfl
  · exact .short rfl
  · exact .short rfl
  · exact .short rfl
  · exact .short rfl
  · rename_i quote backslash _ _ _ _ _
    split
    · rename_i control
      have spelled := SpellsChar.code (codeUnit?_of_control c.toNat control) (by omega)
      rwa [Char.ofNat_toNat] at spelled
    · rename_i printable
      exact .plain (Nat.le_of_not_lt printable) quote backslash

theorem spellsText_escaped (text : List Char) : SpellsText text (text.flatMap escapeChar) := by
  induction text with
  | nil => exact .nil
  | cons c text ih =>
    rw [List.flatMap_cons]
    exact .cons (spellsChar_escapeChar c) ih

theorem spells_string (text : String) : Spells (.value (.string text)) (stringChars text) :=
  .string (spellsText_escaped text.toList)

theorem spellsKey_string (key : String) : SpellsKey key ([] ++ stringChars key) :=
  .quoted (List.forall_mem_nil _) (spellsText_escaped key.toList) (List.forall_mem_nil _)

/-! ### Digits -/

theorem areDigits_append {digits more : List Char} (areDigits : AreDigits digits)
    (all : ∀ c ∈ more, c.isDigit = true) : AreDigits (digits ++ more) where
  some := List.append_ne_nil_of_left_ne_nil areDigits.some more
  all := fun c inside => (List.mem_append.mp inside).elim (areDigits.all c) (all c)

theorem areDigits_toDigits (n : Nat) : AreDigits (Nat.toDigits 10 n) where
  some := Nat.toDigits_ne_nil
  all := fun _ inside => Nat.isDigit_of_mem_toDigits (by decide) (by decide) inside

/-- The digits of a number that is not zero do not begin with a zero. -/
theorem toDigits_head_ne_zero {n : Nat} (positive : 0 < n) :
    ∃ c more, Nat.toDigits 10 n = c :: more ∧ c ≠ '0' := by
  have ofDigit : ∀ digit < 10, 0 < digit → Nat.digitChar digit ≠ '0' := by decide
  induction n using Nat.strongRecOn with
  | ind n ih =>
    by_cases small : n < 10
    · exact ⟨Nat.digitChar n, [], Nat.toDigits_of_lt_base small, ofDigit n small positive⟩
    · obtain ⟨c, more, digits, nonzero⟩ := ih (n / 10) (by omega) (by omega)
      refine ⟨c, more ++ [Nat.digitChar (n % 10)], ?_, nonzero⟩
      rw [Nat.toDigits_of_base_le (by decide) (by omega), digits]
      rfl

/-! ### Floats -/

section

variable {number : Decimal.Scaled} (negative : Bool)

/-- A decimal with zeros at its end, around a point, or with zeros in front of it. -/
theorem exists_spellsUnsigned_positional (nonzero : 0 < number.digits) :
    ∃ numeral, SpellsUnsigned negative numeral number.positional.toList := by
  have areDigits := areDigits_toDigits number.digits
  obtain ⟨c, more, written, first⟩ := toDigits_head_ne_zero nonzero
  have zeros : ∀ {count : Nat}, ∀ d ∈ List.replicate count '0', d.isDigit = true := by
    intro count d inside
    rw [List.eq_of_mem_replicate inside]
    rfl
  rw [written] at areDigits
  by_cases whole : 0 ≤ number.exponent
  · have text : number.positional.toList =
        c :: (more ++ List.replicate number.exponent.toNat '0') ++ '.' :: ['0'] ++ [] := by
      simp [Decimal.Scaled.positional, Decimal.digitChars, written, whole]
    have before : AreDigits (c :: (more ++ List.replicate number.exponent.toNat '0')) :=
      areDigits_append areDigits zeros
    have after : AreDigits ['0'] := ⟨List.cons_ne_nil _ _, List.forall_mem_singleton.mpr rfl⟩
    rw [text]
    exact ⟨_, .parts (.many first before) (.point after) .none⟩
  · by_cases around : 0 < ((c :: more).length : Int) + number.exponent
    · obtain ⟨place, isPlace⟩ : ∃ place : Nat, ((c :: more).length : Int) + number.exponent = place + 1 :=
        ⟨(((c :: more).length : Int) + number.exponent - 1).toNat, by omega⟩
      have inside : place < more.length := by
        rw [List.length_cons] at isPlace
        omega
      have text : number.positional.toList =
          c :: more.take place ++ '.' :: more.drop place ++ [] := by
        simp only [Decimal.Scaled.positional, Decimal.digitChars, written, isPlace, if_neg whole,
          if_pos (show (0 : Int) < place + 1 by omega), String.toList_ofList]
        have places : ((place : Int) + 1).toNat = place + 1 := by omega
        rw [places, List.take_succ_cons, List.drop_succ_cons, List.append_nil]
      have before : AreDigits (c :: more.take place) :=
        ⟨List.cons_ne_nil _ _, fun d isIn => areDigits.all d (by
          rw [List.mem_cons] at isIn ⊢
          exact isIn.imp id List.mem_of_mem_take)⟩
      have after : AreDigits (more.drop place) :=
        ⟨by simpa using inside, fun d isIn =>
          areDigits.all d (List.mem_cons_of_mem _ (List.mem_of_mem_drop isIn))⟩
      rw [text]
      exact ⟨_, .parts (.many first before) (.point after) .none⟩
    · let zeroCount := (-(((c :: more).length : Int) + number.exponent)).toNat
      have text : number.positional.toList =
          ['0'] ++ '.' :: (List.replicate zeroCount '0' ++ c :: more) ++ [] := by
        simp only [Decimal.Scaled.positional, Decimal.digitChars, written, if_neg whole, if_neg around,
          String.toList_append, String.toList_ofList, List.append_nil]
        rfl
      have after : AreDigits (List.replicate zeroCount '0' ++ c :: more) :=
        ⟨List.append_ne_nil_of_right_ne_nil _ (List.cons_ne_nil _ _), fun d isIn =>
          (List.mem_append.mp isIn).elim (zeros d) (areDigits.all d)⟩
      rw [text]
      exact ⟨_, .parts .zero (.point after) .none⟩

/-- The sign and the digits of an exponent. -/
theorem exists_spellsExponent (exponent : Int) :
    ∃ value, SpellsExponent value ('e' :: (Decimal.signedExponent exponent).toList) := by
  have digits := areDigits_toDigits exponent.natAbs
  by_cases below : exponent < 0
  · have text : (Decimal.signedExponent exponent).toList =
        ['-'] ++ Nat.toDigits 10 exponent.natAbs := by
      simp [Decimal.signedExponent, below]
    rw [text]
    exact ⟨_, .some (.inl rfl) .minus digits⟩
  · have text : (Decimal.signedExponent exponent).toList =
        ['+'] ++ Nat.toDigits 10 exponent.natAbs := by
      simp [Decimal.signedExponent, below]
    rw [text]
    exact ⟨_, .some (.inl rfl) .plus digits⟩

/-- A decimal with one digit before the point, and an exponent. -/
theorem exists_spellsUnsigned_scientific (nonzero : 0 < number.digits) :
    ∃ numeral, SpellsUnsigned negative numeral number.scientific.toList := by
  have areDigits := areDigits_toDigits number.digits
  obtain ⟨c, more, written, first⟩ := toDigits_head_ne_zero nonzero
  rw [written] at areDigits
  have before : AreDigits [c] :=
    ⟨List.cons_ne_nil _ _, fun d isIn => areDigits.all d (List.mem_cons.mpr (.inl (by simpa using isIn)))⟩
  obtain ⟨value, scale⟩ := exists_spellsExponent (number.exponent + (c :: more).length - 1)
  cases more with
  | nil =>
    have text : number.scientific.toList =
        [c] ++ [] ++ 'e' :: (Decimal.signedExponent (number.exponent + [c].length - 1)).toList := by
      simp [Decimal.Scaled.scientific, Decimal.digitChars, written]
    rw [text]
    exact ⟨_, .parts (.many first before) .none scale⟩
  | cons d rest =>
    have text : number.scientific.toList = [c] ++ '.' :: (d :: rest) ++
        'e' :: (Decimal.signedExponent (number.exponent + (c :: d :: rest).length - 1)).toList := by
      simp [Decimal.Scaled.scientific, Decimal.digitChars, written]
    have after : AreDigits (d :: rest) :=
      ⟨List.cons_ne_nil _ _, fun e isIn => areDigits.all e (List.mem_cons_of_mem _ isIn)⟩
    rw [text]
    exact ⟨_, .parts (.many first before) (.point after) scale⟩

/-- A decimal in the layout of JSON. -/
theorem exists_spellsUnsigned_text (number : Decimal.Scaled) :
    ∃ numeral, SpellsUnsigned negative numeral (number.text Decimal.json).toList := by
  by_cases zero : number.digits = 0
  · have text : (number.text Decimal.json).toList = ['0'] ++ '.' :: ['0'] ++ [] := by
      simp [Decimal.Scaled.text, zero]
    rw [text]
    exact ⟨_, .parts .zero (.point ⟨List.cons_ne_nil _ _, List.forall_mem_singleton.mpr rfl⟩) .none⟩
  · have positive : 0 < number.digits := Nat.pos_of_ne_zero zero
    simp only [Decimal.Scaled.text, if_neg zero]
    split
    · exact exists_spellsUnsigned_positional negative positive
    · exact exists_spellsUnsigned_scientific negative positive

end

theorem not_isNaN_of_isFinite {x : Float} (isFinite : x.isFinite = true) : x.isNaN = false := by
  unfold Float.isFinite Float.Model.isFinite at isFinite
  unfold Float.isNaN Float.Model.isNaN
  cases unpacked : x.toModel.unpack with
  | notANumber =>
    rw [unpacked] at isFinite
    cases isFinite
  | _ => rfl

theorem not_isInf_of_isFinite {x : Float} (isFinite : x.isFinite = true) : x.isInf = false := by
  unfold Float.isFinite Float.Model.isFinite at isFinite
  unfold Float.isInf Float.Model.isInf
  cases unpacked : x.toModel.unpack with
  | infinity =>
    rw [unpacked] at isFinite
    cases isFinite
  | _ => rfl

/-- The text of a finite float is that of a decimal after a sign. -/
theorem exists_floatText {x : Float} (isFinite : x.isFinite = true) :
    ∃ (negative : Bool) (number : Decimal.Scaled), (Decimal.floatText Decimal.json x).toList =
      (if negative then ['-'] else []) ++ (number.text Decimal.json).toList := by
  have isNumber := not_isNaN_of_isFinite isFinite
  have isBounded := not_isInf_of_isFinite isFinite
  refine ⟨decide (x.toBits.toNat / Nat.pow 2 63 = 1),
    Decimal.shortest (.ofBits (x.toBits.toNat % Nat.pow 2 63)), ?_⟩
  rw [Decimal.floatText, if_neg (by rw [isNumber]; decide), if_neg (by rw [isBounded]; decide),
    String.toList_append]
  by_cases signed : x.toBits.toNat / Nat.pow 2 63 = 1
  · rw [if_pos signed, if_pos (decide_eq_true signed)]
    rfl
  · rw [if_neg signed, if_neg (by rw [decide_eq_false signed]; decide)]
    rfl

/-- **The text of a finite float is a numeral.** -/
theorem exists_spellsNumeral_floatText {x : Float} (isFinite : x.isFinite = true) :
    ∃ numeral, SpellsNumeral numeral (Decimal.floatText Decimal.json x).toList := by
  obtain ⟨negative, number, text⟩ := exists_floatText isFinite
  rw [text]
  cases negative with
  | true =>
    obtain ⟨numeral, spelled⟩ := exists_spellsUnsigned_text true number
    exact ⟨numeral, .negative spelled⟩
  | false =>
    obtain ⟨numeral, spelled⟩ := exists_spellsUnsigned_text false number
    exact ⟨numeral, .positive spelled⟩

/-! ### Values -/

/-- **A number is written**: its text is a numeral that says this number. -/
def Number.IsWritten (number : Number) : Prop :=
  ∃ numeral, SpellsNumeral numeral number.chars ∧ numeral.number? = some number

/-- **A float is finite, and its text is read back as the same number.** -/
structure ReadsBack (x : Float) : Prop where
  finite : x.isFinite = true
  back : (read (Decimal.floatText Decimal.json x)).value = .ok (.number (.float x))

/-- Whether a float is finite and read back, by writing and reading it. -/
def readsBack (x : Float) : Bool :=
  x.isFinite &&
    match (read (Decimal.floatText Decimal.json x)).value with
    | .ok (.number (.float y)) => y = x
    | _ => false

theorem readsBack_iff {x : Float} : readsBack x = true ↔ ReadsBack x := by
  rw [readsBack, Bool.and_eq_true]
  constructor
  · rintro ⟨finite, back⟩
    refine ⟨finite, ?_⟩
    split at back
    · rename_i y isRead
      rw [isRead, of_decide_eq_true back]
    · cases back
  · rintro ⟨finite, back⟩
    rw [back]
    exact ⟨finite, decide_eq_true rfl⟩

instance (x : Float) : Decidable (ReadsBack x) := decidable_of_iff _ readsBack_iff

theorem ReadsBack.isWritten {x : Float} (readsBack : ReadsBack x) : (Number.float x).IsWritten := by
  obtain ⟨numeral, spelled⟩ := exists_spellsNumeral_floatText readsBack.finite
  refine ⟨numeral, ?_, spelled.number?_of_read readsBack.back⟩
  rw [Number.chars, if_pos readsBack.finite]
  exact spelled

mutual

/-- Each number of a value is written. -/
def Value.IsWritten : Value → Prop
  | .null => True
  | .bool _ => True
  | .number number => number.IsWritten
  | .string _ => True
  | .array items => AreWritten items
  | .object members => MembersWritten members

/-- Each number of some items is written. -/
def AreWritten : List Value → Prop
  | [] => True
  | item :: rest => item.IsWritten ∧ AreWritten rest

/-- Each number of some members is written. -/
def MembersWritten : List (String × Value) → Prop
  | [] => True
  | (_, value) :: rest => value.IsWritten ∧ MembersWritten rest

end

/-- A value is an element without blanks around it. -/
theorem Spells.bare {value : Value} {chars : List Char} (spelled : Spells (.value value) chars) :
    Spells (.element value) chars := by
  have element := Spells.element (List.forall_mem_nil _) spelled (List.forall_mem_nil _)
  rwa [List.nil_append, List.append_nil] at element

theorem spells_items {item : Value} {rest : List Value}
    (each : ∀ value ∈ item :: rest, Spells (.value value) value.chars) :
    Spells (.items (item :: rest)) (item.chars ++ itemsChars rest) := by
  induction rest generalizing item with
  | nil =>
    rw [itemsChars, List.append_nil]
    exact .lastItem (each item (List.mem_cons_self ..)).bare
  | cons next rest ih =>
    exact .item (each item (List.mem_cons_self ..)).bare
      (ih fun value inside => each value (List.mem_cons_of_mem _ inside))

theorem spells_members {key : String} {value : Value} {rest : List (String × Value)}
    (each : ∀ member ∈ (key, value) :: rest, Spells (.value member.2) member.2.chars) :
    Spells (.members ((key, value) :: rest))
      (stringChars key ++ ':' :: value.chars ++ membersChars rest) := by
  have first := (each (key, value) (List.mem_cons_self ..)).bare
  induction rest generalizing key value with
  | nil =>
    rw [membersChars, List.append_nil]
    exact .lastMember (spellsKey_string key) first
  | cons next rest ih =>
    obtain ⟨nextKey, next⟩ := next
    have others := fun member inside => each member (List.mem_cons_of_mem _ inside)
    exact .member (spellsKey_string key) first
      (ih others (others (nextKey, next) (List.mem_cons_self ..)).bare)

mutual

/-- **A value is spelled by its text.** -/
theorem Value.spells_chars : ∀ {value : Value}, value.IsWritten → Spells (.value value) value.chars
  | .null, _ => .null
  | .bool true, _ => .yes
  | .bool false, _ => .no
  | .number _, ⟨_, spelled, same⟩ => .number spelled same
  | .string text, _ => spells_string text
  | .array [], _ => .emptyArray (List.forall_mem_nil _)
  | .array (_ :: _), written => .array (spells_items (each_spells_chars written))
  | .object [], _ => .emptyObject (List.forall_mem_nil _)
  | .object ((_, _) :: _), written => .object (spells_members (member_spells_chars written))

theorem each_spells_chars : ∀ {items : List Value}, AreWritten items →
    ∀ item ∈ items, Spells (.value item) item.chars
  | [], _ => List.forall_mem_nil _
  | _ :: _, written =>
    List.forall_mem_cons.mpr ⟨Value.spells_chars written.1, each_spells_chars written.2⟩

theorem member_spells_chars : ∀ {members : List (String × Value)}, MembersWritten members →
    ∀ member ∈ members, Spells (.value member.2) member.2.chars
  | [], _ => List.forall_mem_nil _
  | (_, _) :: _, written =>
    List.forall_mem_cons.mpr ⟨Value.spells_chars written.1, member_spells_chars written.2⟩

end

/-- **The text of a value spells it.** -/
theorem Value.IsWritten.spelledBy {value : Value} (written : value.IsWritten) :
    value.SpelledBy value.text := by
  rw [Value.SpelledBy, Value.text, String.toList_ofList]
  exact (Value.spells_chars written).bare

end PipelineGraph.Json
